import DocstringTags.Json.Record
import DocstringTags.Proofs.Json.Written

set_option autoImplicit false

namespace DocstringTags.Json

mutual

/-- How many lists and objects are open at once where most of them are. -/
def nesting : Json → Nat
  | .null | .bool _ | .number _ | .string _ => 0
  | .list items => itemsNesting items + 1
  | .object members => membersNesting members + 1

def itemsNesting : List Json → Nat
  | [] => 0
  | item :: items => max item.nesting (itemsNesting items)

def membersNesting : List (String × Json) → Nat
  | [] => 0
  | (_, value) :: members => max value.nesting (membersNesting members)

end

mutual

def canonical : Json → Json
  | .null => .null
  | .bool b => .bool b
  | .number n => .number n
  | .string s => .string s
  | .list items => .list (canonicalItems items)
  | .object members => .sorted (canonicalMembers members)

def canonicalItems : List Json → List Json
  | [] => []
  | item :: items => item.canonical :: canonicalItems items

def canonicalMembers : List (String × Json) → List (String × Json)
  | [] => []
  | (key, value) :: members => (key, value.canonical) :: canonicalMembers members

end

section
variable {items : List Json} {members : List (String × Json)} {depth : Nat}

theorem succ_le_iff_exists {n : Nat} {P : Nat → Prop} (h : ∀ inner, n ≤ inner ↔ P inner) :
    n + 1 ≤ depth ↔ ∃ inner, depth = inner + 1 ∧ P inner := by
  constructor
  · intro hdepth
    exact ⟨depth - 1, by omega, (h _).1 (by omega)⟩
  · rintro ⟨inner, rfl, hinner⟩
    exact Nat.succ_le_succ ((h inner).2 hinner)

theorem nesting_list_le_iff :
    (Json.list items).nesting ≤ depth ↔
      ∃ inner, depth = inner + 1 ∧ ∀ item ∈ items, item.nesting ≤ inner := by
  refine succ_le_iff_exists fun inner => ?_
  induction items with
  | nil => simp [itemsNesting]
  | cons item items ih => rw [itemsNesting, Nat.max_le, List.forall_mem_cons, ih]

theorem nesting_object_le_iff :
    (Json.object members).nesting ≤ depth ↔
      ∃ inner, depth = inner + 1 ∧ ∀ m ∈ members, m.2.nesting ≤ inner := by
  refine succ_le_iff_exists fun inner => ?_
  induction members with
  | nil => simp [membersNesting]
  | cons m members ih => rw [membersNesting, Nat.max_le, List.forall_mem_cons, ih]

theorem itemDrafts_eq_map (items : List Json) : itemDrafts items = items.map draft := by
  induction items with
  | nil => rfl
  | cons item items ih => rw [itemDrafts, ih, List.map_cons]

end

/-! ## Single values -/

section
variable {depth n limit : Nat} {j : Json}

theorem readText_draft (s : String) : readText (Json.string s).draft = .ok s :=
  StringToken.text_ofString s

@[simp] theorem isIntegral_natural : (natural n).IsIntegral ↔ n ≤ maxWord := by
  simp [IsIntegral, natural, numbers, Number.IsInteger]

theorem readNatural_draft (kind : String) (hn : n ≤ maxWord) (hlimit : n ≤ limit) :
    readNatural limit kind (natural n).draft = .ok n := by
  have hnumber : (Number.natural n).numeral.number = .ok (.natural n) :=
    Number.number_numeral hn
  simp [readNatural, natural, draft, hnumber, hlimit]

theorem readVariant_draft {α : Type} (variants : List (String × α)) (depth : Nat)
    (name : String) :
    readVariant variants depth (Json.string name).draft = findVariant variants name := by
  simp [readVariant, draft, bind, Except.bind]

theorem readOptional_draft {α : Type} {reader : Reader α} {value : α}
    (h : reader j.draft = .ok value) (hj : j ≠ .null) :
    readOptional reader j.draft = .ok (some value) := by
  have hsome : (reader j.draft).map some = .ok (some value) := by rw [h, Except.map]
  cases j with
  | null => exact absurd rfl hj
  | bool | number | string | list | object => exact hsome

end

/-! ## Lists and values of any form -/

theorem mapM_map_eq_ok {ε α β : Type} {f : α → β} {g : β → Except ε α} {xs : List α}
    (h : ∀ x ∈ xs, g (f x) = .ok x) : (xs.map f).mapM g = .ok xs := by
  induction xs with
  | nil => rfl
  | cons x xs ih =>
    obtain ⟨hx, hxs⟩ := List.forall_mem_cons.1 h
    rw [List.map_cons, List.mapM_cons, hx, ih hxs]
    rfl

theorem readList_draft {α : Type} {item : Nat → Reader α} {f : α → Json} {depth : Nat}
    {xs : List α} (h : ∀ x ∈ xs, item depth (f x).draft = .ok x) :
    readList item (depth + 1) (Json.list (xs.map f)).draft = .ok xs := by
  have hitems : (itemDrafts (xs.map f)).mapM (item depth) = .ok xs := by
    rw [itemDrafts_eq_map, List.map_map]
    exact mapM_map_eq_ok h
  simp only [draft, readList, hitems]
  rfl

mutual

theorem readJson_draft : (j : Json) → (depth : Nat) → j.IsIntegral → j.nesting ≤ depth →
    readJson depth j.draft = .ok j.canonical
  | .null, depth, _, _ => by simp [readJson, draft, canonical]
  | .bool b, depth, _, _ => by simp [readJson, draft, canonical]
  | .number n, depth, hj, _ => by
    simp [readJson, draft, canonical, Number.number_numeral (hj n (by simp [numbers])), Except.map]
  | .string s, depth, _, _ => by simp [readJson, draft, canonical, Except.map]
  | .list items, 0, _, hdepth => by simp [nesting] at hdepth
  | .list items, depth + 1, hj, hdepth => by
    have hitems := mapM_readJson_items items depth hj (Nat.le_of_succ_le_succ hdepth)
    simp [readJson, draft, canonical, hitems, ListEnd.check, bind, Except.bind, pure, Except.pure]
  | .object members, 0, _, hdepth => by simp [nesting] at hdepth
  | .object members, depth + 1, hj, hdepth => by
    have hmembers := mapM_readJson_members members depth hj (Nat.le_of_succ_le_succ hdepth)
    simp only [draft, readJson, hmembers]
    rfl

theorem mapM_readJson_items : (items : List Json) → (depth : Nat) →
    (∀ n ∈ itemNumbers items, n.IsInteger) → itemsNesting items ≤ depth →
    (itemDrafts items).mapM (readJson depth) = .ok (canonicalItems items)
  | [], _, _, _ => rfl
  | item :: items, depth, h, hdepth => by
    obtain ⟨hitem, hitems⟩ := List.forall_mem_append.1 h
    obtain ⟨hle, hrest⟩ := Nat.max_le.1 hdepth
    rw [itemDrafts, List.mapM_cons, readJson_draft item depth hitem hle,
      mapM_readJson_items items depth hitems hrest]
    rfl

theorem mapM_readJson_members : (members : List (String × Json)) → (depth : Nat) →
    (∀ n ∈ memberNumbers members, n.IsInteger) → membersNesting members ≤ depth →
    ((memberDrafts members).mapM fun (key, d) => do
      let name ← key.text
      let value ← readJson depth d
      return (name, value)) = .ok (canonicalMembers members)
  | [], _, _, _ => rfl
  | (key, value) :: members, depth, h, hdepth => by
    obtain ⟨hvalue, hmembers⟩ := List.forall_mem_append.1 h
    obtain ⟨hle, hrest⟩ := Nat.max_le.1 hdepth
    rw [memberDrafts, List.mapM_cons, mapM_readJson_members members depth hmembers hrest]
    simp only [StringToken.text_ofString, readJson_draft value depth hvalue hle]
    rfl

end

theorem checkForm_draft {j : Json} {depth : Nat} (origin : Origin) (hj : j.IsIntegral)
    (hdepth : j.nesting ≤ depth) : checkForm origin depth j.draft = .ok () := by
  cases origin with
  | value => rfl
  | text => rw [checkForm, readJson_draft j depth hj hdepth, Except.map]

/-! ## Records and kinds -/

namespace Record
variable {σ α β : Type} {fields : List (Field σ)} {name : String} {get : σ → Option β}
  {set : σ → Option β → σ} {reader : Reader β} {mayLack : Bool} {s : σ} {value : Json} {x : β}

/-- The first of some members fills its field. -/
theorem fillMembers_draft (hvalue : reader value.draft = .ok x) (members : List (String × Json))
    (hfield : fields.find? (·.name == name) = some (.of name get set reader mayLack))
    (hempty : get s = none) :
    fillMembers fields s (memberDrafts ((name, value) :: members)) =
      fillMembers fields (set s (some x)) (memberDrafts members) := by
  simp [fillMembers, memberDrafts, hfield, Field.of, hempty, hvalue, bind, Except.bind, Except.map]

theorem ofMembers_eq {r : Record σ α} {members : List Member} {filled : σ}
    (h : fillMembers r.fields r.empty members = .ok filled) :
    r.ofMembers members .closed = r.build filled := by
  rw [ofMembers, h]
  rfl

end Record

section
variable {κ : Type} {kinds : List (String × κ)} {name : String} {kind : κ} {depth : Nat}
  {members : List (String × Json)}

theorem splitKind_draft (origin : Origin) (hnames : ∀ m ∈ members, m.1 ≠ kindName)
    (hform : ∀ m ∈ members, checkForm origin depth m.2.draft = .ok ()) (kind? : Option κ) :
    splitKind kinds origin depth kind? (memberDrafts members) =
      .ok (kind?, memberDrafts members) := by
  induction members with
  | nil => rfl
  | cons m members ih =>
    obtain ⟨hname, hnames⟩ := List.forall_mem_cons.1 hnames
    obtain ⟨hone, hform⟩ := List.forall_mem_cons.1 hform
    simp [splitKind, memberDrafts, hname, hone, ih hnames hform, bind, Except.bind, pure,
      Except.pure]

theorem readTagged_draft (what : String) (origin : Origin) (hkind : kinds.lookup name = some kind)
    (hnames : ∀ m ∈ members, m.1 ≠ kindName)
    (hj : (Json.object ((kindName, .string name) :: members)).IsIntegral)
    (hdepth : (Json.object ((kindName, .string name) :: members)).nesting ≤ depth) :
    readTagged what kinds origin depth (Json.object ((kindName, .string name) :: members)).draft =
      .ok (kind, .members (memberDrafts members)) := by
  obtain ⟨depth, rfl, hinner⟩ := nesting_object_le_iff.1 hdepth
  have hform : ∀ m ∈ members, checkForm origin depth m.2.draft = .ok () := by
    intro m hm
    have hmem := List.mem_cons_of_mem (kindName, Json.string name) hm
    exact checkForm_draft origin (isIntegral_object.1 hj m hmem) (hinner m hmem)
  have hsplit : splitKind kinds origin depth none
      (memberDrafts ((kindName, .string name) :: members)) =
        .ok (some kind, memberDrafts members) := by
    simp [splitKind, memberDrafts, draft, readKind, findVariant, hkind,
      splitKind_draft origin hnames hform, bind, Except.bind]
  rw [draft, readTagged, hsplit]
  rfl

end

end DocstringTags.Json
