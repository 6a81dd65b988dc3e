import DocstringTags.Json.Record

/-! What readers yield. A record ensures a property when there is an invariant that its fields keep
while they are filled, in whatever order and however often. Main statements: `Record.yields_read`
and `Ensures.yields_payload`, by which each way to write a record leads to that property.
-/

set_option autoImplicit false

namespace DocstringTags.Json

/-- What comes out, if anything does, has the property. -/
def Yields {α : Type} (found : Except ReadError α) (P : α → Prop) : Prop :=
  ∀ x, found = .ok x → P x

namespace Yields
variable {α β : Type} {found : Except ReadError α} {P : α → Prop} {Q : β → Prop}

theorem ok {x : α} (h : P x) : Yields (.ok x) P := by
  intro y hy
  cases hy
  exact h

theorem error (e : ReadError) : Yields (.error e) P := by
  intro x hx
  cases hx

theorem any (found : Except ReadError α) : Yields found fun _ => True := fun _ _ => trivial

theorem bind {more : α → Except ReadError β} (hfound : Yields found P)
    (hmore : ∀ x, P x → Yields (more x) Q) : Yields (found >>= more) Q := by
  cases found with
  | error e => exact error e
  | ok x => exact hmore x (hfound x rfl)

theorem map {f : α → β} (hfound : Yields found P) (hf : ∀ x, P x → Q (f x)) :
    Yields (found.map f) Q := by
  cases found with
  | error e => exact error e
  | ok x => exact ok (hf x (hfound x rfl))

theorem mapM {f : α → Except ReadError β} (hf : ∀ x, Yields (f x) Q) (xs : List α) :
    Yields (xs.mapM f) fun ys => ∀ y ∈ ys, Q y := by
  induction xs with
  | nil => exact ok (by simp)
  | cons x xs ih =>
    rw [List.mapM_cons]
    refine (hf x).bind fun y hy => ih.bind fun ys hys => ok ?_
    exact List.forall_mem_cons.2 ⟨hy, hys⟩

end Yields

def IfFilled {α : Type} (P : α → Prop) (value? : Option α) : Prop := ∀ value ∈ value?, P value

section
variable {α : Type} {P : α → Prop} {value? : Option α}

theorem IfFilled.none : IfFilled P none := by simp [IfFilled]

theorem IfFilled.some {value : α} (h : P value) : IfFilled P (some value) := by
  simpa [IfFilled] using h

theorem IfFilled.getD (h : IfFilled P value?) {fallback : α} (hfallback : P fallback) :
    P (value?.getD fallback) := by
  cases value? with
  | none => exact hfallback
  | some value => exact h value rfl

theorem yields_mismatch (expected : String) (found : Except ReadError Found) :
    Yields (mismatch expected found) P := by
  cases found with
  | error e => exact .error e
  | ok found => exact .error _

theorem yields_require (name : String) (h : IfFilled P value?) :
    Yields (require name value?) P := by
  cases value? with
  | none => exact .error _
  | some value => exact .ok (h value rfl)

theorem yields_readNatural (limit : Nat) (kind : String) (d : Draft) :
    Yields (readNatural limit kind d) (· ≤ limit) := by
  unfold readNatural
  split
  · next n =>
    cases n.number with
    | error e => exact .error e
    | ok found =>
      cases found with
      | natural value =>
        by_cases hvalue : value ≤ limit
        · simp only [hvalue, if_true]
          exact .ok hvalue
        · simp only [hvalue, if_false]
          exact .error _
      | negative value => exact .error _
      | real isNegative value => exact .error _
  · exact yields_mismatch _ _

theorem yields_readList {item : Nat → Reader α} (h : ∀ depth d, Yields (item depth d) P)
    (depth : Nat) (d : Draft) : Yields (readList item depth d) fun xs => ∀ x ∈ xs, P x := by
  unfold readList
  split
  · next items ending =>
    cases depth with
    | zero => exact .error _
    | succ depth =>
      refine (Yields.mapM (h depth) items).bind fun xs hxs => ?_
      exact (Yields.any _).bind fun _ _ => .ok hxs
  · exact yields_mismatch _ _

theorem read_yields {reader : Nat → Reader α} (h : ∀ depth d, Yields (reader depth d) P)
    (text : String) : Yields (read reader text) P := by
  refine (h maxDepth _).bind fun value hvalue => ?_
  split
  · exact .error _
  · exact .ok hvalue

end

def Field.Keeps {σ : Type} (field : Field σ) (I : σ → Prop) : Prop :=
  ∀ s d, I s → Yields (field.fill s d) I

/-- The fields keep an invariant while they are filled, and what is put together under it has the
property. -/
structure Record.Ensures {σ α : Type} (r : Record σ α) (I : σ → Prop) (P : α → Prop) :
    Prop where
  empty : I r.empty
  fill : ∀ field ∈ r.fields, field.Keeps I
  build : ∀ s, I s → Yields (r.build s) P

section
variable {σ α β : Type} {I : σ → Prop} {P : α → Prop}

namespace Field
variable {name : String} {get : σ → Option β} {set : σ → Option β → σ} {reader : Reader β}
  {mayLack : Bool} {Q : β → Prop}

theorem keeps_of (hreader : ∀ d, Yields (reader d) Q)
    (hset : ∀ s value, I s → Q value → I (set s (some value))) :
    (Field.of name get set reader mayLack).Keeps I := fun s d hs =>
  (hreader d).map fun value hvalue => hset s value hs hvalue

/-- The invariant is about other fields. -/
theorem keeps_of_other (hset : ∀ s value, I s → I (set s (some value))) :
    (Field.of name get set reader mayLack).Keeps I :=
  keeps_of (fun d => .any (reader d)) fun s value hs _ => hset s value hs

end Field

namespace Record

theorem fillMembers_keeps {fields : List (Field σ)}
    (hfill : ∀ field ∈ fields, field.Keeps I) {s : σ} (hs : I s)
    (members : List Member) : Yields (fillMembers fields s members) I := by
  induction members generalizing s with
  | nil => exact .ok hs
  | cons member rest ih =>
    obtain ⟨key, d⟩ := member
    refine (Yields.any _).bind fun name _ => ?_
    split
    · next field hfield =>
      split
      · exact .error _
      · exact (hfill field (List.mem_of_find?_eq_some hfield) s d hs).bind fun _ hs => ih hs
    · exact (Yields.any _).bind fun _ _ => ih hs

theorem fillItems_keeps {short : ReadError} {ending : ListEnd} {fields : List (Field σ)}
    (hfill : ∀ field ∈ fields, field.Keeps I) {s : σ} (hs : I s)
    (items : List Draft) :
    Yields (fillItems short ending fields s items) fun filled => I filled.1 := by
  induction fields generalizing s items with
  | nil => exact .ok hs
  | cons field fields ih =>
    obtain ⟨hfield, hfields⟩ := List.forall_mem_cons.1 hfill
    cases items with
    | nil =>
      refine (Yields.any _).bind fun _ _ => ?_
      split
      · exact ih hfields hs []
      · exact .error _
    | cons d items => exact (hfield s d hs).bind fun _ hs => ih hfields hs items

namespace Ensures
variable {r : Record σ α}

theorem yields_ofMembers (h : r.Ensures I P) (members : List Member) (ending : ObjectEnd) :
    Yields (r.ofMembers members ending) P := by
  refine (fillMembers_keeps h.fill h.empty members).bind fun filled hfilled => ?_
  exact (Yields.any _).bind fun _ _ => h.build filled hfilled

theorem yields_ofItems (h : r.Ensures I P) (origin : Origin) (items : List Draft)
    (ending : ListEnd) : Yields (r.ofItems origin items ending) P := by
  refine (fillItems_keeps h.fill h.empty items).bind fun filled hfilled => ?_
  exact (Yields.any _).bind fun _ _ => h.build filled.1 hfilled

theorem yields_payload (h : r.Ensures I P) (payload : Payload) :
    Yields (payload.record r) P := by
  cases payload with
  | members members => exact h.yields_ofMembers members .closed
  | items items => exact h.yields_ofItems .value items .closed

end Ensures

theorem yields_read {r : Nat → Record σ α} (h : ∀ depth, (r depth).Ensures I P)
    (origin : Origin) (depth : Nat) (d : Draft) : Yields (read r origin depth d) P := by
  unfold read
  split
  · next items ending =>
    cases depth with
    | zero => exact .error _
    | succ depth => exact (h depth).yields_ofItems origin items ending
  · next members ending =>
    cases depth with
    | zero => exact .error _
    | succ depth => exact (h depth).yields_ofMembers members ending
  · exact yields_mismatch _ _

end Record

end

end DocstringTags.Json
