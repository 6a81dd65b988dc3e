import DocstringTags.Json.Reader
import DocstringTags.Proofs.Json.WrittenToken

/-! Written values as readers find them. Both written forms of a value have the same tokens, and the
pass over these tokens makes a draft of the value in which nothing is left open. Main statements:
`tokens_compact` and `tokens_pretty` for the tokens, `foldl_tokenList` for the pass, and
`read_of_tokens`, by which a reader gets that draft.
-/

set_option autoImplicit false

namespace DocstringTags.Json

mutual

def tokenList : Json → List Token
  | .null => [.null]
  | .bool b => [.bool b]
  | .number n => [.number n.numeral]
  | .string s => [.string (.ofString s)]
  | .list [] => [.openList, .closeList]
  | .list (item :: items) => .openList :: (item.tokenList ++ itemTokens items)
  | .object [] => [.openObject, .closeObject]
  | .object ((key, value) :: members) =>
    .openObject :: .string (.ofString key) :: .colon :: (value.tokenList ++ memberTokens members)

def itemTokens : List Json → List Token
  | [] => [.closeList]
  | item :: items => .comma :: (item.tokenList ++ itemTokens items)

def memberTokens : List (String × Json) → List Token
  | [] => [.closeObject]
  | (key, value) :: members =>
    .comma :: .string (.ofString key) :: .colon :: (value.tokenList ++ memberTokens members)

end

mutual

def draft : Json → Draft
  | .null => .null
  | .bool b => .bool b
  | .number n => .number n.numeral
  | .string s => .string (.ofString s)
  | .list items => .list (itemDrafts items) .closed
  | .object members => .object (memberDrafts members) .closed

def itemDrafts : List Json → List Draft
  | [] => []
  | item :: items => item.draft :: itemDrafts items

def memberDrafts : List (String × Json) → List Member
  | [] => []
  | (key, value) :: members => (.ofString key, value.draft) :: memberDrafts members

end

mutual

def numbers : Json → List Number
  | .null | .bool _ | .string _ => []
  | .number n => [n]
  | .list items => itemNumbers items
  | .object members => memberNumbers members

def itemNumbers : List Json → List Number
  | [] => []
  | item :: items => item.numbers ++ itemNumbers items

def memberNumbers : List (String × Json) → List Number
  | [] => []
  | (_, value) :: members => value.numbers ++ memberNumbers members

end

def IsIntegral (j : Json) : Prop := ∀ n ∈ j.numbers, n.IsInteger

def IsExact (j : Json) : Prop := ∀ n ∈ j.numbers, n.IsExact

theorem IsIntegral.isExact {j : Json} (hj : j.IsIntegral) : j.IsExact := fun n hn =>
  (hj n hn).isExact

section
variable {P : Number → Prop} {items : List Json} {members : List (String × Json)}

theorem forall_numbers_list :
    (∀ n ∈ (Json.list items).numbers, P n) ↔ ∀ item ∈ items, ∀ n ∈ item.numbers, P n := by
  rw [numbers]
  induction items with
  | nil => simp [itemNumbers]
  | cons item items ih => rw [itemNumbers, List.forall_mem_append, List.forall_mem_cons, ih]

theorem forall_numbers_object :
    (∀ n ∈ (Json.object members).numbers, P n) ↔ ∀ m ∈ members, ∀ n ∈ m.2.numbers, P n := by
  rw [numbers]
  induction members with
  | nil => simp [memberNumbers]
  | cons m members ih => rw [memberNumbers, List.forall_mem_append, List.forall_mem_cons, ih]

@[simp] theorem isIntegral_list :
    (Json.list items).IsIntegral ↔ ∀ item ∈ items, item.IsIntegral :=
  forall_numbers_list

@[simp] theorem isIntegral_object :
    (Json.object members).IsIntegral ↔ ∀ m ∈ members, m.2.IsIntegral :=
  forall_numbers_object

@[simp] theorem isExact_list : (Json.list items).IsExact ↔ ∀ item ∈ items, item.IsExact :=
  forall_numbers_list

@[simp] theorem isExact_object : (Json.object members).IsExact ↔ ∀ m ∈ members, m.2.IsExact :=
  forall_numbers_object

theorem forall_mem_insertMember {P : Json → Prop} (key : String) {value : Json}
    (hvalue : P value) (h : ∀ m ∈ members, P m.2) :
    ∀ m ∈ insertMember key value members, P m.2 := by
  induction members with
  | nil => exact List.forall_mem_singleton.2 hvalue
  | cons m members ih =>
    obtain ⟨hm, hrest⟩ := List.forall_mem_cons.1 h
    unfold insertMember
    split
    · exact List.forall_mem_cons.2 ⟨hvalue, h⟩
    · split
      · exact List.forall_mem_cons.2 ⟨hvalue, hrest⟩
      · exact List.forall_mem_cons.2 ⟨hm, ih hrest⟩

theorem isExact_sorted (h : ∀ m ∈ members, m.2.IsExact) : (sorted members).IsExact := by
  have hfold : ∀ seen : List (String × Json), (∀ m ∈ seen, m.2.IsExact) →
      ∀ m ∈ members.foldl (fun object m => insertMember m.1 m.2 object) seen, m.2.IsExact := by
    induction members with
    | nil => exact fun seen hseen => hseen
    | cons m members ih =>
      obtain ⟨hm, hrest⟩ := List.forall_mem_cons.1 h
      exact fun seen hseen => ih hrest _ (forall_mem_insertMember m.1 hm hseen)
  exact isExact_object.2 (hfold [] nofun)

end

section
variable (s : String) (n : Nat)

@[simp] theorem isIntegral_string : (Json.string s).IsIntegral := by
  simp [IsIntegral, numbers]

@[simp] theorem isExact_string : (Json.string s).IsExact := (isIntegral_string s).isExact

@[simp] theorem isExact_natural : (natural n).IsExact := by
  simp [IsExact, natural, numbers, Number.IsExact]

end

/-! ## Tokens -/

theorem endsNumeral_nil : EndsNumeral [] := by simp [EndsNumeral]

theorem endsNumeral_cons {c : Char} (h : c.isDigit = false ∧ c ≠ '.' ∧ c ≠ 'e' ∧ c ≠ 'E')
    (cs : List Char) : EndsNumeral (c :: cs) := by
  simpa [EndsNumeral] using h

section
variable (level : Nat) (rest : List Char)

theorem endsNumeral_writeItems (items : List Json) : EndsNumeral (writeItems items ++ rest) := by
  cases items with
  | nil => exact endsNumeral_cons (by decide) _
  | cons item items => exact endsNumeral_cons (by decide) _

theorem endsNumeral_writeMembers (members : List (String × Json)) :
    EndsNumeral (writeMembers members ++ rest) := by
  cases members with
  | nil => exact endsNumeral_cons (by decide) _
  | cons member members => exact endsNumeral_cons (by decide) _

theorem endsNumeral_writePrettyItems (items : List Json) :
    EndsNumeral (writePrettyItems level items ++ rest) := by
  cases items with
  | nil => exact endsNumeral_cons (by decide) _
  | cons item items => exact endsNumeral_cons (by decide) _

theorem endsNumeral_writePrettyMembers (members : List (String × Json)) :
    EndsNumeral (writePrettyMembers level members ++ rest) := by
  cases members with
  | nil => exact endsNumeral_cons (by decide) _
  | cons member members => exact endsNumeral_cons (by decide) _

end

mutual

theorem tokens_writeCompact : (j : Json) → j.IsExact → (rest : List Char) →
    EndsNumeral rest → tokens (writeCompact j ++ rest) = j.tokenList ++ tokens rest
  | .null, _, rest, _ => by simp [writeCompact, tokenList]
  | .bool b, _, rest, _ => by simp [writeCompact, tokenList]
  | .number n, hj, rest, hrest => by
    simp [writeCompact, tokenList, tokens_text (hj n (by simp [numbers])) hrest]
  | .string s, _, rest, _ => by simp [writeCompact, tokenList]
  | .list [], _, rest, _ => by simp [writeCompact, tokenList]
  | .list (item :: items), hj, rest, _ => by
    obtain ⟨hitem, hitems⟩ := List.forall_mem_append.1 hj
    -- the item may be a number, so what follows it must end a numeral
    have hafter := endsNumeral_writeItems rest items
    simp [writeCompact, tokenList, tokens_writeCompact item hitem _ hafter,
      tokens_writeItems items hitems rest]
  | .object [], _, rest, _ => by simp [writeCompact, tokenList]
  | .object ((key, value) :: members), hj, rest, _ => by
    obtain ⟨hvalue, hmembers⟩ := List.forall_mem_append.1 hj
    have hafter := endsNumeral_writeMembers rest members
    simp [writeCompact, tokenList, tokens_writeCompact value hvalue _ hafter,
      tokens_writeMembers members hmembers rest]

theorem tokens_writeItems : (items : List Json) → (∀ n ∈ itemNumbers items, n.IsExact) →
    (rest : List Char) → tokens (writeItems items ++ rest) = itemTokens items ++ tokens rest
  | [], _, rest => by simp [writeItems, itemTokens]
  | item :: items, h, rest => by
    obtain ⟨hitem, hitems⟩ := List.forall_mem_append.1 h
    have hafter := endsNumeral_writeItems rest items
    simp [writeItems, itemTokens, tokens_writeCompact item hitem _ hafter,
      tokens_writeItems items hitems rest]

theorem tokens_writeMembers : (members : List (String × Json)) →
    (∀ n ∈ memberNumbers members, n.IsExact) → (rest : List Char) →
    tokens (writeMembers members ++ rest) = memberTokens members ++ tokens rest
  | [], _, rest => by simp [writeMembers, memberTokens]
  | (key, value) :: members, h, rest => by
    obtain ⟨hvalue, hmembers⟩ := List.forall_mem_append.1 h
    have hafter := endsNumeral_writeMembers rest members
    simp [writeMembers, memberTokens, tokens_writeCompact value hvalue _ hafter,
      tokens_writeMembers members hmembers rest]

end

mutual

theorem tokens_writePretty : (level : Nat) → (j : Json) → j.IsExact → (rest : List Char) →
    EndsNumeral rest → tokens (writePretty level j ++ rest) = j.tokenList ++ tokens rest
  | _, .null, _, rest, _ => by simp [writePretty, tokenList]
  | _, .bool b, _, rest, _ => by simp [writePretty, tokenList]
  | _, .number n, hj, rest, hrest => by
    simp [writePretty, tokenList, tokens_text (hj n (by simp [numbers])) hrest]
  | _, .string s, _, rest, _ => by simp [writePretty, tokenList]
  | _, .list [], _, rest, _ => by simp [writePretty, tokenList]
  | level, .list (item :: items), hj, rest, _ => by
    obtain ⟨hitem, hitems⟩ := List.forall_mem_append.1 hj
    have hafter := endsNumeral_writePrettyItems level rest items
    simp [writePretty, tokenList, tokens_writePretty (level + 1) item hitem _ hafter,
      tokens_writePrettyItems level items hitems rest]
  | _, .object [], _, rest, _ => by simp [writePretty, tokenList]
  | level, .object ((key, value) :: members), hj, rest, _ => by
    obtain ⟨hvalue, hmembers⟩ := List.forall_mem_append.1 hj
    have hafter := endsNumeral_writePrettyMembers level rest members
    simp [writePretty, tokenList, tokens_writePretty (level + 1) value hvalue _ hafter,
      tokens_writePrettyMembers level members hmembers rest]

theorem tokens_writePrettyItems : (level : Nat) → (items : List Json) →
    (∀ n ∈ itemNumbers items, n.IsExact) → (rest : List Char) →
    tokens (writePrettyItems level items ++ rest) = itemTokens items ++ tokens rest
  | level, [], _, rest => by simp [writePrettyItems, itemTokens]
  | level, item :: items, h, rest => by
    obtain ⟨hitem, hitems⟩ := List.forall_mem_append.1 h
    have hafter := endsNumeral_writePrettyItems level rest items
    simp [writePrettyItems, itemTokens, tokens_writePretty (level + 1) item hitem _ hafter,
      tokens_writePrettyItems level items hitems rest]

theorem tokens_writePrettyMembers : (level : Nat) → (members : List (String × Json)) →
    (∀ n ∈ memberNumbers members, n.IsExact) → (rest : List Char) →
    tokens (writePrettyMembers level members ++ rest) = memberTokens members ++ tokens rest
  | level, [], _, rest => by simp [writePrettyMembers, memberTokens]
  | level, (key, value) :: members, h, rest => by
    obtain ⟨hvalue, hmembers⟩ := List.forall_mem_append.1 h
    have hafter := endsNumeral_writePrettyMembers level rest members
    simp [writePrettyMembers, memberTokens, tokens_writePretty (level + 1) value hvalue _ hafter,
      tokens_writePrettyMembers level members hmembers rest]

end

section
variable {j : Json}

theorem tokens_compact (hj : j.IsIntegral) : tokens j.compact.toList = j.tokenList := by
  have h := tokens_writeCompact j hj.isExact [] endsNumeral_nil
  rwa [List.append_nil, tokens_nil, List.append_nil, ← String.toList_ofList (l := j.writeCompact)]
    at h

theorem tokens_pretty (hj : j.IsIntegral) : tokens j.pretty.toList = j.tokenList := by
  have h := tokens_writePretty 0 j hj.isExact [] endsNumeral_nil
  rwa [List.append_nil, tokens_nil, List.append_nil, ← String.toList_ofList (l := j.writePretty 0)]
    at h

theorem tokens_prettyLine (hj : j.IsExact) : tokens (j.pretty ++ "\n").toList = j.tokenList := by
  have h := tokens_writePretty 0 j hj ['\n'] (endsNumeral_cons (by decide) [])
  rw [tokens_space rfl, tokens_nil, List.append_nil] at h
  rw [String.toList_append, pretty, String.toList_ofList]
  exact h

end

/-! ## The pass over the tokens -/

namespace Progress

/-- A value may begin here, and it belongs to the frames. -/
def Awaits (progress : Progress) (outer : List Frame) : Prop :=
  ∀ token, token ≠ .closeList → progress.step token = begin outer token

section
variable (outer : List Frame)

theorem awaits_value : (value outer).Awaits outer := fun _ _ => rfl

theorem awaits_opened (items : List Draft) :
    (inList items .opened outer).Awaits (.list items :: outer) := by
  intro token htoken
  cases token <;> first | rfl | exact absurd rfl htoken

theorem awaits_afterComma (items : List Draft) :
    (inList items .afterComma outer).Awaits (.list items :: outer) := by
  intro token htoken
  cases token <;> first | rfl | exact absurd rfl htoken

end

end Progress

mutual

theorem foldl_tokenList : (j : Json) → (progress : Progress) → (outer : List Frame) →
    progress.Awaits outer →
    j.tokenList.foldl Progress.step progress = Progress.supply j.draft outer
  | .null, progress, outer, h => h .null nofun
  | .bool b, progress, outer, h => h (.bool b) nofun
  | .number n, progress, outer, h => h (.number n.numeral) nofun
  | .string s, progress, outer, h => h (.string (.ofString s)) nofun
  | .list [], progress, outer, h => by
    rw [tokenList, List.foldl_cons, h .openList nofun]
    rfl
  | .list (item :: items), progress, outer, h => by
    rw [tokenList, List.foldl_cons, List.foldl_append, h .openList nofun, Progress.begin,
      foldl_tokenList item _ _ (Progress.awaits_opened outer []), Progress.supply,
      foldl_itemTokens items]
    rfl
  | .object [], progress, outer, h => by
    rw [tokenList, List.foldl_cons, h .openObject nofun]
    rfl
  | .object ((key, value) :: members), progress, outer, h => by
    rw [tokenList, List.foldl_cons, List.foldl_cons, List.foldl_cons, List.foldl_append,
      h .openObject nofun]
    have hkey : (((Progress.begin outer .openObject).step (.string (.ofString key))).step .colon) =
        .value (.object [] (.ofString key) :: outer) := rfl
    rw [hkey, foldl_tokenList value _ _ (Progress.awaits_value _), Progress.supply,
      foldl_memberTokens members]
    rfl

theorem foldl_itemTokens : (items : List Json) → (seen : List Draft) → (outer : List Frame) →
    (itemTokens items).foldl Progress.step (.inList seen .afterValue outer) =
      Progress.supply (.list (seen.reverse ++ itemDrafts items) .closed) outer
  | [], seen, outer => by
    rw [itemDrafts, List.append_nil]
    rfl
  | item :: items, seen, outer => by
    rw [itemTokens, List.foldl_cons, List.foldl_append, Progress.step,
      foldl_tokenList item _ _ (Progress.awaits_afterComma outer seen), Progress.supply,
      foldl_itemTokens items, List.reverse_cons, List.append_assoc]
    rfl

theorem foldl_memberTokens : (members : List (String × Json)) → (seen : List Member) →
    (outer : List Frame) →
    (memberTokens members).foldl Progress.step (.inObject seen .afterValue outer) =
      Progress.supply (.object (seen.reverse ++ memberDrafts members) .closed) outer
  | [], seen, outer => by
    rw [memberDrafts, List.append_nil]
    rfl
  | (key, value) :: members, seen, outer => by
    rw [memberTokens, List.foldl_cons, List.foldl_cons, List.foldl_cons, List.foldl_append]
    have hkey : (((Progress.inObject seen .afterValue outer).step .comma).step
        (.string (.ofString key))).step .colon =
          .value (.object seen (.ofString key) :: outer) := rfl
    rw [hkey, foldl_tokenList value _ _ (Progress.awaits_value _), Progress.supply,
      foldl_memberTokens members, List.reverse_cons, List.append_assoc]
    rfl

end

/-- The text is a single value, up to the space around it, and nothing is missing from it. -/
def IsDocument (text : String) (j : Json) : Prop := Progress.ofText text = .complete j.draft false

section
variable {j : Json} {text : String}

theorem isDocument_of_tokens (h : tokens text.toList = j.tokenList) : IsDocument text j := by
  rw [IsDocument, Progress.ofText, h, foldl_tokenList j _ _ (Progress.awaits_value [])]
  rfl

theorem IsDocument.read {α : Type} (h : IsDocument text j) (reader : Nat → Reader α) :
    read reader text = reader maxDepth j.draft := by
  rw [Json.read, h]
  cases hvalue : reader maxDepth j.draft with
  | error e => simp [Progress.finish, hvalue, bind, Except.bind]
  | ok value =>
    simp [Progress.finish, Progress.hasMore, hvalue, bind, Except.bind, pure, Except.pure]

theorem read_of_tokens {α : Type} (h : tokens text.toList = j.tokenList)
    (reader : Nat → Reader α) : read reader text = reader maxDepth j.draft :=
  (isDocument_of_tokens h).read reader

end

end DocstringTags.Json
