import DocstringTags.Text.Bytes

set_option autoImplicit false

namespace DocstringTags.Text

/-- The offset is the size of an initial part of the text. -/
def IsBoundary (cs : List Char) (offset : Nat) : Prop :=
  ∃ before after, cs = before ++ after ∧ offset = byteSize before

/-- The offset lies behind the first byte of a character and before the end of that character. -/
def IsInside (cs : List Char) (offset : Nat) : Prop :=
  ∃ before c after, cs = before ++ c :: after ∧ byteSize before < offset ∧
    offset < byteSize before + c.utf8Size

theorem byteSize_toList (s : String) : byteSize s.toList = s.utf8ByteSize := by
  rw [← size_utf8Encode, String.utf8Encode_toList, String.size_toByteArray]

theorem isBoundary_append (before after : List Char) :
    IsBoundary (before ++ after) (byteSize before) := ⟨before, after, rfl, rfl⟩

theorem isBoundary_zero (cs : List Char) : IsBoundary cs 0 := ⟨[], cs, rfl, rfl⟩

theorem isBoundary_utf8ByteSize (front text : String) :
    IsBoundary (front ++ text).toList front.utf8ByteSize :=
  ⟨front.toList, text.toList, String.toList_append, (byteSize_toList front).symm⟩

theorem isBoundary_cons_iff {c : Char} {cs : List Char} {offset : Nat} :
    IsBoundary (c :: cs) offset ↔
      offset = 0 ∨ ∃ n, offset = c.utf8Size + n ∧ IsBoundary cs n := by
  constructor
  · intro h
    obtain ⟨before, after, hcs, rfl⟩ := h
    cases before with
    | nil => exact .inl rfl
    | cons b before =>
      obtain ⟨rfl, rfl⟩ := List.cons.inj hcs
      exact .inr ⟨byteSize before, rfl, isBoundary_append before after⟩
  · intro h
    rcases h with rfl | ⟨n, rfl, before, after, rfl, rfl⟩
    · exact isBoundary_zero (c :: cs)
    · exact ⟨c :: before, after, rfl, rfl⟩

/-- Two boundaries have characters between them. -/
theorem IsBoundary.exists_between {cs : List Char} {a b : Nat} (ha : IsBoundary cs a)
    (hb : IsBoundary cs b) (hlt : a < b) :
    ∃ before between after, cs = before ++ (between ++ after) ∧ between ≠ [] ∧
      a = byteSize before ∧ b = byteSize (before ++ between) := by
  obtain ⟨before, rest, hcs, rfl⟩ := ha
  obtain ⟨front, after, hcs', rfl⟩ := hb
  rcases List.append_eq_append_iff.1 (hcs.symm.trans hcs') with
    ⟨between, rfl, rfl⟩ | ⟨between, rfl, -⟩
  · refine ⟨before, between, after, hcs, fun hnil => ?_, rfl, rfl⟩
    subst hnil
    simp at hlt
  · simp only [byteSize_append] at hlt
    omega

theorem isBoundary_iff_dropBytes? {cs : List Char} {offset : Nat} :
    IsBoundary cs offset ↔ ∃ after, dropBytes? cs offset = some after := by
  constructor
  · intro h
    obtain ⟨before, after, rfl, rfl⟩ := h
    exact ⟨after, dropBytes?_append before after⟩
  · intro h
    obtain ⟨after, h⟩ := h
    obtain ⟨before, hcs, hn⟩ := dropBytes?_eq_some_iff.1 h
    exact ⟨before, after, hcs, hn⟩

theorem isInside_cons_iff {c : Char} {cs : List Char} {offset : Nat} :
    IsInside (c :: cs) offset ↔
      0 < offset ∧ offset < c.utf8Size ∨ ∃ n, offset = c.utf8Size + n ∧ IsInside cs n := by
  constructor
  · intro h
    obtain ⟨before, d, after, hcs, hlo, hhi⟩ := h
    cases before with
    | nil =>
      obtain ⟨rfl, -⟩ := List.cons.inj hcs
      exact .inl ⟨hlo, by simpa using hhi⟩
    | cons b before =>
      obtain ⟨rfl, htail⟩ := List.cons.inj hcs
      simp only [byteSize_cons] at hlo hhi
      exact .inr ⟨offset - c.utf8Size, by omega, before, d, after, htail, by omega, by omega⟩
  · intro h
    rcases h with ⟨hlo, hhi⟩ | ⟨n, rfl, before, d, after, rfl, hlo, hhi⟩
    · exact ⟨[], c, cs, rfl, hlo, by simpa using hhi⟩
    · refine ⟨c :: before, d, after, rfl, ?_, ?_⟩ <;> simp only [byteSize_cons] <;> omega

theorem dropBytes?_eq_none_iff {cs : List Char} {offset : Nat} :
    dropBytes? cs offset = none ↔ byteSize cs < offset ∨ IsInside cs offset := by
  fun_induction dropBytes? cs offset with
  | case1 cs =>
    have hin : ¬IsInside cs 0 := by
      intro h
      obtain ⟨before, c, after, -, h, -⟩ := h
      omega
    simp [hin]
  | case2 n => simp
  | case3 c cs n hle ih =>
    rw [ih, isInside_cons_iff, byteSize_cons]
    constructor
    · intro h
      rcases h with h | h
      · exact .inl (by omega)
      · exact .inr (.inr ⟨_, by omega, h⟩)
    · intro h
      rcases h with h | ⟨-, h⟩ | ⟨m, hm, h⟩
      · exact .inl (by omega)
      · omega
      · obtain rfl : m = n + 1 - c.utf8Size := by omega
        exact .inr h
  | case4 c cs n hle =>
    refine ⟨fun _ => .inr (isInside_cons_iff.2 (.inl ⟨by omega, by omega⟩)), fun _ => rfl⟩

theorem not_isBoundary_iff {cs : List Char} {offset : Nat} :
    ¬IsBoundary cs offset ↔ byteSize cs < offset ∨ IsInside cs offset := by
  rw [isBoundary_iff_dropBytes?, ← dropBytes?_eq_none_iff, Option.eq_none_iff_forall_ne_some]
  exact not_exists

section
variable {p : Char → Bool} {word after : List Char}

theorem takeWhile_append_of_head (hword : ∀ c ∈ word, p c = true)
    (hafter : ∀ c ∈ after.head?, p c = false) : (word ++ after).takeWhile p = word := by
  rw [List.takeWhile_append_of_pos hword]
  cases after with
  | nil => simp
  | cons c after => simp [hafter c rfl]

theorem dropWhile_append_of_head (hword : ∀ c ∈ word, p c = true)
    (hafter : ∀ c ∈ after.head?, p c = false) : (word ++ after).dropWhile p = after := by
  rw [List.dropWhile_append_of_pos hword]
  cases after with
  | nil => rfl
  | cons c after => simp [hafter c rfl]

end

end DocstringTags.Text
