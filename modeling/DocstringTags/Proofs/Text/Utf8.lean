import DocstringTags.Proofs.Text.Boundary

/-! Texts as bytes. The first byte of a character looks different from all bytes inside characters,
and no character's bytes are an initial part of another's. Main statements:
`isBoundary_iff_isByteBoundary`, by which the bytes alone tell where a text can be cut,
`utf8_isPrefix_drop_iff`, by which the bytes of a text occur in another only where its characters
do, and `legible_toUTF8`, by which only bytes that are no text are shown as something else.
-/

set_option autoImplicit false

namespace DocstringTags.Text

def utf8 (cs : List Char) : List UInt8 := cs.flatMap String.utf8EncodeChar

@[simp] theorem utf8_cons (c : Char) (cs : List Char) :
    utf8 (c :: cs) = String.utf8EncodeChar c ++ utf8 cs := List.flatMap_cons

@[simp] theorem utf8_append (cs ds : List Char) : utf8 (cs ++ ds) = utf8 cs ++ utf8 ds :=
  List.flatMap_append

@[simp] theorem length_utf8 (cs : List Char) : (utf8 cs).length = byteSize cs := by
  induction cs with
  | nil => rfl
  | cons c cs ih => simp [ih]

/-- The offset is at an end of the bytes, or a character begins with the byte there. -/
def IsByteBoundary (bytes : List UInt8) (offset : Nat) : Prop :=
  offset = 0 ∨ offset = bytes.length ∨ ∃ b ∈ bytes[offset]?, b.IsUTF8FirstByte

instance (bytes : List UInt8) (offset : Nat) : Decidable (IsByteBoundary bytes offset) :=
  inferInstanceAs (Decidable (_ ∨ _ ∨ _))

def firstChar? (bytes : List UInt8) : Option Char := bytes.toByteArray.utf8DecodeChar? 0

section
variable {cs ds : List Char} {b : UInt8} {offset : Nat}

theorem firstByte_utf8_iff (h : (utf8 cs)[offset]? = some b) :
    b.IsUTF8FirstByte ↔ IsBoundary cs offset := by
  induction cs generalizing offset with
  | nil => simp at h
  | cons c cs ih =>
    rw [isBoundary_cons_iff]
    rw [utf8_cons] at h
    by_cases hin : offset < c.utf8Size
    · have hlt : offset < (String.utf8EncodeChar c).length := by simpa using hin
      rw [List.getElem?_append_left hlt, List.getElem?_eq_getElem hlt] at h
      rw [← Option.some.inj h, UInt8.isUTF8FirstByte_getElem_utf8EncodeChar]
      constructor
      · exact .inl
      · intro h
        rcases h with h | ⟨n, h, -⟩ <;> omega
    · obtain ⟨n, rfl⟩ := Nat.exists_eq_add_of_le (Nat.le_of_not_lt hin)
      have hpos := c.utf8Size_pos
      rw [List.getElem?_append_right (by simp), String.length_utf8EncodeChar,
        Nat.add_sub_cancel_left] at h
      rw [ih h]
      constructor
      · intro hb
        exact .inr ⟨n, rfl, hb⟩
      · intro h
        rcases h with h | ⟨m, h, hb⟩
        · omega
        · obtain rfl : n = m := by omega
          exact hb

theorem isBoundary_byteSize (cs : List Char) : IsBoundary cs (byteSize cs) :=
  ⟨cs, [], (List.append_nil cs).symm, rfl⟩

theorem IsBoundary.le (h : IsBoundary cs offset) : offset ≤ byteSize cs := by
  obtain ⟨before, after, rfl, rfl⟩ := h
  simp

theorem isBoundary_iff_isByteBoundary :
    IsBoundary cs offset ↔ IsByteBoundary (utf8 cs) offset := by
  constructor
  · intro h
    rcases Nat.lt_or_eq_of_le h.le with hlt | heq
    · have hget := List.getElem?_eq_getElem (l := utf8 cs) (by simpa using hlt)
      exact .inr (.inr ⟨_, hget, (firstByte_utf8_iff hget).2 h⟩)
    · exact .inr (.inl (by simpa using heq))
  · intro h
    rcases h with rfl | rfl | ⟨b, hget, hb⟩
    · exact isBoundary_zero cs
    · simpa using isBoundary_byteSize cs
    · exact (firstByte_utf8_iff hget).1 hb

theorem drop_utf8_append (before after : List Char) :
    (utf8 (before ++ after)).drop (byteSize before) = utf8 after := by
  rw [utf8_append, ← length_utf8, List.drop_left]

theorem firstChar?_utf8 (cs : List Char) : firstChar? (utf8 cs) = cs.head? := by
  cases cs with
  | nil => rfl
  | cons c cs =>
    rw [firstChar?, utf8_cons, List.toByteArray_append]
    exact ByteArray.utf8DecodeChar?_utf8EncodeChar_append

theorem utf8_isPrefix_iff : utf8 cs <+: utf8 ds ↔ cs <+: ds := by
  constructor
  · intro ⟨tail, h⟩
    refine List.isPrefix_of_utf8Encode_append_eq_utf8Encode tail.toByteArray ?_
    exact List.toByteArray_append.symm.trans (congrArg List.toByteArray h)
  · intro ⟨after, h⟩
    exact ⟨utf8 after, h ▸ (utf8_append cs after).symm⟩

/-- A place where the bytes of a text that is not empty occur begins with the first byte of a
character, so that the characters of both texts fall together there. -/
theorem utf8_isPrefix_drop_iff (hne : cs ≠ []) :
    utf8 cs <+: (utf8 ds).drop offset ↔
      ∃ before after, ds = before ++ (cs ++ after) ∧ offset = byteSize before := by
  constructor
  · intro h
    obtain ⟨c, tail, rfl⟩ := List.exists_cons_of_ne_nil hne
    have hpos : 0 < (utf8 (c :: tail)).length := by
      simpa using byteSize_pos (List.cons_ne_nil c tail)
    have hget : (utf8 ds)[offset]? = some (utf8 (c :: tail))[0] := by
      rw [h.getElem hpos, ← List.getElem?_eq_getElem, List.getElem?_drop, Nat.add_zero]
    have hfirst : (utf8 (c :: tail))[0].IsUTF8FirstByte :=
      (firstByte_utf8_iff (List.getElem?_eq_getElem hpos)).2 (isBoundary_zero _)
    obtain ⟨before, rest, rfl, rfl⟩ := (firstByte_utf8_iff hget).1 hfirst
    rw [drop_utf8_append, utf8_isPrefix_iff] at h
    obtain ⟨after, rfl⟩ := h
    exact ⟨before, after, rfl, rfl⟩
  · intro ⟨before, after, hds, hoffset⟩
    subst hds hoffset
    rw [drop_utf8_append, utf8_append]
    exact List.prefix_append _ _

end

theorem takeWithin_nil (bytes : List UInt8) : takeWithin [] bytes = [] := by
  cases bytes <;> rfl

theorem takeWithin_cons {low high n : Nat} (ranges : List (Nat × Nat)) (bytes : List UInt8)
    (hn : n < 256) (hlow : low ≤ n) (hhigh : n ≤ high) :
    takeWithin ((low, high) :: ranges) (UInt8.ofNat n :: bytes) =
      UInt8.ofNat n :: takeWithin ranges bytes := by
  rw [takeWithin, UInt8.toNat_ofNat_of_lt' hn, if_pos ⟨hlow, hhigh⟩]

/-- Behind the first byte of a character the other ones are taken and no more. -/
theorem takeWithin_continuations (c : Char) (rest : List UInt8) :
    ∃ b tail, String.utf8EncodeChar c = b :: tail ∧
      takeWithin (continuations b.toNat) (tail ++ rest) = tail := by
  have hvalid : c.val.toNat < 0xD800 ∨ 0xDFFF < c.val.toNat ∧ c.val.toNat < 0x110000 := c.valid
  unfold String.utf8EncodeChar
  generalize c.val.toNat = v at hvalid
  dsimp only
  split
  · refine ⟨_, _, rfl, ?_⟩
    rw [UInt8.toNat_ofNat_of_lt' (show v < 256 by omega), continuations, if_pos (by omega)]
    exact takeWithin_nil _
  split
  · refine ⟨_, _, rfl, ?_⟩
    rw [UInt8.toNat_ofNat_of_lt' (show v / 64 % 32 + 192 < 256 by omega), continuations,
      if_neg (by omega), if_pos (by omega)]
    simp (disch := omega) only [List.cons_append, takeWithin_cons, takeWithin_nil]
  -- with three bytes and more some values of the first one narrow the interval of the second one
  split
  · refine ⟨_, _, rfl, ?_⟩
    rw [UInt8.toNat_ofNat_of_lt' (show v / 4096 % 16 + 224 < 256 by omega), continuations]
    repeat' split
    all_goals
      first
      | omega
      | simp (disch := omega) only [List.cons_append, takeWithin_cons, takeWithin_nil]
  · refine ⟨_, _, rfl, ?_⟩
    rw [UInt8.toNat_ofNat_of_lt' (show v / 262144 % 8 + 240 < 256 by omega), continuations]
    repeat' split
    all_goals
      first
      | omega
      | simp (disch := omega) only [List.cons_append, takeWithin_cons, takeWithin_nil]

theorem decodeLossy_append (front back : List UInt8) :
    decodeLossy front.length (front ++ back) = decodeLossy 0 back := by
  induction front with
  | nil => rfl
  | cons b front ih => rw [List.cons_append, List.length_cons, decodeLossy, ih]

theorem decodeLossy_utf8 (cs : List Char) : decodeLossy 0 (utf8 cs) = cs := by
  induction cs with
  | nil => rfl
  | cons c cs ih =>
    obtain ⟨b, tail, hc, htail⟩ := takeWithin_continuations c (utf8 cs)
    have hdecode : (b :: tail).toByteArray.utf8DecodeChar? 0 = some c := by
      simpa [utf8, firstChar?, hc] using firstChar?_utf8 [c]
    rw [utf8_cons, hc, List.cons_append, decodeLossy]
    simp only [htail, hdecode, decodeLossy_append, ih, Option.getD_some]

theorem legible_toUTF8 (s : String) : legible s.toUTF8 = s := by
  have h : s.toUTF8 = (utf8 s.toList).toByteArray := String.utf8Encode_toList.symm
  rw [legible, h, List.data_toByteArray, List.toList_toArray, decodeLossy_utf8,
    String.ofList_toList]

-- three bytes make the first mark, since the fourth of the character is missing
example : legible ⟨#[0x61, 0xF0, 0x9F, 0x98, 0x62, 0xFF]⟩ = "a\uFFFDb\uFFFD" := by decide

end DocstringTags.Text
