import DocstringTags.Proofs.Literal.Unescape
import Mathlib.Data.List.Forall2

/-! What an escaped value shows. Whole categories of characters do not render, and `formatRanges` lacks
three of the format characters. Main statements: `isUnseen_iff`, by which these three alone are plain
though they do not render, and `escape_unseen`.
-/

set_option autoImplicit false

namespace DocstringTags.Literal

/-- Characters that do not render: five general categories and all planes behind the first. -/
inductive Unseen where
  | control
  | lineSeparator
  | paragraphSeparator
  | format
  | privateUse
  | supplementary
  deriving DecidableEq, Repr

def Unseen.all : List Unseen :=
  [.control, .lineSeparator, .paragraphSeparator, .format, .privateUse, .supplementary]

def Unseen.ranges : Unseen → List (Nat × Nat)
  | .control => [(0x0, 0x1F), (0x7F, 0x9F)]
  | .lineSeparator => [(0x2028, 0x2028)]
  | .paragraphSeparator => [(0x2029, 0x2029)]
  | .format =>
    [(0xAD, 0xAD), (0x600, 0x605), (0x61C, 0x61C), (0x6DD, 0x6DD), (0x70F, 0x70F), (0x890, 0x891),
     (0x8E2, 0x8E2), (0x180E, 0x180E), (0x200B, 0x200F), (0x202A, 0x202E), (0x2060, 0x2064),
     (0x2066, 0x206F), (0xFEFF, 0xFEFF), (0xFFF9, 0xFFFB), (0x110BD, 0x110BD), (0x110CD, 0x110CD),
     (0x13430, 0x1343F), (0x1BCA0, 0x1BCA3), (0x1D173, 0x1D17A), (0xE0001, 0xE0001),
     (0xE0020, 0xE007F)]
  | .privateUse => [(0xE000, 0xF8FF), (0xF0000, 0xFFFFD), (0x100000, 0x10FFFD)]
  | .supplementary => [(0x10000, 0x10FFFF)]

def Within (ranges : List (Nat × Nat)) (c : Char) : Prop :=
  ∃ r ∈ ranges, r.1 ≤ c.toNat ∧ c.toNat ≤ r.2

instance (ranges : List (Nat × Nat)) (c : Char) : Decidable (Within ranges c) :=
  inferInstanceAs (Decidable (∃ r ∈ ranges, r.1 ≤ c.toNat ∧ c.toNat ≤ r.2))

def IsUnseen (c : Char) : Prop := ∃ kind : Unseen, Within kind.ranges c

/-- The format characters that are written as they are: the Arabic marks for pound and piastre, and
the one for a disputed end of a verse. -/
def unlistedFormat : List (Nat × Nat) := [(0x890, 0x891), (0x8E2, 0x8E2)]

/-- The part is made of escapes and stands for this character alone. -/
structure IsEscapeOf (part : List Char) (c : Char) : Prop where
  marked : part.head? = some '\\'
  value : unescape? (String.ofList part) = some (String.singleton c)

def asciiRanges : List (Nat × Nat) := [(0x20, 0x7E)]

def escapedRanges : List (Nat × Nat) :=
  Unseen.control.ranges ++ Unseen.supplementary.ranges ++ Unseen.lineSeparator.ranges ++
    Unseen.paragraphSeparator.ranges ++ formatRanges ++ [(0xE000, 0xF8FF)]

section
variable {c : Char} {ranges others : List (Nat × Nat)}

theorem within_append : Within (ranges ++ others) c ↔ Within ranges c ∨ Within others c := by
  simp [Within, or_and_right, exists_or]

theorem Within.mono (hsub : ranges ⊆ others) (h : Within ranges c) : Within others c := by
  obtain ⟨r, hr, hbounds⟩ := h
  exact ⟨r, hsub hr, hbounds⟩

theorem Within.not_of_apart (hapart : ∀ r ∈ ranges, ∀ s ∈ others, r.2 < s.1 ∨ s.2 < r.1)
    (h : Within ranges c) : ¬Within others c := by
  intro hother
  obtain ⟨r, hr, hlow, hhigh⟩ := h
  obtain ⟨s, hs, hlow', hhigh'⟩ := hother
  have := hapart r hr s hs
  omega

theorem within_supplementary : Within Unseen.supplementary.ranges c ↔ 0xFFFF < c.toNat := by
  have := toNat_bounds c
  simp only [Within, Unseen.ranges, List.mem_singleton, exists_eq_left]
  omega

theorem Within.of_first_plane (hsub : ∀ r ∈ ranges, r ∈ others ∨ 0xFFFF < r.1)
    (h : Within ranges c) : Within others c ∨ Within Unseen.supplementary.ranges c := by
  obtain ⟨r, hr, hlow, hhigh⟩ := h
  rcases hsub r hr with hother | hfar
  · exact .inl ⟨r, hother, hlow, hhigh⟩
  · exact .inr (within_supplementary.2 (by omega))

theorem isPlain_eq_false_iff : isPlain c = false ↔ Within escapedRanges c := by
  have hcontrol : isControl c.toNat = true ↔ Within Unseen.control.ranges c := by
    simp [isControl, Within, Unseen.ranges, Nat.lt_succ_iff]
  have hseparator : isSeparator c.toNat = true ↔
      Within Unseen.lineSeparator.ranges c ∨ Within Unseen.paragraphSeparator.ranges c := by
    simp only [isSeparator, Within, Unseen.ranges, List.mem_singleton, exists_eq_left,
      Bool.or_eq_true, beq_iff_eq]
    omega
  have hprivate : isPrivateUse c.toNat = true ↔ Within [(0xE000, 0xF8FF)] c := by
    simp [isPrivateUse, Within]
  simp only [isPlain, Bool.not_eq_false', Bool.or_eq_true, decide_eq_true_eq, List.any_eq_true,
    Bool.and_eq_true, ← within_supplementary, hcontrol, hseparator, hprivate, escapedRanges,
    within_append, or_assoc]
  rfl

theorem Within.isPlain (hapart : ∀ r ∈ ranges, ∀ s ∈ escapedRanges, r.2 < s.1 ∨ s.2 < r.1)
    (h : Within ranges c) : isPlain c = true := by
  have hnot := h.not_of_apart hapart
  rwa [← isPlain_eq_false_iff, Bool.not_eq_false] at hnot

theorem Unseen.mem_all (kind : Unseen) : kind ∈ Unseen.all := by cases kind <;> decide

theorem isUnseen_iff : IsUnseen c ↔ isPlain c = false ∨ Within unlistedFormat c := by
  rw [isPlain_eq_false_iff]
  constructor
  · intro h
    obtain ⟨kind, hkind⟩ := h
    have hlisted : ∀ kind ∈ Unseen.all, ∀ r ∈ kind.ranges,
        r ∈ escapedRanges ++ unlistedFormat ∨ 0xFFFF < r.1 := by decide
    -- the intervals of other planes are parts of one interval of the table, not members of it
    rcases hkind.of_first_plane (hlisted kind kind.mem_all) with hfirst | hfar
    · exact within_append.1 hfirst
    · exact .inl (hfar.mono (by decide))
  · intro h
    obtain ⟨r, hr, hbounds⟩ := within_append.2 h
    have hkinds : ∀ r ∈ escapedRanges ++ unlistedFormat,
        ∃ kind ∈ Unseen.all, r ∈ kind.ranges := by decide
    obtain ⟨kind, -, hmem⟩ := hkinds r hr
    exact ⟨kind, r, hmem, hbounds⟩

theorem forall_digits {p : Char → Prop} (h : ∀ m < 16, p (Text.hexDigit m).toUpper) (n : Nat) :
    ∀ d ∈ (Text.hexDigits n).map Char.toUpper, p d := by
  have hdigit : ∀ k, p (Text.hexDigit (k % 16)).toUpper := fun k => h _ (Nat.mod_lt k (by decide))
  simp [Text.hexDigits, hdigit]

theorem within_ascii_of_mem_escapeUnit {x : Char} {n : Nat} (h : x ∈ escapeUnit n) :
    Within asciiRanges x := by
  have hdigits := forall_digits (p := Within asciiRanges) (by decide) n
  rcases List.mem_cons.1 h with rfl | h
  · decide
  · rcases List.mem_cons.1 h with rfl | h
    · decide
    · exact hdigits x h

/-- A character is copied, or ASCII is written for it. -/
theorem mem_escapeChar {x : Char} (h : x ∈ escapeChar c) :
    isPlain c = true ∧ x = c ∨ Within asciiRanges x := by
  rcases escapeChar_cases c with
    ⟨-, e, he, -, hwritten⟩ | ⟨-, hplain, hwritten⟩ | ⟨-, -, hwritten⟩
  · have hascii : ∀ e ∈ escapeMarks, ∀ x ∈ ['\\', e], Within asciiRanges x := by
      simp [escapeMarks, Within, asciiRanges]
    exact .inr (hascii e he x (hwritten ▸ h))
  · rw [hwritten, List.mem_singleton] at h
    exact .inl ⟨hplain, h⟩
  · rw [hwritten] at h
    obtain ⟨n, -, hn⟩ := List.mem_flatMap.1 h
    exact .inr (within_ascii_of_mem_escapeUnit hn)

theorem isPlain_of_mem_escapeChar {x : Char} (h : x ∈ escapeChar c) : isPlain x = true := by
  rcases mem_escapeChar h with ⟨hplain, rfl⟩ | hascii
  · exact hplain
  · exact hascii.isPlain (by decide)

theorem escapeChar_of_unlisted (h : Within unlistedFormat c) : escapeChar c = [c] := by
  have hplain : isPlain c = true := h.isPlain (by decide)
  have hnamed : ∀ c ∈ namedChars, ¬Within unlistedFormat c := by
    simp [namedChars, Within, unlistedFormat]
  rcases escapeChar_cases c with ⟨hc, -⟩ | ⟨-, -, hwritten⟩ | ⟨-, hnot, -⟩
  · exact absurd h (hnamed c hc)
  · exact hwritten
  · simp [hplain] at hnot

theorem isEscapeOf_escapeChar (h : isPlain c = false) : IsEscapeOf (escapeChar c) c where
  marked := by
    rcases escapeChar_cases c with ⟨-, e, -, -, hwritten⟩ | ⟨-, hplain, -⟩ | ⟨-, -, hwritten⟩
    · rw [hwritten]
      rfl
    · simp [h] at hplain
    · rw [hwritten]
      unfold Text.units
      split <;> rfl
  value := by
    have hvalue := unescape?_escape_eq (String.singleton c)
    simpa [escape] using hvalue

end

theorem toList_escape (value : String) :
    (escape value).toList = value.toList.flatMap escapeChar := by
  rw [escape, String.toList_ofList]

theorem isPlain_of_mem_escape {value : String} {x : Char} (h : x ∈ (escape value).toList) :
    isPlain x = true := by
  rw [toList_escape] at h
  obtain ⟨c, -, hx⟩ := List.mem_flatMap.1 h
  exact isPlain_of_mem_escapeChar hx

theorem mem_escape_of_unlisted {value : String} {c : Char} (h : Within unlistedFormat c) :
    c ∈ (escape value).toList ↔ c ∈ value.toList := by
  rw [toList_escape, List.mem_flatMap]
  constructor
  · intro hmem
    obtain ⟨d, hd, hc⟩ := hmem
    rcases mem_escapeChar hc with ⟨-, rfl⟩ | hascii
    · exact hd
    · exact absurd h (hascii.not_of_apart (by decide))
  · intro hmem
    refine ⟨c, hmem, ?_⟩
    rw [escapeChar_of_unlisted h]
    exact List.mem_singleton_self c

theorem escape_unseen (value : String) :
    (∀ c, c ∈ (escape value).toList ∧ IsUnseen c ↔ c ∈ value.toList ∧ Within unlistedFormat c) ∧
      ∃ parts : List (List Char), (escape value).toList = parts.flatten ∧
        List.Forall₂ (fun part c => IsUnseen c → ¬Within unlistedFormat c → IsEscapeOf part c)
          parts value.toList := by
  refine ⟨fun c => ⟨fun h => ?_, fun h => ?_⟩, value.toList.map escapeChar, ?_, ?_⟩
  · obtain ⟨hmem, hunseen⟩ := h
    have hplain := isPlain_of_mem_escape hmem
    have hunlisted : Within unlistedFormat c := by simpa [hplain] using isUnseen_iff.1 hunseen
    exact ⟨(mem_escape_of_unlisted hunlisted).1 hmem, hunlisted⟩
  · obtain ⟨hmem, hunlisted⟩ := h
    exact ⟨(mem_escape_of_unlisted hunlisted).2 hmem, isUnseen_iff.2 (.inr hunlisted)⟩
  · rw [toList_escape, List.flatMap_def]
  · rw [List.forall₂_map_left_iff, List.forall₂_same]
    intro c _ hunseen hlisted
    exact isEscapeOf_escapeChar ((isUnseen_iff.1 hunseen).resolve_right hlisted)

theorem escape_disputedEnd :
    ∃ c ∈ (escape "\u08E2").toList, Within Unseen.format.ranges c :=
  ⟨'\u08E2', by decide, by decide⟩

end DocstringTags.Literal
