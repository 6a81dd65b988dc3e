import DocstringTags.Text.Digits

set_option autoImplicit false

namespace DocstringTags.Text

/-- Decimal digits, at least one, with a plus sign in front of them or without. -/
def IsNumeral (cs : List Char) (n : Nat) : Prop :=
  ∃ digits, (cs = digits ∨ cs = '+' :: digits) ∧ digits ≠ [] ∧
    (∀ c ∈ digits, c.isDigit = true) ∧ Nat.ofDigitChars 10 digits 0 = n

def unsigned : List Char → List Char
  | '+' :: cs => cs
  | cs => cs

def leadingDigits (cs : List Char) : List Char := (unsigned cs).takeWhile Char.isDigit

variable {limit value n : Nat} {cs : List Char}

theorem NumeralError.message_inj {e e' : NumeralError} : e.message = e'.message ↔ e = e' := by
  cases e <;> cases e' <;> simp [message]

theorem le_ofDigitChars (cs : List Char) (value : Nat) : value ≤ Nat.ofDigitChars 10 cs value := by
  induction cs generalizing value with
  | nil => simp
  | cons c cs ih =>
    rw [Nat.ofDigitChars_cons]
    have := ih (10 * value + (c.toNat - '0'.toNat))
    omega

theorem readDigits_eq_ok_iff (hvalue : value ≤ limit) :
    readDigits limit value cs = .ok n ↔
      (∀ c ∈ cs, c.isDigit = true) ∧ Nat.ofDigitChars 10 cs value = n ∧ n ≤ limit := by
  induction cs generalizing value with
  | nil => simp [readDigits]; omega
  | cons c cs ih =>
    have hnext := le_ofDigitChars cs (10 * value + digitValue c)
    rw [readDigits, Nat.ofDigitChars_cons, ← digitValue, List.forall_mem_cons]
    by_cases hdigit : c.isDigit = true
    · by_cases hle : 10 * value + digitValue c ≤ limit
      · simp [hdigit, hle, ih hle]
      · simp [hdigit, hle]; omega
    · simp [hdigit]

theorem readDigits_ne_empty : readDigits limit value cs ≠ .error .empty := by
  fun_induction readDigits limit value cs with
  | case2 value c cs hdigit hle ih => exact ih
  | case1 | case3 | case4 => simp

theorem readDigits_eq_tooLarge_iff (hvalue : value ≤ limit) :
    readDigits limit value cs = .error .tooLarge ↔
      limit < Nat.ofDigitChars 10 (cs.takeWhile Char.isDigit) value := by
  induction cs generalizing value with
  | nil => simp [readDigits, hvalue]
  | cons c cs ih =>
    rw [readDigits]
    by_cases hdigit : c.isDigit = true
    · -- the digits that follow can only add to a value that is too large already
      have hnext := le_ofDigitChars (cs.takeWhile Char.isDigit) (10 * value + digitValue c)
      rw [if_pos hdigit, List.takeWhile_cons_of_pos hdigit, Nat.ofDigitChars_cons, ← digitValue]
      by_cases hle : 10 * value + digitValue c ≤ limit
      · rw [if_pos hle, ih hle]
      · simp only [if_neg hle, true_iff]
        omega
    · rw [if_neg hdigit, List.takeWhile_cons_of_neg hdigit]
      simp [hvalue]

theorem unsigned_of_ne_plus (h : ∀ rest, cs = '+' :: rest → False) : unsigned cs = cs := by
  unfold unsigned
  split
  · exact (h _ rfl).elim
  · rfl

theorem unsigned_of_digits (h : ∀ c ∈ cs, c.isDigit = true) : unsigned cs = cs := by
  refine unsigned_of_ne_plus fun rest hcs => ?_
  have hsign := h '+' (by simp [hcs])
  simp at hsign

theorem unsigned_eq_nil_iff : unsigned cs = [] ↔ cs = [] ∨ cs = ['+'] := by
  fun_cases unsigned cs with
  | case1 cs => simp
  | case2 cs hsign =>
    have hcs : cs ≠ ['+'] := fun h => hsign [] h
    simp [hcs]

theorem isNumeral_iff :
    IsNumeral cs n ↔ unsigned cs ≠ [] ∧ (∀ c ∈ unsigned cs, c.isDigit = true) ∧
      Nat.ofDigitChars 10 (unsigned cs) 0 = n := by
  constructor
  · rintro ⟨digits, rfl | rfl, hdigits⟩
    · rw [unsigned_of_digits hdigits.2.1]
      exact hdigits
    · exact hdigits
  · intro h
    refine ⟨unsigned cs, ?_, h⟩
    fun_cases unsigned cs with
    | case1 cs => exact .inr rfl
    | case2 cs hsign => exact .inl rfl

theorem readNumeral_eq_readDigits (h : unsigned cs ≠ []) :
    readNumeral limit cs = readDigits limit 0 (unsigned cs) := by
  fun_cases readNumeral limit cs with
  | case1 => exact (h rfl).elim
  | case2 => exact (h rfl).elim
  | case3 cs hne => rfl
  | case4 cs hnil _ hsign => rw [unsigned_of_ne_plus hsign]

theorem readNumeral_eq_ok_iff : readNumeral limit cs = .ok n ↔ IsNumeral cs n ∧ n ≤ limit := by
  rw [isNumeral_iff]
  by_cases h : unsigned cs = []
  · obtain rfl | rfl := unsigned_eq_nil_iff.1 h <;> simp [readNumeral, h]
  · rw [readNumeral_eq_readDigits h, readDigits_eq_ok_iff (Nat.zero_le limit)]
    simp [h, and_assoc]

theorem readNumeral_eq_empty_iff : readNumeral limit cs = .error .empty ↔ cs = [] := by
  by_cases h : unsigned cs = []
  · obtain rfl | rfl := unsigned_eq_nil_iff.1 h <;> simp [readNumeral]
  · have hcs : cs ≠ [] := by
      rintro rfl
      exact h rfl
    simp [readNumeral_eq_readDigits h, readDigits_ne_empty, hcs]

theorem readNumeral_eq_tooLarge_iff :
    readNumeral limit cs = .error .tooLarge ↔ limit < Nat.ofDigitChars 10 (leadingDigits cs) 0 := by
  rw [leadingDigits]
  by_cases h : unsigned cs = []
  · obtain rfl | rfl := unsigned_eq_nil_iff.1 h <;> simp [readNumeral, h]
  · rw [readNumeral_eq_readDigits h]
    exact readDigits_eq_tooLarge_iff (Nat.zero_le limit)

/-- What is left when the text is not empty, no numeral up to the limit, and not too large. -/
theorem readNumeral_eq_invalidDigit_iff :
    readNumeral limit cs = .error .invalidDigit ↔
      cs ≠ [] ∧ Nat.ofDigitChars 10 (leadingDigits cs) 0 ≤ limit ∧
        ∀ n ≤ limit, ¬IsNumeral cs n := by
  have hempty : cs = [] ↔ readNumeral limit cs = .error .empty := readNumeral_eq_empty_iff.symm
  have hlarge : Nat.ofDigitChars 10 (leadingDigits cs) 0 ≤ limit ↔
      readNumeral limit cs ≠ .error .tooLarge := by
    rw [ne_eq, readNumeral_eq_tooLarge_iff, Nat.not_lt]
  have hnone : (∀ n ≤ limit, ¬IsNumeral cs n) ↔ ∀ n, readNumeral limit cs ≠ .ok n := by
    simp only [ne_eq, readNumeral_eq_ok_iff, not_and']
  rw [ne_eq, hempty, hlarge, hnone]
  cases h : readNumeral limit cs with
  | ok n => simp
  | error problem => cases problem <;> simp

-- the value would be too large with one more digit, but none follows
example : readNumeral 0xFFFFFFFFFFFFFFFF "1844674407370955162x".toList = .error .invalidDigit ∧
    readNumeral 0xFFFFFFFFFFFFFFFF "18446744073709551620x".toList = .error .tooLarge := ⟨rfl, rfl⟩

end DocstringTags.Text
