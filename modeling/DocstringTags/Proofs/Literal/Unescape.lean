import DocstringTags.Literal
import DocstringTags.Proofs.Json.WrittenToken

set_option autoImplicit false

namespace DocstringTags.Literal
open Json (Piece readPieces unit?)

def named? (c : Char) : Option Char :=
  if c = 'b' then some '\x08'
  else if c = 't' then some '\t'
  else if c = 'n' then some '\n'
  else if c = 'f' then some '\x0c'
  else if c = 'r' then some '\r'
  else if c = '"' ∨ c = '\\' then some c
  else none

def pieces? : List Char → Option (List Piece)
  | [] => some []
  | c :: cs =>
    if c = '\\' then
      match cs with
      | [] => none
      | e :: cs =>
        if e = 'u' then
          match cs with
          | a :: b :: c :: d :: cs =>
            (unit? a b c d).bind fun n => (pieces? cs).map (.unit n :: ·)
          | _ => none
        else (named? e).bind fun c => (pieces? cs).map (.char c :: ·)
    else (pieces? cs).map (.char c :: ·)

/-- The value of an escaped text. A high unit has to be followed by a low one, and both together are
one character. -/
def unescape? (text : String) : Option String :=
  (pieces? text.toList).bind fun pieces =>
    (readPieces .closed pieces).toOption.map String.ofList

def namedChars : List Char := ['\x08', '\t', '\n', '\x0c', '\r', '"', '\\']

def escapeMarks : List Char := ['b', 't', 'n', 'f', 'r', '"', '\\']

/-- The three ways in which a character is written. -/
theorem escapeChar_cases (c : Char) :
    (c ∈ namedChars ∧ ∃ e ∈ escapeMarks, named? e = some c ∧ escapeChar c = ['\\', e]) ∨
      (c ∉ namedChars ∧ isPlain c = true ∧ escapeChar c = [c]) ∨
      c ∉ namedChars ∧ isPlain c = false ∧ escapeChar c = (Text.units c).flatMap escapeUnit := by
  by_cases hnamed : c ∈ namedChars
  · refine .inl ⟨hnamed, ?_⟩
    simp only [namedChars, List.mem_cons, List.not_mem_nil, or_false] at hnamed
    rcases hnamed with rfl | rfl | rfl | rfl | rfl | rfl | rfl <;>
      simp [escapeMarks, named?, escapeChar]
  · have hnot := hnamed
    simp only [namedChars, List.mem_cons, List.not_mem_nil, or_false, not_or] at hnot
    cases hplain : isPlain c with
    | true => exact .inr (.inl ⟨hnamed, rfl, by simp [escapeChar, hnot, hplain]⟩)
    | false => exact .inr (.inr ⟨hnamed, rfl, by simp [escapeChar, hnot, hplain]⟩)

def escapedPieces (c : Char) : List Piece :=
  if c ∈ namedChars ∨ isPlain c = true then [.char c] else (Text.units c).map .unit

section
variable (cs : List Char)

theorem pieces?_named {e c : Char} (hu : e ≠ 'u') (h : named? e = some c) :
    pieces? ('\\' :: e :: cs) = (pieces? cs).map (.char c :: ·) := by
  rw [pieces?.eq_def]
  simp [hu, h]

theorem pieces?_char {c : Char} (h : c ≠ '\\') :
    pieces? (c :: cs) = (pieces? cs).map (.char c :: ·) := by
  rw [pieces?.eq_def]
  simp [h]

theorem hexValue?_toUpper_hexDigit :
    ∀ n < 16, Text.hexValue? (Text.hexDigit n).toUpper = some n := by
  decide

theorem pieces?_escapeUnit {n : Nat} (h : n < 0x10000) :
    pieces? (escapeUnit n ++ cs) = (pieces? cs).map (.unit n :: ·) := by
  obtain ⟨a, b, c, d, hdigits, hunit⟩ := Json.unit?_map_hexDigits hexValue?_toUpper_hexDigit h
  have hwritten : escapeUnit n ++ cs = '\\' :: 'u' :: a :: b :: c :: d :: cs := by
    rw [escapeUnit, hdigits]
    rfl
  rw [hwritten, pieces?.eq_def]
  simp [hunit]

theorem pieces?_escapeUnits {units : List Nat} (h : ∀ n ∈ units, n < 0x10000) :
    pieces? (units.flatMap escapeUnit ++ cs) = (pieces? cs).map (units.map .unit ++ ·) := by
  induction units with
  | nil => simp
  | cons n units ih =>
    obtain ⟨hn, hunits⟩ := List.forall_mem_cons.1 h
    rw [List.flatMap_cons, List.append_assoc, pieces?_escapeUnit _ hn, ih hunits]
    simp [Function.comp_def]

theorem toNat_bounds (c : Char) : c.toNat < 0xD800 ∨ 0xDFFF < c.toNat ∧ c.toNat < 0x110000 :=
  c.valid

theorem units_lt (c : Char) : ∀ n ∈ Text.units c, n < 0x10000 := by
  have := toNat_bounds c
  unfold Text.units
  split
  · next h => exact List.forall_mem_singleton.2 h
  · simp only [List.mem_cons, List.not_mem_nil, or_false, forall_eq_or_imp, forall_eq]
    omega

/-- What is read does not depend on what is written behind the character. -/
theorem pieces?_escapeChar (c : Char) :
    pieces? (escapeChar c ++ cs) = (pieces? cs).map (escapedPieces c ++ ·) := by
  rcases escapeChar_cases c with
    ⟨hnamed, e, he, hread, hwritten⟩ | ⟨hnamed, hplain, hwritten⟩ | ⟨hnamed, hplain, hwritten⟩
  · have hpieces : escapedPieces c = [.char c] := by simp [escapedPieces, hnamed]
    have hu : e ≠ 'u' := ne_of_mem_of_not_mem he (by decide)
    rw [hwritten, hpieces]
    exact pieces?_named cs hu hread
  · have hpieces : escapedPieces c = [.char c] := by simp [escapedPieces, hplain]
    have hmark : c ≠ '\\' := (ne_of_mem_of_not_mem (by decide) hnamed).symm
    rw [hwritten, hpieces]
    exact pieces?_char cs hmark
  · have hpieces : escapedPieces c = (Text.units c).map .unit := by
      simp [escapedPieces, hnamed, hplain]
    rw [hwritten, hpieces]
    exact pieces?_escapeUnits cs (units_lt c)

end

theorem pieces?_flatMap_escapeChar (cs : List Char) :
    pieces? (cs.flatMap escapeChar) = some (cs.flatMap escapedPieces) := by
  induction cs with
  | nil => rfl
  | cons c cs ih => rw [List.flatMap_cons, pieces?_escapeChar, ih, List.flatMap_cons]; rfl

section
variable (rest : List Piece)

/-- The units of a character are joined with each other and with no unit behind them. -/
theorem readPieces_units (c : Char) :
    readPieces .closed ((Text.units c).map .unit ++ rest) =
      (readPieces .closed rest).map (c :: ·) := by
  have hbounds := toNat_bounds c
  by_cases hpair : 0x10000 ≤ c.toNat
  · obtain ⟨hunits, hjoin⟩ := Text.joinUnits_units c hpair
    rw [hunits, List.map_cons, List.map_cons, List.map_nil, List.cons_append,
      List.singleton_append, Json.readPieces_pair, hjoin]
    · simp only [Text.isHighUnit, Bool.and_eq_true, decide_eq_true_eq]
      omega
    · simp only [Text.isLowUnit, Bool.and_eq_true, decide_eq_true_eq]
      omega
  · have hunits : Text.units c = [c.toNat] := by rw [Text.units, if_pos (by omega)]
    rw [hunits, List.map_cons, List.map_nil, List.singleton_append,
      Json.readPieces_unit (by omega), Char.ofNat_toNat]

theorem readPieces_escapedPieces (c : Char) :
    readPieces .closed (escapedPieces c ++ rest) = (readPieces .closed rest).map (c :: ·) := by
  unfold escapedPieces
  split
  · rfl
  · exact readPieces_units rest c

end

theorem readPieces_flatMap_escapedPieces (cs : List Char) :
    readPieces .closed (cs.flatMap escapedPieces) = .ok cs := by
  induction cs with
  | nil => rfl
  | cons c cs ih => rw [List.flatMap_cons, readPieces_escapedPieces, ih]; rfl

theorem unescape?_escape_eq (value : String) : unescape? (escape value) = some value := by
  simp [unescape?, escape, pieces?_flatMap_escapeChar, readPieces_flatMap_escapedPieces,
    Except.toOption]

theorem escape_injective : Function.Injective escape := by
  intro value other h
  have hread := congrArg unescape? h
  rw [unescape?_escape_eq, unescape?_escape_eq] at hread
  exact Option.some.inj hread

theorem quote_injective {write : String → String} (h : Function.Injective write) :
    Function.Injective (quote write) := by
  intro value other hquote
  have hlists := String.ofList_injective hquote
  exact h (String.toList_injective (List.append_cancel_right (List.cons.inj hlists).2))

/-- Reading undoes escaping, so two values never have the same literal. -/
theorem unescape?_escape :
    (∀ value, unescape? (escape value) = some value) ∧
      ∀ value other, quote escape value = quote escape other ↔ value = other :=
  ⟨unescape?_escape_eq, fun _ _ => (quote_injective escape_injective).eq_iff⟩

end DocstringTags.Literal
