import DocstringTags.Json.Token
import DocstringTags.Json.Value
import DocstringTags.Proofs.Text.Boundary

set_option autoImplicit false

namespace DocstringTags.Json

def writtenPiece (c : Char) : Piece :=
  if c.toNat < 0x20 ∧ c ∉ ['\x08', '\t', '\n', '\x0c', '\r'] then .unit c.toNat else .char c

def StringToken.ofString (s : String) : StringToken := ⟨s.toList.map writtenPiece, .closed⟩

theorem hexValue?_hexDigit : ∀ n < 16, Text.hexValue? (Text.hexDigit n) = some n := by
  decide

/-- Four digits name their unit, in whatever form each of them is written. -/
theorem unit?_map_hexDigits {write : Char → Char}
    (hwrite : ∀ n < 16, Text.hexValue? (write (Text.hexDigit n)) = some n) {n : Nat}
    (h : n < 0x10000) :
    ∃ a b c d, (Text.hexDigits n).map write = [a, b, c, d] ∧ unit? a b c d = some n := by
  refine ⟨_, _, _, _, rfl, ?_⟩
  have hdigit : ∀ m, Text.hexValue? (write (Text.hexDigit (m % 16))) = some (m % 16) := fun m =>
    hwrite _ (Nat.mod_lt m (by decide))
  simp only [unit?, hdigit, Option.bind_eq_bind, Option.bind_some, Option.pure_def,
    Option.some.injEq]
  omega

theorem unit?_hexDigits {n : Nat} (h : n < 0x10000) :
    ∃ a b c d, Text.hexDigits n = [a, b, c, d] ∧ unit? a b c d = some n := by
  have hid : ∀ n < 16, Text.hexValue? (id (Text.hexDigit n)) = some n := hexValue?_hexDigit
  have hdigits := unit?_map_hexDigits hid h
  rwa [List.map_id] at hdigits

section
variable (cs : List Char)

theorem scanString_quote : scanString ('"' :: cs) = (⟨[], .closed⟩, cs) := by
  rw [scanString.eq_def]
  rfl

theorem scanString_escape {e c : Char} (hu : e ≠ 'u') (h : escaped? e = some c) :
    scanString ('\\' :: e :: cs) = StringToken.push (.char c) (scanString cs) := by
  rw [scanString.eq_def]
  simp [hu, h]

theorem scanString_unit {a b c d : Char} {n : Nat} (h : unit? a b c d = some n) :
    scanString ('\\' :: 'u' :: a :: b :: c :: d :: cs) =
      StringToken.push (.unit n) (scanString cs) := by
  rw [scanString.eq_def]
  simp [h]

theorem scanString_char {c : Char} (hq : c ≠ '"') (hb : c ≠ '\\') (hc : 0x20 ≤ c.toNat) :
    scanString (c :: cs) = StringToken.push (.char c) (scanString cs) := by
  rw [scanString.eq_def]
  simp [hq, hb, Nat.not_lt.2 hc]

theorem scanString_writeChar (c : Char) :
    scanString (writeChar c ++ cs) = StringToken.push (writtenPiece c) (scanString cs) := by
  -- an escape of its own, an escape by number, or the character itself
  by_cases hshort : c ∈ ['"', '\\', '\x08', '\t', '\n', '\x0c', '\r']
  · simp only [List.mem_cons, List.not_mem_nil, or_false] at hshort
    rcases hshort with rfl | rfl | rfl | rfl | rfl | rfl | rfl <;>
      exact scanString_escape cs (by decide) (by decide)
  · simp only [List.mem_cons, List.not_mem_nil, or_false, not_or] at hshort
    by_cases hcontrol : c.toNat < 0x20
    · obtain ⟨a, b, d, e, hdigits, hunit⟩ := unit?_hexDigits (n := c.toNat) (by omega)
      have hpiece : writtenPiece c = .unit c.toNat := by simp [writtenPiece, hshort, hcontrol]
      have hwritten : writeChar c = '\\' :: 'u' :: [a, b, d, e] := by
        simp [writeChar, hshort, hcontrol, hdigits]
      rw [hpiece, hwritten]
      exact scanString_unit cs hunit
    · have hpiece : writtenPiece c = .char c := by simp [writtenPiece, hcontrol]
      have hwritten : writeChar c = [c] := by simp [writeChar, hshort, hcontrol]
      rw [hpiece, hwritten]
      exact scanString_char cs hshort.1 hshort.2.1 (Nat.le_of_not_lt hcontrol)

end

theorem scanString_flatMap_writeChar (cs rest : List Char) :
    scanString (cs.flatMap writeChar ++ '"' :: rest) =
      (⟨cs.map writtenPiece, .closed⟩, rest) := by
  induction cs with
  | nil => exact scanString_quote rest
  | cons c cs ih =>
    rw [List.flatMap_cons, List.append_assoc, scanString_writeChar, ih]
    rfl

theorem readPieces_unit {n : Nat} (h : n < 0xD800 ∨ 0xDFFF < n) (ending : StringEnd)
    (rest : List Piece) :
    readPieces ending (.unit n :: rest) = (readPieces ending rest).map (Char.ofNat n :: ·) := by
  have hlow : Text.isLowUnit n = false := by
    simp only [Text.isLowUnit, Bool.and_eq_false_iff, decide_eq_false_iff_not]
    omega
  have hhigh : Text.isHighUnit n = false := by
    simp only [Text.isHighUnit, Bool.and_eq_false_iff, decide_eq_false_iff_not]
    omega
  rw [readPieces.eq_def]
  simp [hlow, hhigh]

theorem readPieces_pair {high low : Nat} (hhigh : Text.isHighUnit high = true)
    (hlow : Text.isLowUnit low = true) (ending : StringEnd) (rest : List Piece) :
    readPieces ending (.unit high :: .unit low :: rest) =
      (readPieces ending rest).map (Text.joinUnits high low :: ·) := by
  have hnot : Text.isLowUnit high = false := by
    simp only [Text.isHighUnit, Bool.and_eq_true, decide_eq_true_eq] at hhigh
    simp only [Text.isLowUnit, Bool.and_eq_false_iff, decide_eq_false_iff_not]
    omega
  rw [readPieces.eq_def]
  simp [hnot, hhigh, hlow]

theorem readPieces_map_writtenPiece (cs : List Char) :
    readPieces .closed (cs.map writtenPiece) = .ok cs := by
  induction cs with
  | nil => rfl
  | cons c cs ih =>
    rw [List.map_cons, writtenPiece]
    split
    · next h =>
      have hscalar : c.toNat < 0xD800 ∨ 0xDFFF < c.toNat := by omega
      simp [readPieces_unit hscalar, ih, Except.map]
    · simp [readPieces, ih, Except.map]

@[simp] theorem StringToken.text_ofString (s : String) : (ofString s).text = .ok s := by
  simp [text, ofString, readPieces_map_writtenPiece, Except.map]

/-! ## Integers -/

def Numeral.ofNat (isNegative : Bool) (n : Nat) : Numeral :=
  ⟨isNegative, Nat.toDigits 10 n, [], none⟩

def EndsNumeral (rest : List Char) : Prop :=
  ∀ c ∈ rest.head?, c.isDigit = false ∧ c ≠ '.' ∧ c ≠ 'e' ∧ c ≠ 'E'

theorem digitsValue_toDigits (n : Nat) : digitsValue (Nat.toDigits 10 n) = n := by
  have h := Nat.ofDigitChars_ten_toDigits (n := n)
  rwa [Nat.ofDigitChars_eq_foldl] at h

/-- Only zero begins with a zero. -/
theorem toDigits_eq_cons (n : Nat) :
    ∃ c cs, Nat.toDigits 10 n = c :: cs ∧ c.isDigit = true ∧ (0 < n → c ≠ '0') := by
  induction n using Nat.strongRecOn with
  | ind n ih =>
    rw [Nat.toDigits_eq_if (by decide)]
    split
    · next hlt =>
      have hdigit : ∀ m < 10, m.digitChar.isDigit = true ∧ (0 < m → m.digitChar ≠ '0') := by
        decide
      exact ⟨n.digitChar, [], rfl, hdigit n hlt⟩
    · next hle =>
      obtain ⟨c, cs, hcs, hc, hzero⟩ := ih (n / 10) (by omega)
      exact ⟨c, cs ++ [(n % 10).digitChar], by rw [hcs]; rfl, hc, fun _ => hzero (by omega)⟩

section
variable {rest : List Char} (h : EndsNumeral rest) (n : Nat)
include h

theorem scanDigits_toDigits :
    scanDigits (Nat.toDigits 10 n ++ rest) = .ok (Nat.toDigits 10 n, rest) := by
  have hdigit : ∀ c ∈ Nat.toDigits 10 n, c.isDigit = true := fun c hc =>
    Nat.isDigit_of_mem_toDigits (by decide) (by decide) hc
  have hrest : ∀ c ∈ rest.head?, c.isDigit = false := fun c hc => (h c hc).1
  rw [scanDigits, Text.takeWhile_append_of_head hdigit hrest,
    Text.dropWhile_append_of_head hdigit hrest]
  split
  · next hnil => exact absurd hnil Nat.toDigits_ne_nil
  · rfl

theorem scanWhole_toDigits :
    scanWhole (Nat.toDigits 10 n ++ rest) = .ok (Nat.toDigits 10 n, rest) := by
  rcases Nat.eq_zero_or_pos n with rfl | hn
  · cases rest with
    | nil => rfl
    | cons c cs => simp [scanWhole, (h c rfl).1]
  · have hdigits := scanDigits_toDigits h n
    obtain ⟨c, cs, hcs, -, hzero⟩ := toDigits_eq_cons n
    rw [hcs] at hdigits ⊢
    unfold scanWhole
    split
    · next heq => exact absurd (List.cons.inj heq).1 (hzero hn)
    · exact hdigits

theorem scanFraction_of_endsNumeral : scanFraction rest = .ok ([], rest) := by
  unfold scanFraction
  split
  · next cs => exact absurd rfl (h '.' rfl).2.1
  · rfl

theorem scanExponent_of_endsNumeral : scanExponent rest = .ok (none, rest) := by
  unfold scanExponent
  split
  · rfl
  · next c cs =>
    obtain ⟨-, -, he, hE⟩ := h c rfl
    simp [he, hE]

theorem scanSigned_toDigits (isNegative : Bool) :
    scanSigned isNegative (Nat.toDigits 10 n ++ rest) = .ok (.ofNat isNegative n, rest) := by
  simp [scanSigned, scanWhole_toDigits h, scanFraction_of_endsNumeral h,
    scanExponent_of_endsNumeral h, Numeral.ofNat, bind, Except.bind, pure, Except.pure]

end

def Number.numeral : Number → Numeral
  | .natural n => .ofNat false n
  | .negative n => .ofNat true n
  | .real isNegative _ => .ofNat isNegative 0

/-- The number is an integer that is kept as one: of a machine word, with or without a sign. -/
def Number.IsInteger : Number → Prop
  | .natural n => n ≤ maxWord
  | .negative n => 1 ≤ n ∧ n ≤ maxNegative
  | .real _ _ => False

def Number.IsExact : Number → Prop
  | .natural _ | .negative _ => True
  | .real _ _ => False

theorem Number.IsInteger.isExact {n : Number} (h : n.IsInteger) : n.IsExact := by
  cases n with
  | natural | negative => trivial
  | real isNegative x => cases h

theorem Number.number_numeral {n : Number} (h : n.IsInteger) : n.numeral.number = .ok n := by
  cases n with
  | natural n =>
    have hn : n ≤ maxWord := h
    simp [numeral, Numeral.number, Numeral.ofNat, digitsValue_toDigits, hn]
  | negative n =>
    obtain ⟨hpos, hn⟩ : 1 ≤ n ∧ n ≤ maxNegative := h
    simp [numeral, Numeral.number, Numeral.ofNat, digitsValue_toDigits, hn, hpos]
  | real isNegative x => cases h

theorem scanNumeral_text {n : Number} (hn : n.IsExact) {rest : List Char}
    (h : EndsNumeral rest) : scanNumeral (n.text.toList ++ rest) = .ok (n.numeral, rest) := by
  cases n with
  | natural n =>
    obtain ⟨c, cs, hcs, hc, -⟩ := toDigits_eq_cons n
    have hscan := scanSigned_toDigits h n false
    have htext : (Number.natural n).text.toList = Nat.toDigits 10 n := String.toList_ofList
    rw [htext]
    rw [hcs] at hscan ⊢
    unfold scanNumeral
    split
    · next heq =>
      rw [(List.cons.inj heq).1] at hc
      cases hc
    · exact hscan
  | negative n =>
    have htext : (Number.negative n).text.toList = '-' :: Nat.toDigits 10 n := by
      simp [Number.text]
    rw [htext]
    exact scanSigned_toDigits h n true
  | real isNegative x => cases hn

theorem Number.text_eq_cons {n : Number} (hn : n.IsExact) :
    ∃ c cs, n.text.toList = c :: cs ∧ (c = '-' ∨ c.isDigit = true) := by
  cases n with
  | natural n =>
    obtain ⟨c, cs, hcs, hc, -⟩ := toDigits_eq_cons n
    have htext : (Number.natural n).text.toList = Nat.toDigits 10 n := String.toList_ofList
    exact ⟨c, cs, htext.trans hcs, .inr hc⟩
  | negative n => exact ⟨'-', (toString n).toList, by simp [Number.text], .inl rfl⟩
  | real isNegative x => cases hn

/-! ## Tokens -/

theorem tokens_cons {c : Char} {cs rest : List Char} {token : Token} (hc : isSpace c = false)
    (h : scanToken c cs = (token, rest)) : tokens (c :: cs) = token :: tokens rest := by
  rw [tokens, h]
  simp [hc]

theorem tokens_space {c : Char} (hc : isSpace c = true) (cs : List Char) :
    tokens (c :: cs) = tokens cs := by
  rw [tokens]
  simp [hc]

section
variable (cs : List Char)

@[simp] theorem tokens_nil : tokens [] = [] := by rw [tokens]

@[simp] theorem tokens_openList : tokens ('[' :: cs) = .openList :: tokens cs :=
  tokens_cons rfl rfl

@[simp] theorem tokens_closeList : tokens (']' :: cs) = .closeList :: tokens cs :=
  tokens_cons rfl rfl

@[simp] theorem tokens_openObject : tokens ('\x7b' :: cs) = .openObject :: tokens cs :=
  tokens_cons rfl rfl

@[simp] theorem tokens_closeObject : tokens ('\x7d' :: cs) = .closeObject :: tokens cs :=
  tokens_cons rfl rfl

@[simp] theorem tokens_comma : tokens (',' :: cs) = .comma :: tokens cs := tokens_cons rfl rfl

@[simp] theorem tokens_colon : tokens (':' :: cs) = .colon :: tokens cs := tokens_cons rfl rfl

@[simp] theorem tokens_blank : tokens (' ' :: cs) = tokens cs := tokens_space rfl cs

@[simp] theorem tokens_newLine (level : Nat) : tokens (newLine level ++ cs) = tokens cs := by
  rw [newLine, List.cons_append, tokens_space rfl]
  induction 2 * level with
  | zero => rfl
  | succ n ih => rw [List.replicate_succ, List.cons_append, tokens_blank, ih]

@[simp] theorem tokens_null : tokens ('n' :: 'u' :: 'l' :: 'l' :: cs) = .null :: tokens cs :=
  tokens_cons rfl rfl

@[simp] theorem tokens_bool (b : Bool) :
    tokens ((if b then "true" else "false").toList ++ cs) = .bool b :: tokens cs := by
  cases b with
  | false => exact tokens_cons rfl rfl
  | true => exact tokens_cons rfl rfl

@[simp] theorem tokens_writeString (s : String) :
    tokens (writeString s ++ cs) = .string (.ofString s) :: tokens cs := by
  have h := scanString_flatMap_writeChar s.toList cs
  rw [writeString, List.cons_append, List.append_assoc, List.singleton_append]
  refine tokens_cons rfl ?_
  simp [scanToken, h, StringToken.ofString]

end

section
variable {c : Char} (hc : c = '-' ∨ c.isDigit = true)
include hc

theorem ne_of_beginsNumeral {d : Char} (hd : ¬(d = '-' ∨ d.isDigit = true)) : c ≠ d := by
  rintro rfl
  exact hd hc

theorem isSpace_of_beginsNumeral : isSpace c = false := by
  have hne : ∀ d : Char, ¬(d = '-' ∨ d.isDigit = true) → c ≠ d := fun _ =>
    ne_of_beginsNumeral hc
  simp [isSpace, hne ' ' (by decide), hne '\n' (by decide), hne '\t' (by decide),
    hne '\r' (by decide)]

theorem scanToken_of_beginsNumeral (cs : List Char) : scanToken c cs = numeralToken (c :: cs) := by
  have hne : ∀ d : Char, ¬(d = '-' ∨ d.isDigit = true) → c ≠ d := fun _ =>
    ne_of_beginsNumeral hc
  simp only [scanToken, hne '[' (by decide), hne ']' (by decide), hne '\x7b' (by decide),
    hne '\x7d' (by decide), hne ',' (by decide), hne ':' (by decide), hne 'n' (by decide),
    hne 't' (by decide), hne 'f' (by decide), hne '"' (by decide), if_false, if_pos hc]

end

theorem tokens_text {n : Number} (hn : n.IsExact) {rest : List Char} (h : EndsNumeral rest) :
    tokens (n.text.toList ++ rest) = .number n.numeral :: tokens rest := by
  have hscan := scanNumeral_text hn h
  obtain ⟨c, cs, hcs, hc⟩ := Number.text_eq_cons hn
  rw [hcs, List.cons_append] at hscan
  rw [hcs, List.cons_append]
  refine tokens_cons (isSpace_of_beginsNumeral hc) ?_
  rw [scanToken_of_beginsNumeral hc, numeralToken, hscan]

end DocstringTags.Json
