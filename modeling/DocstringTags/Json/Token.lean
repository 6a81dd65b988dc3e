import DocstringTags.Json.Numeral
import DocstringTags.Json.StringToken

set_option autoImplicit false

namespace DocstringTags.Json

inductive Fault where
  | missing
  /-- A word that begins as `null`, `true` or `false` does and goes on differently, or not at all. -/
  | word (initial : Char) (gap : Gap)
  | numeral (gap : Gap)
  | stray
  | colon (gap : Gap)
  deriving DecidableEq, Repr

inductive Token where
  | openList
  | closeList
  | openObject
  | closeObject
  | comma
  | colon
  | null
  | bool (b : Bool)
  | number (n : Numeral)
  | string (s : StringToken)
  | broken (fault : Fault)
  deriving DecidableEq, Repr

def scanWord : List Char → List Char → Except Gap (List Char)
  | [], cs => .ok cs
  | _ :: _, [] => .error .atEnd
  | w :: word, c :: cs => if c = w then scanWord word cs else .error .filled

def isSpace (c : Char) : Bool := c == ' ' || c == '\n' || c == '\t' || c == '\r'

def wordToken (initial : Char) (word : String) (token : Token) (cs : List Char) :
    Token × List Char :=
  match scanWord word.toList cs with
  | .ok rest => (token, rest)
  | .error gap => (.broken (.word initial gap), [])

def numeralToken (cs : List Char) : Token × List Char :=
  match scanNumeral cs with
  | .ok (n, rest) => (.number n, rest)
  | .error gap => (.broken (.numeral gap), [])

/-- The token that begins with `c`, which is no space, and what follows it. -/
def scanToken (c : Char) (cs : List Char) : Token × List Char :=
  if c = '[' then (.openList, cs)
  else if c = ']' then (.closeList, cs)
  else if c = '\x7b' then (.openObject, cs)
  else if c = '\x7d' then (.closeObject, cs)
  else if c = ',' then (.comma, cs)
  else if c = ':' then (.colon, cs)
  else if c = 'n' then wordToken 'n' "ull" .null cs
  else if c = 't' then wordToken 't' "rue" (.bool true) cs
  else if c = 'f' then wordToken 'f' "alse" (.bool false) cs
  else if c = '"' then ((.string (scanString cs).1), (scanString cs).2)
  else if c = '-' ∨ c.isDigit then numeralToken (c :: cs)
  else (.broken .stray, [])

theorem length_scanString_le (cs : List Char) : (scanString cs).2.length ≤ cs.length := by
  fun_induction scanString cs <;>
    simp only [StringToken.push, List.length_cons, List.length_nil] <;> omega

theorem length_scanWord_le {word cs rest : List Char} (h : scanWord word cs = .ok rest) :
    rest.length ≤ cs.length := by
  induction word generalizing cs with
  | nil => simp_all [scanWord]
  | cons w word ih =>
    cases cs with
    | nil => simp [scanWord] at h
    | cons c cs =>
      unfold scanWord at h
      split at h
      · have := ih h; simp only [List.length_cons]; omega
      · simp at h

theorem length_wordToken_le (initial : Char) (word : String) (token : Token) (cs : List Char) :
    (wordToken initial word token cs).2.length ≤ cs.length := by
  unfold wordToken
  split
  · next h => exact length_scanWord_le h
  · simp

theorem length_scanDigits_lt {cs digits rest : List Char}
    (h : scanDigits cs = .ok (digits, rest)) : rest.length < cs.length := by
  unfold scanDigits at h
  split at h
  · simp at h
  · next ds hd =>
    simp only [Except.ok.injEq, Prod.mk.injEq] at h
    obtain ⟨rfl, rfl⟩ := h
    have hs := congrArg List.length (List.takeWhile_append_dropWhile (p := Char.isDigit) (l := cs))
    have hp := List.length_pos_iff.2 hd
    simp only [List.length_append] at hs
    omega

theorem length_scanWhole_lt {cs digits rest : List Char}
    (h : scanWhole cs = .ok (digits, rest)) : rest.length < cs.length := by
  unfold scanWhole at h
  split at h
  · split at h
    · simp at h
    · simp only [Except.ok.injEq, Prod.mk.injEq] at h
      obtain ⟨rfl, rfl⟩ := h
      simp
  · exact length_scanDigits_lt h

theorem length_scanFraction_le {cs digits rest : List Char}
    (h : scanFraction cs = .ok (digits, rest)) : rest.length ≤ cs.length := by
  unfold scanFraction at h
  split at h
  · have := length_scanDigits_lt h; simp only [List.length_cons]; omega
  · simp_all

theorem length_scanSign_le (cs : List Char) : (scanSign cs).2.length ≤ cs.length := by
  unfold scanSign; split <;> simp

theorem length_scanExponent_le {cs rest : List Char} {exponent : Option (Bool × List Char)}
    (h : scanExponent cs = .ok (exponent, rest)) : rest.length ≤ cs.length := by
  unfold scanExponent at h
  split at h
  · simp_all
  · next c cs =>
    split at h
    · cases hd : scanDigits (scanSign cs).2 with
      | error e => simp [hd, Except.map] at h
      | ok r =>
        obtain ⟨digits, after⟩ := r
        simp only [hd, Except.map, Except.ok.injEq, Prod.mk.injEq] at h
        obtain ⟨-, rfl⟩ := h
        have := length_scanDigits_lt hd
        have := length_scanSign_le cs
        simp only [List.length_cons]
        omega
    · simp_all

theorem length_scanSigned_lt {isNegative : Bool} {cs rest : List Char} {n : Numeral}
    (h : scanSigned isNegative cs = .ok (n, rest)) : rest.length < cs.length := by
  unfold scanSigned at h
  cases hw : scanWhole cs with
  | error e => simp [hw, bind, Except.bind] at h
  | ok w =>
    cases hf : scanFraction w.2 with
    | error e => simp [hw, hf, bind, Except.bind] at h
    | ok f =>
      cases he : scanExponent f.2 with
      | error e => simp [hw, hf, he, bind, Except.bind] at h
      | ok x =>
        simp only [hw, hf, he, bind, Except.bind, pure, Except.pure, Except.ok.injEq,
          Prod.mk.injEq] at h
        have h₁ := length_scanWhole_lt hw
        have h₂ := length_scanFraction_le hf
        have h₃ := length_scanExponent_le he
        rw [← h.2]
        omega

theorem length_scanNumeral_lt {cs rest : List Char} {n : Numeral}
    (h : scanNumeral cs = .ok (n, rest)) : rest.length < cs.length := by
  unfold scanNumeral at h
  split at h
  · have := length_scanSigned_lt h; simp only [List.length_cons]; omega
  · exact length_scanSigned_lt h

theorem length_numeralToken_le (c : Char) (cs : List Char) :
    (numeralToken (c :: cs)).2.length ≤ cs.length := by
  unfold numeralToken
  split
  · next h => have := length_scanNumeral_lt h; simp only [List.length_cons] at this ⊢; omega
  · simp

theorem length_ite_le {p : Prop} [Decidable p] {one other : Token × List Char} {n : Nat}
    (h₁ : one.2.length ≤ n) (h₂ : other.2.length ≤ n) :
    (if p then one else other).2.length ≤ n := by
  by_cases hp : p
  · rwa [if_pos hp]
  · rwa [if_neg hp]

theorem length_scanToken_le (c : Char) (cs : List Char) :
    (scanToken c cs).2.length ≤ cs.length := by
  have single : cs.length ≤ cs.length := Nat.le_refl _
  exact length_ite_le single <| length_ite_le single <| length_ite_le single <|
    length_ite_le single <| length_ite_le single <| length_ite_le single <|
    length_ite_le (length_wordToken_le _ _ _ _) <|
    length_ite_le (length_wordToken_le _ _ _ _) <|
    length_ite_le (length_wordToken_le _ _ _ _) <|
    length_ite_le (length_scanString_le cs) <|
    length_ite_le (length_numeralToken_le c cs) (Nat.zero_le _)

/-- The tokens of a text, up to the first one that is not complete. -/
def tokens : List Char → List Token
  | [] => []
  | c :: cs =>
    if isSpace c then tokens cs else (scanToken c cs).1 :: tokens (scanToken c cs).2
termination_by cs => cs.length
decreasing_by
  · simp
  · have := length_scanToken_le c cs; simp only [List.length_cons]; omega

end DocstringTags.Json
