/-! Byte offsets into a text that is written in UTF-8, and the lines and columns of such offsets. A
text is a list of characters; an offset is a character boundary when it is the size of some initial
part. Lines and columns start at one, and a column counts characters, not bytes. Main statements:
`dropBytes?_eq_some_iff` and `takeBytes?_eq_some_iff`, which say what the two cuts give.
-/

set_option autoImplicit false

namespace DocstringTags.Text

def byteSize : List Char → Nat
  | [] => 0
  | c :: cs => c.utf8Size + byteSize cs

@[simp] theorem byteSize_nil : byteSize [] = 0 := rfl

@[simp] theorem byteSize_cons (c : Char) (cs : List Char) :
    byteSize (c :: cs) = c.utf8Size + byteSize cs := rfl

@[simp] theorem byteSize_append (cs ds : List Char) :
    byteSize (cs ++ ds) = byteSize cs + byteSize ds := by
  induction cs with
  | nil => simp
  | cons c cs ih => simp [ih, Nat.add_assoc]

theorem byteSize_pos {cs : List Char} (h : cs ≠ []) : 0 < byteSize cs := by
  cases cs with
  | nil => exact absurd rfl h
  | cons c cs => have := c.utf8Size_pos; simp only [byteSize_cons]; omega

/-- The measure is the size of the encoded text. -/
theorem size_utf8Encode (cs : List Char) : cs.utf8Encode.size = byteSize cs := by
  induction cs with
  | nil => simp
  | cons c cs ih =>
    rw [List.utf8Encode_cons, ByteArray.size_append, ih, List.utf8Encode_singleton]
    simp

/-- What follows the first `n` bytes; nothing if `n` is past the end or inside a character. -/
def dropBytes? : List Char → Nat → Option (List Char)
  | cs, 0 => some cs
  | [], _ + 1 => none
  | c :: cs, n + 1 => if c.utf8Size ≤ n + 1 then dropBytes? cs (n + 1 - c.utf8Size) else none

def takeBytes? : List Char → Nat → Option (List Char)
  | _, 0 => some []
  | [], _ + 1 => none
  | c :: cs, n + 1 =>
    if c.utf8Size ≤ n + 1 then (takeBytes? cs (n + 1 - c.utf8Size)).map (c :: ·) else none

@[simp] theorem dropBytes?_zero (cs : List Char) : dropBytes? cs 0 = some cs := by
  cases cs <;> rfl

@[simp] theorem takeBytes?_zero (cs : List Char) : takeBytes? cs 0 = some [] := by
  cases cs <;> rfl

theorem dropBytes?_append (before after : List Char) :
    dropBytes? (before ++ after) (byteSize before) = some after := by
  induction before with
  | nil => simp
  | cons c cs ih =>
    have h := c.utf8Size_pos
    obtain ⟨n, hn⟩ : ∃ n, byteSize (c :: cs) = n + 1 := ⟨byteSize (c :: cs) - 1, by simp; omega⟩
    have hle : c.utf8Size ≤ n + 1 := by simp only [byteSize_cons] at hn; omega
    have hsub : n + 1 - c.utf8Size = byteSize cs := by simp only [byteSize_cons] at hn; omega
    rw [hn, List.cons_append, dropBytes?, if_pos hle, hsub, ih]

theorem dropBytes?_eq_some_iff {cs after : List Char} {n : Nat} :
    dropBytes? cs n = some after ↔ ∃ before, cs = before ++ after ∧ n = byteSize before := by
  constructor
  · intro h
    fun_induction dropBytes? cs n with
    | case1 cs => exact ⟨[], by simpa using h⟩
    | case2 => simp at h
    | case3 c cs n hle ih =>
      obtain ⟨before, rfl, hn⟩ := ih h
      exact ⟨c :: before, rfl, by simp only [byteSize_cons]; omega⟩
    | case4 => simp at h
  · rintro ⟨before, rfl, rfl⟩
    exact dropBytes?_append before after

theorem takeBytes?_append (before after : List Char) :
    takeBytes? (before ++ after) (byteSize before) = some before := by
  induction before with
  | nil => simp
  | cons c cs ih =>
    have h := c.utf8Size_pos
    obtain ⟨n, hn⟩ : ∃ n, byteSize (c :: cs) = n + 1 := ⟨byteSize (c :: cs) - 1, by simp; omega⟩
    have hle : c.utf8Size ≤ n + 1 := by simp only [byteSize_cons] at hn; omega
    have hsub : n + 1 - c.utf8Size = byteSize cs := by simp only [byteSize_cons] at hn; omega
    rw [hn, List.cons_append, takeBytes?, if_pos hle, hsub, ih]; rfl

theorem takeBytes?_eq_some_iff {cs before : List Char} {n : Nat} :
    takeBytes? cs n = some before ↔ ∃ after, cs = before ++ after ∧ n = byteSize before := by
  constructor
  · intro h
    fun_induction takeBytes? cs n generalizing before with
    | case1 cs => simp at h; subst h; exact ⟨cs, rfl, rfl⟩
    | case2 => simp at h
    | case3 c cs n hle ih =>
      obtain ⟨taken, ht, rfl⟩ := Option.map_eq_some_iff.1 h
      obtain ⟨after, rfl, hn⟩ := ih ht
      exact ⟨after, rfl, by simp only [byteSize_cons]; omega⟩
    | case4 => simp at h
  · rintro ⟨after, rfl, rfl⟩
    exact takeBytes?_append before after

def slice? (cs : List Char) (start stop : Nat) : Option (List Char) :=
  if start ≤ stop then (dropBytes? cs start).bind (takeBytes? · (stop - start)) else none

theorem slice?_eq_some_iff {cs part : List Char} {start stop : Nat} :
    slice? cs start stop = some part ↔
      ∃ before after, cs = before ++ (part ++ after) ∧ start = byteSize before ∧
        stop = byteSize before + byteSize part := by
  constructor
  · intro h
    unfold slice? at h
    split at h
    · obtain ⟨rest, hr, hp⟩ := Option.bind_eq_some_iff.1 h
      obtain ⟨before, rfl, rfl⟩ := dropBytes?_eq_some_iff.1 hr
      obtain ⟨after, rfl, hn⟩ := takeBytes?_eq_some_iff.1 hp
      exact ⟨before, after, rfl, rfl, by omega⟩
    · simp at h
  · rintro ⟨before, after, rfl, rfl, rfl⟩
    have hsub : byteSize before + byteSize part - byteSize before = byteSize part := by omega
    simp [slice?, dropBytes?_append, hsub, takeBytes?_append]

structure Position where
  line : Nat
  column : Nat
  deriving DecidableEq, Repr

def Position.origin : Position := ⟨1, 1⟩

def Position.advance (p : Position) (c : Char) : Position :=
  if c = '\n' then ⟨p.line + 1, 1⟩ else ⟨p.line, p.column + 1⟩

def Position.forward (p : Position) : List Char → Nat → Position
  | _, 0 => p
  | [], _ + 1 => p
  | c :: cs, n + 1 => (p.advance c).forward cs (n + 1 - c.utf8Size)

/-- The place of a byte offset. Inside a character it is the place after that character, past the
end it is the place of the end. -/
def positionAt (cs : List Char) (offset : Nat) : Position := Position.origin.forward cs offset

/-! ## Bytes that need not be a text -/

/-- The least and the greatest value of each byte that can follow this one inside a character. -/
def continuations (first : Nat) : List (Nat × Nat) :=
  if first < 0xC2 then []
  else if first < 0xE0 then [(0x80, 0xBF)]
  else if first = 0xE0 then [(0xA0, 0xBF), (0x80, 0xBF)]
  else if first = 0xED then [(0x80, 0x9F), (0x80, 0xBF)]
  else if first < 0xF0 then [(0x80, 0xBF), (0x80, 0xBF)]
  else if first = 0xF0 then [(0x90, 0xBF), (0x80, 0xBF), (0x80, 0xBF)]
  else if first < 0xF4 then [(0x80, 0xBF), (0x80, 0xBF), (0x80, 0xBF)]
  else if first = 0xF4 then [(0x80, 0x8F), (0x80, 0xBF), (0x80, 0xBF)]
  else []

def takeWithin : List (Nat × Nat) → List UInt8 → List UInt8
  | (low, high) :: ranges, b :: bytes =>
    if low ≤ b.toNat ∧ b.toNat ≤ high then b :: takeWithin ranges bytes else []
  | _, _ => []

/-- The characters of some bytes behind the first `used` ones. A part that begins as a character does
and is not completed becomes one replacement character as a whole. -/
def decodeLossy : Nat → List UInt8 → List Char
  | _, [] => []
  | used + 1, _ :: bytes => decodeLossy used bytes
  | 0, b :: bytes =>
    let tail := takeWithin (continuations b.toNat) bytes
    ((b :: tail).toByteArray.utf8DecodeChar? 0).getD '\uFFFD' :: decodeLossy tail.length bytes

def legible (bytes : ByteArray) : String := String.ofList (decodeLossy 0 bytes.data.toList)

end DocstringTags.Text
