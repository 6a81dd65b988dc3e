import DocstringTags.Text.Bytes

/-! Half-open byte ranges and the ways in which an offset can be wrong. Offsets are natural numbers;
the only operation that can leave the width of a machine word is a shift, and it says so.
-/

set_option autoImplicit false

namespace DocstringTags

/-- The largest offset that an answer can hold. -/
def maxOffset : Nat := 0xFFFFFFFFFFFFFFFF

inductive OffsetError where
  /-- The offset is no character boundary of a text of `size` bytes. -/
  | invalid (offset size : Nat)
  | inverted (start stop : Nat)
  | overflow (offset delta : Nat)
  deriving DecidableEq, Repr

def OffsetError.message : OffsetError → String
  | .invalid offset size =>
    "invalid range: offset " ++ toString offset ++ " is not a valid position in a buffer of "
      ++ toString size ++ " bytes"
  | .inverted start stop =>
    "invalid range: start " ++ toString start ++ " is after end " ++ toString stop
  | .overflow offset delta =>
    "invalid range: offset " ++ toString offset ++ " shifted by " ++ toString delta ++ " overflows"

/-- The bytes from `start` up to, and without, `stop`. -/
structure Span where
  start : Nat
  stop : Nat
  deriving DecidableEq, Repr

namespace Span

def ofBounds (start stop : Nat) : Except OffsetError Span :=
  if start ≤ stop then .ok ⟨start, stop⟩ else .error (.inverted start stop)

def ofSize (start size : Nat) : Span := ⟨start, start + size⟩

def size (s : Span) : Nat := s.stop - s.start

def isEmpty (s : Span) : Bool := s.start == s.stop

def overlaps (s t : Span) : Bool := decide (s.start < t.stop) && decide (t.start < s.stop)

def contains (s t : Span) : Bool := decide (s.start ≤ t.start) && decide (t.stop ≤ s.stop)

def order (s t : Span) : Ordering := (compare s.start t.start).then (compare s.stop t.stop)

/-- The span moved to the right. It fails where a bound would no longer be an offset, and then it
names the bound that lies farthest right. -/
def shift (s : Span) (delta : Nat) : Except OffsetError Span :=
  if s.start + delta ≤ maxOffset ∧ s.stop + delta ≤ maxOffset then
    .ok ⟨s.start + delta, s.stop + delta⟩
  else
    .error (.overflow s.stop delta)

def slice? (s : Span) (text : String) : Option String :=
  (Text.slice? text.toList s.start s.stop).map String.ofList

def display (s : Span) : String :=
  "[" ++ toString s.start ++ ", " ++ toString s.stop ++ ")"

instance : ToString Span := ⟨display⟩

theorem ofBounds_eq_ok_iff {start stop : Nat} {s : Span} :
    ofBounds start stop = .ok s ↔ start ≤ stop ∧ s = ⟨start, stop⟩ := by
  unfold ofBounds
  split
  · next h => simp [h, eq_comm]
  · next h => simp [h]

theorem shift_eq_ok_iff {s t : Span} {delta : Nat} :
    s.shift delta = .ok t ↔
      s.start + delta ≤ maxOffset ∧ s.stop + delta ≤ maxOffset ∧
        t = ⟨s.start + delta, s.stop + delta⟩ := by
  unfold shift
  split
  · next h => simp [h.1, h.2, eq_comm]
  · next h => simp only [reduceCtorEq, false_iff]; exact fun ht => h ⟨ht.1, ht.2.1⟩

end Span

inductive Style where
  | docComment
  | docCommentTag
  deriving DecidableEq, Repr

def Style.name : Style → String
  | .docComment => "doc_comment"
  | .docCommentTag => "doc_comment_tag"

def Style.all : List Style := [.docComment, .docCommentTag]

instance : ToString Style := ⟨Style.name⟩

structure Highlight where
  span : Span
  style : Style
  deriving DecidableEq, Repr

end DocstringTags
