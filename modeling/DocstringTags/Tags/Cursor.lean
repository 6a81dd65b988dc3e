import DocstringTags.Tags.Search

set_option autoImplicit false

namespace DocstringTags

structure Cursor where
  tags : TagSet
  position : Nat
  rest : List Char

namespace Cursor

def ofText (text : String) (tags : TagSet) : Cursor := ⟨tags, 0, text.toList⟩

def start (text : String) (offset : Nat) (tags : TagSet) : Except OffsetError Cursor :=
  match Text.dropBytes? text.toList offset with
  | none => .error (.invalid offset (Text.byteSize text.toList))
  | some rest => .ok ⟨tags, offset, rest⟩

def past (c : Cursor) (hit : Hit) : Cursor :=
  { c with position := c.position + hit.skipped + hit.size, rest := hit.after }

/-- The next tag and the cursor behind it; a cursor that finds nothing stays where it is. -/
def next (c : Cursor) : Option Span × Cursor :=
  match c.tags.find? c.rest with
  | none => (none, c)
  | some hit => (some (Span.ofSize (c.position + hit.skipped) hit.size), c.past hit)

/-- The tag after `n` others; where fewer are left, all of them are used up. -/
def nth (c : Cursor) : Nat → Option Span × Cursor
  | 0 => c.next
  | n + 1 =>
    match c.next with
    | (none, stopped) => (none, stopped)
    | (some _, moved) => moved.nth n

theorem length_rest_lt {c moved : Cursor} {span : Span} (h : c.next = (some span, moved)) :
    moved.rest.length < c.rest.length := by
  unfold next at h
  split at h
  · simp at h
  · next hit hf =>
    obtain ⟨-, rfl⟩ := Prod.mk.inj h
    exact TagSet.length_after_lt hf

def drain (c : Cursor) : List Span × Cursor :=
  match _h : c.next with
  | (none, stopped) => ([], stopped)
  | (some span, moved) =>
    let (spans, stopped) := moved.drain
    (span :: spans, stopped)
termination_by c.rest.length
decreasing_by exact length_rest_lt _h

def remaining (c : Cursor) : List Span := c.drain.1

end Cursor

def findAll (text : String) (offset : Nat) (tags : TagSet) : Except OffsetError (List Span) :=
  (Cursor.start text offset tags).map Cursor.remaining

end DocstringTags
