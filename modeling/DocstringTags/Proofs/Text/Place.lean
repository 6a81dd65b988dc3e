import DocstringTags.Proofs.Text.Boundary
import DocstringTags.Text.Bytes
import Mathlib.Data.List.DropRight
import Mathlib.Order.Bounds.Basic

/-! Lines and columns, counted over what lies before a place. Main statements: `positionAt_append`, by
which the line is one more than the line feeds before the place and the column one more than the
characters since the last of them; `positionAt_precedes`, by which the boundaries of a text come in the
order of their positions; and `positionAt_embeds`, which leads from a position back to its boundary.
-/

set_option autoImplicit false

namespace DocstringTags.Text

def lastLine (cs : List Char) : List Char := cs.rtakeWhile (· != '\n')

theorem lastLine_concat_newLine (cs : List Char) : lastLine (cs ++ ['\n']) = [] :=
  List.rtakeWhile_concat_neg _ _ _ (by decide)

theorem lastLine_concat (cs : List Char) {c : Char} (h : c ≠ '\n') :
    lastLine (cs ++ [c]) = lastLine cs ++ [c] :=
  List.rtakeWhile_concat_pos _ _ _ (by simpa using h)

theorem length_le_byteSize (cs : List Char) : cs.length ≤ byteSize cs := by
  induction cs with
  | nil => exact Nat.le_refl 0
  | cons c cs ih =>
    have := c.utf8Size_pos
    simp only [List.length_cons, byteSize_cons]
    omega

namespace Position

theorem forward_append (p : Position) (before after : List Char) :
    p.forward (before ++ after) (byteSize before) = before.foldl advance p := by
  induction before generalizing p with
  | nil => simp [forward]
  | cons c before ih =>
    obtain ⟨n, hn⟩ : ∃ n, byteSize (c :: before) = n + 1 :=
      Nat.exists_eq_succ_of_ne_zero (byteSize_pos (List.cons_ne_nil c before)).ne'
    have hsub : n + 1 - c.utf8Size = byteSize before := by
      simp only [byteSize_cons] at hn
      omega
    rw [hn, List.cons_append, forward, hsub, ih, List.foldl_cons]

theorem foldl_advance (cs : List Char) :
    cs.foldl advance origin = ⟨1 + cs.count '\n', 1 + (lastLine cs).length⟩ := by
  -- from the right, since a column is counted from the last line feed on
  induction cs using List.reverseRecOn with
  | nil => rfl
  | append_singleton cs c ih =>
    rw [List.foldl_concat, ih, advance]
    by_cases h : c = '\n'
    · subst h
      simp [lastLine_concat_newLine, Nat.add_assoc]
    · simp [h, lastLine_concat cs h, Nat.add_assoc]

end Position

theorem positionAt_append (before after : List Char) :
    positionAt (before ++ after) (byteSize before) =
      ⟨1 + before.count '\n', 1 + (lastLine before).length⟩ := by
  rw [positionAt, Position.forward_append, Position.foldl_advance]

/-- Neither count is beyond the size of what was counted. -/
theorem count_le_byteSize (cs : List Char) :
    cs.count '\n' ≤ byteSize cs ∧ (lastLine cs).length ≤ byteSize cs := by
  have hsize := length_le_byteSize cs
  have hlines : cs.count '\n' ≤ cs.length := List.count_le_length
  have hcolumns : (lastLine cs).length ≤ cs.length := (List.rtakeWhile_suffix _ _).length_le
  omega

namespace Position
variable {p q r : Position}

def Precedes (p q : Position) : Prop := p.line < q.line ∨ p.line = q.line ∧ p.column < q.column

theorem Precedes.trans (h : p.Precedes q) (h' : q.Precedes r) : p.Precedes r := by
  simp only [Precedes] at *
  omega

theorem Precedes.asymm (h : p.Precedes q) : ¬q.Precedes p := by
  simp only [Precedes] at *
  omega

theorem precedes_advance (p : Position) (c : Char) : p.Precedes (p.advance c) := by
  by_cases h : c = '\n' <;> simp [Precedes, advance, h]

theorem precedes_foldl_advance (p : Position) {cs : List Char} (h : cs ≠ []) :
    p.Precedes (cs.foldl advance p) := by
  induction cs generalizing p with
  | nil => exact absurd rfl h
  | cons c cs ih =>
    by_cases hcs : cs = []
    · subst hcs
      exact p.precedes_advance c
    · exact (p.precedes_advance c).trans (ih _ hcs)

end Position

section
variable {cs : List Char} {a b : Nat}

theorem positionAt_precedes (ha : IsBoundary cs a) (hb : IsBoundary cs b) (hlt : a < b) :
    (positionAt cs a).Precedes (positionAt cs b) := by
  obtain ⟨before, between, after, rfl, hne, rfl, rfl⟩ := ha.exists_between hb hlt
  have hlater : positionAt (before ++ (between ++ after)) (byteSize (before ++ between)) =
      between.foldl Position.advance (before.foldl Position.advance .origin) := by
    rw [← List.append_assoc, positionAt, Position.forward_append, List.foldl_append]
  rw [hlater, positionAt, Position.forward_append]
  exact Position.precedes_foldl_advance _ hne

theorem positionAt_precedes_iff (ha : IsBoundary cs a) (hb : IsBoundary cs b) :
    (positionAt cs a).Precedes (positionAt cs b) ↔ a < b := by
  rcases Nat.lt_trichotomy a b with hlt | rfl | hlt
  · exact iff_of_true (positionAt_precedes ha hb hlt) hlt
  · exact iff_of_false (fun h => h.asymm h) (Nat.lt_irrefl a)
  · exact iff_of_false (positionAt_precedes hb ha hlt).asymm (Nat.lt_asymm hlt)

theorem positionAt_inj (ha : IsBoundary cs a) (hb : IsBoundary cs b) :
    positionAt cs a = positionAt cs b ↔ a = b := by
  refine ⟨fun h => ?_, fun h => h ▸ rfl⟩
  have hab := positionAt_precedes_iff ha hb
  have hba := positionAt_precedes_iff hb ha
  rw [h] at hab hba
  have := hab.symm.trans hba
  omega

end

def dropLine (cs : List Char) : List Char := (cs.dropWhile (· != '\n')).tail

def dropLines : Nat → List Char → List Char
  | 0, cs => cs
  | n + 1, cs => dropLine (dropLines n cs)

/-- What is left of a text from a position on: first the lines before it are passed over, then the
characters before its column. -/
def Position.restOf (p : Position) (cs : List Char) : List Char :=
  (dropLines (p.line - 1) cs).drop (p.column - 1)

theorem dropLine_lastLine (before after : List Char) :
    dropLine (lastLine before ++ '\n' :: after) = after := by
  have hline : ∀ c ∈ lastLine before, (c != '\n') = true := fun c hc =>
    List.mem_rtakeWhile_imp (p := (· != '\n')) hc
  rw [dropLine, dropWhile_append_of_head hline (by simp), List.tail_cons]

theorem dropLines_append (before after : List Char) :
    dropLines (before.count '\n') (before ++ after) = lastLine before ++ after := by
  -- from the right, as the position itself is counted
  induction before using List.reverseRecOn generalizing after with
  | nil => rfl
  | append_singleton before c ih =>
    rw [List.append_assoc, List.singleton_append]
    by_cases h : c = '\n'
    · subst h
      rw [List.count_append, List.count_singleton_self, dropLines, ih, dropLine_lastLine,
        lastLine_concat_newLine, List.nil_append]
    · rw [List.count_append, List.count_singleton, if_neg (by simpa using h), Nat.add_zero, ih,
        lastLine_concat before h, List.append_assoc, List.singleton_append]

theorem restOf_positionAt (before after : List Char) :
    (positionAt (before ++ after) (byteSize before)).restOf (before ++ after) = after := by
  rw [positionAt_append, Position.restOf, Nat.add_sub_cancel_left, Nat.add_sub_cancel_left,
    dropLines_append, List.drop_left]

/-- The first boundary that is not before the offset, or the end of the text where there is none. -/
def IsNextBoundary (cs : List Char) (offset boundary : Nat) : Prop :=
  IsLeast {b | IsBoundary cs b ∧ offset ≤ b} boundary ∨
    (∀ b, IsBoundary cs b → b < offset) ∧ boundary = byteSize cs

theorem IsNextBoundary.cons {c : Char} {cs : List Char} {offset boundary : Nat}
    (h : IsNextBoundary cs (offset - c.utf8Size) boundary) (hpos : 0 < offset) :
    IsNextBoundary (c :: cs) offset (c.utf8Size + boundary) := by
  rcases h with ⟨⟨hb, hle⟩, hleast⟩ | ⟨hnone, rfl⟩
  · refine .inl ⟨⟨isBoundary_cons_iff.2 (.inr ⟨boundary, rfl, hb⟩), by omega⟩, ?_⟩
    intro other ⟨ho, hother⟩
    rcases isBoundary_cons_iff.1 ho with rfl | ⟨n, rfl, hn⟩
    · omega
    · exact Nat.add_le_add_left (hleast ⟨hn, by omega⟩) _
  · refine .inr ⟨fun other ho => ?_, rfl⟩
    rcases isBoundary_cons_iff.1 ho with rfl | ⟨n, rfl, hn⟩
    · exact hpos
    · have := hnone n hn
      omega

theorem isNextBoundary_zero (cs : List Char) : IsNextBoundary cs 0 0 :=
  .inl ⟨⟨isBoundary_zero cs, Nat.le_refl 0⟩, fun _ _ => Nat.zero_le _⟩

/-- The place that is reached for an offset is the place of a boundary. -/
theorem Position.forward_eq (p : Position) (cs : List Char) (offset : Nat) :
    ∃ before after, cs = before ++ after ∧ IsNextBoundary cs offset (byteSize before) ∧
      p.forward cs offset = before.foldl advance p := by
  induction cs generalizing p offset with
  | nil =>
    cases offset with
    | zero => exact ⟨[], [], rfl, isNextBoundary_zero [], rfl⟩
    | succ n =>
      refine ⟨[], [], rfl, .inr ⟨fun b hb => ?_, rfl⟩, rfl⟩
      obtain ⟨before, after, hnil, rfl⟩ := hb
      simp [(List.append_eq_nil_iff.1 hnil.symm).1]
  | cons c cs ih =>
    cases offset with
    | zero => exact ⟨[], c :: cs, rfl, isNextBoundary_zero (c :: cs), rfl⟩
    | succ n =>
      obtain ⟨before, after, hcs, hnext, hforward⟩ := ih (p.advance c) (n + 1 - c.utf8Size)
      have hsplit : c :: cs = c :: before ++ after := by rw [hcs, List.cons_append]
      exact ⟨c :: before, after, hsplit, hnext.cons (Nat.succ_pos n), hforward⟩

theorem positionAt_next (cs : List Char) (offset : Nat) :
    ∃ before after, cs = before ++ after ∧ IsNextBoundary cs offset (byteSize before) ∧
      positionAt cs offset = positionAt cs (byteSize before) := by
  obtain ⟨before, after, hcs, hnext, hforward⟩ := Position.origin.forward_eq cs offset
  refine ⟨before, after, hcs, hnext, ?_⟩
  rw [positionAt, hforward, hcs, positionAt, Position.forward_append]

theorem positionAt_le (cs : List Char) (offset : Nat) :
    (positionAt cs offset).line ≤ byteSize cs + 1 ∧
      (positionAt cs offset).column ≤ byteSize cs + 1 := by
  obtain ⟨before, after, rfl, -, hposition⟩ := positionAt_next cs offset
  have hcount := count_le_byteSize before
  rw [hposition, positionAt_append, byteSize_append]
  constructor <;> dsimp only <;> omega

/-- Each position belongs to one boundary, and the boundaries come in the order of their positions.
In a text of fewer than 2³² - 1 bytes lines and columns stay within 32 bits. -/
theorem positionAt_embeds (text : String) :
    (∀ a b, IsBoundary text.toList a → IsBoundary text.toList b →
      ((positionAt text.toList a).Precedes (positionAt text.toList b) ↔ a < b)) ∧
    (∀ offset, ∃ boundary, IsNextBoundary text.toList offset boundary ∧
      (∀ other, IsBoundary text.toList other ∧
        positionAt text.toList other = positionAt text.toList offset ↔ other = boundary) ∧
      dropBytes? text.toList boundary =
        some ((positionAt text.toList offset).restOf text.toList)) ∧
    ∀ offset, (positionAt text.toList offset).line ≤ text.utf8ByteSize + 1 ∧
      (positionAt text.toList offset).column ≤ text.utf8ByteSize + 1 := by
  refine ⟨fun a b ha hb => positionAt_precedes_iff ha hb, fun offset => ?_, fun offset => ?_⟩
  · obtain ⟨before, after, htext, hnext, hposition⟩ := positionAt_next text.toList offset
    have hboundary : IsBoundary text.toList (byteSize before) := ⟨before, after, htext, rfl⟩
    refine ⟨byteSize before, hnext, fun other => ?_, ?_⟩
    · rw [hposition]
      constructor
      · intro ⟨ho, hsame⟩
        exact (positionAt_inj ho hboundary).1 hsame
      · intro hsame
        subst hsame
        exact ⟨hboundary, rfl⟩
    · rw [hposition, htext, dropBytes?_append, restOf_positionAt]
  · rw [← byteSize_toList]
    exact positionAt_le text.toList offset

/-- On both sides of a line feed, behind a letter of two bytes. -/
theorem positionAt_embeds_at_newLine :
    IsBoundary "é\nx".toList 2 ∧ IsBoundary "é\nx".toList 3 ∧
      (positionAt "é\nx".toList 2).Precedes (positionAt "é\nx".toList 3) := by
  have hbefore : IsBoundary "é\nx".toList 2 := ⟨['é'], ['\n', 'x'], by decide, by decide⟩
  have hbehind : IsBoundary "é\nx".toList 3 := ⟨['é', '\n'], ['x'], by decide, by decide⟩
  exact ⟨hbefore, hbehind, ((positionAt_embeds "é\nx").1 2 3 hbefore hbehind).2 (by decide)⟩

-- inside the first letter of the second line, which takes two bytes
example : positionAt "a\né:x".toList 3 = ⟨2, 2⟩ ∧
    (⟨2, 2⟩ : Position).restOf "a\né:x".toList = [':', 'x'] := by decide

end DocstringTags.Text
