import DocstringTags.Proofs.Span
import DocstringTags.Proofs.Tags.NextTag
import DocstringTags.Tags.Cursor
import Mathlib.Data.List.Chain

/-! All tags of a text. `Cursor.Run` is the run that takes the next tag until there is none, and
`IsTagList` says what a full list of tags is without any search. Main statement: `findAll_unique`, by
which every run comes to its end and hands out the only list of that kind.
-/

set_option autoImplicit false

namespace DocstringTags

namespace Cursor

def At (c : Cursor) (text : List Char) : Prop :=
  ∃ before, text = before ++ c.rest ∧ c.position = Text.byteSize before

/-- The tags that a cursor hands out until there is none, and where it stops. -/
inductive Run : Cursor → List Span → Cursor → Prop where
  | stop {c stopped : Cursor} (h : c.next = (none, stopped)) : Run c [] stopped
  | step {c moved stopped : Cursor} {span : Span} {spans : List Span}
    (h : c.next = (some span, moved)) (more : Run moved spans stopped) :
    Run c (span :: spans) stopped

section
variable {c moved stopped : Cursor} {text : List Char} {span : Span} {spans : List Span}

theorem next_eq_none_iff :
    c.next = (none, stopped) ↔ c.tags.find? c.rest = none ∧ stopped = c := by
  unfold next
  cases c.tags.find? c.rest with
  | none => simp [eq_comm]
  | some hit => simp

theorem next_eq_some_iff :
    c.next = (some span, moved) ↔
      ∃ hit, c.tags.find? c.rest = some hit ∧
        span = Span.ofSize (c.position + hit.skipped) hit.size ∧ moved = c.past hit := by
  unfold next
  cases c.tags.find? c.rest with
  | none => simp
  | some hit => simp [eq_comm]

theorem At.hasNoTag (hc : c.At text) (h : c.next = (none, stopped)) :
    HasNoTag c.tags.boundary c.tags.tokens text c.position := by
  obtain ⟨before, rfl, hp⟩ := hc
  rw [hp]
  exact TagSet.hasNoTag_of_find? before (next_eq_none_iff.1 h).1

theorem At.isNextTag (hc : c.At text) (h : c.next = (some span, moved)) :
    IsNextTag c.tags.boundary c.tags.tokens text c.position span := by
  obtain ⟨before, rfl, hp⟩ := hc
  obtain ⟨hit, hf, rfl, -⟩ := next_eq_some_iff.1 h
  rw [hp]
  exact TagSet.isNextTag_of_find? before hf

theorem tags_of_next (h : c.next = (some span, moved)) : moved.tags = c.tags := by
  obtain ⟨hit, -, -, rfl⟩ := next_eq_some_iff.1 h
  rfl

theorem position_of_next (h : c.next = (some span, moved)) : moved.position = span.stop := by
  obtain ⟨hit, -, rfl, rfl⟩ := next_eq_some_iff.1 h
  rfl

theorem At.of_next (hc : c.At text) (h : c.next = (some span, moved)) : moved.At text := by
  obtain ⟨before, rfl, hp⟩ := hc
  obtain ⟨hit, hf, -, rfl⟩ := next_eq_some_iff.1 h
  obtain ⟨token, -, hone⟩ := TagSet.find?_some hf
  obtain ⟨hsize, -, skipped, hrest, hskipped⟩ := Boundary.find?_some hone
  refine ⟨before ++ (skipped ++ token.toList), ?_, ?_⟩
  · rw [hrest]
    simp [past]
  · simp only [past, hp, hskipped, hsize, Text.byteSize_append]
    omega

end

theorem run_drain (c : Cursor) : c.Run c.drain.1 c.drain.2 := by
  fun_induction drain c with
  | case1 c stopped h => exact .stop h
  | case2 c span moved h spans stopped hd ih =>
    rw [hd] at ih
    exact .step h ih

end Cursor

/-- The tags of a text from an offset on: spans of tokens, each listed first among those accepted at
its place, one after another without overlaps, and such that every accepted place of a token from the
offset on lies in one of them. -/
structure IsTagList (tags : TagSet) (text : String) (offset : Nat) (spans : List Span) : Prop where
  bounds : ∀ span ∈ spans,
    offset ≤ span.start ∧ span.start < span.stop ∧ span.stop ≤ text.utf8ByteSize
  token : ∀ span ∈ spans, ∃ token,
    tags.boundary.firstAccepted? tags.tokens text.toList span.start = some token ∧
      span.slice? text = some token
  ordered : spans.IsChain fun span later => span.stop ≤ later.start
  complete : ∀ start, offset ≤ start →
    ∀ token ∈ tags.tokens, tags.boundary.Accepts token.toList text.toList start →
      ∃ span ∈ spans, span.start ≤ start ∧ start < span.stop

/-- Spans that are not empty and in order keep their distance from what lies before the first. -/
theorem start_ge_of_ordered {spans : List Span} {offset : Nat}
    (hne : ∀ span ∈ spans, span.start < span.stop)
    (ho : spans.IsChain fun span later => span.stop ≤ later.start)
    (hfirst : ∀ span ∈ spans.head?, offset ≤ span.start) :
    ∀ span ∈ spans, offset ≤ span.start := by
  induction spans generalizing offset with
  | nil => simp
  | cons first rest ih =>
    obtain ⟨hlt, hne⟩ := List.forall_mem_cons.1 hne
    obtain ⟨hnext, ho⟩ := List.isChain_cons.1 ho
    have hle : offset ≤ first.start := hfirst first rfl
    refine List.forall_mem_cons.2 ⟨hle, ih hne ho fun span hs => ?_⟩
    have := hnext span hs
    omega

section
variable {tags : TagSet} {text : String} {offset : Nat} {span other : Span}
  {spans others : List Span}

theorem IsNextTag.slice? (h : IsNextTag tags.boundary tags.tokens text.toList offset span) :
    ∃ token, tags.boundary.firstAccepted? tags.tokens text.toList span.start = some token ∧
      span.slice? text = some token := by
  obtain ⟨token, ht, hstop⟩ := h.token
  refine ⟨token, ht, Span.slice?_eq_some_iff.2 ?_⟩
  rw [hstop, ← Text.byteSize_toList]
  exact (Boundary.firstAccepted?_accepts ht).2.2.slice?

theorem IsNextTag.bounds (h : IsNextTag tags.boundary tags.tokens text.toList offset span) :
    offset ≤ span.start ∧ span.start < span.stop ∧ span.stop ≤ text.utf8ByteSize := by
  obtain ⟨token, ht, hstop⟩ := h.token
  obtain ⟨-, hne, ha⟩ := Boundary.firstAccepted?_accepts ht
  have hpos : 0 < Text.byteSize token.toList := Text.byteSize_pos (by simpa using hne)
  have hle := ha.stop_le
  rw [Text.byteSize_toList] at hpos
  rw [Text.byteSize_toList, Text.byteSize_toList] at hle
  exact ⟨h.start_ge, by omega, by omega⟩

namespace IsTagList

theorem nil (h : HasNoTag tags.boundary tags.tokens text.toList offset) :
    IsTagList tags text offset [] where
  bounds := by simp
  token := by simp
  ordered := .nil
  complete start hle token ht ha :=
    absurd ha (Boundary.firstAccepted?_eq_none_iff.1 (h start hle) token ht
      (tags.nonempty token ht))

theorem cons (h : IsNextTag tags.boundary tags.tokens text.toList offset span)
    (hrest : IsTagList tags text span.stop spans) :
    IsTagList tags text offset (span :: spans) where
  bounds := by
    have hb := h.bounds
    refine List.forall_mem_cons.2 ⟨hb, fun later hl => ?_⟩
    have := hrest.bounds later hl
    omega
  token := List.forall_mem_cons.2 ⟨h.slice?, hrest.token⟩
  ordered := List.isChain_cons.2
    ⟨fun later hl => (hrest.bounds later (List.mem_of_mem_head? hl)).1, hrest.ordered⟩
  complete start hle token ht ha := by
    by_cases hbefore : start < span.start
    · have hnone := Boundary.firstAccepted?_eq_none_iff.1 (h.leftmost start hle hbefore)
      exact absurd ha (hnone token ht (tags.nonempty token ht))
    · by_cases hin : start < span.stop
      · exact ⟨span, by simp, by omega, hin⟩
      · obtain ⟨later, hl, hh⟩ := hrest.complete start (by omega) token ht ha
        exact ⟨later, by simp [hl], hh⟩

theorem tail (h : IsTagList tags text offset (span :: spans)) :
    IsTagList tags text span.stop spans where
  bounds later hl := by
    have hb := h.bounds later (by simp [hl])
    obtain ⟨hnext, ho⟩ := List.isChain_cons.1 h.ordered
    have hne : ∀ later ∈ spans, later.start < later.stop := fun later hl =>
      (h.bounds later (by simp [hl])).2.1
    exact ⟨start_ge_of_ordered hne ho hnext later hl, hb.2⟩
  token later hl := h.token later (by simp [hl])
  ordered := (List.isChain_cons.1 h.ordered).2
  complete start hle token ht ha := by
    have hb := h.bounds span (by simp)
    obtain ⟨later, hl, hh⟩ := h.complete start (by omega) token ht ha
    rcases List.mem_cons.1 hl with rfl | hl
    · omega
    · exact ⟨later, hl, hh⟩

theorem pairwise (h : IsTagList tags text offset spans) :
    spans.Pairwise fun span later => span.stop ≤ later.start := by
  induction spans generalizing offset with
  | nil => exact .nil
  | cons span spans ih =>
    exact List.pairwise_cons.2 ⟨fun later hl => (h.tail.bounds later hl).1, ih h.tail⟩

theorem accepts_start (h : IsTagList tags text offset (span :: spans)) :
    ∃ token ∈ tags.tokens, tags.boundary.Accepts token.toList text.toList span.start := by
  obtain ⟨token, ht, -⟩ := h.token span (by simp)
  obtain ⟨hmem, -, ha⟩ := Boundary.firstAccepted?_accepts ht
  exact ⟨token, hmem, ha⟩

theorem head_start_le (h : IsTagList tags text offset (span :: spans))
    (ho : IsTagList tags text offset (other :: others)) : span.start ≤ other.start := by
  obtain ⟨token, ht, ha⟩ := ho.accepts_start
  obtain ⟨within, hw, hle, -⟩ := h.complete _ (ho.bounds other (by simp)).1 token ht ha
  rcases List.mem_cons.1 hw with rfl | hw
  · exact hle
  · have := h.bounds span (by simp)
    have := h.tail.bounds within hw
    omega

theorem head_eq (h : IsTagList tags text offset (span :: spans))
    (ho : IsTagList tags text offset (other :: others)) : span = other := by
  have hstart := Nat.le_antisymm (h.head_start_le ho) (ho.head_start_le h)
  obtain ⟨token, ht, hs⟩ := h.token span (by simp)
  obtain ⟨token', ht', hs'⟩ := ho.token other (by simp)
  rw [hstart, ht'] at ht
  obtain rfl : token' = token := Option.some.inj ht
  have hstop : span.stop = other.stop := by
    rw [Span.stop_eq_of_slice? hs, Span.stop_eq_of_slice? hs', hstart]
  cases span
  cases other
  simp_all

theorem not_nil (h : IsTagList tags text offset (span :: spans)) :
    ¬IsTagList tags text offset [] := by
  intro hn
  obtain ⟨token, ht, ha⟩ := h.accepts_start
  obtain ⟨later, hmem, -⟩ := hn.complete _ (h.bounds span (by simp)).1 token ht ha
  simp at hmem

theorem unique (h : IsTagList tags text offset spans)
    (ho : IsTagList tags text offset others) : spans = others := by
  induction spans generalizing offset others with
  | nil =>
    cases others with
    | nil => rfl
    | cons other others => exact absurd h ho.not_nil
  | cons span spans ih =>
    cases others with
    | nil => exact absurd ho h.not_nil
    | cons other others =>
      obtain rfl : span = other := h.head_eq ho
      rw [ih h.tail ho.tail]

end IsTagList

end

namespace Cursor
variable {c stopped : Cursor} {text : String} {spans : List Span}

theorem Run.isTagList (hr : c.Run spans stopped) (hc : c.At text.toList) :
    IsTagList c.tags text c.position spans := by
  induction hr with
  | stop h => exact .nil (hc.hasNoTag h)
  | step h _ ih =>
    have hrest := ih (hc.of_next h)
    rw [tags_of_next h, position_of_next h] at hrest
    exact .cons (hc.isNextTag h) hrest

theorem isTagList_remaining (hc : c.At text.toList) :
    IsTagList c.tags text c.position c.remaining := c.run_drain.isTagList hc

end Cursor

theorem Cursor.start_eq_ok {text : String} {offset : Nat} (tags : TagSet)
    (h : Text.IsBoundary text.toList offset) :
    ∃ c, Cursor.start text offset tags = .ok c ∧ c.At text.toList ∧ c.tags = tags ∧
      c.position = offset := by
  obtain ⟨before, after, htext, rfl⟩ := h
  refine ⟨⟨tags, Text.byteSize before, after⟩, ?_, ⟨before, htext, rfl⟩, rfl, rfl⟩
  rw [Cursor.start, htext, Text.dropBytes?_append]

section
variable {text : String} {offset : Nat} {tags : TagSet} {spans : List Span} {e : OffsetError}

theorem findAll_isTagList (h : Text.IsBoundary text.toList offset) (tags : TagSet) :
    ∃ spans, findAll text offset tags = .ok spans ∧ IsTagList tags text offset spans := by
  obtain ⟨c, hc, hat, rfl, rfl⟩ := Cursor.start_eq_ok tags h
  refine ⟨c.remaining, ?_, Cursor.isTagList_remaining hat⟩
  rw [findAll, hc]
  rfl

theorem findAll_eq_error_iff :
    findAll text offset tags = .error e ↔
      ¬Text.IsBoundary text.toList offset ∧ e = .invalid offset text.utf8ByteSize := by
  rw [Text.isBoundary_iff_dropBytes?, ← Text.byteSize_toList]
  unfold findAll Cursor.start
  cases Text.dropBytes? text.toList offset with
  | none => simp [Except.map, eq_comm]
  | some rest => simp [Except.map]

theorem findAll_eq_ok_iff :
    findAll text offset tags = .ok spans ↔
      Text.IsBoundary text.toList offset ∧ IsTagList tags text offset spans := by
  constructor
  · intro h
    have hb : Text.IsBoundary text.toList offset := by
      by_contra hb
      rw [findAll_eq_error_iff.2 ⟨hb, rfl⟩] at h
      cases h
    obtain ⟨found, hfound, hlist⟩ := findAll_isTagList hb tags
    obtain rfl : found = spans := Except.ok.inj (hfound.symm.trans h)
    exact ⟨hb, hlist⟩
  · intro ⟨hb, hlist⟩
    obtain ⟨found, hfound, hfoundList⟩ := findAll_isTagList hb tags
    rw [hfound, hlist.unique hfoundList]

end

theorem findAll_unique (text : String) (tags : TagSet) (offset : Nat)
    (h : Text.IsBoundary text.toList offset) :
    ∃ spans, findAll text offset tags = .ok spans ∧
      (∃ c stopped, Cursor.start text offset tags = .ok c ∧ c.Run spans stopped) ∧
      ∀ others, IsTagList tags text offset others ↔ others = spans := by
  obtain ⟨c, hc, hat, rfl, rfl⟩ := Cursor.start_eq_ok tags h
  have hlist := Cursor.isTagList_remaining hat
  refine ⟨c.remaining, ?_, ⟨c, c.drain.2, hc, c.run_drain⟩, fun others => ?_⟩
  · rw [findAll, hc]
    rfl
  · constructor
    · intro ho
      exact ho.unique hlist
    · intro ho
      exact ho ▸ hlist

/-- Scanning from behind the first letter, which takes two bytes. -/
theorem findAll_unique_behind_letter :
    Text.IsBoundary "é@x".toList 2 ∧
      ∃ spans, findAll "é@x" 2 (.ofTokens ["@x", ""] .wordEnd) = .ok spans ∧
        (∃ c stopped, Cursor.start "é@x" 2 (.ofTokens ["@x", ""] .wordEnd) = .ok c ∧
          c.Run spans stopped) ∧
        ∀ others, IsTagList (.ofTokens ["@x", ""] .wordEnd) "é@x" 2 others ↔ others = spans :=
  have h : Text.IsBoundary "é@x".toList 2 := ⟨['é'], ['@', 'x'], rfl, rfl⟩
  ⟨h, findAll_unique "é@x" (.ofTokens ["@x", ""] .wordEnd) 2 h⟩

end DocstringTags
