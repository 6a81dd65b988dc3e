import DocstringTags.Proofs.Tags.Run
import DocstringTags.Proofs.Text.Place
import DocstringTags.Report.Basic
import DocstringTags.Report.Json

/-! Reports on texts. The tags found are shifted one after another until one would leave the offsets,
and each is looked up in the text at its place before the shift. Main statements: `scan_eq`, by which
a scan is a search for the first span that cannot be shifted, and `scan_answers`, which says of every
answer when it is given.
-/

set_option autoImplicit false

namespace DocstringTags

def Span.overflow? (s : Span) (delta : Nat) : Option OffsetError :=
  if s.stop + delta ≤ maxOffset then none else some (.overflow s.stop delta)

namespace Span
variable {s : Span} {delta : Nat} {e : OffsetError}

theorem overflow?_eq_none_iff : s.overflow? delta = none ↔ s.stop + delta ≤ maxOffset := by
  simp [overflow?]

theorem overflow?_eq_some_iff :
    s.overflow? delta = some e ↔
      maxOffset < s.stop + delta ∧ e = .overflow s.stop delta := by
  by_cases h : s.stop + delta ≤ maxOffset
  · simp [overflow?, h]
  · simp [overflow?, h, Nat.lt_of_not_le h, eq_comm]

theorem findSome?_overflow?_eq_none_iff {spans : List Span} :
    spans.findSome? (·.overflow? delta) = none ↔
      ∀ span ∈ spans, span.stop + delta ≤ maxOffset := by
  simp only [List.findSome?_eq_none_iff, overflow?_eq_none_iff]

theorem findSome?_overflow?_eq_some_iff {spans : List Span} :
    spans.findSome? (·.overflow? delta) = some e ↔
      ∃ earlier found later, spans = earlier ++ found :: later ∧
        (∀ span ∈ earlier, span.stop + delta ≤ maxOffset) ∧ maxOffset < found.stop + delta ∧
        e = .overflow found.stop delta := by
  rw [List.findSome?_eq_some_iff]
  simp only [overflow?_eq_some_iff, overflow?_eq_none_iff]
  constructor
  · rintro ⟨earlier, found, later, hspans, ⟨hbeyond, he⟩, hearlier⟩
    exact ⟨earlier, found, later, hspans, hearlier, hbeyond, he⟩
  · rintro ⟨earlier, found, later, hspans, hearlier, hbeyond, he⟩
    exact ⟨earlier, found, later, hspans, ⟨hbeyond, he⟩, hearlier⟩

end Span

/-- A list is gone through up to the first item with an error. -/
theorem mapM_eq_findSome? {α β ε : Type} {act : α → Except ε β} {error? : α → Option ε}
    {result : α → β} {xs : List α}
    (h : ∀ x ∈ xs, act x = (error? x).elim (.ok (result x)) .error) :
    xs.mapM act = (xs.findSome? error?).elim (.ok (xs.map result)) .error := by
  induction xs with
  | nil => rfl
  | cons x xs ih =>
    obtain ⟨hx, hxs⟩ := List.forall_mem_cons.1 h
    rw [List.mapM_cons, hx, ih hxs]
    cases herror : error? x with
    | some e => simp [herror, bind, Except.bind]
    | none => cases hrest : xs.findSome? error? <;>
        simp [herror, hrest, bind, Except.bind, pure, Except.pure]

theorem forall₂_iff_eq_map {α β : Type} {R : α → β → Prop} {f : α → β} {xs : List α}
    {ys : List β} (h : ∀ x ∈ xs, ∀ y, R x y ↔ y = f x) :
    List.Forall₂ R xs ys ↔ ys = xs.map f := by
  induction xs generalizing ys with
  | nil => simp
  | cons x xs ih =>
    obtain ⟨hx, hxs⟩ := List.forall_mem_cons.1 h
    cases ys with
    | nil => simp
    | cons y ys => simp [hx, ih hxs]

namespace Report

def Entry.ofTag (text : String) (base : Nat) (found : Span) : Entry :=
  (Entry.ofHighlight ⟨found.move base, .docCommentTag⟩).locate text base

/-- The entry gives the span of a tag after the shift, and its token, line and column from the text
itself: the line counts the line feeds before the tag, the column the characters since the last. -/
structure Entry.Describes (e : Entry) (text : String) (tags : TagSet) (base : Nat)
    (found : Span) : Prop where
  start : e.start = found.start + base
  stop : e.stop = found.stop + base
  style : e.style = .docCommentTag
  token : ∃ token,
    tags.boundary.firstAccepted? tags.tokens text.toList found.start = some token ∧
      found.slice? text = some token ∧ e.text = some token
  place : ∃ before after, text.toList = before ++ after ∧ found.start = Text.byteSize before ∧
    e.line = some (1 + before.count '\n') ∧ e.column = some (1 + (Text.lastLine before).length)

section
variable {text : String} {tags : TagSet} {start base : Nat} {found : Span} {spans : List Span}

theorem Entry.ofTag_eq (text : String) (base : Nat) (found : Span) :
    Entry.ofTag text base found =
      { start := found.start + base
        stop := found.stop + base
        style := .docCommentTag
        line := some (Text.positionAt text.toList found.start).line
        column := some (Text.positionAt text.toList found.start).column
        text := found.slice? text } := by
  simp [ofTag, ofHighlight, locate, Span.move, Span.slice?]

theorem tagEntry_eq (h : found.start ≤ found.stop) (text : String) (base : Nat) :
    tagEntry text base found =
      (found.overflow? base).elim (.ok (Entry.ofTag text base found)) .error := by
  rw [tagEntry, Span.shift_eq base h]
  by_cases hstop : found.stop + base ≤ maxOffset
  · simp [Span.overflow?, hstop, Except.map, Entry.ofTag]
  · simp [Span.overflow?, hstop, Except.map]

theorem scan_eq (h : findAll text start tags = .ok spans) (base : Nat) :
    scan text (some tags) start base =
      (spans.findSome? (·.overflow? base)).elim (.ok (spans.map (Entry.ofTag text base)))
        fun e => .error (.ofOffsetError e) := by
  have hbounds := (findAll_eq_ok_iff.1 h).2.bounds
  have hrun : spans.mapM (tagEntry text base) = _ := mapM_eq_findSome? fun span hspan =>
    tagEntry_eq (Nat.le_of_lt (hbounds span hspan).2.1) text base
  simp only [scan, h, Except.bind, hrun]
  cases spans.findSome? (·.overflow? base) <;> rfl

theorem scan_of_not_isBoundary (h : ¬Text.IsBoundary text.toList start) (tags : TagSet)
    (base : Nat) :
    scan text (some tags) start base =
      .error (.ofOffsetError (.invalid start text.utf8ByteSize)) := by
  rw [scan, findAll_eq_error_iff.2 ⟨h, rfl⟩]
  rfl

theorem Entry.Describes.position {e : Entry} (h : e.Describes text tags base found) :
    e.line = some (Text.positionAt text.toList found.start).line ∧
      e.column = some (Text.positionAt text.toList found.start).column := by
  obtain ⟨before, after, htext, hstart, hline, hcolumn⟩ := h.place
  rw [htext, hstart, Text.positionAt_append]
  exact ⟨hline, hcolumn⟩

theorem Entry.Describes.eq_ofTag {e : Entry} (h : e.Describes text tags base found) :
    e = Entry.ofTag text base found := by
  obtain ⟨token, -, hslice, htext⟩ := h.token
  obtain ⟨hline, hcolumn⟩ := h.position
  have hstart := h.start
  have hstop := h.stop
  have hstyle := h.style
  rw [ofTag_eq, hslice]
  cases e
  simp_all

theorem Entry.describes_ofTag (hlist : IsTagList tags text start spans) (hfound : found ∈ spans)
    (base : Nat) : (Entry.ofTag text base found).Describes text tags base found := by
  obtain ⟨token, ht, hslice⟩ := hlist.token found hfound
  obtain ⟨before, after, htext, hstart, -⟩ := (Boundary.firstAccepted?_accepts ht).2.2
  have hplace : Text.positionAt text.toList found.start =
      ⟨1 + before.count '\n', 1 + (Text.lastLine before).length⟩ := by
    rw [htext, hstart, Text.positionAt_append]
  rw [ofTag_eq, hplace]
  exact ⟨rfl, rfl, rfl, ⟨token, ht, hslice, hslice⟩, ⟨before, _, htext, hstart, rfl, rfl⟩⟩

theorem forall₂_describes_iff (h : findAll text start tags = .ok spans) {entries : List Entry} :
    List.Forall₂ (fun found e => Entry.Describes e text tags base found) spans entries ↔
      entries = spans.map (Entry.ofTag text base) :=
  forall₂_iff_eq_map fun _ hfound _ =>
    ⟨Entry.Describes.eq_ofTag, fun he =>
      he ▸ Entry.describes_ofTag (findAll_eq_ok_iff.1 h).2 hfound base⟩

theorem Entry.map_place_ofTag (text : String) (base other : Nat) (spans : List Span) :
    (spans.map (ofTag text base)).map (fun e => (e.line, e.column, e.text)) =
      (spans.map (ofTag text other)).map fun e => (e.line, e.column, e.text) := by
  simp [ofTag_eq]

theorem Entry.Describes.place_le {e : Entry} (h : e.Describes text tags base found)
    (hsize : text.utf8ByteSize < maxPlace) :
    (∀ line ∈ e.line, line ≤ maxPlace) ∧ ∀ column ∈ e.column, column ≤ maxPlace := by
  obtain ⟨before, after, htext, -, hline, hcolumn⟩ := h.place
  obtain ⟨hlines, hcolumns⟩ := Text.count_le_byteSize before
  rw [← Text.byteSize_toList, htext, Text.byteSize_append] at hsize
  simp only [hline, hcolumn, Option.mem_some_iff, forall_eq']
  omega

theorem scan_eq_error_iff (h : findAll text start tags = .ok spans) {failure : Failure} :
    scan text (some tags) start base = .error failure ↔
      ∃ e, spans.findSome? (·.overflow? base) = some e ∧ failure = .ofOffsetError e := by
  rw [scan_eq h]
  cases spans.findSome? (·.overflow? base) <;> simp [eq_comm]

theorem scan_eq_ok_iff {entries : List Entry} :
    scan text (some tags) start base = .ok entries ↔
      ∃ spans, findAll text start tags = .ok spans ∧
        (∀ span ∈ spans, span.stop + base ≤ maxOffset) ∧
        entries = spans.map (Entry.ofTag text base) := by
  by_cases hb : Text.IsBoundary text.toList start
  · obtain ⟨spans, hspans, -⟩ := findAll_isTagList hb tags
    rw [scan_eq hspans, hspans]
    simp only [Except.ok.injEq, exists_eq_left', ← Span.findSome?_overflow?_eq_none_iff]
    cases spans.findSome? (·.overflow? base) <;> simp [eq_comm]
  · have hnone : ∀ spans, findAll text start tags ≠ .ok spans := fun spans h =>
      hb (findAll_eq_ok_iff.1 h).1
    simp [scan_of_not_isBoundary hb, hnone]

end

/-- A scan looks for some tags, and it begins inside a character or finds a tag that would lie beyond
the last offset. -/
def ScanFails (text : String) (tags? : Option TagSet) (start base : Nat) : Prop :=
  ∃ tags, tags? = some tags ∧
    (¬Text.IsBoundary text.toList start ∨
      ∃ spans, findAll text start tags = .ok spans ∧
        ∃ span ∈ spans, maxOffset < span.stop + base)

section
variable {text : String} {tags? : Option TagSet} {start base : Nat}

theorem scan_of_scanFails (h : ScanFails text tags? start base) :
    ∃ e, scan text tags? start base = .error (.ofOffsetError e) := by
  obtain ⟨tags, rfl, hstart | ⟨spans, hspans, span, hspan, hbeyond⟩⟩ := h
  · exact ⟨_, scan_of_not_isBoundary hstart tags base⟩
  · cases hfirst : spans.findSome? (·.overflow? base) with
    | none =>
      have hle := Span.findSome?_overflow?_eq_none_iff.1 hfirst span hspan
      omega
    | some e => exact ⟨e, (scan_eq_error_iff hspans).2 ⟨e, hfirst, rfl⟩⟩

theorem scan_of_not_scanFails (h : ¬ScanFails text tags? start base) :
    ∃ entries, scan text tags? start base = .ok entries := by
  cases tags? with
  | none => exact ⟨[], rfl⟩
  | some tags =>
    have hstart : Text.IsBoundary text.toList start := by
      by_contra hstart
      exact h ⟨tags, rfl, .inl hstart⟩
    obtain ⟨spans, hspans, -⟩ := findAll_isTagList hstart tags
    have hle : ∀ span ∈ spans, span.stop + base ≤ maxOffset := by
      intro span hspan
      by_contra hbeyond
      exact h ⟨tags, rfl, .inr ⟨spans, hspans, span, hspan, Nat.lt_of_not_le hbeyond⟩⟩
    exact ⟨_, scan_eq_ok_iff.2 ⟨spans, hspans, hle, rfl⟩⟩

end

/-- Lines and columns are counted without a limit; in a text of fewer than 2³² - 1 bytes they stay
within 32 bits. -/
theorem scan_answers (text : String) (tags : TagSet) (start base : Nat) :
    (∀ failure, scan text (some tags) start base = .error failure ↔
      (¬Text.IsBoundary text.toList start ∧
          failure = .ofOffsetError (.invalid start text.utf8ByteSize)) ∨
        ∃ earlier found later, findAll text start tags = .ok (earlier ++ found :: later) ∧
          (∀ span ∈ earlier, span.stop + base ≤ maxOffset) ∧
          maxOffset < found.stop + base ∧
          failure = .ofOffsetError (.overflow found.stop base)) ∧
    (∀ entries, scan text (some tags) start base = .ok entries ↔
      ∃ spans, findAll text start tags = .ok spans ∧
        (∀ span ∈ spans, span.stop + base ≤ maxOffset) ∧
        List.Forall₂ (fun found e => Entry.Describes e text tags base found) spans entries) ∧
    (∀ other entries others, scan text (some tags) start base = .ok entries →
      scan text (some tags) start other = .ok others →
      entries.map (fun e => (e.line, e.column, e.text)) =
        others.map fun e => (e.line, e.column, e.text)) ∧
    (text.utf8ByteSize < maxPlace → ∀ entries, scan text (some tags) start base = .ok entries →
      ∀ e ∈ entries, (∀ line ∈ e.line, line ≤ maxPlace) ∧
        ∀ column ∈ e.column, column ≤ maxPlace) := by
  refine ⟨fun failure => ?_, fun entries => ?_, fun other entries others h ho => ?_,
    fun hsize entries h e he => ?_⟩
  · by_cases hb : Text.IsBoundary text.toList start
    · obtain ⟨spans, hspans, -⟩ := findAll_isTagList hb tags
      rw [scan_eq_error_iff hspans, hspans]
      simp only [Except.ok.injEq, hb, not_true, false_and, false_or]
      constructor
      · rintro ⟨e, he, rfl⟩
        obtain ⟨earlier, found, later, hsplit, hearlier, hbeyond, rfl⟩ :=
          Span.findSome?_overflow?_eq_some_iff.1 he
        exact ⟨earlier, found, later, hsplit, hearlier, hbeyond, rfl⟩
      · rintro ⟨earlier, found, later, hsplit, hearlier, hbeyond, rfl⟩
        exact ⟨_, Span.findSome?_overflow?_eq_some_iff.2
          ⟨earlier, found, later, hsplit, hearlier, hbeyond, rfl⟩, rfl⟩
    · have hnone : ∀ spans, findAll text start tags ≠ .ok spans := fun spans h =>
        hb (findAll_eq_ok_iff.1 h).1
      simp [scan_of_not_isBoundary hb, hb, hnone, eq_comm]
  · rw [scan_eq_ok_iff]
    exact exists_congr fun spans => and_congr_right fun hspans => and_congr_right fun _ =>
      (forall₂_describes_iff hspans).symm
  · obtain ⟨spans, hspans, -, rfl⟩ := scan_eq_ok_iff.1 h
    obtain ⟨same, hsame, -, rfl⟩ := scan_eq_ok_iff.1 ho
    obtain rfl : spans = same := Except.ok.inj (hspans.symm.trans hsame)
    exact Entry.map_place_ofTag text base other spans
  · obtain ⟨spans, hspans, -, rfl⟩ := scan_eq_ok_iff.1 h
    obtain ⟨found, hfound, rfl⟩ := List.mem_map.1 he
    exact (Entry.describes_ofTag (findAll_eq_ok_iff.1 hspans).2 hfound base).place_le hsize

end Report

end DocstringTags
