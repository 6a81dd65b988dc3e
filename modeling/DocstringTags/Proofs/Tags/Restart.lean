import DocstringTags.Proofs.Tags.Parts

set_option autoImplicit false

namespace DocstringTags

section
variable {tags : TagSet} {text : String} {offset later : Nat} {span : Span}
  {spans earlier rest : List Span}

namespace IsTagList

/-- The tags from a later offset on, which must not lie inside a tag. -/
theorem filter (h : IsTagList tags text offset spans) (hle : offset ≤ later)
    (hfree : ∀ span ∈ spans, ¬(span.start < later ∧ later < span.stop)) :
    IsTagList tags text later (spans.filter (later ≤ ·.start)) where
  bounds span hs := by
    obtain ⟨hmem, hstart⟩ := List.mem_filter.1 hs
    exact ⟨of_decide_eq_true hstart, (h.bounds span hmem).2⟩
  token span hs := h.token span (List.mem_of_mem_filter hs)
  ordered := (h.pairwise.filter _).isChain
  complete start hstart token ht ha := by
    obtain ⟨span, hs, hin⟩ := h.complete start (Nat.le_trans hle hstart) token ht ha
    have := hfree span hs
    exact ⟨span, List.mem_filter.2 ⟨hs, decide_eq_true (by omega)⟩, hin⟩

theorem behind (h : IsTagList tags text offset (earlier ++ span :: rest)) :
    IsTagList tags text span.stop rest := by
  induction earlier generalizing offset with
  | nil => exact h.tail
  | cons first earlier ih => exact ih h.tail

theorem isBoundary_stop (h : IsTagList tags text offset spans) (hs : span ∈ spans) :
    Text.IsBoundary text.toList span.stop := by
  obtain ⟨token, -, hslice⟩ := h.token span hs
  exact Span.isBoundary_stop_of_slice? hslice

end IsTagList

end

/-- A search may begin again wherever no tag is cut in two, and so behind each tag. -/
theorem findAll_restart (text : String) (tags : TagSet) (offset : Nat)
    (h : Text.IsBoundary text.toList offset) :
    ∃ spans, findAll text offset tags = .ok spans ∧
      (∀ later, offset ≤ later → Text.IsBoundary text.toList later →
        (∀ span ∈ spans, ¬(span.start < later ∧ later < span.stop)) →
        findAll text later tags = .ok (spans.filter (later ≤ ·.start))) ∧
      ∀ earlier span rest, spans = earlier ++ span :: rest →
        findAll text span.stop tags = .ok rest := by
  obtain ⟨spans, hspans, hlist⟩ := findAll_isTagList h tags
  refine ⟨spans, hspans, fun later hle hlater hfree => ?_, ?_⟩
  · exact findAll_eq_ok_iff.2 ⟨hlater, hlist.filter hle hfree⟩
  · intro earlier span rest hsplit
    subst hsplit
    exact findAll_eq_ok_iff.2 ⟨hlist.isBoundary_stop (by simp), hlist.behind⟩

/-- In the gap between two tags, and behind the first of them. -/
theorem findAll_restart_in_gap :
    Text.IsBoundary "éaa aaa".toList 2 ∧ Text.IsBoundary "éaa aaa".toList 5 ∧
      (∀ span ∈ [(⟨2, 4⟩ : Span), ⟨5, 7⟩], ¬(span.start < 5 ∧ 5 < span.stop)) ∧
      findAll "éaa aaa" 2 (.ofTokens ["aa"] .any) = .ok [⟨2, 4⟩, ⟨5, 7⟩] ∧
      findAll "éaa aaa" 5 (.ofTokens ["aa"] .any) = .ok [⟨5, 7⟩] ∧
      findAll "éaa aaa" 4 (.ofTokens ["aa"] .any) = .ok [⟨5, 7⟩] := by
  have h : Text.IsBoundary "éaa aaa".toList 2 := ⟨['é'], "aa aaa".toList, by decide, by decide⟩
  have hgap : Text.IsBoundary "éaa aaa".toList 5 :=
    ⟨"éaa ".toList, "aaa".toList, by decide, by decide⟩
  have hfree : ∀ span ∈ [(⟨2, 4⟩ : Span), ⟨5, 7⟩], ¬(span.start < 5 ∧ 5 < span.stop) := by decide
  have hall : findAll "éaa aaa" 2 (.ofTokens ["aa"] .any) = .ok [⟨2, 4⟩, ⟨5, 7⟩] := by
    decide +kernel
  obtain ⟨spans, hspans, hlater, hbehind⟩ := findAll_restart "éaa aaa" (.ofTokens ["aa"] .any) 2 h
  obtain rfl : spans = [⟨2, 4⟩, ⟨5, 7⟩] := Except.ok.inj (hspans.symm.trans hall)
  exact ⟨h, hgap, hfree, hall, hlater 5 (by decide) hgap hfree, hbehind [] ⟨2, 4⟩ [⟨5, 7⟩] rfl⟩

section
variable {boundary : Boundary} {tokens : List String} {text : String} {offset : Nat} {span : Span}

theorem IsNextTag.move (front : String)
    (h : IsNextTag boundary tokens text.toList offset span) :
    IsNextTag boundary tokens (front ++ text).toList (front.utf8ByteSize + offset)
      (span.move front.utf8ByteSize) := by
  obtain ⟨token, ht, hstop⟩ := h.token
  rw [String.toList_append, ← Text.byteSize_toList]
  refine ⟨?_, ⟨token, ?_, ?_⟩, fun start hle hlt => ?_⟩
  · have := h.start_ge
    simp only [Span.move]
    omega
  · rw [Span.move, Nat.add_comm, Boundary.firstAccepted?_append, ht]
  · simp only [Span.move]
    omega
  · obtain ⟨n, rfl⟩ := Nat.exists_eq_add_of_le (Nat.le_of_add_right_le hle)
    simp only [Span.move] at hlt
    rw [Boundary.firstAccepted?_append]
    exact h.leftmost n (by omega) (by omega)

theorem HasNoTag.move (front : String) (h : HasNoTag boundary tokens text.toList offset) :
    HasNoTag boundary tokens (front ++ text).toList (front.utf8ByteSize + offset) := by
  intro start hle
  rw [← Text.byteSize_toList] at hle
  obtain ⟨n, rfl⟩ := Nat.exists_eq_add_of_le (Nat.le_of_add_right_le hle)
  rw [String.toList_append, Boundary.firstAccepted?_append]
  exact h n (by omega)

end

theorem findNext_append {text : String} {tags : TagSet} {found : Option Span}
    (h : findNext text 0 tags = .ok found) (front : String) :
    findNext (front ++ text) front.utf8ByteSize tags =
      .ok (found.map (·.move front.utf8ByteSize)) := by
  obtain ⟨-, hfound⟩ := findNext_eq_ok_iff.1 h
  refine findNext_eq_ok_iff.2 ⟨Text.isBoundary_utf8ByteSize front text, ?_⟩
  cases found with
  | none => exact HasNoTag.move front hfound
  | some span => exact IsNextTag.move front hfound

/-- Nothing that stands before a text has a say in the tags found in it. -/
theorem findAll_behind_front (text : String) (tags : TagSet) :
    ∃ found spans, findNext text 0 tags = .ok found ∧ findAll text 0 tags = .ok spans ∧
      ∀ front : String,
        findNext (front ++ text) front.utf8ByteSize tags =
            .ok (found.map (·.move front.utf8ByteSize)) ∧
          findAll (front ++ text) front.utf8ByteSize tags =
            .ok (spans.map (·.move front.utf8ByteSize)) := by
  have hzero := Text.isBoundary_zero text.toList
  obtain ⟨found, hfound⟩ := findNext_eq_ok hzero tags
  obtain ⟨spans, hspans, hlist⟩ := findAll_isTagList hzero tags
  refine ⟨found, spans, hfound, hspans, fun front => ⟨findNext_append hfound front, ?_⟩⟩
  exact findAll_eq_ok_iff.2 ⟨Text.isBoundary_utf8ByteSize front text, hlist.move front⟩

end DocstringTags
