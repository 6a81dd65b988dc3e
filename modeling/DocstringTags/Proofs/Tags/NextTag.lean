import DocstringTags.Proofs.Tags.Occurrence

/-! The next tag of a text is the leftmost place where a token of the set stands, and there the token
listed first. The search goes token by token and keeps the best hit so far. Main statements:
`IsBest.step`, by which one more token keeps the invariant of that search, `Boundary.findBest_isBest`
for the whole of it, and `findNext_answers`, which says of every answer when it is given.
-/

set_option autoImplicit false

namespace DocstringTags

theorem Boundary.find?_eq_none_iff {boundary : Boundary} {token text : List Char} :
    boundary.find? token text = none ↔ ∀ start, ¬boundary.Accepts token text start := by
  induction text with
  | nil =>
    rw [Boundary.find?, Option.map_eq_none_iff]
    constructor
    · intro h start ha
      have hle := ha.stop_le
      obtain rfl : start = 0 := by simp only [Text.byteSize_nil] at hle; omega
      obtain ⟨after, hafter⟩ := accepts_zero_iff.1 ha
      simp [h] at hafter
    · intro h
      exact Option.eq_none_iff_forall_ne_some.2 fun after hafter =>
        h 0 (accepts_zero_iff.2 ⟨after, hafter⟩)
  | cons c cs ih =>
    unfold Boundary.find?
    cases hafter : boundary.afterToken? token (c :: cs) with
    | some after =>
      simp only [reduceCtorEq, false_iff]
      exact fun h => h 0 (accepts_zero_iff.2 ⟨after, hafter⟩)
    | none =>
      simp only [Option.map_eq_none_iff, ih, accepts_cons_iff, hafter, reduceCtorEq, exists_false,
        and_false, false_or]
      constructor
      · intro h start ha
        obtain ⟨n, -, ha⟩ := ha
        exact h n ha
      · intro h n ha
        exact h _ ⟨n, rfl, ha⟩

theorem Boundary.find?_leftmost {boundary : Boundary} {token text : List Char} {hit : Hit}
    (h : boundary.find? token text = some hit) {start : Nat} (hs : start < hit.skipped) :
    ¬boundary.Accepts token text start := by
  induction text generalizing hit start with
  | nil =>
    obtain ⟨after, -, rfl⟩ := Option.map_eq_some_iff.1 h
    exact absurd hs (Nat.not_lt_zero start)
  | cons c cs ih =>
    unfold Boundary.find? at h
    cases hafter : boundary.afterToken? token (c :: cs) with
    | some after =>
      simp only [hafter, Option.some.injEq] at h
      subst h
      exact absurd hs (Nat.not_lt_zero start)
    | none =>
      simp only [hafter] at h
      obtain ⟨found, hf, rfl⟩ := Option.map_eq_some_iff.1 h
      intro ha
      rcases accepts_cons_iff.1 ha with ⟨-, after, hh⟩ | ⟨n, rfl, hn⟩
      · simp [hafter] at hh
      · simp only [Hit.back] at hs
        exact ih hf (by omega) hn

theorem Boundary.find?_accepts {boundary : Boundary} {token text : List Char} {hit : Hit}
    (h : boundary.find? token text = some hit) : boundary.Accepts token text hit.skipped := by
  obtain ⟨-, hb, before, htext, hk⟩ := find?_some h
  exact ⟨before, hit.after, htext, hk, admits_eq_true_iff.1 hb⟩

/-- A hit of a list of tokens: one of them is accepted there, no earlier one in the list is, and none
of the list is accepted further left. -/
structure Hit.IsFirst (hit : Hit) (boundary : Boundary) (tokens : List String)
    (text : List Char) : Prop where
  token : ∃ token, boundary.firstAccepted? tokens text hit.skipped = some token ∧
    hit.size = Text.byteSize token.toList
  leftmost : ∀ token ∈ tokens, ∀ start < hit.skipped, ¬boundary.Accepts token.toList text start

/-- What a search through some tokens has to come to. -/
def IsBest (boundary : Boundary) (tokens : List String) (text : List Char) : Option Hit → Prop
  | none => ∀ token ∈ tokens, ∀ start, ¬boundary.Accepts token.toList text start
  | some hit => hit.IsFirst boundary tokens text

section
variable {boundary : Boundary} {token : String} {seen tokens : List String} {text : List Char}
  {hit one : Hit} {best : Option Hit}

theorem Hit.IsFirst.append (h : hit.IsFirst boundary seen text)
    (hlater : ∀ token ∈ tokens, ∀ start < hit.skipped,
      ¬boundary.Accepts token.toList text start) :
    hit.IsFirst boundary (seen ++ tokens) text := by
  obtain ⟨found, hf, hsize⟩ := h.token
  refine ⟨⟨found, ?_, hsize⟩, List.forall_mem_append.2 ⟨h.leftmost, hlater⟩⟩
  rw [Boundary.firstAccepted?, List.find?_append, ← Boundary.firstAccepted?, hf, Option.some_or]

theorem Hit.IsFirst.append_self (hne : token ≠ "")
    (h : boundary.find? token.toList text = some hit)
    (hseen : ∀ token ∈ seen, ∀ start ≤ hit.skipped, ¬boundary.Accepts token.toList text start) :
    hit.IsFirst boundary (seen ++ [token]) text := by
  refine ⟨⟨token, ?_, (Boundary.find?_some h).1⟩, ?_⟩
  · have hnone : boundary.firstAccepted? seen text hit.skipped = none :=
      Boundary.firstAccepted?_eq_none_iff.2 fun other ho _ => hseen other ho _ (Nat.le_refl _)
    rw [Boundary.firstAccepted?, List.find?_append, ← Boundary.firstAccepted?, hnone,
      Option.none_or, List.find?_cons_of_pos]
    exact decide_eq_true ⟨hne, Boundary.find?_accepts h⟩
  · intro other ho start hs
    rcases List.mem_append.1 ho with ho | ho
    · exact hseen other ho start (Nat.le_of_lt hs)
    · obtain rfl : other = token := List.mem_singleton.1 ho
      exact Boundary.find?_leftmost h hs

/-- One more token. Where it begins together with the best one so far, that one stays. -/
theorem IsBest.step (h : IsBest boundary seen text best) (hne : token ≠ "") :
    IsBest boundary (seen ++ [token]) text
      (Hit.leftmost best (boundary.find? token.toList text)) := by
  cases hone : boundary.find? token.toList text with
  | none =>
    have hnone : ∀ other ∈ [token], ∀ start, ¬boundary.Accepts other.toList text start :=
      List.forall_mem_singleton.2 (Boundary.find?_eq_none_iff.1 hone)
    cases best with
    | none => exact List.forall_mem_append.2 ⟨h, hnone⟩
    | some hit => exact Hit.IsFirst.append h fun other ho start _ => hnone other ho start
  | some one =>
    cases best with
    | none => exact .append_self hne hone fun other ho start _ => h other ho start
    | some hit =>
      rw [Hit.leftmost]
      split
      · next hlt =>
        exact .append_self hne hone fun other ho start hs =>
          h.leftmost other ho start (Nat.lt_of_le_of_lt hs hlt)
      · next hle =>
        refine Hit.IsFirst.append h fun other ho start hs => ?_
        obtain rfl : other = token := List.mem_singleton.1 ho
        exact Boundary.find?_leftmost hone (by omega)

theorem Hit.leftmost_none (best : Option Hit) : Hit.leftmost best none = best := by
  cases best <;> rfl

theorem Hit.leftmost_head (best : Option Hit) (hhead : one.skipped = 0) :
    ∃ hit, Hit.leftmost best (some one) = some hit ∧ hit.skipped = 0 := by
  cases best with
  | none => exact ⟨one, rfl, hhead⟩
  | some hit =>
    by_cases hlt : one.skipped < hit.skipped
    · exact ⟨one, by simp [leftmost, hlt], hhead⟩
    · exact ⟨hit, by simp [leftmost, hlt], by omega⟩

theorem Boundary.findBest_isBest (h : IsBest boundary seen text best)
    (hne : ∀ token ∈ tokens, token ≠ "") :
    IsBest boundary (seen ++ tokens) text (boundary.findBest text best tokens) := by
  induction tokens generalizing seen best with
  | nil => simpa [findBest] using h
  | cons token tokens ih =>
    obtain ⟨htoken, hrest⟩ := List.forall_mem_cons.1 hne
    have hstep := h.step htoken
    rw [findBest]
    cases hone : boundary.find? token.toList text with
    | none =>
      rw [hone, Hit.leftmost_none] at hstep
      simpa using ih hstep hrest
    | some one =>
      rw [hone] at hstep
      by_cases hhead : one.skipped = 0
      · -- the tokens that are left cannot begin before the head of the text
        obtain ⟨hit, hbest, hzero⟩ := Hit.leftmost_head best hhead
        rw [hbest] at hstep
        have hall : hit.IsFirst boundary (seen ++ [token] ++ tokens) text :=
          Hit.IsFirst.append hstep fun _ _ start hs => by omega
        simpa [hhead, hbest, IsBest] using hall
      · simpa [hhead] using ih hstep hrest

end

namespace TagSet
variable {tags : TagSet} {text : List Char}

theorem find?_isBest (tags : TagSet) (text : List Char) :
    IsBest tags.boundary tags.tokens text (tags.find? text) := by
  have hstart : IsBest tags.boundary [] text none := by simp [IsBest]
  exact Boundary.findBest_isBest hstart tags.nonempty

theorem find?_eq_none (h : tags.find? text = none) :
    ∀ token ∈ tags.tokens, ∀ start, ¬tags.boundary.Accepts token.toList text start := by
  have hbest := tags.find?_isBest text
  rwa [h] at hbest

theorem find?_first {hit : Hit} (h : tags.find? text = some hit) :
    hit.IsFirst tags.boundary tags.tokens text := by
  have hbest := tags.find?_isBest text
  rwa [h] at hbest

end TagSet

/-- The span is that of the next tag at or after the offset: its start is the first place where some
token is accepted, and it covers the first token of the list that is accepted there. -/
structure IsNextTag (boundary : Boundary) (tokens : List String) (text : List Char) (offset : Nat)
    (span : Span) : Prop where
  start_ge : offset ≤ span.start
  token : ∃ token, boundary.firstAccepted? tokens text span.start = some token ∧
    span.stop = span.start + token.utf8ByteSize
  leftmost : ∀ start, offset ≤ start → start < span.start →
    boundary.firstAccepted? tokens text start = none

def HasNoTag (boundary : Boundary) (tokens : List String) (text : List Char) (offset : Nat) : Prop :=
  ∀ start, offset ≤ start → boundary.firstAccepted? tokens text start = none

section
variable {boundary : Boundary} {tokens : List String} {text : List Char} {offset : Nat}
  {span other : Span}

theorem IsNextTag.not_hasNoTag (h : IsNextTag boundary tokens text offset span) :
    ¬HasNoTag boundary tokens text offset := by
  intro hn
  obtain ⟨token, ht, -⟩ := h.token
  simp [hn span.start h.start_ge] at ht

theorem IsNextTag.start_le (h : IsNextTag boundary tokens text offset span)
    (ho : IsNextTag boundary tokens text offset other) : span.start ≤ other.start := by
  obtain ⟨token, ht, -⟩ := ho.token
  by_cases hlt : other.start < span.start
  · simp [h.leftmost other.start ho.start_ge hlt] at ht
  · omega

theorem IsNextTag.unique (h : IsNextTag boundary tokens text offset span)
    (ho : IsNextTag boundary tokens text offset other) : span = other := by
  have hstart : span.start = other.start := Nat.le_antisymm (h.start_le ho) (ho.start_le h)
  obtain ⟨token, ht, hstop⟩ := h.token
  obtain ⟨token', ht', hstop'⟩ := ho.token
  rw [hstart, ht'] at ht
  obtain rfl : token' = token := Option.some.inj ht
  cases span
  cases other
  simp_all

theorem IsNextTag.congr {other : Boundary} {others : List String}
    (h : IsNextTag boundary tokens text offset span)
    (hsame : ∀ start, other.firstAccepted? others text start =
      boundary.firstAccepted? tokens text start) :
    IsNextTag other others text offset span where
  start_ge := h.start_ge
  token := by simpa only [hsame] using h.token
  leftmost := by simpa only [hsame] using h.leftmost

theorem HasNoTag.congr {other : Boundary} {others : List String}
    (h : HasNoTag boundary tokens text offset)
    (hsame : ∀ start, other.firstAccepted? others text start =
      boundary.firstAccepted? tokens text start) :
    HasNoTag other others text offset := by
  intro start hle
  rw [hsame, h start hle]

theorem isNextTag_filter :
    IsNextTag boundary (tokens.filter (· != "")) text offset span ↔
      IsNextTag boundary tokens text offset span := by
  constructor
  · intro h
    exact h.congr fun start => Boundary.firstAccepted?_filter.symm
  · intro h
    exact h.congr fun start => Boundary.firstAccepted?_filter

theorem hasNoTag_filter :
    HasNoTag boundary (tokens.filter (· != "")) text offset ↔
      HasNoTag boundary tokens text offset := by
  simp only [HasNoTag, Boundary.firstAccepted?_filter]

end

namespace TagSet
variable {tags : TagSet} {rest : List Char}

theorem isNextTag_of_find? {hit : Hit} (before : List Char) (h : tags.find? rest = some hit) :
    IsNextTag tags.boundary tags.tokens (before ++ rest) (Text.byteSize before)
      (Span.ofSize (Text.byteSize before + hit.skipped) hit.size) := by
  have hfirst := find?_first h
  obtain ⟨token, ht, hsize⟩ := hfirst.token
  refine ⟨Nat.le_add_right _ _, ⟨token, ?_, ?_⟩, fun start hle hlt => ?_⟩
  · exact (Boundary.firstAccepted?_append before).trans ht
  · simp only [Span.ofSize, hsize, Text.byteSize_toList]
  · obtain ⟨n, rfl⟩ := Nat.exists_eq_add_of_le hle
    simp only [Span.ofSize] at hlt
    rw [Boundary.firstAccepted?_append, Boundary.firstAccepted?_eq_none_iff]
    intro other ho _
    exact hfirst.leftmost other ho n (by omega)

theorem hasNoTag_of_find? (before : List Char) (h : tags.find? rest = none) :
    HasNoTag tags.boundary tags.tokens (before ++ rest) (Text.byteSize before) := by
  intro start hle
  obtain ⟨n, rfl⟩ := Nat.exists_eq_add_of_le hle
  rw [Boundary.firstAccepted?_append, Boundary.firstAccepted?_eq_none_iff]
  intro token ht _
  exact find?_eq_none h token ht n

end TagSet

theorem findNext_eq_error_iff {text : String} {offset : Nat} {tags : TagSet} {e : OffsetError} :
    findNext text offset tags = .error e ↔
      (text.utf8ByteSize < offset ∨ Text.IsInside text.toList offset) ∧
        e = .invalid offset text.utf8ByteSize := by
  rw [← Text.byteSize_toList, ← Text.dropBytes?_eq_none_iff]
  unfold findNext
  cases Text.dropBytes? text.toList offset with
  | none => simp [eq_comm]
  | some rest => simp

theorem findNext_eq_ok_iff {text : String} {offset : Nat} {tags : TagSet} {found : Option Span} :
    findNext text offset tags = .ok found ↔
      Text.IsBoundary text.toList offset ∧
        match found with
        | some span => IsNextTag tags.boundary tags.tokens text.toList offset span
        | none => HasNoTag tags.boundary tags.tokens text.toList offset := by
  unfold findNext
  cases hd : Text.dropBytes? text.toList offset with
  | none =>
    have hb : ¬Text.IsBoundary text.toList offset :=
      Text.not_isBoundary_iff.2 (Text.dropBytes?_eq_none_iff.1 hd)
    simp [hb]
  | some rest =>
    obtain ⟨before, htext, rfl⟩ := Text.dropBytes?_eq_some_iff.1 hd
    rw [htext]
    simp only [Except.ok.injEq, Text.isBoundary_append, true_and]
    cases hf : tags.find? rest with
    | none =>
      have hno := TagSet.hasNoTag_of_find? before hf
      cases found with
      | none => simp [hno]
      | some span =>
        simp only [Option.map_none, reduceCtorEq, false_iff]
        exact fun h => h.not_hasNoTag hno
    | some hit =>
      have hnext := TagSet.isNextTag_of_find? before hf
      cases found with
      | none =>
        simp only [Option.map_some, reduceCtorEq, false_iff]
        exact hnext.not_hasNoTag
      | some span =>
        simp only [Option.map_some, Option.some.injEq]
        constructor
        · intro h
          exact h ▸ hnext
        · exact hnext.unique

theorem findNext_eq_error_iff_not_isBoundary {text : String} {offset : Nat} {tags : TagSet}
    {e : OffsetError} :
    findNext text offset tags = .error e ↔
      ¬Text.IsBoundary text.toList offset ∧ e = .invalid offset text.utf8ByteSize := by
  rw [findNext_eq_error_iff, ← Text.byteSize_toList, ← Text.not_isBoundary_iff]

theorem findNext_eq_ok {text : String} {offset : Nat}
    (h : Text.IsBoundary text.toList offset) (tags : TagSet) :
    ∃ found, findNext text offset tags = .ok found := by
  cases hfound : findNext text offset tags with
  | ok found => exact ⟨found, rfl⟩
  | error e => exact absurd h (findNext_eq_error_iff_not_isBoundary.1 hfound).1

/-- The tokens may be empty or repeated. An offset is refused past the end of the text or inside one
of its characters. -/
theorem findNext_answers (text : String) (tokens : List String) (boundary : Boundary)
    (offset : Nat) :
    (∀ e, findNext text offset (.ofTokens tokens boundary) = .error e ↔
      (text.utf8ByteSize < offset ∨ Text.IsInside text.toList offset) ∧
        e = .invalid offset text.utf8ByteSize) ∧
    (∀ span, findNext text offset (.ofTokens tokens boundary) = .ok (some span) ↔
      Text.IsBoundary text.toList offset ∧
        IsNextTag boundary tokens text.toList offset span) ∧
    (findNext text offset (.ofTokens tokens boundary) = .ok none ↔
      Text.IsBoundary text.toList offset ∧ HasNoTag boundary tokens text.toList offset) := by
  refine ⟨fun e => findNext_eq_error_iff, fun span => ?_, ?_⟩
  · rw [findNext_eq_ok_iff]
    simp only [TagSet.tokens_ofTokens, TagSet.boundary_ofTokens, isNextTag_filter]
  · rw [findNext_eq_ok_iff]
    simp only [TagSet.tokens_ofTokens, TagSet.boundary_ofTokens, hasNoTag_filter]

-- the token listed first occurs at the same place, but a letter follows it there
example : findNext "@params" 0 (.ofTokens ["@param", "@params"] .wordEnd) = .ok (some ⟨0, 7⟩) :=
  rfl

end DocstringTags
