import DocstringTags.Format
import DocstringTags.Proofs.Tags.Run
import Mathlib.Data.List.Find

/-! The tags of a text that is made of parts. What stands before a part says nothing about the tags in
it, and neither does what stands behind it, if between them is a character that no token holds and
that ends a word. Main statements: `IsTagList.move` for what stands before, `IsTagList.append` for
what stands behind, and `findAll_separated` for parts that are scanned one by one.
-/

set_option autoImplicit false

namespace DocstringTags

section
variable {boundary : Boundary} {token front back : List Char} {separator : Char} {start : Nat}

/-- The end of a part ends a word like the separator does. -/
theorem Boundary.allows_separator (hseparator : Text.isAlphanumeric separator = false) :
    boundary.Allows (front ++ separator :: back) ↔ boundary.Allows front := by
  cases front with
  | nil => simp [Allows, hseparator]
  | cons c front => simp [Allows]

/-- A token without the separator that stands before some text with the separator ends before it. -/
theorem prefix_of_separator {after : List Char} (htoken : separator ∉ token)
    (h : token ++ after = front ++ separator :: back) :
    ∃ mid, front = token ++ mid ∧ after = mid ++ separator :: back := by
  rcases List.append_eq_append_iff.1 h with ⟨mid, hfront, hafter⟩ | ⟨mid, rfl, hback⟩
  · exact ⟨mid, hfront, hafter⟩
  · cases mid with
    | nil => exact ⟨[], by simp, by simpa using hback.symm⟩
    | cons c mid =>
      obtain ⟨rfl, -⟩ := List.cons.inj hback
      simp at htoken

/-- No occurrence lies across the separator, and neither part sees the other one. -/
theorem Boundary.accepts_separator (hseparator : Text.isAlphanumeric separator = false)
    (htoken : separator ∉ token) :
    boundary.Accepts token (front ++ separator :: back) start ↔
      boundary.Accepts token front start ∨
        ∃ n, start = Text.byteSize (front ++ [separator]) + n ∧ boundary.Accepts token back n := by
  constructor
  · intro h
    obtain ⟨before, after, htext, hstart, hallows⟩ := h
    have hfront : ∀ mid, front = before ++ mid → token ++ after = mid ++ separator :: back →
        boundary.Accepts token front start := by
      intro mid hfront hafter
      obtain ⟨rest, rfl, rfl⟩ := prefix_of_separator htoken hafter
      exact ⟨before, rest, hfront, hstart, (allows_separator hseparator).1 hallows⟩
    rcases List.append_eq_append_iff.1 htext with ⟨mid, hbefore, hback⟩ | ⟨mid, hmid, hafter⟩
    · cases mid with
      | nil => exact .inl (hfront [] (by simpa using hbefore.symm) hback.symm)
      | cons c mid =>
        obtain ⟨rfl, rfl⟩ := List.cons.inj hback
        refine .inr ⟨Text.byteSize mid, ?_, mid, after, rfl, rfl, hallows⟩
        simp only [hstart, hbefore, Text.byteSize_append, Text.byteSize_cons, Text.byteSize_nil]
        omega
    · exact .inl (hfront mid hmid hafter)
  · intro h
    rcases h with ⟨before, after, rfl, hstart, hallows⟩ | ⟨n, rfl, h⟩
    · exact ⟨before, after ++ separator :: back, by simp, hstart,
        (allows_separator hseparator).2 hallows⟩
    · rw [List.append_cons]
      exact (accepts_append (front ++ [separator])).2 h

theorem Boundary.firstAccepted?_separator {tokens : List String}
    (hseparator : Text.isAlphanumeric separator = false)
    (htokens : ∀ token ∈ tokens, separator ∉ token.toList) (hstart : start ≤ Text.byteSize front) :
    boundary.firstAccepted? tokens (front ++ separator :: back) start =
      boundary.firstAccepted? tokens front start := by
  refine List.find?_congr fun token ht => decide_eq_decide.2 (and_congr_right fun _ => ?_)
  rw [accepts_separator hseparator (htokens token ht), or_iff_left_iff_imp]
  intro ⟨n, hn, _⟩
  have := separator.utf8Size_pos
  simp only [Text.byteSize_append, Text.byteSize_cons] at hn
  omega

end

theorem toList_separated (front back : String) (separator : Char) :
    (front ++ String.singleton separator ++ back).toList =
      front.toList ++ separator :: back.toList := by
  simp

namespace IsTagList
variable {tags : TagSet} {text front back : String} {offset : Nat} {spans later : List Span}

theorem move (before : String) (h : IsTagList tags text offset spans) :
    IsTagList tags (before ++ text) (before.utf8ByteSize + offset)
      (spans.map (·.move before.utf8ByteSize)) where
  bounds := List.forall_mem_map.2 fun span hs => by
    have hb := h.bounds span hs
    simp only [Span.move, String.utf8ByteSize_append]
    omega
  token := List.forall_mem_map.2 fun span hs => by
    obtain ⟨token, hfirst, hslice⟩ := h.token span hs
    refine ⟨token, ?_, Span.slice?_move_append before hslice⟩
    rw [String.toList_append, Span.move, Nat.add_comm, ← Text.byteSize_toList,
      Boundary.firstAccepted?_append, hfirst]
  ordered := (List.isChain_map _).2 (h.ordered.imp fun span next hle => Nat.add_le_add_right hle _)
  complete start hle token ht ha := by
    obtain ⟨n, rfl⟩ := Nat.exists_eq_add_of_le (Nat.le_of_add_right_le hle)
    rw [String.toList_append, ← Text.byteSize_toList, Boundary.accepts_append] at ha
    obtain ⟨span, hs, hstart, hstop⟩ := h.complete n (by omega) token ht ha
    refine ⟨_, List.mem_map_of_mem hs, ?_, ?_⟩ <;> simp only [Span.move] <;> omega

/-- The tags before a separator and those behind it. -/
theorem append {separator : Char} (hseparator : Text.isAlphanumeric separator = false)
    (htokens : ∀ token ∈ tags.tokens, separator ∉ token.toList)
    (h : IsTagList tags front 0 spans)
    (hlater : IsTagList tags (front ++ String.singleton separator ++ back)
      (front ++ String.singleton separator).utf8ByteSize later) :
    IsTagList tags (front ++ String.singleton separator ++ back) 0 (spans ++ later) where
  bounds := by
    simp only [String.utf8ByteSize_append] at hlater ⊢
    refine List.forall_mem_append.2 ⟨fun span hs => ?_, fun span hs => ?_⟩
    · have := h.bounds span hs
      omega
    · have := hlater.bounds span hs
      simp only [String.utf8ByteSize_append] at this
      omega
  token := by
    refine List.forall_mem_append.2 ⟨fun span hs => ?_, hlater.token⟩
    obtain ⟨token, hfirst, hslice⟩ := h.token span hs
    have hstart : span.start ≤ Text.byteSize front.toList := by
      have := h.bounds span hs
      rw [Text.byteSize_toList]
      omega
    refine ⟨token, ?_, Span.slice?_append back (Span.slice?_append _ hslice)⟩
    rw [toList_separated, Boundary.firstAccepted?_separator hseparator htokens hstart, hfirst]
  ordered := by
    refine List.isChain_append.2 ⟨h.ordered, hlater.ordered, fun span hs next hn => ?_⟩
    have hstop := (h.bounds span (List.mem_of_mem_getLast? hs)).2.2
    have hstart := (hlater.bounds next (List.mem_of_mem_head? hn)).1
    rw [String.utf8ByteSize_append] at hstart
    omega
  complete start _ token ht ha := by
    rw [toList_separated, Boundary.accepts_separator hseparator (htokens token ht)] at ha
    rcases ha with ha | ⟨n, hn, ha⟩
    · obtain ⟨span, hs, hin⟩ := h.complete start (Nat.zero_le _) token ht ha
      exact ⟨span, List.mem_append_left _ hs, hin⟩
    · have hle : (front ++ String.singleton separator).utf8ByteSize ≤ start := by
        rw [← Text.byteSize_toList, hn]
        simp
      obtain ⟨span, hs, hin⟩ := hlater.complete start hle token ht <| by
        rw [toList_separated]
        exact (Boundary.accepts_separator hseparator (htokens token ht)).2 (.inr ⟨n, hn, ha⟩)
      exact ⟨span, List.mem_append_right _ hs, hin⟩

end IsTagList

section
variable {tags : TagSet} {separator : Char}

theorem findAll_pair (hseparator : Text.isAlphanumeric separator = false)
    (htokens : ∀ token ∈ tags.tokens, separator ∉ token.toList) (front back : String) :
    ∃ spans later, findAll front 0 tags = .ok spans ∧ findAll back 0 tags = .ok later ∧
      findAll (front ++ String.singleton separator ++ back) 0 tags =
        .ok (spans ++ later.map (·.move (front ++ String.singleton separator).utf8ByteSize)) := by
  obtain ⟨spans, hspans, hfront⟩ := findAll_isTagList (Text.isBoundary_zero front.toList) tags
  obtain ⟨later, hlater, hback⟩ := findAll_isTagList (Text.isBoundary_zero back.toList) tags
  refine ⟨spans, later, hspans, hlater, findAll_eq_ok_iff.2 ⟨Text.isBoundary_zero _, ?_⟩⟩
  exact hfront.append hseparator htokens (hback.move (front ++ String.singleton separator))

end

/-- The tags of parts, each part scanned on its own. The first part stands at the offset, and between
two parts there is room for the separator. -/
def findEach (tags : TagSet) (separator : Char) (offset : Nat) :
    List String → Except OffsetError (List Span)
  | [] => .ok []
  | part :: parts => do
    let here ← findAll part 0 tags
    let later ← findEach tags separator (offset + part.utf8ByteSize + separator.utf8Size) parts
    return here.map (·.move offset) ++ later

section
variable {tags : TagSet} {separator : Char}

theorem findEach_cons {offset : Nat} {part : String} {parts : List String}
    {here later : List Span} (hhere : findAll part 0 tags = .ok here)
    (hlater : findEach tags separator (offset + part.utf8ByteSize + separator.utf8Size) parts =
      .ok later) :
    findEach tags separator offset (part :: parts) = .ok (here.map (·.move offset) ++ later) := by
  simp only [findEach, hhere, hlater]
  rfl

theorem findEach_intercalate (hseparator : Text.isAlphanumeric separator = false)
    (htokens : ∀ token ∈ tags.tokens, separator ∉ token.toList) {parts : List String}
    (hparts : parts ≠ []) (offset : Nat) :
    ∃ spans, findAll ((String.singleton separator).intercalate parts) 0 tags = .ok spans ∧
      findEach tags separator offset parts = .ok (spans.map (·.move offset)) := by
  induction parts generalizing offset with
  | nil => exact absurd rfl hparts
  | cons part parts ih =>
    by_cases hlast : parts = []
    · subst hlast
      obtain ⟨spans, hspans, -⟩ := findAll_isTagList (Text.isBoundary_zero part.toList) tags
      refine ⟨spans, by simpa using hspans, ?_⟩
      have hnil : findEach tags separator (offset + part.utf8ByteSize + separator.utf8Size) [] =
          .ok [] := rfl
      simpa using findEach_cons hspans hnil
    · obtain ⟨spans, later, hspans, hlater, hboth⟩ :=
        findAll_pair hseparator htokens part ((String.singleton separator).intercalate parts)
      obtain ⟨others, hothers, hrest⟩ :=
        ih hlast (offset + part.utf8ByteSize + separator.utf8Size)
      obtain rfl : later = others := Except.ok.inj (hlater.symm.trans hothers)
      refine ⟨_, (String.intercalate_cons_of_ne_nil hlast).symm ▸ hboth, ?_⟩
      rw [findEach_cons hspans hrest]
      simp [Function.comp_def, Span.move_move, Nat.add_assoc]

/-- The parts of a text between the separators, which are its lines for the separator that ends a
line. -/
def partsOf (separator : Char) (text : String) : List String :=
  (text.toList.splitOn separator).map String.ofList

theorem intercalate_partsOf (separator : Char) (text : String) :
    (String.singleton separator).intercalate (partsOf separator text) = text := by
  have hid : String.toList ∘ String.ofList = id := funext fun cs => String.toList_ofList
  rw [← String.toList_inj, String.toList_intercalate, partsOf, List.map_map, hid, List.map_id]
  simp [List.intercalate_splitOn]

end

theorem findAll_separated (tags : TagSet) (separator : Char)
    (hseparator : Text.isAlphanumeric separator = false)
    (htokens : ∀ token ∈ tags.tokens, separator ∉ token.toList) :
    (∀ front back : String, ∃ spans later,
      findAll front 0 tags = .ok spans ∧ findAll back 0 tags = .ok later ∧
        findAll (front ++ String.singleton separator ++ back) 0 tags =
          .ok (spans ++ later.map (·.move (front ++ String.singleton separator).utf8ByteSize))) ∧
    ∀ text : String, ∃ spans,
      findEach tags separator 0 (partsOf separator text) = .ok spans ∧
        findAll text 0 tags = .ok spans := by
  refine ⟨findAll_pair hseparator htokens, fun text => ?_⟩
  have hparts : partsOf separator text ≠ [] := by simp [partsOf, List.splitOn_ne_nil]
  obtain ⟨spans, hspans, heach⟩ := findEach_intercalate hseparator htokens hparts 0
  rw [intercalate_partsOf] at hspans
  exact ⟨spans, by simpa [Span.move] using heach, hspans⟩

/-- The lines of a docstring. -/
theorem findAll_separated_of_lines :
    Text.isAlphanumeric '\n' = false ∧
      (∀ token ∈ (TagSet.ofTokens restTokens .wordEnd).tokens, '\n' ∉ token.toList) ∧
      (∀ front back : String, ∃ spans later,
        findAll front 0 (.ofTokens restTokens .wordEnd) = .ok spans ∧
          findAll back 0 (.ofTokens restTokens .wordEnd) = .ok later ∧
          findAll (front ++ String.singleton '\n' ++ back) 0 (.ofTokens restTokens .wordEnd) =
            .ok (spans ++
              later.map (·.move (front ++ String.singleton '\n').utf8ByteSize))) ∧
      ∀ text : String, ∃ spans,
        findEach (.ofTokens restTokens .wordEnd) '\n' 0 (partsOf '\n' text) = .ok spans ∧
          findAll text 0 (.ofTokens restTokens .wordEnd) = .ok spans :=
  have hseparator : Text.isAlphanumeric '\n' = false := rfl
  have htokens : ∀ token ∈ (TagSet.ofTokens restTokens .wordEnd).tokens, '\n' ∉ token.toList := by
    decide
  ⟨hseparator, htokens, findAll_separated (.ofTokens restTokens .wordEnd) '\n' hseparator htokens⟩

end DocstringTags
