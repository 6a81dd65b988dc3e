import DocstringTags.Proofs.Tags.Run
import Mathlib.Data.List.Find

/-! Tokens that begin alike, where nothing is asked of what follows a tag. A token that begins with one
listed before it never wins, and tokens of which none begins with another one win in any order. Main
statements: `Boundary.firstAccepted?_unshadowed` and `Boundary.firstAccepted?_perm` for one place of a
text, and `findAll_unshadowed_perm` for whole searches, which see a set of tags only through the token
that is accepted first at each place.
-/

set_option autoImplicit false

namespace DocstringTags

/-- The tokens without those that begin with a token seen before or listed before them. -/
def unshadowed (seen : List String) : List String → List String
  | [] => []
  | token :: tokens =>
    if ∃ first ∈ seen, first.toList <+: token.toList then unshadowed (token :: seen) tokens
    else token :: unshadowed (token :: seen) tokens

def IsPrefixFree (tokens : List String) : Prop :=
  ∀ token ∈ tokens, ∀ other ∈ tokens, token.toList <+: other.toList → token = other

instance (tokens : List String) : Decidable (IsPrefixFree tokens) :=
  inferInstanceAs (Decidable (∀ token ∈ tokens, ∀ other ∈ tokens,
    token.toList <+: other.toList → token = other))

namespace Boundary

section
variable {boundary : Boundary} {token other text : List Char} {start : Nat}

theorem Accepts.of_begins (hbegins : token <+: other)
    (h : Boundary.any.Accepts other text start) : Boundary.any.Accepts token text start := by
  obtain ⟨rest, rfl⟩ := hbegins
  obtain ⟨before, after, rfl, rfl, -⟩ := h
  exact ⟨before, rest ++ after, by simp, rfl, nofun⟩

/-- Of two tokens at one place the shorter one begins the longer one. -/
theorem Accepts.comparable (h : boundary.Accepts token text start)
    (ho : boundary.Accepts other text start) : token <+: other ∨ other <+: token := by
  obtain ⟨rest, after, hrest, hafter⟩ := accepts_iff.1 h
  obtain ⟨rest', after', hrest', hafter'⟩ := accepts_iff.1 ho
  obtain rfl : rest = rest' := Option.some.inj (hrest.symm.trans hrest')
  have htoken : token <+: rest := ⟨after, (afterToken?_eq_some_iff.1 hafter).1.symm⟩
  have hother : other <+: rest := ⟨after', (afterToken?_eq_some_iff.1 hafter').1.symm⟩
  exact List.prefix_or_prefix_of_prefix htoken hother

end

section
variable {boundary : Boundary} {tokens others : List String} {text : List Char} {start : Nat}

theorem firstAccepted?_cons_of_not_accepts {token : String}
    (h : ¬boundary.Accepts token.toList text start) (tokens : List String) :
    boundary.firstAccepted? (token :: tokens) text start =
      boundary.firstAccepted? tokens text start :=
  List.find?_cons_of_neg (by simp [h])

/-- Nothing is lost with a token as long as none of those seen so far is accepted here. -/
theorem firstAccepted?_unshadowed {seen : List String} (hne : ∀ token ∈ tokens, token ≠ "")
    (hseen : ∀ first ∈ seen, ¬Boundary.any.Accepts first.toList text start) :
    Boundary.any.firstAccepted? (unshadowed seen tokens) text start =
      Boundary.any.firstAccepted? tokens text start := by
  induction tokens generalizing seen with
  | nil => rfl
  | cons token tokens ih =>
    obtain ⟨htoken, hrest⟩ := List.forall_mem_cons.1 hne
    by_cases ha : Boundary.any.Accepts token.toList text start
    · -- a token that begins this one would be accepted here, too
      have hkept : ¬∃ first ∈ seen, first.toList <+: token.toList := fun ⟨first, hf, hbegins⟩ =>
        hseen first hf (ha.of_begins hbegins)
      rw [unshadowed, if_neg hkept]
      simp [firstAccepted?, htoken, ha]
    · -- whether this token stays or not, the search goes on behind it
      have htail := ih hrest (List.forall_mem_cons.2 ⟨ha, hseen⟩)
      rw [unshadowed, firstAccepted?_cons_of_not_accepts ha, ← htail]
      split
      · rfl
      · exact firstAccepted?_cons_of_not_accepts ha _

theorem firstAccepted?_perm (hfree : IsPrefixFree tokens) (hperm : others.Perm tokens) :
    boundary.firstAccepted? others text start = boundary.firstAccepted? tokens text start := by
  refine (List.find?_eq_find?_of_perm hperm.symm ?_).symm
  intro token ⟨ht, ha⟩ other ⟨ho, hb⟩
  rcases (of_decide_eq_true ha).2.comparable (of_decide_eq_true hb).2 with hp | hp
  · exact hfree token ht other ho hp
  · exact (hfree other ho token ht hp).symm

end

end Boundary

section
variable {tags others : TagSet} {text : String} {offset : Nat} {spans : List Span}
  (hsame : ∀ start, others.boundary.firstAccepted? others.tokens text.toList start =
    tags.boundary.firstAccepted? tags.tokens text.toList start)
include hsame

theorem IsTagList.congr (h : IsTagList tags text offset spans) :
    IsTagList others text offset spans where
  bounds := h.bounds
  token := by simpa only [hsame] using h.token
  ordered := h.ordered
  complete start hle token ht ha := by
    cases hfirst : tags.boundary.firstAccepted? tags.tokens text.toList start with
    | none =>
      rw [← hsame, Boundary.firstAccepted?_eq_none_iff] at hfirst
      exact absurd ha (hfirst token ht (others.nonempty token ht))
    | some found =>
      obtain ⟨hmem, -, hfound⟩ := Boundary.firstAccepted?_accepts hfirst
      exact h.complete start hle found hmem hfound

/-- A search sees the tokens only through the one that is accepted first at each place. -/
theorem findNext_congr (offset : Nat) : findNext text offset others = findNext text offset tags := by
  by_cases hb : Text.IsBoundary text.toList offset
  · obtain ⟨found, hfound⟩ := findNext_eq_ok hb tags
    have hnext := (findNext_eq_ok_iff.1 hfound).2
    rw [hfound, findNext_eq_ok_iff]
    cases found with
    | none => exact ⟨hb, HasNoTag.congr hnext hsame⟩
    | some span => exact ⟨hb, IsNextTag.congr hnext hsame⟩
  · rw [findNext_eq_error_iff_not_isBoundary.2 ⟨hb, rfl⟩,
      findNext_eq_error_iff_not_isBoundary.2 ⟨hb, rfl⟩]

theorem findAll_congr (offset : Nat) : findAll text offset others = findAll text offset tags := by
  by_cases hb : Text.IsBoundary text.toList offset
  · obtain ⟨spans, hspans, hlist⟩ := findAll_isTagList hb tags
    rw [hspans, findAll_eq_ok_iff]
    exact ⟨hb, hlist.congr hsame⟩
  · rw [findAll_eq_error_iff.2 ⟨hb, rfl⟩, findAll_eq_error_iff.2 ⟨hb, rfl⟩]

end

/-- The same for lists of tokens, of which the empty ones are dropped. -/
theorem search_congr {boundary : Boundary} {tokens others : List String} {text : String}
    (hsame : ∀ start, boundary.firstAccepted? others text.toList start =
      boundary.firstAccepted? tokens text.toList start) (offset : Nat) :
    findNext text offset (.ofTokens others boundary) =
        findNext text offset (.ofTokens tokens boundary) ∧
      findAll text offset (.ofTokens others boundary) =
        findAll text offset (.ofTokens tokens boundary) := by
  have hkept : ∀ start,
      boundary.firstAccepted? (others.filter (· != "")) text.toList start =
        boundary.firstAccepted? (tokens.filter (· != "")) text.toList start := by
    intro start
    rw [Boundary.firstAccepted?_filter, Boundary.firstAccepted?_filter, hsame]
  exact ⟨findNext_congr hkept offset, findAll_congr hkept offset⟩

/-- The tokens may be listed more than once, and an offset is refused with either list alike. -/
theorem findAll_unshadowed_perm (tokens : List String) (hne : ∀ token ∈ tokens, token ≠ "") :
    (∀ text offset,
      findNext text offset (.ofTokens (unshadowed [] tokens) .any) =
          findNext text offset (.ofTokens tokens .any) ∧
        findAll text offset (.ofTokens (unshadowed [] tokens) .any) =
          findAll text offset (.ofTokens tokens .any)) ∧
    (IsPrefixFree tokens → ∀ others : List String, others.Perm tokens → ∀ text offset,
      findNext text offset (.ofTokens others .any) =
          findNext text offset (.ofTokens tokens .any) ∧
        findAll text offset (.ofTokens others .any) =
          findAll text offset (.ofTokens tokens .any)) := by
  refine ⟨fun text offset => ?_, fun hfree others hperm text offset => ?_⟩
  · exact search_congr (fun _ => Boundary.firstAccepted?_unshadowed hne (by simp)) offset
  · exact search_congr (fun _ => Boundary.firstAccepted?_perm hfree hperm) offset

/-- A short token before a longer one and a repeated one, then two tokens in the other order. -/
theorem findAll_unshadowed_perm_of_params :
    (∀ token ∈ ["@a", "@ab", "@a"], token ≠ "") ∧ unshadowed [] ["@a", "@ab", "@a"] = ["@a"] ∧
      findAll "é@ab" 2 (.ofTokens ["@a"] .any) =
        findAll "é@ab" 2 (.ofTokens ["@a", "@ab", "@a"] .any) ∧
      (∀ token ∈ ["@a", ":b"], token ≠ "") ∧ IsPrefixFree ["@a", ":b"] ∧
      [":b", "@a"].Perm ["@a", ":b"] ∧
      findAll "@a:b" 0 (.ofTokens [":b", "@a"] .any) =
        findAll "@a:b" 0 (.ofTokens ["@a", ":b"] .any) := by
  have hne : ∀ token ∈ ["@a", "@ab", "@a"], token ≠ "" := by decide
  have hkept : unshadowed [] ["@a", "@ab", "@a"] = ["@a"] := by decide
  have hne' : ∀ token ∈ ["@a", ":b"], token ≠ "" := by decide
  have hfree : IsPrefixFree ["@a", ":b"] := by decide
  have hperm : [":b", "@a"].Perm ["@a", ":b"] := by decide
  have hshadowed := (findAll_unshadowed_perm _ hne).1 "é@ab" 2
  have hordered := (findAll_unshadowed_perm _ hne').2 hfree _ hperm "@a:b" 0
  exact ⟨hne, hkept, hkept ▸ hshadowed.2, hne', hfree, hperm, hordered.2⟩

end DocstringTags
