import DocstringTags.Span
import DocstringTags.Text.CharClass

/-! The search for the next tag. Each token is looked for on its own, from left to right; of the
places found, the leftmost wins, and of tokens at the same place the one listed first. Main
statement: `TagSet.find?_some`, by which a hit names a place of the text where a token of the set
stands.
-/

set_option autoImplicit false

namespace DocstringTags

inductive Boundary where
  | any
  | wordEnd
  deriving DecidableEq, Repr

def Boundary.admits : Boundary → List Char → Bool
  | .any, _ => true
  | .wordEnd, [] => true
  | .wordEnd, c :: _ => !Text.isAlphanumeric c

/-- Tokens in the order in which they win, none of them empty. -/
structure TagSet where
  tokens : List String
  boundary : Boundary
  nonempty : ∀ token ∈ tokens, token ≠ ""

instance : DecidableEq TagSet := fun s t =>
  if h : s.tokens = t.tokens ∧ s.boundary = t.boundary then
    .isTrue (by cases s; cases t; simp_all)
  else
    .isFalse (fun e => h (by subst e; exact ⟨rfl, rfl⟩))

def TagSet.ofTokens (tokens : List String) (boundary : Boundary) : TagSet where
  tokens := tokens.filter (· != "")
  boundary := boundary
  nonempty := by simp

def TagSet.size (tags : TagSet) : Nat := tags.tokens.length

def TagSet.isEmpty (tags : TagSet) : Bool := tags.tokens.isEmpty

@[simp] theorem TagSet.tokens_ofTokens (tokens : List String) (boundary : Boundary) :
    (ofTokens tokens boundary).tokens = tokens.filter (· != "") := rfl

@[simp] theorem TagSet.boundary_ofTokens (tokens : List String) (boundary : Boundary) :
    (ofTokens tokens boundary).boundary = boundary := rfl

/-- A token that stands in a text: the bytes before it, its size in bytes, and what follows it. -/
structure Hit where
  skipped : Nat
  size : Nat
  after : List Char
  deriving DecidableEq, Repr

def Hit.back (c : Char) (hit : Hit) : Hit := { hit with skipped := c.utf8Size + hit.skipped }

def Boundary.afterToken? (boundary : Boundary) (token text : List Char) : Option (List Char) :=
  (token.isPrefixOf? text).filter boundary.admits

/-- The leftmost place where the token stands and is allowed to. A place that is refused is left by
one character only, so that occurrences which overlap it are still seen. -/
def Boundary.find? (boundary : Boundary) (token : List Char) : List Char → Option Hit
  | [] => (boundary.afterToken? token []).map (⟨0, Text.byteSize token, ·⟩)
  | c :: cs =>
    match boundary.afterToken? token (c :: cs) with
    | some after => some ⟨0, Text.byteSize token, after⟩
    | none => (boundary.find? token cs).map (Hit.back c)

/-- The hit further left, and the first one where both begin together. -/
def Hit.leftmost : Option Hit → Option Hit → Option Hit
  | none, other => other
  | some hit, none => some hit
  | some hit, some other => if other.skipped < hit.skipped then some other else some hit

/-- The best hit of some tokens, given the best one of those before them. A hit at the head of the
text ends the search: nothing begins further left, and later tokens lose the tie. -/
def Boundary.findBest (boundary : Boundary) (text : List Char) :
    Option Hit → List String → Option Hit
  | best, [] => best
  | best, token :: tokens =>
    match boundary.find? token.toList text with
    | none => boundary.findBest text best tokens
    | some hit =>
      if hit.skipped = 0 then Hit.leftmost best (some hit)
      else boundary.findBest text (Hit.leftmost best (some hit)) tokens

def TagSet.find? (tags : TagSet) (text : List Char) : Option Hit :=
  tags.boundary.findBest text none tags.tokens

theorem isPrefixOf?_cons_cons (a c : Char) (token cs : List Char) :
    (a :: token).isPrefixOf? (c :: cs) = if a == c then token.isPrefixOf? cs else none := rfl

theorem isPrefixOf?_eq_some_iff {token text after : List Char} :
    token.isPrefixOf? text = some after ↔ text = token ++ after := by
  induction token generalizing text with
  | nil => cases text <;> exact Option.some_inj
  | cons a token ih =>
    cases text with
    | nil => exact ⟨nofun, nofun⟩
    | cons c cs =>
      rw [isPrefixOf?_cons_cons]
      by_cases h : a = c
      · subst h
        simp only [beq_self_eq_true, if_true, ih, List.cons_append, List.cons.injEq, true_and]
      · simp only [beq_iff_eq, h, if_false, reduceCtorEq, List.cons_append, List.cons.injEq,
          Ne.symm h, false_and]

theorem Boundary.afterToken?_eq_some_iff {boundary : Boundary} {token text after : List Char} :
    boundary.afterToken? token text = some after ↔
      text = token ++ after ∧ boundary.admits after = true := by
  simp only [afterToken?, Option.filter_eq_some_iff, isPrefixOf?_eq_some_iff]

/-- A hit stands for a split of the text around the token. -/
theorem Boundary.find?_some {boundary : Boundary} {token text : List Char} {hit : Hit}
    (h : boundary.find? token text = some hit) :
    hit.size = Text.byteSize token ∧ boundary.admits hit.after = true ∧
      ∃ before, text = before ++ (token ++ hit.after) ∧ hit.skipped = Text.byteSize before := by
  induction text generalizing hit with
  | nil =>
    obtain ⟨after, ha, rfl⟩ := Option.map_eq_some_iff.1 h
    obtain ⟨ht, hb⟩ := afterToken?_eq_some_iff.1 ha
    exact ⟨rfl, hb, [], ht, rfl⟩
  | cons c cs ih =>
    unfold find? at h
    split at h
    · next after ha =>
      obtain rfl := Option.some.inj h
      obtain ⟨ht, hb⟩ := afterToken?_eq_some_iff.1 ha
      exact ⟨rfl, hb, [], ht, rfl⟩
    · obtain ⟨found, hf, rfl⟩ := Option.map_eq_some_iff.1 h
      obtain ⟨hs, hb, before, ht, hk⟩ := ih hf
      exact ⟨hs, hb, c :: before, by simp [Hit.back, ht], by simp [Hit.back, hk]⟩

theorem Hit.leftmost_eq_some {one other : Option Hit} {hit : Hit}
    (h : Hit.leftmost one other = some hit) : one = some hit ∨ other = some hit := by
  unfold Hit.leftmost at h
  split at h
  · exact .inr h
  · exact .inl h
  · split at h
    · exact .inr h
    · exact .inl h

theorem Boundary.findBest_some {boundary : Boundary} {text : List Char} {best : Option Hit}
    {tokens : List String} {hit : Hit} (h : boundary.findBest text best tokens = some hit) :
    best = some hit ∨ ∃ token ∈ tokens, boundary.find? token.toList text = some hit := by
  induction tokens generalizing best with
  | nil => exact .inl h
  | cons token tokens ih =>
    rw [findBest] at h
    cases hone : boundary.find? token.toList text with
    | none =>
      simp only [hone] at h
      rcases ih h with h | ⟨other, ho, hh⟩
      · exact .inl h
      · exact .inr ⟨other, by simp [ho], hh⟩
    | some one =>
      have hbest : Hit.leftmost best (some one) = some hit →
          best = some hit ∨ ∃ t ∈ token :: tokens, boundary.find? t.toList text = some hit := by
        intro hl
        rcases Hit.leftmost_eq_some hl with hl | hl
        · exact .inl hl
        · exact .inr ⟨token, by simp, hone.trans hl⟩
      simp only [hone] at h
      by_cases hhead : one.skipped = 0
      · exact hbest (by simpa [hhead] using h)
      · rcases ih (by simpa [hhead] using h) with h | ⟨other, ho, hh⟩
        · exact hbest h
        · exact .inr ⟨other, by simp [ho], hh⟩

theorem TagSet.find?_some {tags : TagSet} {text : List Char} {hit : Hit}
    (h : tags.find? text = some hit) :
    ∃ token ∈ tags.tokens, tags.boundary.find? token.toList text = some hit := by
  rcases Boundary.findBest_some h with h | h
  · simp at h
  · exact h

/-- A hit takes at least one character off the text. -/
theorem TagSet.length_after_lt {tags : TagSet} {text : List Char} {hit : Hit}
    (h : tags.find? text = some hit) : hit.after.length < text.length := by
  obtain ⟨token, ht, hf⟩ := find?_some h
  obtain ⟨_, _, before, rfl, _⟩ := Boundary.find?_some hf
  have hn : token.toList ≠ [] := by simpa using tags.nonempty token ht
  have := List.length_pos_iff.2 hn
  simp only [List.length_append]
  omega

def findNext (text : String) (offset : Nat) (tags : TagSet) : Except OffsetError (Option Span) :=
  match Text.dropBytes? text.toList offset with
  | none => .error (.invalid offset (Text.byteSize text.toList))
  | some rest =>
    .ok ((tags.find? rest).map fun hit => Span.ofSize (offset + hit.skipped) hit.size)

end DocstringTags
