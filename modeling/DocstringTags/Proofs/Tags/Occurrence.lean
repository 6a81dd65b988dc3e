import DocstringTags.Proofs.Text.Boundary
import DocstringTags.Tags.Search

set_option autoImplicit false

namespace DocstringTags

namespace Boundary

/-- What may follow a tag: anything, or else an end of the text or a character that is no letter and
no number. -/
def Allows (boundary : Boundary) (after : List Char) : Prop :=
  boundary = .wordEnd → ∀ c ∈ after.head?, Text.isAlphanumeric c = false

/-- The token stands in the text at the offset `start`, and what follows it is allowed. -/
def Accepts (boundary : Boundary) (token text : List Char) (start : Nat) : Prop :=
  ∃ before after, text = before ++ (token ++ after) ∧ start = Text.byteSize before ∧
    boundary.Allows after

theorem admits_eq_true_iff {boundary : Boundary} {after : List Char} :
    boundary.admits after = true ↔ boundary.Allows after := by
  cases boundary with
  | any => simp [admits, Allows]
  | wordEnd => cases after <;> simp [admits, Allows]

section
variable {boundary : Boundary} {token text : List Char} {start : Nat}

theorem accepts_iff :
    boundary.Accepts token text start ↔
      ∃ rest after, Text.dropBytes? text start = some rest ∧
        boundary.afterToken? token rest = some after := by
  constructor
  · intro h
    obtain ⟨before, after, rfl, rfl, ha⟩ := h
    exact ⟨token ++ after, after, Text.dropBytes?_append before _,
      afterToken?_eq_some_iff.2 ⟨rfl, admits_eq_true_iff.2 ha⟩⟩
  · intro h
    obtain ⟨rest, after, hr, ha⟩ := h
    obtain ⟨before, rfl, rfl⟩ := Text.dropBytes?_eq_some_iff.1 hr
    obtain ⟨rfl, hb⟩ := afterToken?_eq_some_iff.1 ha
    exact ⟨before, after, rfl, rfl, admits_eq_true_iff.1 hb⟩

instance : Decidable (boundary.Accepts token text start) :=
  decidable_of_iff
    (((Text.dropBytes? text start).bind (boundary.afterToken? token)).isSome = true) <| by
      rw [accepts_iff, Option.isSome_iff_exists]
      simp only [Option.bind_eq_some_iff]
      exact exists_comm

theorem accepts_zero_iff :
    boundary.Accepts token text 0 ↔ ∃ after, boundary.afterToken? token text = some after := by
  simp [accepts_iff]

theorem accepts_append (before : List Char) :
    boundary.Accepts token (before ++ text) (Text.byteSize before + start) ↔
      boundary.Accepts token text start := by
  constructor
  · intro h
    obtain ⟨front, after, htext, hstart, ha⟩ := h
    rcases List.append_eq_append_iff.1 htext with ⟨mid, rfl, hrest⟩ | ⟨mid, rfl, hrest⟩
    · exact ⟨mid, after, hrest, by simpa using hstart, ha⟩
    · cases mid with
      | nil =>
        obtain rfl : start = 0 := by simp only [List.append_nil] at hstart; omega
        exact ⟨[], after, by simpa using hrest.symm, rfl, ha⟩
      | cons c mid =>
        -- the token would start before the text does
        have := c.utf8Size_pos
        simp only [Text.byteSize_append, Text.byteSize_cons] at hstart
        omega
  · intro h
    obtain ⟨front, after, rfl, rfl, ha⟩ := h
    exact ⟨before ++ front, after, by simp, by simp, ha⟩

theorem accepts_cons_iff {c : Char} {cs : List Char} :
    boundary.Accepts token (c :: cs) start ↔
      (start = 0 ∧ ∃ after, boundary.afterToken? token (c :: cs) = some after) ∨
        ∃ n, start = c.utf8Size + n ∧ boundary.Accepts token cs n := by
  constructor
  · intro h
    obtain ⟨before, after, htext, rfl, ha⟩ := h
    cases before with
    | nil => exact .inl ⟨rfl, accepts_zero_iff.1 ⟨[], after, htext, rfl, ha⟩⟩
    | cons b before =>
      obtain ⟨rfl, htail⟩ := List.cons.inj htext
      exact .inr ⟨Text.byteSize before, rfl, before, after, htail, rfl, ha⟩
  · intro h
    rcases h with ⟨rfl, h⟩ | ⟨n, rfl, h⟩
    · exact accepts_zero_iff.2 h
    · exact (accepts_append [c]).2 h

theorem Accepts.stop_le (h : boundary.Accepts token text start) :
    start + Text.byteSize token ≤ Text.byteSize text := by
  obtain ⟨before, after, rfl, rfl, -⟩ := h
  simp only [Text.byteSize_append]
  omega

theorem Accepts.slice? (h : boundary.Accepts token text start) :
    Text.slice? text start (start + Text.byteSize token) = some token := by
  obtain ⟨before, after, rfl, rfl, -⟩ := h
  exact Text.slice?_eq_some_iff.2 ⟨before, after, rfl, rfl, rfl⟩

end

def firstAccepted? (boundary : Boundary) (tokens : List String) (text : List Char) (start : Nat) :
    Option String :=
  tokens.find? fun token => decide (token ≠ "" ∧ boundary.Accepts token.toList text start)

section
variable {boundary : Boundary} {tokens : List String} {text : List Char} {start : Nat}
  {token : String}

theorem firstAccepted?_accepts (h : boundary.firstAccepted? tokens text start = some token) :
    token ∈ tokens ∧ token ≠ "" ∧ boundary.Accepts token.toList text start := by
  have hp := List.find?_some h
  exact ⟨List.mem_of_find?_eq_some h, of_decide_eq_true hp⟩

theorem firstAccepted?_eq_none_iff :
    boundary.firstAccepted? tokens text start = none ↔
      ∀ token ∈ tokens, token ≠ "" → ¬boundary.Accepts token.toList text start := by
  simp [firstAccepted?, List.find?_eq_none]

theorem firstAccepted?_append (before : List Char) :
    boundary.firstAccepted? tokens (before ++ text) (Text.byteSize before + start) =
      boundary.firstAccepted? tokens text start := by
  simp only [firstAccepted?, accepts_append]

theorem firstAccepted?_filter :
    boundary.firstAccepted? (tokens.filter (· != "")) text start =
      boundary.firstAccepted? tokens text start := by
  rw [firstAccepted?, List.find?_filter, firstAccepted?]
  congr 1
  funext token
  by_cases h : token = "" <;> simp [h]

end

end Boundary

end DocstringTags
