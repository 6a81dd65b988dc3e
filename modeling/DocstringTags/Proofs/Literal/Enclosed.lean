import DocstringTags.Proofs.Literal.Rendered

set_option autoImplicit false

namespace DocstringTags.Literal

/-- What stands in front of the quote that closes a literal, and what stands behind that quote. -/
def closing? : List Char → Option (List Char × List Char)
  | [] => none
  | c :: cs =>
    if c = '"' then some ([], cs)
    else if c = '\\' then
      match cs with
      | [] => none
      | e :: cs => (closing? cs).map fun (inside, behind) => (c :: e :: inside, behind)
    else (closing? cs).map fun (inside, behind) => (c :: inside, behind)

def firstLiteral? (text : String) : Option (String × String) :=
  match text.toList with
  | '"' :: cs =>
    (closing? cs).map fun (inside, behind) =>
      (String.ofList ('"' :: inside ++ ['"']), String.ofList behind)
  | _ => none

def lineBreaks : List Char :=
  ['\n', '\r', '\x0b', '\x0c', '\u0085', '\u2028', '\u2029']

/-- Inside a literal the reader does not stop anywhere in this text. -/
def Passes (written : List Char) : Prop :=
  ∀ cs, closing? (written ++ cs) =
    (closing? cs).map fun (inside, behind) => (written ++ inside, behind)

theorem Passes.nil : Passes [] := by
  intro cs
  simp

theorem Passes.append {front back : List Char} (hfront : Passes front) (hback : Passes back) :
    Passes (front ++ back) := by
  intro cs
  rw [List.append_assoc, hfront, hback, Option.map_map]
  simp [Function.comp_def]

theorem Passes.flatMap {α : Type} {f : α → List Char} {xs : List α}
    (h : ∀ x ∈ xs, Passes (f x)) : Passes (xs.flatMap f) := by
  induction xs with
  | nil => exact .nil
  | cons x xs ih =>
    obtain ⟨hx, hxs⟩ := List.forall_mem_cons.1 h
    exact hx.append (ih hxs)

theorem passes_char {c : Char} (hquote : c ≠ '"') (hback : c ≠ '\\') : Passes [c] := by
  intro cs
  rw [List.singleton_append, closing?.eq_def]
  simp [hquote, hback]

theorem passes_pair (e : Char) : Passes ['\\', e] := by
  intro cs
  rw [List.cons_append, closing?.eq_def]
  simp

theorem passes_of_forall {written : List Char} (h : ∀ c ∈ written, c ≠ '"' ∧ c ≠ '\\') :
    Passes written := by
  have hchars : Passes (written.flatMap fun c => [c]) :=
    .flatMap fun c hc => passes_char (h c hc).1 (h c hc).2
  rwa [List.flatMap_singleton'] at hchars

theorem passes_escapeUnit (n : Nat) : Passes (escapeUnit n) := by
  have hdigits := forall_digits (p := fun d => d ≠ '"' ∧ d ≠ '\\') (by decide) n
  exact (passes_pair 'u').append (passes_of_forall hdigits)

theorem passes_escapeChar (c : Char) : Passes (escapeChar c) := by
  rcases escapeChar_cases c with
    ⟨-, e, -, -, hwritten⟩ | ⟨hnamed, -, hwritten⟩ | ⟨-, -, hwritten⟩
  · rw [hwritten]
    exact passes_pair e
  · -- a quote or a backslash that is copied would end the literal or take its end along
    have hquote : c ≠ '"' := (ne_of_mem_of_not_mem (by decide) hnamed).symm
    have hback : c ≠ '\\' := (ne_of_mem_of_not_mem (by decide) hnamed).symm
    rw [hwritten]
    exact passes_char hquote hback
  · rw [hwritten]
    exact .flatMap fun n _ => passes_escapeUnit n

theorem passes_escape (value : String) : Passes (escape value).toList := by
  rw [toList_escape]
  exact .flatMap fun c _ => passes_escapeChar c

theorem closing?_of_passes {written : List Char} (h : Passes written) (cs : List Char) :
    closing? (written ++ '"' :: cs) = some (written, cs) := by
  rw [h, closing?.eq_def]
  simp

theorem toList_quote (write : String → String) (value : String) :
    (quote write value).toList = '"' :: (write value).toList ++ ['"'] := by
  rw [quote, String.toList_ofList]

theorem isPlain_of_mem_quote {value : String} {c : Char} (h : c ∈ (quote escape value).toList) :
    isPlain c = true := by
  rw [toList_quote, List.mem_append, List.mem_cons, List.mem_singleton] at h
  rcases h with (rfl | h) | rfl
  · decide
  · exact isPlain_of_mem_escape h
  · decide

theorem firstLiteral?_quote (value following : String) :
    firstLiteral? (quote escape value ++ following) = some (quote escape value, following) ∧
      ∀ c ∈ (quote escape value).toList, c ∉ lineBreaks := by
  constructor
  · have htext : (quote escape value ++ following).toList =
        '"' :: ((escape value).toList ++ '"' :: following.toList) := by
      simp [toList_quote]
    rw [firstLiteral?, htext]
    simp [closing?_of_passes (passes_escape value), quote]
  · intro c hc hbreak
    have hnot : ∀ c ∈ lineBreaks, ¬isPlain c = true := by
      simp only [lineBreaks, List.forall_mem_cons, List.not_mem_nil, false_imp_iff, implies_true]
      decide
    exact hnot c hbreak (isPlain_of_mem_quote hc)

end DocstringTags.Literal
