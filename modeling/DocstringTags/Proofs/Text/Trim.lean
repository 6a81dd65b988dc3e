import DocstringTags.Proofs.Text.Boundary
import DocstringTags.Text.CharClass
import Mathlib.Data.List.DropRight

set_option autoImplicit false

namespace DocstringTags.Text

/-- The core is what lies between the blanks around it. -/
structure IsTrimmed (cs core : List Char) : Prop where
  around : ∃ before after, cs = before ++ (core ++ after) ∧
    (∀ c ∈ before, isBlank c = true) ∧ ∀ c ∈ after, isBlank c = true
  first : ∀ c ∈ core.head?, isBlank c = false
  last : ∀ c ∈ core.getLast?, isBlank c = false

variable {cs core : List Char}

theorem trim_eq_rdropWhile (cs : List Char) :
    trim cs = (cs.dropWhile isBlank).rdropWhile isBlank := rfl

theorem trim_of_blank (h : ∀ c ∈ cs, isBlank c = true) : trim cs = [] := by
  rw [trim_eq_rdropWhile, List.dropWhile_eq_nil_iff.2 h, List.rdropWhile_nil]

theorem isTrimmed_trim (cs : List Char) : IsTrimmed cs (trim cs) where
  around := by
    refine ⟨cs.takeWhile isBlank, (cs.dropWhile isBlank).rtakeWhile isBlank, ?_, ?_, ?_⟩
    · rw [trim_eq_rdropWhile, List.rdropWhile_append_rtakeWhile, List.takeWhile_append_dropWhile]
    · exact fun c hc => List.mem_takeWhile_imp hc
    · exact fun c hc => List.mem_rtakeWhile_imp hc
  first := by
    intro c hc
    obtain ⟨after, hafter⟩ : trim cs <+: cs.dropWhile isBlank := List.rdropWhile_prefix _ _
    have hhead : (cs.dropWhile isBlank).head? = some c := by
      rw [← hafter, List.head?_append, hc, Option.some_or]
    have hnot := List.head?_dropWhile_not isBlank cs
    rw [hhead] at hnot
    simpa using hnot
  last := by
    intro c hc
    obtain ⟨hne, hlast⟩ := List.mem_getLast?_eq_getLast hc
    have hnot := List.rdropWhile_last_not isBlank _ hne
    rw [hlast]
    exact Bool.eq_false_iff.2 hnot

theorem IsTrimmed.eq_trim (h : IsTrimmed cs core) : core = trim cs := by
  obtain ⟨before, after, rfl, hbefore, hafter⟩ := h.around
  by_cases hcore : core = []
  · subst hcore
    have hall : ∀ c ∈ before ++ ([] ++ after), isBlank c = true :=
      List.forall_mem_append.2 ⟨hbefore, hafter⟩
    rw [trim_of_blank hall]
  · have hhead : ∀ c ∈ (core ++ after).head?, isBlank c = false := by
      rw [List.head?_append_of_ne_nil _ hcore]
      exact h.first
    have hlast : ∀ c ∈ core.reverse.head?, isBlank c = false := by
      rw [List.head?_reverse]
      exact h.last
    have hbehind : ∀ c ∈ after.reverse, isBlank c = true := fun c hc =>
      hafter c (List.mem_reverse.1 hc)
    rw [trim, dropWhile_append_of_head hbefore hhead, List.reverse_append,
      dropWhile_append_of_head hbehind hlast, List.reverse_reverse]

theorem isTrimmed_iff : IsTrimmed cs core ↔ core = trim cs :=
  ⟨IsTrimmed.eq_trim, fun h => h ▸ isTrimmed_trim cs⟩

end DocstringTags.Text
