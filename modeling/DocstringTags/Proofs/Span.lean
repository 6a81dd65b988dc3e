import DocstringTags.Proofs.Text.Boundary
import DocstringTags.Span

set_option autoImplicit false

namespace DocstringTags.Span

def move (s : Span) (delta : Nat) : Span := ⟨s.start + delta, s.stop + delta⟩

theorem move_move (s : Span) (m n : Nat) : (s.move m).move n = s.move (n + m) := by
  simp only [move, Span.mk.injEq]
  omega

theorem shift_eq {s : Span} (delta : Nat) (h : s.start ≤ s.stop) :
    s.shift delta =
      if s.stop + delta ≤ maxOffset then .ok (s.move delta)
      else .error (.overflow s.stop delta) := by
  unfold shift
  by_cases hstop : s.stop + delta ≤ maxOffset
  · have hstart : s.start + delta ≤ maxOffset := by omega
    simp [hstart, hstop, move]
  · simp [hstop]

variable {s : Span} {text part : String}

theorem slice?_eq_some_iff :
    s.slice? text = some part ↔ Text.slice? text.toList s.start s.stop = some part.toList := by
  unfold slice?
  rw [Option.map_eq_some_iff]
  constructor
  · intro h
    obtain ⟨cs, hcs, rfl⟩ := h
    simpa using hcs
  · intro h
    exact ⟨part.toList, h, String.ofList_toList⟩

theorem stop_eq_of_slice? (h : s.slice? text = some part) :
    s.stop = s.start + part.utf8ByteSize := by
  obtain ⟨before, after, -, hstart, hstop⟩ := Text.slice?_eq_some_iff.1 (slice?_eq_some_iff.1 h)
  rw [hstop, hstart, Text.byteSize_toList]

theorem stop_le_of_slice? (h : s.slice? text = some part) : s.stop ≤ text.utf8ByteSize := by
  obtain ⟨before, after, htext, -, hstop⟩ := Text.slice?_eq_some_iff.1 (slice?_eq_some_iff.1 h)
  rw [← Text.byteSize_toList, htext, hstop]
  simp only [Text.byteSize_append]
  omega

theorem isBoundary_stop_of_slice? (h : s.slice? text = some part) :
    Text.IsBoundary text.toList s.stop := by
  obtain ⟨before, after, htext, -, hstop⟩ := Text.slice?_eq_some_iff.1 (slice?_eq_some_iff.1 h)
  exact ⟨before ++ part.toList, after, by simp [htext], by simp [hstop]⟩

/-- A part of a part stands in the whole text where both offsets together say. -/
theorem slice?_move {inner : Span} {found : String} (h : s.slice? text = some part)
    (hi : inner.slice? part = some found) : (inner.move s.start).slice? text = some found := by
  obtain ⟨before, after, htext, hstart, -⟩ :=
    Text.slice?_eq_some_iff.1 (slice?_eq_some_iff.1 h)
  obtain ⟨front, behind, hpart, hfront, hstop⟩ :=
    Text.slice?_eq_some_iff.1 (slice?_eq_some_iff.1 hi)
  refine slice?_eq_some_iff.2 (Text.slice?_eq_some_iff.2 ⟨before ++ front, behind ++ after, ?_⟩)
  refine ⟨?_, ?_, ?_⟩
  · rw [htext, hpart]
    simp
  · simp only [move, hstart, hfront, Text.byteSize_append]
    omega
  · simp only [move, hstart, hstop, Text.byteSize_append]
    omega

theorem slice?_append (behind : String) (h : s.slice? text = some part) :
    s.slice? (text ++ behind) = some part := by
  obtain ⟨before, after, htext, hstart, hstop⟩ :=
    Text.slice?_eq_some_iff.1 (slice?_eq_some_iff.1 h)
  refine slice?_eq_some_iff.2 (Text.slice?_eq_some_iff.2 ⟨before, after ++ behind.toList, ?_⟩)
  exact ⟨by simp [htext], hstart, hstop⟩

theorem slice?_move_append (front : String) (h : s.slice? text = some part) :
    (s.move front.utf8ByteSize).slice? (front ++ text) = some part := by
  have hwhole : (⟨front.utf8ByteSize, front.utf8ByteSize + text.utf8ByteSize⟩ : Span).slice?
      (front ++ text) = some text := by
    refine slice?_eq_some_iff.2 (Text.slice?_eq_some_iff.2 ⟨front.toList, [], ?_⟩)
    simp [Text.byteSize_toList]
  exact slice?_move hwhole h

end DocstringTags.Span
