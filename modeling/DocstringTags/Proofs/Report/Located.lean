import DocstringTags.Proofs.Span
import DocstringTags.Report.Basic

set_option autoImplicit false

namespace DocstringTags

theorem Text.exists_slice?_iff {cs : List Char} {start stop : Nat} (h : start ≤ stop) :
    (∃ part, slice? cs start stop = some part) ↔ IsBoundary cs start ∧ IsBoundary cs stop := by
  constructor
  · intro ⟨part, hpart⟩
    obtain ⟨before, after, rfl, rfl, rfl⟩ := slice?_eq_some_iff.1 hpart
    exact ⟨isBoundary_append before _, before ++ part, after, by simp, by simp⟩
  · intro ⟨hstart, hstop⟩
    obtain hlt | rfl := Nat.lt_or_eq_of_le h
    · obtain ⟨before, part, after, hcs, -, hbefore, hpart⟩ := hstart.exists_between hstop hlt
      exact ⟨part, slice?_eq_some_iff.2 ⟨before, after, hcs, hbefore, by simpa using hpart⟩⟩
    · obtain ⟨before, after, hcs, hbefore⟩ := hstart
      exact ⟨[], slice?_eq_some_iff.2 ⟨before, after, hcs, hbefore, by simpa using hbefore⟩⟩

namespace Span
variable {s : Span} {text part : String}

theorem slice?_eq_some_iff_append :
    s.slice? text = some part ↔
      ∃ before after, text = before ++ part ++ after ∧ s.start = before.utf8ByteSize ∧
        s.stop = s.start + part.utf8ByteSize := by
  rw [slice?_eq_some_iff, Text.slice?_eq_some_iff]
  constructor
  · rintro ⟨before, after, htext, hstart, hstop⟩
    refine ⟨.ofList before, .ofList after, ?_, ?_, ?_⟩
    · rw [← String.toList_inj, htext]
      simp
    · rw [hstart, ← Text.byteSize_toList, String.toList_ofList]
    · rw [hstop, hstart, ← Text.byteSize_toList]
  · rintro ⟨before, after, htext, hstart, hstop⟩
    refine ⟨before.toList, after.toList, ?_, ?_, ?_⟩
    · rw [htext]
      simp
    · rw [hstart, Text.byteSize_toList]
    · rw [hstop, hstart, Text.byteSize_toList, Text.byteSize_toList]

end Span

namespace Report

/-- The part is what the highlight covers of a source that begins at offset `base`. -/
def Entry.IsTextIn (e : Entry) (source : String) (base : Nat) (part : String) : Prop :=
  ∃ before after, source = before ++ part ++ after ∧ e.start = base + before.utf8ByteSize ∧
    e.stop = e.start + part.utf8ByteSize

variable {e : Entry} {source part : String} {base : Nat}

theorem Entry.text_locate (e : Entry) (source : String) (base : Nat) :
    (e.locate source base).text = (⟨e.start - base, e.stop - base⟩ : Span).slice? source := rfl

theorem Entry.text_locate_of_le (h : e.start ≤ e.stop) (hbase : base ≤ e.start) :
    (e.locate source base).text = some part ↔ e.IsTextIn source base part := by
  rw [text_locate, Span.slice?_eq_some_iff_append, IsTextIn]
  refine exists_congr fun before => exists_congr fun after => and_congr_right fun _ => ?_
  -- the base is taken off both bounds, so neither difference is cut off at zero
  simp only
  omega

theorem Entry.text_locate_of_lt (hbase : e.start < base) :
    (e.locate source base).text = some part ↔
      ∃ after, source = part ++ after ∧ part.utf8ByteSize = e.stop - base := by
  have hzero : e.start - base = 0 := by omega
  rw [text_locate, hzero, Span.slice?_eq_some_iff_append]
  constructor
  · rintro ⟨before, after, hsource, hstart, hstop⟩
    obtain rfl : before = "" := String.utf8ByteSize_eq_zero_iff.1 hstart.symm
    exact ⟨after, by simpa using hsource, by simpa using hstop.symm⟩
  · rintro ⟨after, hsource, hsize⟩
    exact ⟨"", after, by simpa using hsource, rfl, by simpa using hsize.symm⟩

theorem Entry.locate_text (e : Entry) (source : String) (base : Nat) (h : e.start ≤ e.stop) :
    ((e.locate source base).start = e.start ∧ (e.locate source base).stop = e.stop ∧
      (e.locate source base).style = e.style) ∧
    (base ≤ e.start → ∀ part,
      (e.locate source base).text = some part ↔ e.IsTextIn source base part) ∧
    (e.start < base → ∀ part, (e.locate source base).text = some part ↔
      ∃ after, source = part ++ after ∧ part.utf8ByteSize = e.stop - base) ∧
    ((e.locate source base).text = none ↔
      ¬(Text.IsBoundary source.toList (e.start - base) ∧
        Text.IsBoundary source.toList (e.stop - base))) := by
  refine ⟨⟨rfl, rfl, rfl⟩, fun hbase part => text_locate_of_le h hbase,
    fun hbase part => text_locate_of_lt hbase, ?_⟩
  rw [← Text.exists_slice?_iff (Nat.sub_le_sub_right h base), text_locate, Span.slice?,
    Option.map_eq_none_iff, Option.eq_none_iff_forall_ne_some]
  exact not_exists.symm

def tagBehindLetter : Entry := .ofHighlight ⟨⟨102, 108⟩, .docCommentTag⟩

theorem Entry.locate_text_of_tagBehindLetter :
    tagBehindLetter.start ≤ tagBehindLetter.stop ∧ 100 ≤ tagBehindLetter.start ∧
      tagBehindLetter.IsTextIn "é@param x" 100 "@param" :=
  have h : tagBehindLetter.start ≤ tagBehindLetter.stop := by decide
  have hbase : 100 ≤ tagBehindLetter.start := by decide
  have htext : (tagBehindLetter.locate "é@param x" 100).text = some "@param" := by decide
  ⟨h, hbase, ((Entry.locate_text tagBehindLetter "é@param x" 100 h).2.1 hbase "@param").1 htext⟩

def aheadOfSource : Entry := .ofHighlight ⟨⟨3, 6⟩, .docCommentTag⟩

/-- One byte is reported for three that are highlighted. -/
theorem Entry.locate_aheadOfSource :
    aheadOfSource.start ≤ aheadOfSource.stop ∧ aheadOfSource.start < 5 ∧
      (aheadOfSource.locate "abcdef" 5).text = some "a" ∧
      "a".utf8ByteSize ≠ aheadOfSource.stop - aheadOfSource.start := by
  decide

end Report

end DocstringTags
