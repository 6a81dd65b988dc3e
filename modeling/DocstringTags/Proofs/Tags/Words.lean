import DocstringTags.Format
import DocstringTags.Proofs.Tags.Run
import Mathlib.Data.List.Sort

/-! Tags that are words: a sigil and the letters and numbers right behind it. The search for the
tokens one by one comes to looking each word up in the table, since no word holds a sigil inside and
no token is accepted at the front of a longer word. Main statements: `IsVocabulary.accepts_iff` for
one place, `IsVocabulary.isWordList` for a list of tags, and `findAll_words` for the two formats that
have a table.
-/

set_option autoImplicit false

namespace DocstringTags

/-- The sigil stands at the start of the span, and with all letters and numbers that follow it up to
the stop of the span it is one of the tokens. -/
def IsWordTag (sigil : Char) (tokens : List String) (text : List Char) (span : Span) : Prop :=
  ∃ before rest, text = before ++ sigil :: rest ∧
    String.ofList (sigil :: rest.takeWhile Text.isAlphanumeric) ∈ tokens ∧
    span = Span.ofSize (Text.byteSize before)
      (Text.byteSize (sigil :: rest.takeWhile Text.isAlphanumeric))

structure IsWordList (sigil : Char) (tokens : List String) (text : List Char) (offset : Nat)
    (spans : List Span) : Prop where
  mem_iff : ∀ span, span ∈ spans ↔ offset ≤ span.start ∧ IsWordTag sigil tokens text span
  increasing : spans.Pairwise fun span later => span.start < later.start

/-- All tokens are words behind the same sigil, which cannot stand inside a word. -/
structure IsVocabulary (sigil : Char) (tokens : List String) : Prop where
  sigil_ends : Text.isAlphanumeric sigil = false
  word : ∀ token ∈ tokens, ∃ word, token.toList = sigil :: word ∧
    ∀ c ∈ word, Text.isAlphanumeric c = true

section
variable {sigil : Char} {tokens others : List String} {text : List Char} {offset : Nat}
  {span other : Span} {spans : List Span}

/-- A word ends before the next sigil. -/
theorem byteSize_takeWhile_le (h : Text.isAlphanumeric sigil = false) (word rest : List Char) :
    Text.byteSize ((word ++ sigil :: rest).takeWhile Text.isAlphanumeric) ≤
      Text.byteSize word := by
  induction word with
  | nil => simp [h]
  | cons c word ih =>
    by_cases hc : Text.isAlphanumeric c = true
    · simpa [hc] using ih
    · simp [hc]

theorem IsWordTag.eq_of_start_within (hsigil : Text.isAlphanumeric sigil = false)
    (h : IsWordTag sigil tokens text span) (ho : IsWordTag sigil tokens text other)
    (hle : span.start ≤ other.start) (hlt : other.start < span.stop) : span = other := by
  obtain ⟨before, rest, htext, -, rfl⟩ := h
  obtain ⟨front, later, htext', -, rfl⟩ := ho
  simp only [Span.ofSize] at hle hlt
  rcases List.append_eq_append_iff.1 (htext.symm.trans htext') with
    ⟨mid, rfl, hrest⟩ | ⟨mid, rfl, hrest⟩
  · cases mid with
    | nil =>
      obtain rfl : rest = later := by simpa using hrest
      simp
    | cons c mid =>
      -- the other sigil would stand inside the word
      obtain ⟨rfl, rfl⟩ : sigil = c ∧ rest = mid ++ sigil :: later := by simpa using hrest
      have := byteSize_takeWhile_le hsigil mid later
      simp only [Text.byteSize_append, Text.byteSize_cons] at hlt
      omega
  · cases mid with
    | nil =>
      obtain rfl : later = rest := by simpa using hrest
      simp
    | cons c mid =>
      have := c.utf8Size_pos
      simp only [Text.byteSize_append, Text.byteSize_cons] at hle
      omega

namespace IsWordList

theorem unique (h : IsWordList sigil tokens text offset spans) {spans' : List Span}
    (h' : IsWordList sigil tokens text offset spans') : spans = spans' := by
  have : Std.Irrefl fun span later : Span => span.start < later.start := ⟨fun _ => Nat.lt_irrefl _⟩
  have : Std.Antisymm fun span later : Span => span.start < later.start :=
    ⟨fun _ _ h h' => absurd h (Nat.lt_asymm h')⟩
  refine h.increasing.eq_of_mem_iff h'.increasing fun span => ?_
  rw [h.mem_iff, h'.mem_iff]

theorem congr (h : IsWordList sigil tokens text offset spans)
    (hsame : ∀ token, token ∈ tokens ↔ token ∈ others) :
    IsWordList sigil others text offset spans where
  mem_iff span := by
    rw [h.mem_iff]
    simp only [IsWordTag, hsame]
  increasing := h.increasing

theorem filter (h : IsWordList sigil tokens text offset spans) {later : Nat}
    (hle : offset ≤ later) :
    IsWordList sigil tokens text later (spans.filter (later ≤ ·.start)) where
  mem_iff span := by
    rw [List.mem_filter, h.mem_iff, decide_eq_true_eq]
    constructor
    · rintro ⟨⟨-, htag⟩, hspan⟩
      exact ⟨hspan, htag⟩
    · rintro ⟨hspan, htag⟩
      exact ⟨⟨Nat.le_trans hle hspan, htag⟩, hspan⟩
  increasing := h.increasing.filter _

end IsWordList

namespace IsVocabulary

theorem of_head (hsigil : Text.isAlphanumeric sigil = false)
    (h : (tokens.all fun token => token.toList.head? == some sigil &&
      token.toList.tail.all Text.isAlphanumeric) = true) : IsVocabulary sigil tokens where
  sigil_ends := hsigil
  word token ht := by
    have htoken := List.all_eq_true.1 h token ht
    simp only [Bool.and_eq_true, beq_iff_eq, List.all_eq_true] at htoken
    exact ⟨token.toList.tail, List.eq_cons_of_mem_head? htoken.1, htoken.2⟩

theorem perm (h : IsVocabulary sigil tokens) (hperm : others.Perm tokens) :
    IsVocabulary sigil others :=
  ⟨h.sigil_ends, fun token ht => h.word token (hperm.mem_iff.1 ht)⟩

theorem tokens_ofTokens (h : IsVocabulary sigil tokens) (boundary : Boundary) :
    (TagSet.ofTokens tokens boundary).tokens = tokens := by
  rw [TagSet.tokens_ofTokens, List.filter_eq_self]
  intro token ht
  obtain ⟨word, htoken, -⟩ := h.word token ht
  have hne : token ≠ "" := by
    rintro rfl
    simp at htoken
  simpa using hne

theorem accepts_iff (h : IsVocabulary sigil tokens) {token : String} (ht : token ∈ tokens)
    {start : Nat} :
    Boundary.wordEnd.Accepts token.toList text start ↔
      ∃ before rest, text = before ++ sigil :: rest ∧ start = Text.byteSize before ∧
        token.toList = sigil :: rest.takeWhile Text.isAlphanumeric := by
  constructor
  · rintro ⟨before, after, rfl, rfl, hafter⟩
    obtain ⟨word, htoken, hword⟩ := h.word token ht
    refine ⟨before, word ++ after, by simp [htoken], rfl, ?_⟩
    rw [Text.takeWhile_append_of_head hword (hafter rfl), htoken]
  · rintro ⟨before, rest, rfl, rfl, htoken⟩
    refine ⟨before, rest.dropWhile Text.isAlphanumeric, ?_, rfl, fun _ c hc => ?_⟩
    · rw [htoken, List.cons_append, List.takeWhile_append_dropWhile]
    · have hhead := List.head?_dropWhile_not Text.isAlphanumeric rest
      rw [Option.mem_def.1 hc] at hhead
      exact hhead

end IsVocabulary

end

namespace IsVocabulary
variable {sigil : Char} {tokens : List String} {text : String} {offset : Nat} {spans : List Span}

theorem isWordTag_of_mem (h : IsVocabulary sigil tokens)
    (hlist : IsTagList (.ofTokens tokens .wordEnd) text offset spans) {span : Span}
    (hspan : span ∈ spans) : IsWordTag sigil tokens text.toList span := by
  obtain ⟨token, hfirst, hslice⟩ := hlist.token span hspan
  obtain ⟨ht, -, ha⟩ := Boundary.firstAccepted?_accepts hfirst
  rw [h.tokens_ofTokens] at ht
  obtain ⟨before, rest, htext, hstart, htoken⟩ := (h.accepts_iff ht).1 ha
  refine ⟨before, rest, htext, ?_, ?_⟩
  · rwa [← htoken, String.ofList_toList]
  · have hstop := Span.stop_eq_of_slice? hslice
    rw [← Text.byteSize_toList, htoken] at hstop
    cases span
    simp_all [Span.ofSize]

theorem isWordList (h : IsVocabulary sigil tokens)
    (hlist : IsTagList (.ofTokens tokens .wordEnd) text offset spans) :
    IsWordList sigil tokens text.toList offset spans where
  mem_iff span := by
    constructor
    · intro hspan
      exact ⟨(hlist.bounds span hspan).1, h.isWordTag_of_mem hlist hspan⟩
    · rintro ⟨hle, htag⟩
      obtain ⟨before, rest, htext, ht, hspan⟩ := id htag
      have ha := (h.accepts_iff ht).2 ⟨before, rest, htext, rfl, String.toList_ofList⟩
      have hstart : span.start = Text.byteSize before := by rw [hspan]; rfl
      rw [← hstart] at ha
      obtain ⟨within, hw, hwle, hwlt⟩ :=
        hlist.complete span.start hle _ (by rwa [h.tokens_ofTokens]) ha
      -- the tag that covers the place is the tag at the place
      obtain rfl : within = span :=
        (h.isWordTag_of_mem hlist hw).eq_of_start_within h.sigil_ends htag hwle hwlt
      exact hw
  increasing := by
    refine hlist.pairwise.imp_of_mem fun {span later} hspan _ hle => ?_
    have := (hlist.bounds span hspan).2.1
    omega

theorem findAll_eq_ok_iff (h : IsVocabulary sigil tokens) :
    findAll text offset (.ofTokens tokens .wordEnd) = .ok spans ↔
      Text.IsBoundary text.toList offset ∧ IsWordList sigil tokens text.toList offset spans := by
  constructor
  · intro hspans
    obtain ⟨hb, hlist⟩ := DocstringTags.findAll_eq_ok_iff.1 hspans
    exact ⟨hb, h.isWordList hlist⟩
  · rintro ⟨hb, hwords⟩
    obtain ⟨found, hfound, hlist⟩ := findAll_isTagList hb (.ofTokens tokens .wordEnd)
    rw [hfound, (h.isWordList hlist).unique hwords]

end IsVocabulary

namespace Format

def vocabulary? : Format → Option (Char × List String)
  | .epytext => some ('@', epytextTokens)
  | .rest => some (':', restTokens)
  | .plain | .numpy | .google => none

theorem tags?_eq (format : Format) :
    format.tags? = format.vocabulary?.map fun v => .ofTokens v.2 .wordEnd := by
  cases format <;> rfl

theorem isVocabulary {format : Format} {sigil : Char} {tokens : List String}
    (h : format.vocabulary? = some (sigil, tokens)) : IsVocabulary sigil tokens := by
  cases format with
  | epytext =>
    obtain ⟨rfl, rfl⟩ := Prod.mk.inj (Option.some.inj h)
    exact .of_head (by decide) (by decide)
  | rest =>
    obtain ⟨rfl, rfl⟩ := Prod.mk.inj (Option.some.inj h)
    exact .of_head (by decide) (by decide)
  | plain => cases h
  | numpy => cases h
  | google => cases h

end Format

theorem findAll_words (format : Format) (sigil : Char) (tokens : List String) (text : String)
    (offset : Nat) (hformat : format.vocabulary? = some (sigil, tokens))
    (hoffset : Text.IsBoundary text.toList offset) :
    ∃ tags spans, format.tags? = some tags ∧ findAll text offset tags = .ok spans ∧
      IsWordList sigil tokens text.toList offset spans ∧
      (∀ others : List String, others.Perm tokens →
        findAll text offset (.ofTokens others .wordEnd) = .ok spans) ∧
      ∀ later, offset ≤ later → Text.IsBoundary text.toList later →
        findAll text later tags = .ok (spans.filter (later ≤ ·.start)) := by
  have hv := Format.isVocabulary hformat
  obtain ⟨spans, hspans, hlist⟩ := findAll_isTagList hoffset (.ofTokens tokens .wordEnd)
  have hwords := hv.isWordList hlist
  refine ⟨.ofTokens tokens .wordEnd, spans, by simp [Format.tags?_eq, hformat], hspans, hwords,
    fun others hperm => ?_, fun later hle hb => ?_⟩
  · exact (hv.perm hperm).findAll_eq_ok_iff.2
      ⟨hoffset, hwords.congr fun token => hperm.mem_iff.symm⟩
  · exact hv.findAll_eq_ok_iff.2 ⟨hb, hwords.filter hle⟩

/-- A word and a longer one behind a letter of two bytes. -/
theorem findAll_words_of_params :
    Format.rest.vocabulary? = some (':', restTokens) ∧
      Text.IsBoundary "é :param :params".toList 3 ∧
      ∃ tags spans, Format.rest.tags? = some tags ∧
        findAll "é :param :params" 3 tags = .ok spans ∧
        IsWordList ':' restTokens "é :param :params".toList 3 spans ∧
        (∀ others : List String, others.Perm restTokens →
          findAll "é :param :params" 3 (.ofTokens others .wordEnd) = .ok spans) ∧
        ∀ later, 3 ≤ later → Text.IsBoundary "é :param :params".toList later →
          findAll "é :param :params" later tags = .ok (spans.filter (later ≤ ·.start)) :=
  have h : Text.IsBoundary "é :param :params".toList 3 :=
    ⟨['é', ' '], ":param :params".toList, by decide, by decide⟩
  ⟨rfl, h, findAll_words .rest ':' restTokens "é :param :params" 3 rfl h⟩

end DocstringTags
