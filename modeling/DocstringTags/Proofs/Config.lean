import DocstringTags.Config
import DocstringTags.Proofs.Text.Numeral
import DocstringTags.Proofs.Text.Trim

set_option autoImplicit false

namespace DocstringTags

namespace Format

def names : Format → List String
  | .plain => ["", "plain"]
  | .epytext => ["epytext", "epydoc"]
  | .rest => ["rest", "restructuredtext", "sphinx"]
  | .numpy => ["numpy"]
  | .google => ["google"]

def IsName (text : String) (format : Format) : Prop :=
  ∃ core, Text.IsTrimmed text.toList core ∧ String.ofList (core.map Char.toLower) ∈ format.names

variable {format : Format} {text : String}

theorem ofFolded?_eq_some_iff : ofFolded? text = some format ↔ text ∈ format.names := by
  constructor
  · intro h
    unfold ofFolded? at h
    split at h
    all_goals simp only [Option.some.injEq, reduceCtorEq] at h
    all_goals subst h; simp [names]
  · intro h
    cases format <;> simp only [names, List.mem_cons, List.not_mem_nil, or_false] at h
    case numpy | google => subst h; rfl
    case plain | epytext => obtain rfl | rfl := h <;> rfl
    case rest => obtain rfl | rfl | rfl := h <;> rfl

theorem ofName?_eq_some_iff : ofName? text = some format ↔ IsName text format := by
  rw [ofName?, ofFolded?_eq_some_iff, fold, IsName]
  simp only [Text.isTrimmed_iff, exists_eq_left]

theorem isName_of_blank (h : ∀ c ∈ text.toList, Text.isBlank c = true) : IsName text .plain :=
  ⟨[], Text.isTrimmed_iff.2 (Text.trim_of_blank h).symm, by simp [names]⟩

end Format

namespace Config

/-- The text is that of an offset, with blanks around it. -/
def IsOffset (text : String) (offset : Nat) : Prop :=
  ∃ core, Text.IsTrimmed text.toList core ∧ Text.IsNumeral core offset ∧ offset ≤ maxOffset

section
variable {text : String} {format : Format} {offset : Nat} {e : ConfigError}

theorem readFormat_eq_ok_iff : readFormat text = .ok format ↔ Format.IsName text format := by
  rw [← Format.ofName?_eq_some_iff, readFormat]
  cases Format.ofName? text <;> simp

theorem readFormat_eq_error_iff :
    readFormat text = .error e ↔ (∀ format : Format, ¬Format.IsName text format) ∧
      e = .unknownFormat text := by
  simp only [← Format.ofName?_eq_some_iff, ← Option.eq_none_iff_forall_ne_some, readFormat]
  cases Format.ofName? text <;> simp [eq_comm]

theorem readBaseOffset_eq_ok_iff : readBaseOffset text = .ok offset ↔ IsOffset text offset := by
  simp only [IsOffset, Text.isTrimmed_iff, exists_eq_left, ← Text.readNumeral_eq_ok_iff,
    readBaseOffset]
  cases Text.readNumeral maxOffset (Text.trim text.toList) <;> simp

theorem readBaseOffset_eq_error_iff :
    readBaseOffset text = .error e ↔ (∀ offset, ¬IsOffset text offset) ∧
      ∃ problem, Text.readNumeral maxOffset (Text.trim text.toList) = .error problem ∧
        e = .invalidValue "DOCTAG_BASE_OFFSET" text problem.message := by
  simp only [← readBaseOffset_eq_ok_iff, readBaseOffset, baseOffsetVariable]
  cases Text.readNumeral maxOffset (Text.trim text.toList) <;> simp [eq_comm]

theorem readBaseOffset_eq_invalidValue_iff {problem : Text.NumeralError} :
    readBaseOffset text = .error (.invalidValue "DOCTAG_BASE_OFFSET" text problem.message) ↔
      Text.readNumeral maxOffset (Text.trim text.toList) = .error problem := by
  rw [readBaseOffset, baseOffsetVariable]
  cases Text.readNumeral maxOffset (Text.trim text.toList) <;> simp [Text.NumeralError.message_inj]

end

section
variable {α : Type} (reads : String → α → Prop)

def IsReadable (written : Option String) : Prop := ∀ text ∈ written, ∃ value, reads text value

/-- The setting is what a flag says, else what a variable says, else the default. -/
inductive IsSettled (byDefault : α) (written : Option String) (flag : Option α) :
    Setting α → Prop where
  | flag (value : α) (hflag : flag = some value) : IsSettled byDefault written flag ⟨value, .flag⟩
  | environment (text : String) (value : α) (hflag : flag = none) (hset : written = some text)
    (hreads : reads text value) : IsSettled byDefault written flag ⟨value, .environment⟩
  | default (hflag : flag = none) (hset : written = none) :
    IsSettled byDefault written flag ⟨byDefault, .default⟩

variable {reads} {read : String → Except ConfigError α} {written : Option String}
  {flag found : Option α} {byDefault : α} {setting : Setting α} {e : ConfigError}

theorem mapM_read_eq_error_iff :
    written.mapM read = .error e ↔ ∃ text, written = some text ∧ read text = .error e := by
  cases written with
  | none => simp [pure, Except.pure]
  | some text => cases h : read text <;> simp [h, Functor.map, Except.map]

theorem mapM_read_some {text : String} (h : (some text).mapM read = .ok found) :
    ∃ value, read text = .ok value ∧ some value = found := by
  cases hread : read text with
  | error e => simp [hread, Functor.map, Except.map] at h
  | ok value => exact ⟨value, rfl, by simpa [hread, Functor.map, Except.map] using h⟩

theorem isReadable_iff (hread : ∀ text value, read text = .ok value ↔ reads text value) :
    IsReadable reads written ↔ ∃ found, written.mapM read = .ok found := by
  simp only [IsReadable, ← hread]
  cases written with
  | none => simp [pure, Except.pure]
  | some text => cases h : read text <;> simp [h, Functor.map, Except.map]

theorem settle_eq_iff (hread : ∀ text value, read text = .ok value ↔ reads text value)
    (h : written.mapM read = .ok found) :
    setting = settle byDefault found flag ↔ IsSettled reads byDefault written flag setting := by
  constructor
  · rintro rfl
    cases flag with
    | some value => exact .flag value rfl
    | none =>
      cases written with
      | none =>
        cases h
        exact .default rfl rfl
      | some text =>
        obtain ⟨value, hvalue, rfl⟩ := mapM_read_some h
        exact .environment text value rfl rfl ((hread text value).1 hvalue)
  · intro hsettled
    cases hsettled with
    | flag value hflag =>
      subst hflag
      cases found <;> rfl
    | environment text value hflag hset hreads =>
      subst hflag hset
      obtain ⟨other, hother, rfl⟩ := mapM_read_some h
      rw [(hread text value).2 hreads] at hother
      cases hother
      rfl
    | default hflag hset =>
      subst hflag hset
      cases h
      rfl

end

section
variable {environment : String → Option String} {flags : Flags} {config : Config} {e : ConfigError}

theorem resolve_eq_error_iff :
    resolve environment flags = .error e ↔
      (environment "DOCTAG_FORMAT").mapM readFormat = .error e ∨
        (∃ found, (environment "DOCTAG_FORMAT").mapM readFormat = .ok found) ∧
          (environment "DOCTAG_BASE_OFFSET").mapM readBaseOffset = .error e := by
  unfold resolve formatVariable baseOffsetVariable
  cases (environment "DOCTAG_FORMAT").mapM readFormat with
  | error problem => simp [bind, Except.bind]
  | ok format =>
    cases (environment "DOCTAG_BASE_OFFSET").mapM readBaseOffset <;>
      simp [bind, Except.bind, pure, Except.pure]

theorem resolve_eq_ok_iff :
    resolve environment flags = .ok config ↔
      ∃ format offset, (environment "DOCTAG_FORMAT").mapM readFormat = .ok format ∧
        (environment "DOCTAG_BASE_OFFSET").mapM readBaseOffset = .ok offset ∧
        config = ⟨settle .plain format flags.format, settle 0 offset flags.baseOffset⟩ := by
  unfold resolve formatVariable baseOffsetVariable
  cases (environment "DOCTAG_FORMAT").mapM readFormat with
  | error problem => simp [bind, Except.bind]
  | ok format =>
    cases (environment "DOCTAG_BASE_OFFSET").mapM readBaseOffset <;>
      simp [bind, Except.bind, pure, Except.pure, eq_comm]

theorem isReadable_format :
    IsReadable Format.IsName (environment "DOCTAG_FORMAT") ↔
      ∃ found, (environment "DOCTAG_FORMAT").mapM readFormat = .ok found :=
  isReadable_iff fun _ _ => readFormat_eq_ok_iff

theorem isReadable_baseOffset :
    IsReadable IsOffset (environment "DOCTAG_BASE_OFFSET") ↔
      ∃ found, (environment "DOCTAG_BASE_OFFSET").mapM readBaseOffset = .ok found :=
  isReadable_iff fun _ _ => readBaseOffset_eq_ok_iff

theorem config_eq_iff {format : Option Format} {offset : Option Nat}
    (hformat : (environment "DOCTAG_FORMAT").mapM readFormat = .ok format)
    (hoffset : (environment "DOCTAG_BASE_OFFSET").mapM readBaseOffset = .ok offset) :
    config = ⟨settle .plain format flags.format, settle 0 offset flags.baseOffset⟩ ↔
      IsSettled Format.IsName .plain (environment "DOCTAG_FORMAT") flags.format config.format ∧
        IsSettled IsOffset 0 (environment "DOCTAG_BASE_OFFSET") flags.baseOffset
          config.baseOffset := by
  rw [← settle_eq_iff (fun _ _ => readFormat_eq_ok_iff) hformat,
    ← settle_eq_iff (fun _ _ => readBaseOffset_eq_ok_iff) hoffset]
  cases config
  simp

theorem resolve_eq_error_iff_of_offset {text : String}
    (hformat : IsReadable Format.IsName (environment "DOCTAG_FORMAT"))
    (hset : environment "DOCTAG_BASE_OFFSET" = some text) :
    resolve environment flags = .error e ↔ readBaseOffset text = .error e := by
  obtain ⟨format, hread⟩ := isReadable_format.1 hformat
  rw [resolve_eq_error_iff, hread, hset, mapM_read_eq_error_iff]
  simp

theorem resolve_offset_eq_ok_iff {text : String} {offset : Nat}
    (hformat : IsReadable Format.IsName (environment "DOCTAG_FORMAT"))
    (hset : environment "DOCTAG_BASE_OFFSET" = some text) (hflag : flags.baseOffset = none) :
    (∃ format, resolve environment flags = .ok ⟨format, ⟨offset, .environment⟩⟩) ↔
      readBaseOffset text = .ok offset := by
  obtain ⟨format, hread⟩ := isReadable_format.1 hformat
  simp only [resolve_eq_ok_iff, hread, hset, hflag]
  constructor
  · rintro ⟨_, _, found, -, hfound, hconfig⟩
    obtain ⟨value, hvalue, rfl⟩ := mapM_read_some hfound
    rw [hvalue, (Setting.mk.inj (Config.mk.inj hconfig).2).1]
  · intro hvalue
    refine ⟨settle .plain format flags.format, format, some offset, rfl, ?_, rfl⟩
    simp [hvalue, Functor.map, Except.map]

end

theorem resolve_answers (environment : String → Option String) (flags : Flags) :
    (∀ e, resolve environment flags = .error e ↔
      (∃ text, environment "DOCTAG_FORMAT" = some text ∧
        (∀ format : Format, ¬Format.IsName text format) ∧ e = .unknownFormat text) ∨
      IsReadable Format.IsName (environment "DOCTAG_FORMAT") ∧
        ∃ text, environment "DOCTAG_BASE_OFFSET" = some text ∧ (∀ n, ¬IsOffset text n) ∧
          ∃ problem, Text.readNumeral maxOffset (Text.trim text.toList) = .error problem ∧
            e = .invalidValue "DOCTAG_BASE_OFFSET" text problem.message) ∧
    (∀ config, resolve environment flags = .ok config ↔
      IsReadable Format.IsName (environment "DOCTAG_FORMAT") ∧
      IsReadable IsOffset (environment "DOCTAG_BASE_OFFSET") ∧
      IsSettled Format.IsName .plain
        (environment "DOCTAG_FORMAT") flags.format config.format ∧
      IsSettled IsOffset 0 (environment "DOCTAG_BASE_OFFSET") flags.baseOffset
        config.baseOffset) ∧
    ∀ text config, environment "DOCTAG_FORMAT" = some text →
      (∀ c ∈ text.toList, Text.isBlank c = true) → flags.format = none →
      resolve environment flags = .ok config → config.format = ⟨.plain, .environment⟩ := by
  refine ⟨fun e => ?_, fun config => ?_, fun text config hset hblank hflag h => ?_⟩
  · simp only [resolve_eq_error_iff, mapM_read_eq_error_iff, readFormat_eq_error_iff,
      readBaseOffset_eq_error_iff, isReadable_format]
  · rw [resolve_eq_ok_iff, isReadable_format, isReadable_baseOffset]
    constructor
    · rintro ⟨format, offset, hformat, hoffset, hconfig⟩
      exact ⟨⟨format, hformat⟩, ⟨offset, hoffset⟩, (config_eq_iff hformat hoffset).1 hconfig⟩
    · rintro ⟨⟨format, hformat⟩, ⟨offset, hoffset⟩, hsettled⟩
      exact ⟨format, offset, hformat, hoffset, (config_eq_iff hformat hoffset).2 hsettled⟩
  · obtain ⟨format, offset, hformat, -, rfl⟩ := resolve_eq_ok_iff.1 h
    rw [hset] at hformat
    obtain ⟨value, hvalue, rfl⟩ := mapM_read_some hformat
    rw [readFormat_eq_ok_iff.2 (Format.isName_of_blank hblank)] at hvalue
    cases hvalue
    rw [hflag, settle]

section
variable {environment : String → Option String} {flags : Flags} {text : String} {core : List Char}

/-- Of a row of digits that is too large it does not matter what follows; a stray character counts
only behind digits that fit. -/
theorem resolve_offset_text (hformat : IsReadable Format.IsName (environment "DOCTAG_FORMAT"))
    (hset : environment "DOCTAG_BASE_OFFSET" = some text) (hflag : flags.baseOffset = none)
    (hcore : Text.IsTrimmed text.toList core) :
    (∀ n, (∃ format, resolve environment flags = .ok ⟨format, ⟨n, .environment⟩⟩) ↔
      Text.IsNumeral core n ∧ n ≤ maxOffset) ∧
    (resolve environment flags = .error (.invalidValue "DOCTAG_BASE_OFFSET" text
        "cannot parse integer from empty string") ↔ core = []) ∧
    (resolve environment flags = .error (.invalidValue "DOCTAG_BASE_OFFSET" text
        "number too large to fit in target type") ↔
      maxOffset < Nat.ofDigitChars 10 (Text.leadingDigits core) 0) ∧
    (resolve environment flags = .error (.invalidValue "DOCTAG_BASE_OFFSET" text
        "invalid digit found in string") ↔
      core ≠ [] ∧ Nat.ofDigitChars 10 (Text.leadingDigits core) 0 ≤ maxOffset ∧
        ∀ n ≤ maxOffset, ¬Text.IsNumeral core n) := by
  have hproblem (problem : Text.NumeralError) :
      resolve environment flags =
          .error (.invalidValue "DOCTAG_BASE_OFFSET" text problem.message) ↔
        Text.readNumeral maxOffset core = .error problem := by
    rw [resolve_eq_error_iff_of_offset hformat hset, readBaseOffset_eq_invalidValue_iff,
      hcore.eq_trim]
  refine ⟨fun n => ?_, ?_, ?_, ?_⟩
  · rw [resolve_offset_eq_ok_iff hformat hset hflag, readBaseOffset_eq_ok_iff, IsOffset]
    simp only [Text.isTrimmed_iff, exists_eq_left, hcore.eq_trim]
  · exact (hproblem .empty).trans Text.readNumeral_eq_empty_iff
  · exact (hproblem .tooLarge).trans Text.readNumeral_eq_tooLarge_iff
  · exact (hproblem .invalidDigit).trans Text.readNumeral_eq_invalidDigit_iff

end

def offsetAlone (text : String) : String → Option String := fun name =>
  if name = "DOCTAG_BASE_OFFSET" then some text else none

/-- One more than the last offset, with a letter behind it and blanks around the two. -/
theorem resolve_offset_text_past_maxOffset :
    let text := "\u00a0+018446744073709551616x\n"
    IsReadable Format.IsName (offsetAlone text "DOCTAG_FORMAT") ∧
      offsetAlone text "DOCTAG_BASE_OFFSET" = some text ∧
      Text.IsTrimmed text.toList "+018446744073709551616x".toList ∧
      resolve (offsetAlone text) ⟨none, none⟩ = .error (.invalidValue "DOCTAG_BASE_OFFSET" text
        "number too large to fit in target type") := by
  intro text
  have hformat : IsReadable Format.IsName (offsetAlone text "DOCTAG_FORMAT") := by
    simp [offsetAlone, IsReadable]
  have hset : offsetAlone text "DOCTAG_BASE_OFFSET" = some text := by simp [offsetAlone]
  have hcore : Text.IsTrimmed text.toList "+018446744073709551616x".toList :=
    Text.isTrimmed_iff.2 (by decide)
  have hlarge : maxOffset <
      Nat.ofDigitChars 10 (Text.leadingDigits "+018446744073709551616x".toList) 0 := by decide
  exact ⟨hformat, hset, hcore, (resolve_offset_text hformat hset rfl hcore).2.2.1.2 hlarge⟩

end Config

end DocstringTags
