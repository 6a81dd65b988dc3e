import DocstringTags.CommandLine.Answer
import DocstringTags.Proofs.Report.Annotate
import DocstringTags.Proofs.Report.Scan
import DocstringTags.Proofs.Report.Written

/-! Answers to command lines. A command that reads a file looks at the settings, then at the file,
then at the text in it, and the first of these that fails gives the exit code. Main statements:
`Command.code_report` for the exit code, `Command.isReport_report` for what is written, and
`answer_of_run`, which joins them.
-/

set_option autoImplicit false

namespace DocstringTags

def Json.member? (name : String) : Json → Option Json
  | .object members => members.lookup name
  | .null | .bool _ | .number _ | .string _ | .list _ => none

open Json

theorem Failure.code_ofFileError (path : String) (e : FileError) :
    (Failure.ofFileError path e).code.value = if e.kind = .notFound then 3 else 10 := by
  unfold Failure.ofFileError
  split
  · next h =>
    rw [if_pos h]
    rfl
  · next h =>
    rw [if_neg h]
    rfl

namespace CommandLine

open Report Outline

def Command.source? : Command → Option (ByteArray × Flags)
  | .scan path flags .. => some (path, flags)
  | .annotate path format => some (path, ⟨format, none⟩)
  | .quote _ => none

/-- The command can do nothing with the text of its file. -/
def Command.Rejects (config : Config) (text : String) : Command → Prop
  | .scan _ _ start tags wordEnd =>
    ScanFails text (selectTags config.format.value tags wordEnd) start config.baseOffset.value
  | .annotate _ _ => ∃ e, File.ofText text = .error e
  | .quote _ => False

def Command.reportOn (config : Config) (text : String) : Command → Except Failure Json
  | .scan _ _ start tags wordEnd => (scanReport config tags wordEnd start text).map Highlights.toJson
  | .annotate _ _ => (annotateReport config text).map Highlights.toJson
  | .quote value => .ok (quoteReport value).toJson

structure IsSuccess (report : Json) : Prop where
  isExact : report.IsExact
  isObject : ∃ members, report = .object members
  status : report.member? "status" = some (.string "ok")

theorem isSuccess_highlights (format formatSource : String) (entries : List Entry) :
    IsSuccess (Highlights.ok format formatSource entries).toJson :=
  ⟨Highlights.isExact_toJson _, ⟨_, rfl⟩, rfl⟩

theorem isSuccess_quote (value : String) : IsSuccess (quoteReport value).toJson :=
  ⟨Quote.isExact_toJson _, ⟨_, rfl⟩, rfl⟩

def World.read (w : World) (path : ByteArray) : Except FileError String :=
  (w.files path).bind decodeFile

namespace World
variable {w : World} {path : ByteArray} {text : String} {e : FileError}

theorem text_eq (w : World) (path : ByteArray) :
    w.text path = (w.read path).mapError (Failure.ofFileError (Text.legible path)) := rfl

theorem read_eq_ok_iff :
    w.read path = .ok text ↔
      ∃ bytes, w.files path = .ok bytes ∧ String.fromUTF8? bytes = some text := by
  rw [read]
  cases w.files path with
  | error e => simp [Except.bind]
  | ok bytes => cases htext : String.fromUTF8? bytes <;> simp [Except.bind, decodeFile, htext]

theorem read_eq_error_iff :
    w.read path = .error e ↔
      w.files path = .error e ∨
        ∃ bytes, w.files path = .ok bytes ∧ String.fromUTF8? bytes = none ∧ e = .notText := by
  rw [read]
  cases w.files path with
  | error e => simp [Except.bind]
  | ok bytes =>
    cases htext : String.fromUTF8? bytes <;> simp [Except.bind, decodeFile, htext, eq_comm]

theorem exists_read_iff {P : String → Prop} :
    (∃ text, w.read path = .ok text ∧ P text) ↔
      ∃ bytes text, w.files path = .ok bytes ∧ String.fromUTF8? bytes = some text ∧ P text := by
  constructor
  · rintro ⟨text, hread, h⟩
    obtain ⟨bytes, hfile, htext⟩ := read_eq_ok_iff.1 hread
    exact ⟨bytes, text, hfile, htext, h⟩
  · rintro ⟨bytes, text, hfile, htext, h⟩
    exact ⟨text, read_eq_ok_iff.2 ⟨bytes, hfile, htext⟩, h⟩

theorem read_notFound_iff :
    (∃ e, w.read path = .error e ∧ e.kind = .notFound) ↔
      ∃ e, w.files path = .error e ∧ e.kind = .notFound := by
  constructor
  · rintro ⟨e, hread, hkind⟩
    obtain hfile | ⟨bytes, -, -, rfl⟩ := read_eq_error_iff.1 hread
    · exact ⟨e, hfile, hkind⟩
    · cases hkind
  · rintro ⟨e, hfile, hkind⟩
    exact ⟨e, read_eq_error_iff.2 (.inl hfile), hkind⟩

theorem read_otherError_iff :
    (∃ e, w.read path = .error e ∧ e.kind ≠ .notFound) ↔
      (∃ e, w.files path = .error e ∧ e.kind ≠ .notFound) ∨
        ∃ bytes, w.files path = .ok bytes ∧ String.fromUTF8? bytes = none := by
  constructor
  · rintro ⟨e, hread, hkind⟩
    obtain hfile | ⟨bytes, hfile, htext, -⟩ := read_eq_error_iff.1 hread
    · exact .inl ⟨e, hfile, hkind⟩
    · exact .inr ⟨bytes, hfile, htext⟩
  · rintro (⟨e, hfile, hkind⟩ | ⟨bytes, hfile, htext⟩)
    · exact ⟨e, read_eq_error_iff.2 (.inl hfile), hkind⟩
    · exact ⟨.notText, read_eq_error_iff.2 (.inr ⟨bytes, hfile, htext, rfl⟩), nofun⟩

end World

namespace Command
variable {w : World} {command : Command} {path : ByteArray} {flags : Flags} {config : Config}
  {text : String}

theorem reportOn_of_rejects (h : command.Rejects config text) :
    ∃ f, command.reportOn config text = .error f ∧ f.code = .invalidArguments ∧ f.IsExact := by
  cases command with
  | scan path flags start tags wordEnd =>
    obtain ⟨e, he⟩ := scan_of_scanFails h
    refine ⟨.ofOffsetError e, ?_, rfl, Failure.isExact_ofOffsetError e⟩
    rw [reportOn, scanReport, he]
    rfl
  | annotate path format =>
    obtain ⟨e, he⟩ := h
    refine ⟨.ofReadError e, ?_, rfl, Failure.isExact_ofReadError e⟩
    rw [reportOn, annotateReport_of_unread config he]
    rfl
  | quote value => cases h

theorem reportOn_of_not_rejects (h : ¬command.Rejects config text) :
    ∃ report, command.reportOn config text = .ok report ∧ IsSuccess report := by
  cases command with
  | scan path flags start tags wordEnd =>
    obtain ⟨entries, hentries⟩ := scan_of_not_scanFails h
    rw [reportOn, scanReport, hentries]
    cases tags with
    | nil => exact ⟨_, rfl, isSuccess_highlights _ _ entries⟩
    | cons tag tags => exact ⟨_, rfl, isSuccess_highlights _ _ entries⟩
  | annotate path format =>
    cases hfile : File.ofText text with
    | error e => exact absurd ⟨e, hfile⟩ h
    | ok file =>
      rw [reportOn, annotateReport_of_read config hfile]
      exact ⟨_, rfl, isSuccess_highlights _ _ _⟩
  | quote value => exact ⟨_, rfl, isSuccess_quote value⟩

/-! ## The order of the checks -/

theorem report_eq (hsource : command.source? = some (path, flags)) :
    command.report w =
      (w.config flags).bind fun config => (w.text path).bind fun text =>
        command.reportOn config text := by
  -- the report is turned into a value behind the last check, whichever command it is
  have hmap : ∀ x : Except Failure Highlights,
      (x >>= fun report => pure report.toJson) = x.map Highlights.toJson := by
    intro x
    cases x <;> rfl
  cases command with
  | scan path flags start tags wordEnd =>
    cases hsource
    simp only [report, hmap]
    rfl
  | annotate path format =>
    cases hsource
    simp only [report, hmap]
    rfl
  | quote value => cases hsource

theorem report_cases (w : World) (hsource : command.source? = some (path, flags)) :
    (∃ e, Config.resolve w.setting flags = .error e ∧
        command.report w = .error (.ofConfigError e)) ∨
      ∃ config, Config.resolve w.setting flags = .ok config ∧
        ((∃ e, w.read path = .error e ∧
            command.report w = .error (.ofFileError (Text.legible path) e)) ∨
          ∃ text, w.read path = .ok text ∧ command.report w = command.reportOn config text) := by
  rw [report_eq hsource, World.config, World.text_eq]
  cases hconfig : Config.resolve w.setting flags with
  | error e => exact .inl ⟨e, rfl, rfl⟩
  | ok config =>
    refine .inr ⟨config, rfl, ?_⟩
    cases hread : w.read path with
    | error e => exact .inl ⟨e, rfl, rfl⟩
    | ok text => exact .inr ⟨text, rfl, rfl⟩

theorem report_of_badSettings {e : ConfigError} (hsource : command.source? = some (path, flags))
    (h : Config.resolve w.setting flags = .error e) :
    command.report w = .error (.ofConfigError e) := by
  rw [report_eq hsource, World.config, h]
  rfl

open Classical in
theorem code_report (w : World) (hsource : command.source? = some (path, flags)) :
    (Answer.ofReport (command.report w)).code =
      match Config.resolve w.setting flags, w.read path with
      | .error _, _ => 2
      | .ok _, .error e => if e.kind = .notFound then 3 else 10
      | .ok config, .ok text => if command.Rejects config text then 2 else 0 := by
  obtain ⟨e, hconfig, hreport⟩ | ⟨config, hconfig, ⟨e, hread, hreport⟩ | ⟨text, hread, hreport⟩⟩ :=
    report_cases w hsource
  · rw [hreport, hconfig]
    rfl
  · rw [hreport, hconfig, hread]
    exact Failure.code_ofFileError _ e
  · rw [hreport, hconfig, hread]
    by_cases hrejects : command.Rejects config text
    · obtain ⟨f, hf, hcode, -⟩ := reportOn_of_rejects hrejects
      simp [hf, Answer.ofReport, hcode, ErrorCode.value, hrejects]
    · obtain ⟨report, hok, -⟩ := reportOn_of_not_rejects hrejects
      simp [hok, Answer.ofReport, hrejects]

end Command

/-! ## Answers -/

/-- The answer is one value and a line feed, and it says either that all went well, with exit code 0,
or what the exit code is. -/
def Answer.IsReport (a : Answer) : Prop :=
  ∃ report : Json, a.output = report.pretty ++ "\n" ∧ report.IsExact ∧
    IsDocument a.output report ∧ EndsInOneNewLine a.output ∧
    (a.code = 0 ∧ report.member? "status" = some (.string "ok") ∨
      report.member? "status" = some (.string "error") ∧
        (report.member? "error").bind (Json.member? "code") = some (.natural a.code))

theorem Answer.isReport_of_isSuccess {report : Json} (h : IsSuccess report) :
    (ofReport (.ok report)).IsReport := by
  obtain ⟨members, rfl⟩ := h.isObject
  exact ⟨_, rfl, h.isExact, isDocument_emit h.isExact, endsInOneNewLine_emit members,
    .inl ⟨rfl, h.status⟩⟩

theorem Answer.isReport_of_failure {f : Failure} (h : f.IsExact) :
    (ofReport (.error f)).IsReport := by
  have hexact : (Error.ofFailure f).toJson.IsExact := Error.isExact_toJson h
  exact ⟨_, rfl, hexact, isDocument_emit hexact, endsInOneNewLine_emit _, .inr ⟨rfl, rfl⟩⟩

namespace Command
variable (w : World) (command : Command)

theorem isReport_reportOn (config : Config) (text : String) :
    (Answer.ofReport (command.reportOn config text)).IsReport := by
  by_cases hrejects : command.Rejects config text
  · obtain ⟨f, hf, -, hexact⟩ := reportOn_of_rejects hrejects
    rw [hf]
    exact Answer.isReport_of_failure hexact
  · obtain ⟨report, hok, hsuccess⟩ := reportOn_of_not_rejects hrejects
    rw [hok]
    exact Answer.isReport_of_isSuccess hsuccess

theorem isReport_report : (Answer.ofReport (command.report w)).IsReport := by
  cases hsource : command.source? with
  | none =>
    cases command with
    | scan | annotate => cases hsource
    | quote value => exact Answer.isReport_of_isSuccess (isSuccess_quote value)
  | some source =>
    obtain ⟨e, -, hreport⟩ | ⟨config, -, ⟨e, -, hreport⟩ | ⟨text, -, hreport⟩⟩ :=
      report_cases w hsource
    · rw [hreport]
      exact Answer.isReport_of_failure (Failure.isExact_ofConfigError e)
    · rw [hreport]
      exact Answer.isReport_of_failure (Failure.isExact_ofFileError _ e)
    · rw [hreport]
      exact command.isReport_reportOn config text

theorem report_congr {v w : World} (hsetting : v.setting = w.setting) (hfiles : v.files = w.files) :
    command.report v = command.report w := by
  cases command <;> simp [report, World.config, World.text, hsetting, hfiles]

end Command

/-- The same world without the variables that hold no text. -/
def World.withoutBytes (w : World) : World :=
  { w with environment := fun name =>
      (w.environment name).filter fun bytes => (String.fromUTF8? bytes).isSome }

theorem World.setting_withoutBytes (w : World) : w.withoutBytes.setting = w.setting := by
  funext name
  simp only [setting, withoutBytes]
  cases w.environment name with
  | none => rfl
  | some bytes => cases htext : String.fromUTF8? bytes <;> simp [Option.filter, htext]

theorem answer_eq {arguments : List ByteArray} {command : Command}
    (h : Request.ofArguments arguments = .ok (.run command)) (w : World) :
    answer w arguments = .ofReport (command.report w) := by
  rw [answer, h]
  rfl

section
variable {command : Command} {path : ByteArray} {flags : Flags}
  (hsource : command.source? = some (path, flags)) (w : World)
include hsource

theorem Command.code_eq_two_iff :
    (Answer.ofReport (command.report w)).code = 2 ↔
      (∃ e, Config.resolve w.setting flags = .error e) ∨
        ∃ config, Config.resolve w.setting flags = .ok config ∧
          ∃ bytes text, w.files path = .ok bytes ∧ String.fromUTF8? bytes = some text ∧
            command.Rejects config text := by
  simp only [← World.exists_read_iff]
  rw [command.code_report w hsource]
  cases Config.resolve w.setting flags with
  | error e => simp
  | ok config =>
    cases w.read path with
    | error e => by_cases hkind : e.kind = .notFound <;> simp [hkind]
    | ok text => simp

theorem Command.code_eq_three_iff :
    (Answer.ofReport (command.report w)).code = 3 ↔
      ∃ config, Config.resolve w.setting flags = .ok config ∧
        ∃ e, w.files path = .error e ∧ e.kind = .notFound := by
  rw [← World.read_notFound_iff, command.code_report w hsource]
  cases Config.resolve w.setting flags with
  | error e => simp
  | ok config =>
    cases w.read path with
    | error e => by_cases hkind : e.kind = .notFound <;> simp [hkind]
    | ok text => by_cases hrejects : command.Rejects config text <;> simp [hrejects]

theorem Command.code_eq_ten_iff :
    (Answer.ofReport (command.report w)).code = 10 ↔
      ∃ config, Config.resolve w.setting flags = .ok config ∧
        ((∃ e, w.files path = .error e ∧ e.kind ≠ .notFound) ∨
          ∃ bytes, w.files path = .ok bytes ∧ String.fromUTF8? bytes = none) := by
  rw [← World.read_otherError_iff, command.code_report w hsource]
  cases Config.resolve w.setting flags with
  | error e => simp
  | ok config =>
    cases w.read path with
    | error e => by_cases hkind : e.kind = .notFound <;> simp [hkind]
    | ok text => by_cases hrejects : command.Rejects config text <;> simp [hrejects]

end

theorem answer_of_run {arguments : List ByteArray} {command : Command}
    (h : Request.ofArguments arguments = .ok (.run command)) (w : World) :
    (answer w arguments).IsReport ∧
    answer w.withoutBytes arguments = answer w arguments ∧
    (∀ path flags, command.source? = some (path, flags) →
      ((answer w arguments).code = 2 ↔
        (∃ e, Config.resolve w.setting flags = .error e) ∨
          ∃ config, Config.resolve w.setting flags = .ok config ∧
            ∃ bytes text, w.files path = .ok bytes ∧ String.fromUTF8? bytes = some text ∧
              command.Rejects config text) ∧
      ((answer w arguments).code = 3 ↔
        ∃ config, Config.resolve w.setting flags = .ok config ∧
          ∃ e, w.files path = .error e ∧ e.kind = .notFound) ∧
      ((answer w arguments).code = 10 ↔
        ∃ config, Config.resolve w.setting flags = .ok config ∧
          ((∃ e, w.files path = .error e ∧ e.kind ≠ .notFound) ∨
            ∃ bytes, w.files path = .ok bytes ∧ String.fromUTF8? bytes = none)) ∧
      ((∃ e, Config.resolve w.setting flags = .error e) →
        ∀ files, answer ⟨w.environment, files⟩ arguments = answer w arguments)) ∧
    ∀ value, command = .quote value →
      (answer w arguments).code = 0 ∧ ∀ other, answer other arguments = answer w arguments := by
  simp only [answer_eq h]
  refine ⟨command.isReport_report w, ?_, fun path flags hsource => ⟨?_, ?_, ?_, ?_⟩, ?_⟩
  · rw [command.report_congr w.setting_withoutBytes rfl]
  · exact Command.code_eq_two_iff hsource w
  · exact Command.code_eq_three_iff hsource w
  · exact Command.code_eq_ten_iff hsource w
  · rintro ⟨e, hconfig⟩ files
    have hother : Config.resolve (World.setting ⟨w.environment, files⟩) flags = .error e := hconfig
    rw [Command.report_of_badSettings hsource hconfig, Command.report_of_badSettings hsource hother]
  · rintro value rfl
    exact ⟨rfl, fun other => rfl⟩

def barrenWorld (format : Option String) : World where
  environment name := if name = Config.formatVariable then format.map String.toUTF8 else none
  files _ := .error .missing

def scanArguments : List ByteArray :=
  ["scan".toUTF8, ⟨#[0x61, 0xFF]⟩, "--tag=@x".toUTF8]

def quoteArguments : List ByteArray := ["quote".toUTF8, "a\"b".toUTF8]

-- the path of the file to scan is no text
theorem answer_of_run_in_barrenWorld :
    Request.ofArguments scanArguments =
        .ok (.run (.scan ⟨#[0x61, 0xFF]⟩ ⟨none, none⟩ 0 ["@x"] false)) ∧
      Request.ofArguments quoteArguments = .ok (.run (.quote "a\"b")) ∧
      (answer (barrenWorld none) scanArguments).IsReport ∧
      (answer (barrenWorld none) scanArguments).code = 3 ∧
      (answer (barrenWorld (some "roff")) scanArguments).code = 2 ∧
      (answer (barrenWorld none) quoteArguments).code = 0 := by
  have hscan : Request.ofArguments scanArguments =
      .ok (.run (.scan ⟨#[0x61, 0xFF]⟩ ⟨none, none⟩ 0 ["@x"] false)) := rfl
  have hquote : Request.ofArguments quoteArguments = .ok (.run (.quote "a\"b")) := rfl
  obtain ⟨hreport, -, hcodes, -⟩ := answer_of_run hscan (barrenWorld none)
  obtain ⟨-, -, hrefused, -⟩ := answer_of_run hscan (barrenWorld (some "roff"))
  obtain ⟨-, -, -, hquoted⟩ := answer_of_run hquote (barrenWorld none)
  refine ⟨hscan, hquote, hreport, ?_, ?_, (hquoted _ rfl).1⟩
  · exact (hcodes _ _ rfl).2.1.2 ⟨Config.default, rfl, .missing, rfl, rfl⟩
  · exact (hrefused _ _ rfl).1.2 (.inl ⟨.unknownFormat "roff", by decide⟩)

end CommandLine

end DocstringTags
