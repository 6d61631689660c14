import Tabular.Command.Run
import Tabular.Proofs.Command.Arguments
import Tabular.Proofs.Command.Path
import Tabular.Proofs.Document.Conversion
import Tabular.Proofs.Table.Body

/-!
A run of the command is a transaction. Its table is put where the arguments say, all of it, and
nothing else changes; or the run reports what is wrong, and nothing changes at all.
-/

namespace Tabular.Command

/-- The input that the settings name is there, and it is this text in UTF-8. -/
inductive Settings.Reads (settings : Settings) (stdin : ByteArray) (directory : Directory) :
    String → Prop where
  | stdin {text : String} (unnamed : settings.input = none) (utf8 : stdin = text.toUTF8) :
      Reads settings stdin directory text
  | file {path text : String} {name : List String} (named : settings.input = some path)
      (leads : directory.Leads path name)
      (utf8 : directory.content? name = some text.toUTF8) : Reads settings stdin directory text

/-- The output that the settings name can be written: it is no folder, nor in no folder. -/
inductive Settings.HasPlace (settings : Settings) (directory : Directory) : Prop where
  | stdout (unnamed : settings.output = none)
  | file {path : String} {name : List String} (named : settings.output = some path)
      (leads : directory.Leads path name) (free : ¬ directory.IsFolder name)

/-- How a run ends that put the table where the settings say: at the standard output, or in one file
and nowhere else. -/
inductive Settings.Delivers (settings : Settings) (directory : Directory) (table : String) :
    Outcome → Prop where
  | stdout (unnamed : settings.output = none) :
      Delivers settings directory table ⟨0, table, "", directory⟩
  | file {path : String} {name : List String} {after : Directory}
      (named : settings.output = some path) (leads : directory.Leads path name)
      (written : after.content? name = some table.toUTF8)
      (others : ∀ other, other ≠ name → after.content? other = directory.content? other)
      (readBack : after.read path = .ok table.toUTF8) :
      Delivers settings directory table ⟨0, "", "", after⟩

/-- What is wrong, at the first step that fails: reading the input, decoding it, reading the
document in it, writing the output. -/
inductive Settings.Fails (settings : Settings) (stdin : ByteArray) (directory : Directory) :
    Failure → Prop where
  | unreadable {path : String} {reason : PathError} (named : settings.input = some path)
      (error : directory.read path = .error reason) :
      Fails settings stdin directory (.cannotRead path reason.message)
  | fileNotText {path : String} {name : List String} {content : ByteArray}
      (named : settings.input = some path) (leads : directory.Leads path name)
      (content_eq : directory.content? name = some content)
      (notUtf8 : ∀ text : String, text.toUTF8 ≠ content) :
      Fails settings stdin directory (.cannotRead path notTextMessage)
  | stdinNotText (unnamed : settings.input = none)
      (notUtf8 : ∀ text : String, text.toUTF8 ≠ stdin) :
      Fails settings stdin directory .notText
  | rejected {text : String} {error : Error} (reads : settings.Reads stdin directory text)
      (parse : Document.parseTable text = .error error) :
      Fails settings stdin directory (.rejected error)
  | unwritable {text path : String} {columns : List Column} {rows : List Row} {reason : PathError}
      (reads : settings.Reads stdin directory text)
      (parse : Document.parseTable text = .ok (columns, rows))
      (named : settings.output = some path)
      (error : ∀ content, directory.write path content = .error reason) :
      Fails settings stdin directory (.cannotWrite path reason.message)

variable {settings : Settings} {stdin bytes : ByteArray} {directory : Directory} {text : String}

/-- A text is decoded from its own bytes and from no others. -/
theorem fromUTF8?_eq_some_iff : String.fromUTF8? bytes = some text ↔ bytes = text.toUTF8 := by
  rw [String.fromUTF8?]
  constructor
  · intro h
    split at h
    · obtain rfl := Option.some.inj h
      rfl
    · cases h
  · rintro rfl
    rw [dif_pos (show text.toUTF8.IsValidUTF8 from text.isValidUTF8)]
    rfl

theorem fromUTF8?_eq_none_iff :
    String.fromUTF8? bytes = none ↔ ∀ text : String, text.toUTF8 ≠ bytes := by
  constructor
  · intro h text hText
    rw [fromUTF8?_eq_some_iff.mpr hText.symm] at h
    cases h
  · intro h
    cases hText : String.fromUTF8? bytes with
    | none => rfl
    | some text => exact absurd (fromUTF8?_eq_some_iff.mp hText).symm (h text)

/-- The input is a text, or something is wrong with it. -/
theorem reads_or_fails (settings : Settings) (stdin : ByteArray) (directory : Directory) :
    (∃ text, settings.Reads stdin directory text) ∨
      ∃ failure, settings.Fails stdin directory failure := by
  cases hInput : settings.input with
  | none =>
      cases hText : String.fromUTF8? stdin with
      | some text => exact .inl ⟨text, .stdin hInput (fromUTF8?_eq_some_iff.mp hText)⟩
      | none => exact .inr ⟨_, .stdinNotText hInput (fromUTF8?_eq_none_iff.mp hText)⟩
  | some path =>
      cases hRead : directory.read path with
      | error reason => exact .inr ⟨_, .unreadable hInput hRead⟩
      | ok content =>
          obtain ⟨name, hLeads, hContent⟩ := Directory.read_eq_ok_iff.mp hRead
          cases hText : String.fromUTF8? content with
          | some text =>
              rw [fromUTF8?_eq_some_iff.mp hText] at hContent
              exact .inl ⟨text, .file hInput hLeads hContent⟩
          | none =>
              have hNot := fromUTF8?_eq_none_iff.mp hText
              exact .inr ⟨_, .fileNotText hInput hLeads hContent hNot⟩

theorem inputText_of_reads (h : settings.Reads stdin directory text) :
    inputText settings stdin directory = .ok text := by
  cases h with
  | stdin hInput hText =>
      rw [inputText, hInput]
      simp only [decodeInput, fromUTF8?_eq_some_iff.mpr hText]
  | file hInput hLeads hContent =>
      rw [inputText, hInput]
      simp only [Directory.read_eq_ok_iff.mpr ⟨_, hLeads, hContent⟩, decodeFile,
        fromUTF8?_eq_some_iff.mpr rfl]

theorem Settings.Reads.unique {other : String} (h : settings.Reads stdin directory text)
    (hOther : settings.Reads stdin directory other) : text = other := by
  have hText := inputText_of_reads h
  rw [inputText_of_reads hOther] at hText
  exact (Except.ok.inj hText).symm

/-- A table that was read in a document can be rendered, and its text is not empty. -/
theorem exists_render_of_parseTable {columns : List Column} {rows : List Row}
    (h : Document.parseTable text = .ok (columns, rows)) (options : Table.Options) :
    ∃ table, table ≠ "" ∧ Table.render options columns rows = .ok table ∧
      renderDocument options text = .ok table := by
  obtain ⟨document, -, hTable⟩ := Document.parseTable_eq_ok_iff.mp h
  obtain ⟨layouts, -, -, -, hRender⟩ :=
    Table.render_of_validate (Document.validate_of_toTable hTable)
  refine ⟨_, Table.joinLines_framed_ne_empty _ _ _ _, hRender options, ?_⟩
  rw [renderDocument, h]
  exact hRender options

/-- A table is put where the settings say if there is a place for it. -/
theorem delivers_of_hasPlace {table : String} (h : settings.HasPlace directory) :
    ∃ out after, deliver settings table directory = .ok (out, after) ∧
      settings.Delivers directory table ⟨0, out, "", after⟩ := by
  cases h with
  | stdout hOutput => exact ⟨table, directory, by rw [deliver, hOutput], .stdout hOutput⟩
  | @file path name hOutput hLeads hFree =>
      have hWrite : directory.write path table.toUTF8 = .ok (directory.set name table.toUTF8) :=
        Directory.write_eq_ok_iff.mpr ⟨name, hLeads, hFree, rfl⟩
      refine ⟨"", directory.set name table.toUTF8, ?_, .file hOutput hLeads ?_ ?_ ?_⟩
      · rw [deliver, hOutput]
        simp only [hWrite]
      · rw [Directory.content?_set, if_pos rfl]
      · intro other hOther
        rw [Directory.content?_set, if_neg hOther]
      · exact Directory.read_of_write hWrite

/-- There is a place for a table, or no text can be written where the settings say. -/
theorem hasPlace_or_refused (settings : Settings) (directory : Directory) :
    settings.HasPlace directory ∨
      ∃ path reason, settings.output = some path ∧
        ∀ content, directory.write path content = .error reason := by
  cases hOutput : settings.output with
  | none => exact .inl (.stdout hOutput)
  | some path =>
      cases hWrite : directory.write path .empty with
      | error reason => exact .inr ⟨path, reason, rfl, Directory.write_eq_error hWrite⟩
      | ok after =>
          obtain ⟨name, hLeads, hFree, -⟩ := Directory.write_eq_ok_iff.mp hWrite
          exact .inl (.file hOutput hLeads hFree)

/-- The conditions under which a run puts its table where the settings say. -/
def Settings.Succeeds (settings : Settings) (stdin : ByteArray) (directory : Directory) : Prop :=
  ∃ text columns rows, settings.Reads stdin directory text ∧
    Document.parseTable text = .ok (columns, rows) ∧ settings.HasPlace directory

/-- Where the conditions of success do not hold, one of them is the first that does not. -/
theorem succeeds_or_fails (settings : Settings) (stdin : ByteArray) (directory : Directory) :
    settings.Succeeds stdin directory ∨ ∃ failure, settings.Fails stdin directory failure := by
  rcases reads_or_fails settings stdin directory with ⟨text, hReads⟩ | hFails
  · cases hParse : Document.parseTable text with
    | error error => exact .inr ⟨_, .rejected hReads hParse⟩
    | ok table =>
        rcases hasPlace_or_refused settings directory with hPlace | ⟨path, reason, hOutput, hWrite⟩
        · exact .inl ⟨text, table.1, table.2, hReads, hParse, hPlace⟩
        · exact .inr ⟨_, .unwritable hReads hParse hOutput hWrite⟩
  · exact .inr hFails

theorem render_of_reads (h : settings.Reads stdin directory text) :
    render settings stdin directory =
      match renderDocument settings.options text with
      | .ok table => deliver settings table directory
      | .error error => .error (.rejected error) := by
  rw [render, inputText_of_reads h]
  rfl

theorem render_of_inputText_error {failure : Failure}
    (h : inputText settings stdin directory = .error failure) :
    render settings stdin directory = .error failure := by
  rw [render, h]
  rfl

/-- What is wrong is what is reported. -/
theorem render_of_fails {failure : Failure} (h : settings.Fails stdin directory failure) :
    render settings stdin directory = .error failure := by
  cases h with
  | unreadable hInput hRead =>
      apply render_of_inputText_error
      simp only [inputText, hInput, hRead]
  | fileNotText hInput hLeads hContent hNot =>
      have hRead := Directory.read_eq_ok_iff.mpr ⟨_, hLeads, hContent⟩
      apply render_of_inputText_error
      simp only [inputText, hInput, hRead, decodeFile, fromUTF8?_eq_none_iff.mpr hNot]
  | stdinNotText hInput hNot =>
      apply render_of_inputText_error
      simp only [inputText, hInput, decodeInput, fromUTF8?_eq_none_iff.mpr hNot]
  | @rejected text error hReads hParse =>
      have hDocument : renderDocument settings.options text = .error error := by
        rw [renderDocument, hParse]
        rfl
      rw [render_of_reads hReads, hDocument]
  | unwritable hReads hParse hOutput hWrite =>
      obtain ⟨table, -, -, hDocument⟩ := exists_render_of_parseTable hParse settings.options
      simp only [render_of_reads hReads, hDocument, deliver, hOutput, hWrite]

theorem Settings.Delivers.exitCode_eq {table : String} {outcome : Outcome}
    (h : settings.Delivers directory table outcome) : outcome.exitCode = 0 := by
  cases h <;> rfl

theorem run_of_succeeds {arguments : List String}
    (h : Request.ofArguments arguments = .ok (.render settings))
    (hSucceeds : settings.Succeeds stdin directory) :
    ∃ text columns rows table, settings.Reads stdin directory text ∧
      Document.parseTable text = .ok (columns, rows) ∧
      Table.render settings.options columns rows = .ok table ∧ table ≠ "" ∧
      settings.Delivers directory table (run arguments stdin directory) := by
  obtain ⟨text, columns, rows, hReads, hParse, hPlace⟩ := hSucceeds
  obtain ⟨table, hSome, hTable, hDocument⟩ := exists_render_of_parseTable hParse settings.options
  obtain ⟨out, after, hDeliver, hDelivers⟩ := @delivers_of_hasPlace settings directory table hPlace
  have hRun : run arguments stdin directory = ⟨0, out, "", after⟩ := by
    rw [run, h]
    simp only [render_of_reads hReads, hDocument, hDeliver]
  rw [hRun]
  exact ⟨text, columns, rows, table, hReads, hParse, hTable, hSome, hDelivers⟩

theorem run_of_fails {arguments : List String} {failure : Failure}
    (h : Request.ofArguments arguments = .ok (.render settings))
    (hFails : settings.Fails stdin directory failure) :
    run arguments stdin directory =
      ⟨1, "", "qrender: " ++ failure.message ++ "\n", directory⟩ := by
  rw [run, h]
  simp only [render_of_fails hFails, Failure.report]

end Tabular.Command
