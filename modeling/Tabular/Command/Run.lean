import Tabular.Command.Arguments
import Tabular.Command.Directory
import Tabular.Document.Conversion

/-!
What the command does: read a result document, render its table, and put the table where it belongs.
Nothing is written unless the whole table could be rendered.
-/

namespace Tabular.Command

/-- Why no table was written. -/
inductive Failure where
  | cannotRead (path reason : String)
  | notText
  | rejected (error : Error)
  | cannotWrite (path reason : String)
  deriving DecidableEq, Repr

/-- The words for bytes that are not UTF-8. -/
def notTextMessage : String := "stream did not contain valid UTF-8"

/-- The words for a failure. -/
def Failure.message : Failure → String
  | cannotRead path reason => "cannot read '" ++ path ++ "': " ++ reason
  | notText => notTextMessage
  | rejected error => error.message
  | cannotWrite path reason => "cannot write '" ++ path ++ "': " ++ reason

/-- The line that reports wrong usage. -/
def UsageError.report (usage : UsageError) : String :=
  "qrender: " ++ usage.message ++ "\n"

/-- The line that reports a failure. -/
def Failure.report (failure : Failure) : String :=
  "qrender: " ++ failure.message ++ "\n"

/-- The table of a result document. -/
def renderDocument (options : Table.Options) (text : String) : Except Error String := do
  let (columns, rows) ← Document.parseTable text
  Table.render options columns rows

/-- The text of a file's content. -/
def decodeFile (path : String) (content : ByteArray) : Except Failure String :=
  match String.fromUTF8? content with
  | some text => .ok text
  | none => .error (.cannotRead path notTextMessage)

/-- The text of the standard input. -/
def decodeInput (bytes : ByteArray) : Except Failure String :=
  match String.fromUTF8? bytes with
  | some text => .ok text
  | none => .error .notText

/-- The text that the settings name: that of a file or the standard input. -/
def inputText (settings : Settings) (stdin : ByteArray) (directory : Directory) :
    Except Failure String :=
  match settings.input with
  | none => decodeInput stdin
  | some path =>
      match directory.read path with
      | .ok content => decodeFile path content
      | .error reason => .error (.cannotRead path reason.message)

/-- Put a table where the settings say: what goes to the standard output, and the directory
afterwards. -/
def deliver (settings : Settings) (table : String) (directory : Directory) :
    Except Failure (String × Directory) :=
  match settings.output with
  | none => .ok (table, directory)
  | some path =>
      match directory.write path table.toUTF8 with
      | .ok directory => .ok ("", directory)
      | .error reason => .error (.cannotWrite path reason.message)

/-- Render as the settings say: what goes to the standard output, and the directory afterwards. -/
def render (settings : Settings) (stdin : ByteArray) (directory : Directory) :
    Except Failure (String × Directory) := do
  let text ← inputText settings stdin directory
  match renderDocument settings.options text with
  | .ok table => deliver settings table directory
  | .error error => .error (.rejected error)

/-- How the command ends. -/
structure Outcome where
  exitCode : UInt32
  stdout : String
  stderr : String
  directory : Directory

/-- The name and version of the command. -/
def versionText : String := "qrender 0.1.0\n"

/-- How the command is called. -/
def helpText : String :=
  "Usage: qrender [OPTIONS] [FILE]\n\n" ++
  "Reads a result document from FILE or the standard input and renders its table.\n\n" ++
  "  -o, --output FILE   write the table to FILE\n" ++
  "      --header        show the names of the columns\n" ++
  "      --eol STYLE     end lines with lf (default) or crlf\n" ++
  "  -h, --help          show this help\n" ++
  "  -V, --version       show the version\n"

/-- Run the command on its arguments, its standard input and a directory. -/
def run (arguments : List String) (stdin : ByteArray) (directory : Directory) : Outcome :=
  match Request.ofArguments arguments with
  | .error usage => ⟨2, "", usage.report, directory⟩
  | .ok .version => ⟨0, versionText, "", directory⟩
  | .ok .help => ⟨0, helpText, "", directory⟩
  | .ok (.render settings) =>
      match render settings stdin directory with
      | .ok (stdout, directory) => ⟨0, stdout, "", directory⟩
      | .error failure => ⟨1, "", failure.report, directory⟩

end Tabular.Command
