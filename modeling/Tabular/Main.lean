import Tabular.Command.Run

/-!
The command itself: real files and streams around the pure parts.
-/

namespace Tabular.Command

/-- The number of a system error. Some operations report it negated. -/
def errorNumber (code : UInt32) : UInt32 :=
  min code (0 - code)

/-- The system's words for a failed operation. -/
def reasonOf (error : IO.Error) : String :=
  match error with
  | .noFileOrDirectory .. => PathError.notFound.message
  | .inappropriateType _ code _ =>
      if errorNumber code = 20 then PathError.notDirectory.message
      else if errorNumber code = 21 then PathError.isDirectory.message
      else toString error
  | .invalidArgument _ code _ =>
      if errorNumber code = 36 then PathError.nameTooLong.message else toString error
  | error => toString error

/-- The text that the settings name. -/
def readInput (settings : Settings) : IO (Except Failure String) := do
  match settings.input with
  | none => return decodeInput (← (← IO.getStdin).readBinToEnd)
  | some path =>
      try return decodeFile path (← IO.FS.readBinFile path)
      catch error => return .error (.cannotRead path (reasonOf error))

/-- Put a table where the settings say. -/
def writeOutput (settings : Settings) (table : String) : IO (Except Failure Unit) := do
  match settings.output with
  | none =>
      (← IO.getStdout).write table.toUTF8
      return .ok ()
  | some path =>
      try
        IO.FS.writeBinFile path table.toUTF8
        return .ok ()
      catch error => return .error (.cannotWrite path (reasonOf error))

/-- Render as the settings say. -/
def perform (settings : Settings) : IO (Except Failure Unit) := do
  match ← readInput settings with
  | .error failure => return .error failure
  | .ok text =>
      match renderDocument settings.options text with
      | .error error => return .error (.rejected error)
      | .ok table => writeOutput settings table

/-- Run the command and give its exit code. -/
def execute (arguments : List String) : IO UInt32 := do
  match Request.ofArguments arguments with
  | .error usage =>
      IO.eprint usage.report
      return 2
  | .ok .version =>
      IO.print versionText
      return 0
  | .ok .help =>
      IO.print helpText
      return 0
  | .ok (.render settings) =>
      match ← perform settings with
      | .ok () => return 0
      | .error failure =>
          IO.eprint failure.report
          return 1

end Tabular.Command

def main (arguments : List String) : IO UInt32 :=
  Tabular.Command.execute arguments
