import Tabular.Table.Render

/-!
The arguments of the command: an input file, an output file, and how the table is rendered. They are
read from the left, and the first that is wrong, or that asks for something else than a table,
decides.
-/

namespace Tabular.Command

/-- What is to be rendered, where to, and how. -/
structure Settings where
  /-- the file to read; without one it is the standard input -/
  input : Option String
  /-- the file to write; without one it is the standard output -/
  output : Option String
  options : Table.Options
  deriving DecidableEq, Repr

/-- What the arguments ask for. -/
inductive Request where
  | render (settings : Settings)
  | version
  | help
  deriving DecidableEq, Repr

/-- Why the arguments make no request. -/
inductive UsageError where
  | unknownOption (option : String)
  | repeated (option : String)
  | missingValue (option : String)
  | unexpectedValue (option value : String)
  | emptyValue (option : String)
  | invalidLineEnd (value : String)
  | extraArgument (argument : String)
  deriving DecidableEq, Repr

/-- The words for wrong usage. -/
def UsageError.message : UsageError → String
  | unknownOption option => "unexpected argument '" ++ option ++ "'"
  | repeated option => "the argument '" ++ option ++ "' cannot be used multiple times"
  | missingValue option => "a value is required for '" ++ option ++ "'"
  | unexpectedValue option value => "unexpected value '" ++ value ++ "' for '" ++ option ++ "'"
  | emptyValue option => "a value is required for '" ++ option ++ "' but none was supplied"
  | invalidLineEnd value => "invalid value '" ++ value ++ "' for '--eol': lf or crlf is needed"
  | extraArgument argument => "unexpected argument '" ++ argument ++ "'"

/-- The arguments read so far. -/
structure Given where
  input : Option String := none
  output : Option String := none
  header : Bool := false
  lineEnd : Option Table.LineEnd := none

namespace Given

/-- What the arguments come to when all are read. -/
def settings (given : Given) : Settings where
  input := given.input
  output := given.output
  options := { showNames := given.header, lineEnd := given.lineEnd.getD .lf }

/-- Take the input file. There is only one, and it has a name. -/
def setInput (given : Given) (path : String) : Except UsageError Given :=
  if given.input.isSome then .error (.extraArgument path)
  else if path.isEmpty then .error (.emptyValue "FILE")
  else .ok { given with input := some path }

/-- Take the output file. -/
def setOutput (given : Given) (path : String) : Except UsageError Given :=
  if given.output.isSome then .error (.repeated "--output")
  else if path.isEmpty then .error (.emptyValue "--output")
  else .ok { given with output := some path }

/-- Take the request to show column names. -/
def setHeader (given : Given) : Except UsageError Given :=
  if given.header then .error (.repeated "--header") else .ok { given with header := true }

/-- Take the way in which lines end. -/
def setLineEnd (given : Given) (value : String) : Except UsageError Given :=
  if given.lineEnd.isSome then .error (.repeated "--eol")
  else if value = "lf" then .ok { given with lineEnd := some .lf }
  else if value = "crlf" then .ok { given with lineEnd := some .crlf }
  else .error (.invalidLineEnd value)

end Given

/-- One argument, as it looks by itself. -/
inductive Argument where
  /-- `--`: all that follows are files -/
  | endOfOptions
  /-- `--name` or `--name=value` -/
  | long (name : String) (value : Option String)
  /-- `-x`, and what is written after it in the same argument -/
  | short (letter : Char) (rest : List Char)
  /-- anything else, `-` included -/
  | file (path : String)
  deriving DecidableEq, Repr

/-- How an argument looks. -/
def Argument.ofString (argument : String) : Argument :=
  match argument.toList with
  | ['-', '-'] => .endOfOptions
  | '-' :: '-' :: body =>
      let name := String.ofList (body.takeWhile (· != '='))
      match body.dropWhile (· != '=') with
      | [] => .long name none
      | _ :: value => .long name (some (String.ofList value))
  | '-' :: letter :: rest => .short letter rest
  | _ => .file argument

/-- The value of an option that stands in an argument of its own, and the arguments after it. It
does not look like an option. -/
def separateValue (option : String) : List String → Except UsageError (String × List String)
  | [] => .error (.missingValue option)
  | value :: rest =>
      match Argument.ofString value with
      | .file _ => .ok (value, rest)
      | _ => .error (.missingValue option)

/-- Read arguments that are all files. -/
def readFiles (given : Given) : List String → Except UsageError Request
  | [] => .ok (.render given.settings)
  | path :: rest => do readFiles (← given.setInput path) rest

/-- Read arguments after those read so far, at most `fuel` of them. -/
def readWithin (given : Given) : Nat → List String → Except UsageError Request
  | _, [] => .ok (.render given.settings)
  | 0, _ => .ok (.render given.settings)
  | fuel + 1, argument :: rest =>
      match Argument.ofString argument with
      | .endOfOptions => readFiles given rest
      | .file path => do readWithin (← given.setInput path) fuel rest
      | .long "header" none => do readWithin (← given.setHeader) fuel rest
      | .long "header" (some value) => .error (.unexpectedValue "--header" value)
      | .long "version" none => .ok .version
      | .long "version" (some value) => .error (.unexpectedValue "--version" value)
      | .long "help" none => .ok .help
      | .long "help" (some value) => .error (.unexpectedValue "--help" value)
      | .long "output" (some path) => do readWithin (← given.setOutput path) fuel rest
      | .long "output" none => do
          let (path, rest) ← separateValue "--output" rest
          readWithin (← given.setOutput path) fuel rest
      | .long "eol" (some value) => do readWithin (← given.setLineEnd value) fuel rest
      | .long "eol" none => do
          let (value, rest) ← separateValue "--eol" rest
          readWithin (← given.setLineEnd value) fuel rest
      | .short 'V' _ => .ok .version
      | .short 'h' _ => .ok .help
      | .short 'o' [] => do
          let (path, rest) ← separateValue "--output" rest
          readWithin (← given.setOutput path) fuel rest
      | .short 'o' ('=' :: path) => do
          readWithin (← given.setOutput (String.ofList path)) fuel rest
      | .short 'o' path => do readWithin (← given.setOutput (String.ofList path)) fuel rest
      | .long _ _ => .error (.unknownOption argument)
      | .short _ _ => .error (.unknownOption argument)

/-- Read the arguments of the command. -/
def Request.ofArguments (arguments : List String) : Except UsageError Request :=
  readWithin {} arguments.length arguments

end Tabular.Command
