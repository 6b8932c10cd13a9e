import ModelIdl.Command.Help
import ModelIdl.Text.Terminal

/-!
# ModelIdl.Command.Misuse

What can be wrong with a command line, and how that is told. A message repeats words of the command line,
set off from its own. It is given as plain text, so that terminal controls in those words take no effect,
and of the message only the first line is given.
-/

namespace ModelIdl

/-- What is wrong with a command line. Options and arguments are given as messages name them. -/
inductive UsageError where
  /-- Nothing at all is asked for. -/
  | nothingAsked
  /-- There are settings, but no command. -/
  | missingCommand
  | unknownCommand (word : String)
  | unexpectedArgument (word : String)
  | missingFile
  | missingValue (argument : String)
  /-- A value is attached to an option that takes none. -/
  | unexpectedValue (value : String) (option : String)
  | repeated (option : String)
  | unknownNaming (name : String)
deriving DecidableEq, Repr

namespace UsageError

open Terminal (marked literal)

/-- The text of an error, and where to learn more. -/
def report (explanation : String) : String :=
  "error: " ++ explanation ++ "\n\nFor more information, try '" ++ literal "--help" ++ "'.\n"

/-- The error as a terminal is to show it. Where nothing is asked for, that is the help. -/
def text : UsageError → String
  | nothingAsked => Help.text (fun _ => none) .program
  | missingCommand => report "'oxide-idl' requires a subcommand but one was not provided"
  | unknownCommand word => report ("unrecognized subcommand '" ++ marked word ++ "'")
  | unexpectedArgument word => report ("unexpected argument '" ++ marked word ++ "' found")
  | missingFile => report "the following required arguments were not provided:"
  | missingValue argument =>
    report ("a value is required for '" ++ literal argument ++ "' but none was supplied")
  | unexpectedValue value option =>
    report ("unexpected value '" ++ marked value ++ "' for '" ++ literal option ++
      "' found; no more were expected")
  | repeated option =>
    report ("the argument '" ++ literal option ++ "' cannot be used multiple times")
  | unknownNaming name =>
    report ("invalid value '" ++ marked name ++ "' for '" ++ literal Setting.naming.usage ++ "': " ++
      NamingKind.unknownMessage name)

/-- The error in one line of plain text. -/
def message (e : UsageError) : String :=
  Terminal.firstLine (Terminal.plain e.text)

end UsageError

end ModelIdl
