/-!
# ModelIdl.Command.Log

The log that a command writes beside its output. Details are written only if they are asked for.
-/

namespace ModelIdl

/-- How much an entry matters. -/
inductive LogLevel where
  | debug
  | info
  | warn
deriving DecidableEq, Repr

/-- An entry of the log: a message, and named values. -/
structure LogEntry where
  level : LogLevel
  message : String
  values : List (String × String)
deriving DecidableEq, Repr

namespace LogEntry

/-- The level in a column of five characters. -/
def levelColumn : LogLevel → String
  | .debug => "DEBUG"
  | .info => " INFO"
  | .warn => " WARN"

/-- The entry as a line. -/
def line (e : LogEntry) : String :=
  levelColumn e.level ++ " " ++ e.message ++
    String.join (e.values.map fun (name, value) => " " ++ name ++ "=" ++ value) ++ "\n"

/-- Is the entry written? -/
def isWritten (verbose : Bool) (e : LogEntry) : Bool :=
  verbose || e.level != .debug

/-- The lines of a log. -/
def lines (verbose : Bool) (entries : List LogEntry) : String :=
  String.join ((entries.filter (isWritten verbose)).map line)

end LogEntry

end ModelIdl
