import ModelIdl.Naming.Basic

/-!
# ModelIdl.Command.Invocation

What a command line asks for: a command and how to run it, help about something, or the version.
-/

namespace ModelIdl

/-! ### Commands -/

/-- What is to be done. -/
inductive Command where
  /-- List the declarations of a file. -/
  | parse (file : String)
  /-- Show the physical names of a file's declarations. -/
  | resolve (file : String) (json : Bool)
  /-- List the dialect ids. -/
  | dialects
deriving DecidableEq, Repr

namespace Command

/-- The file that the command reads. -/
def file? : Command → Option String
  | parse file | resolve file _ => some file
  | dialects => none

end Command

/-- How it is to be done. -/
structure Settings where
  databaseUrl : String := "sqlite::memory:"
  dialect : String := "default"
  naming : NamingKind := .identity
  tablePrefix : Option String := none
  verbose : Bool := false
deriving DecidableEq, Repr

namespace Settings

/-- The naming strategy that the settings ask for. -/
def strategy (s : Settings) : Naming :=
  match s.tablePrefix with
  | some front => s.naming.naming.affixed front ""
  | none => s.naming.naming

end Settings

/-! ### Verbs -/

/-- The name of a command. -/
inductive CommandName where
  | parse
  | resolve
  | dialects
deriving DecidableEq, Repr

/-- A word that can stand where a command is looked for: the name of one, or the word for help. -/
inductive Verb where
  | command (name : CommandName)
  | help
deriving DecidableEq, Repr

namespace Verb

/-- The word itself. -/
def text : Verb → String
  | command .parse => "parse"
  | command .resolve => "resolve"
  | command .dialects => "dialects"
  | help => "help"

/-- Every verb, in the order of the help text. -/
def all : List Verb :=
  [command .parse, command .resolve, command .dialects, help]

/-- The verb that a word is. -/
def ofText? (word : String) : Option Verb :=
  all.find? fun v => v.text == word

/-- A word is a verb exactly if it is the text of that verb. -/
theorem ofText?_eq_some_iff {word : String} {v : Verb} : ofText? word = some v ↔ v.text = word := by
  constructor
  · intro h
    simpa using List.find?_some h
  · rintro rfl
    cases v with
    | command name => cases name <;> rfl
    | help => rfl

end Verb

/-! ### Invocations -/

/-- What help can be about. -/
inductive Topic where
  | program
  | verb (v : Verb)
deriving DecidableEq, Repr

/-- What a command line asks for. -/
inductive Invocation where
  | version
  | help (topic : Topic)
  | run (settings : Settings) (command : Command)
deriving DecidableEq, Repr

end ModelIdl
