import ModelIdl.Command.Invocation

/-!
# ModelIdl.Command.Options

The options of a command line: settings, which take a value, and switches, which take none. Settings may
also come from environment variables: an option on the command line hides its variable, even one with a
bad value.
-/

namespace ModelIdl

/-! ### Settings with values -/

/-- The settings that take a value. -/
inductive Setting where
  | databaseUrl
  | dialect
  | naming
  | tablePrefix
deriving DecidableEq, Repr

namespace Setting

/-- Every setting, in the order in which variables are read. -/
def all : List Setting :=
  [databaseUrl, dialect, naming, tablePrefix]

/-- The long option of a setting, without its dashes. -/
def long : Setting → String
  | databaseUrl => "database-url"
  | dialect => "dialect"
  | naming => "naming"
  | tablePrefix => "table-prefix"

/-- The short option of a setting, without its dash. -/
def short? : Setting → Option Char
  | dialect => some 'd'
  | naming => some 'n'
  | databaseUrl | tablePrefix => none

/-- The setting with a long option. -/
def ofLong? (name : String) : Option Setting :=
  all.find? fun s => s.long == name

/-- The setting with a short option. -/
def ofShort? (c : Char) : Option Setting :=
  all.find? fun s => s.short? == some c

/-- The environment variable that a setting falls back to. -/
def envVar? : Setting → Option String
  | databaseUrl => some "DATABASE_URL"
  | dialect => some "OXIDE_IDL_DIALECT"
  | naming => some "OXIDE_IDL_NAMING"
  | tablePrefix => none

/-- The value of a setting that nothing else gives a value. -/
def default? : Setting → Option String
  | databaseUrl => some ({} : Settings).databaseUrl
  | dialect => some ({} : Settings).dialect
  | naming => some ({} : Settings).naming.text
  | tablePrefix => none

/-- A setting as messages name it. -/
def usage : Setting → String
  | databaseUrl => "--database-url <DATABASE_URL>"
  | dialect => "--dialect <DIALECT>"
  | naming => "--naming <NAMING>"
  | tablePrefix => "--table-prefix <TABLE_PREFIX>"

end Setting

/-! ### Switches -/

/-- The options without a value that may stand before a command. -/
inductive Switch where
  /-- More output. -/
  | verbose
  | help
  | version
deriving DecidableEq, Repr

namespace Switch

/-- Every switch, in the order of the help text. -/
def all : List Switch :=
  [verbose, help, version]

/-- The long option of a switch, without its dashes. -/
def long : Switch → String
  | verbose => "verbose"
  | help => "help"
  | version => "version"

/-- The short option of a switch, without its dash. -/
def short : Switch → Char
  | verbose => 'v'
  | help => 'h'
  | version => 'V'

/-- The switch with a long option. -/
def ofLong? (name : String) : Option Switch :=
  all.find? fun s => s.long == name

/-- The switch with a short option. -/
def ofShort? (c : Char) : Option Switch :=
  all.find? fun s => s.short == c

/-- A switch as messages name it. -/
def usage (s : Switch) : String :=
  "--" ++ s.long

end Switch

end ModelIdl
