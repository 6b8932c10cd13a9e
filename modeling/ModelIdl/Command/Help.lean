import ModelIdl.Command.Options

/-!
# ModelIdl.Command.Help

What the program says about itself: what it does, how it is called, and what stands for what. The help
about settings shows the values that their variables have.
-/

namespace ModelIdl

namespace Help

/-! ### Layout -/

/-- A text, filled up with spaces to a width. -/
def padded (width : Nat) (s : String) : String :=
  s ++ String.ofList (List.replicate (width - s.length) ' ')

/-- A part of the help: its heading, and its lines one step in. -/
def part (heading : String) (lines : List String) : String :=
  "\n" ++ heading ++ ":\n" ++ String.join (lines.map fun line => "  " ++ line ++ "\n")

/-- Entries in two columns: names, and what is to be said about them. -/
def columns (entries : List (String × String)) : List String :=
  let width := (entries.map fun entry => entry.1.length).foldl max 0
  entries.map fun (name, about) => padded width name ++ "  " ++ about

/-- Entries with what is to be said about them on a line of its own. -/
def blocks (entries : List (String × String)) : List String :=
  entries.map fun (name, about) => name ++ "\n          " ++ about

/-! ### Verbs -/

/-- What the program is. -/
def aboutProgram : String :=
  "Compiler front-end for oxide model definitions"

/-- What a verb does. -/
def aboutVerb : Verb → String
  | .command .parse => "Check the syntax of a definition file and list its declarations"
  | .command .resolve => "Show the physical names of every declaration"
  | .command .dialects => "List the registered dialect identifiers"
  | .help => "Print this message or the help of the given subcommand(s)"

/-- What can stand behind a verb. -/
def usage : Verb → String
  | .command .parse => " <FILE>"
  | .command .resolve => " [OPTIONS] <FILE>"
  | .command .dialects => ""
  | .help => " [COMMAND]..."

/-- The arguments of a verb. -/
def arguments : Verb → List (String × String)
  | .command .parse | .command .resolve => [("<FILE>", "Path to the `.idl` file")]
  | .command .dialects => []
  | .help => [("[COMMAND]...", "Print help for the subcommand(s)")]

/-- The options of a verb. -/
def options : Verb → List (String × String)
  | .command .resolve => [("    --json", "Print JSON instead of text"), ("-h, --help", "Print help")]
  | .command _ => [("-h, --help", "Print help")]
  | .help => []

/-! ### Options of the program -/

/-- What a setting is about. -/
def aboutSetting : Setting → String
  | .databaseUrl => "Database URL the session binds to. `sqlite:` URLs open a pool"
  | .dialect => "Dialect identifier"
  | .naming => "Physical naming strategy (identity, snake, upper-snake)"
  | .tablePrefix => "Prefix prepended to every physical table and sequence name"

/-- What a switch does. -/
def aboutSwitch : Switch → String
  | .verbose => "Enable verbose output"
  | .help => "Print help"
  | .version => "Print version"

/-- A setting, with its variable and its default. -/
def settingEntry (environment : String → Option String) (s : Setting) : String × String :=
  let letter := s.short?.elim "    " fun c => String.ofList ['-', c, ',', ' ']
  let variableNote := s.envVar?.elim "" fun name =>
    " [env: " ++ name ++ "=" ++ (environment name).getD "" ++ "]"
  let defaultNote := s.default?.elim "" fun value => " [default: " ++ value ++ "]"
  (letter ++ s.usage, aboutSetting s ++ variableNote ++ defaultNote)

/-- A switch, with both of its options. -/
def switchEntry (s : Switch) : String × String :=
  (String.ofList ['-', s.short, ',', ' '] ++ s.usage, aboutSwitch s)

/-! ### The text -/

/-- The help about the program. -/
def programText (environment : String → Option String) : String :=
  aboutProgram ++ "\n\nUsage: oxide-idl [OPTIONS] <COMMAND>\n" ++
    part "Commands" (columns (Verb.all.map fun v => (v.text, aboutVerb v))) ++
    part "Options" (blocks
      (Setting.all.map (settingEntry environment) ++ Switch.all.map switchEntry))

/-- The help about a verb. -/
def verbText (v : Verb) : String :=
  let partOf (heading : String) (entries : List (String × String)) :=
    if entries.isEmpty then "" else part heading (columns entries)
  aboutVerb v ++ "\n\nUsage: oxide-idl " ++ v.text ++ usage v ++ "\n" ++
    partOf "Arguments" (arguments v) ++ partOf "Options" (options v)

/-- The help about a topic. -/
def text (environment : String → Option String) : Topic → String
  | .program => programText environment
  | .verb v => verbText v

end Help

end ModelIdl
