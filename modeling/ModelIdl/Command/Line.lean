import ModelIdl.Command.Misuse

/-!
# ModelIdl.Command.Line

Reading a command line: settings, then a command with arguments of its own. Design points:

* **Words.** `--name` and `--name=value` are long options; a single dash opens a row of short ones, the
  last of which may have its value attached, with or without `=`. `--` ends the options. A lone dash is
  an ordinary word.
* **Waiting values.** A setting whose value is a word of its own takes effect when the next option comes,
  or after the command's own arguments have been read. So what is wrong with those arguments is
  reported before what is wrong with the setting.
* **Commands** are looked for until `--`, wherever no setting waits for its value. Behind a command,
  settings are not accepted.
* **Help** can be asked for by a word in place of a command, by an option before one, or by an option
  behind one. The word comes before everything that is still to be checked; the options come after what
  stands in front of them.
-/

namespace ModelIdl.CommandLine

/-! ### Words -/

/-- The forms that a word can have. -/
inductive Word where
  /-- The end of the options. -/
  | escape
  /-- A long option, and the value attached to it. -/
  | long (name : String) (value : Option String)
  /-- A row of short options. -/
  | short (row : List Char)
  | plain
deriving DecidableEq, Repr

/-- The text before the first `=`, and the text behind it if there is one. -/
def splitAtEquals (text : List Char) : String × Option String :=
  match text.dropWhile (· ≠ '=') with
  | _ :: value => (String.ofList (text.takeWhile (· ≠ '=')), some (String.ofList value))
  | [] => (String.ofList text, none)

/-- The form of a word. -/
def Word.of (word : String) : Word :=
  match word.toList with
  | ['-', '-'] => .escape
  | '-' :: '-' :: rest => let (name, value) := splitAtEquals rest; .long name value
  | '-' :: c :: rest => .short (c :: rest)
  | _ => .plain

/-! ### Reasons to stop -/

/-- Why reading ends early: something else is asked for than to run a command, or something is wrong. -/
inductive Stop where
  | instead (i : Invocation)
  | misuse (e : UsageError)
deriving DecidableEq, Repr

/-- Makes an error a reason to stop. -/
def orStop {α : Type} : Except UsageError α → Except Stop α
  | .ok a => .ok a
  | .error e => .error (.misuse e)

/-- What the words behind the word for help lead to: help about the program, or about one verb. -/
def Stop.forHelp : List String → Stop
  | [] => .instead (.help .program)
  | word :: more =>
    match Verb.ofText? word, more with
    | none, _ => .misuse (.unknownCommand word)
    | some v, [] => .instead (.help (.verb v))
    | some _, next :: _ => .misuse (.unknownCommand next)

/-! ### Commands and their arguments -/

/-- What was read of a command's arguments. -/
structure Arguments where
  file : Option String := none
  json : Bool := false

namespace Arguments

/-- Accepts the file as it is; it cannot be the empty text. -/
def settle (a : Arguments) : Except UsageError Unit :=
  if a.file = some "" then .error (.missingValue "<FILE>") else .ok ()

/-- Reads a further word that is no option. -/
def addPlain (name : CommandName) (a : Arguments) (word : String) : Except UsageError Arguments :=
  if name ≠ .dialects ∧ a.file = none then .ok { a with file := some word }
  else .error (.unexpectedArgument word)

/-- Stops for help about the command, if all is well so far. -/
def stopForHelp (command : CommandName) (a : Arguments) : Except Stop Arguments := do
  orStop a.settle
  .error (.instead (.help (.verb (.command command))))

/-- Reads a long option. -/
def addLong (command : CommandName) (a : Arguments) (name : String) (value : Option String) :
    Except Stop Arguments :=
  if name = "help" ∨ (command = .resolve ∧ name = "json") then
    match value with
    | some v => .error (.misuse (.unexpectedValue v ("--" ++ name)))
    | none =>
      if name = "help" then a.stopForHelp command
      else do
        orStop a.settle
        if a.json then .error (.misuse (.repeated "--json")) else .ok { a with json := true }
  else .error (.misuse (.unexpectedArgument ("--" ++ name)))

/-- Reads a row of short options, of which there is only the one for help. -/
def addShort (command : CommandName) (a : Arguments) : List Char → Except Stop Arguments
  | [] => .ok a
  | c :: _ =>
    if c = Switch.help.short then a.stopForHelp command
    else .error (.misuse (.unexpectedArgument (String.ofList ['-', c])))

/-- Reads the words behind a command. -/
def read (command : CommandName) (escaped : Bool) (a : Arguments) :
    List String → Except Stop Arguments
  | [] => .ok a
  | word :: rest =>
    if escaped then do
      let a ← orStop (a.addPlain command word)
      a.read command true rest
    else
      match Word.of word with
      | .escape => a.read command true rest
      | .long name value => do
        let a ← a.addLong command name value
        a.read command false rest
      | .short row => do
        let a ← a.addShort command row
        a.read command false rest
      | .plain => do
        let a ← orStop (a.addPlain command word)
        a.read command false rest

/-- The command that a name and its arguments make. -/
def command (name : CommandName) (a : Arguments) : Except UsageError Command := do
  a.settle
  match name, a.file with
  | .dialects, _ => .ok .dialects
  | .parse, some file => .ok (.parse file)
  | .resolve, some file => .ok (.resolve file a.json)
  | _, none => .error .missingFile

end Arguments

/-! ### Settings -/

/-- What was read before the command. -/
structure Draft where
  /-- The settings in effect, with their values. -/
  given : List (Setting × String) := []
  /-- The setting that waits for its value, or whose value has come but is not in effect yet. -/
  waiting : Option (Setting × Option String) := none
  verbose : Bool := false

namespace Draft

/-- Puts a value into effect. A setting can be given once, and only known strategies can be named. -/
def give (d : Draft) (s : Setting) (value : String) : Except UsageError Draft :=
  if d.given.any (fun p => p.1 == s) then .error (.repeated s.usage)
  else if s = .naming ∧ NamingKind.ofText? value = none then .error (.unknownNaming value)
  else .ok { d with given := d.given ++ [(s, value)] }

/-- Puts the value of the waiting setting into effect. -/
def settle (d : Draft) : Except UsageError Draft :=
  match d.waiting with
  | none => .ok d
  | some (s, none) => .error (.missingValue s.usage)
  | some (s, some value) => { d with waiting := none }.give s value

/-- Is a setting without its value? -/
def lacksValue (d : Draft) : Bool :=
  match d.waiting with
  | some (_, none) => true
  | _ => false

/-- Reads a plain word as the value of the waiting setting. -/
def supply (d : Draft) (value : String) : Draft :=
  { d with waiting := d.waiting.map fun (s, _) => (s, some value) }

/-- Reads the option of a setting, with its attached value if it has one. -/
def addSetting (d : Draft) (s : Setting) (attached : Option String) : Except UsageError Draft := do
  let d ← d.settle
  match attached with
  | some value => d.give s value
  | none => .ok { d with waiting := some (s, none) }

/-- Reads a switch. -/
def addSwitch (d : Draft) (s : Switch) : Except Stop Draft := do
  let d ← orStop d.settle
  match s with
  | .verbose =>
    if d.verbose then .error (.misuse (.repeated s.usage)) else .ok { d with verbose := true }
  | .help => .error (.instead (.help .program))
  | .version => .error (.instead .version)

/-- Reads a long option. -/
def addLong (d : Draft) (name : String) (value : Option String) : Except Stop Draft :=
  match Setting.ofLong? name, Switch.ofLong? name with
  | some s, _ => orStop (d.addSetting s value)
  | none, some s =>
    match value with
    | some v => .error (.misuse (.unexpectedValue v s.usage))
    | none => d.addSwitch s
  | none, none => .error (.misuse (.unexpectedArgument ("--" ++ name)))

/-- The value that is attached to a short option by the characters behind it. -/
def attachedValue : List Char → Option String
  | [] => none
  | '=' :: rest => some (String.ofList rest)
  | rest => some (String.ofList rest)

/-- Reads a row of short options. -/
def addShort (d : Draft) : List Char → Except Stop Draft
  | [] => .ok d
  | c :: rest =>
    match Setting.ofShort? c, Switch.ofShort? c with
    | some s, _ => orStop (d.addSetting s (attachedValue rest))
    | none, some s => do
      let d ← d.addSwitch s
      d.addShort rest
    | none, none => .error (.misuse (.unexpectedArgument (String.ofList ['-', c])))

/-- The value of a setting: given, or from its variable. -/
def value? (environment : String → Option String) (d : Draft) (s : Setting) : Option String :=
  (d.given.lookup s).or (s.envVar?.bind environment)

/-- The strategy that is named, by an option or a variable. -/
def namingKind (environment : String → Option String) (d : Draft) : Except UsageError NamingKind :=
  match d.value? environment .naming with
  | none => .ok .identity
  | some name =>
    match NamingKind.ofText? name with
    | some kind => .ok kind
    | none => .error (.unknownNaming name)

/-- The settings, once everything is read. -/
def settings (environment : String → Option String) (d : Draft) : Except UsageError Settings := do
  let d ← d.settle
  let naming ← d.namingKind environment
  let defaults : Settings := {}
  .ok {
    databaseUrl := (d.value? environment .databaseUrl).getD defaults.databaseUrl
    dialect := (d.value? environment .dialect).getD defaults.dialect
    naming := naming
    tablePrefix := d.value? environment .tablePrefix
    verbose := d.verbose }

/-- What is wrong when no command came: the settings, or that there is none. -/
def withoutCommand (environment : String → Option String) (d : Draft) : UsageError :=
  match d.settings environment with
  | .error e => e
  | .ok settings =>
    let given := Setting.all.any fun s => (d.value? environment s).isSome
    if settings.verbose || d.waiting.isSome || given then .missingCommand else .nothingAsked

/-- What is wrong with the first word behind `--`, where only arguments can stand. -/
def strayWord (word : String) : UsageError :=
  match Verb.ofText? word with
  | some _ => .unexpectedArgument word
  | none => .unknownCommand word

/-- Reads the words of a command line. -/
def read (environment : String → Option String) (d : Draft) : List String → Except Stop Invocation
  | [] => .error (.misuse (d.withoutCommand environment))
  | word :: rest =>
    match if d.lacksValue then none else Verb.ofText? word with
    | some (.command name) => do
      let arguments ← Arguments.read name false {} rest
      let command ← orStop (arguments.command name)
      let settings ← orStop (d.settings environment)
      .ok (.run settings command)
    | some .help => .error (.forHelp rest)
    | none =>
      match Word.of word with
      | .escape =>
        match rest with
        | [] => .error (.misuse (d.withoutCommand environment))
        | stray :: _ => .error (.misuse (strayWord stray))
      | .long name value => do
        let d ← d.addLong name value
        d.read environment rest
      | .short row => do
        let d ← d.addShort row
        d.read environment rest
      | .plain =>
        if d.lacksValue then (d.supply word).read environment rest
        else .error (.misuse (.unknownCommand word))

end Draft

/-- What the words of a command line ask for, given the environment. -/
def read (environment : String → Option String) (words : List String) :
    Except UsageError Invocation :=
  match Draft.read environment {} words with
  | .ok invocation => .ok invocation
  | .error (.instead invocation) => .ok invocation
  | .error (.misuse e) => .error e

end ModelIdl.CommandLine
