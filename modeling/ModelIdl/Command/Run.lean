import ModelIdl.Command.Files
import ModelIdl.Command.Line
import ModelIdl.Command.Log
import ModelIdl.Report.Basic
import ModelIdl.Schema.Parser
import ModelIdl.Session.Registry

/-!
# ModelIdl.Command.Run

What the program does and shows. Design points:

* **All or nothing.** A command that fails shows nothing of its result, only what went wrong.
* **The world outside is given:** the environment, the content of files, and what connecting to a database
  comes to. Nothing else is done with databases.
* **The registry is closed in any case,** before a failure to resolve is shown.
* **One failure.** The first declaration that cannot be resolved decides.
-/

namespace ModelIdl

/-- What a run of the program shows: its exit code, its output, and its log with what went wrong. -/
structure Outcome where
  exit : Nat
  output : String
  log : String
deriving DecidableEq, Repr

/-- Why a command fails: what could not be done, and the cause if it has one of its own. -/
structure CommandFailure where
  what : String
  cause : Option String := none
deriving DecidableEq, Repr

namespace CommandFailure

/-- A cause in a block of its own, each line indented. -/
def indented (s : String) : String :=
  "    " ++ String.ofList (s.toList.flatMap fun c => if c = '\n' then c :: "    ".toList else [c])

/-- The failure as it is shown. -/
def text (f : CommandFailure) : String :=
  "Error: " ++ f.what ++ "\n" ++
    f.cause.elim "" fun cause => "\nCaused by:\n" ++ indented cause ++ "\n"

end CommandFailure

/-- A result with the log of how it came about. -/
structure Logged (α : Type) where
  entries : List LogEntry
  result : Except CommandFailure α

namespace Command

/-! ### Reading -/

/-- Reads and parses a definition file. -/
def load (content : String → FileContent) (file : String) :
    Except CommandFailure (Schema Span) :=
  match (content file).text with
  | .error fault => .error ⟨"failed to read " ++ file, some fault.message⟩
  | .ok source =>
    match Schema.parse source with
    | .error e => .error ⟨"failed to parse " ++ file, some e.message⟩
    | .ok schema => .ok schema

/-- The line that lists a declaration. -/
def declarationLine (d : Declaration Span) : String :=
  d.kind.text ++ " " ++ d.name ++ " (" ++ Nat.repr d.fields.length ++ " fields) at " ++
    d.place.text ++ "\n"

/-- Lists the declarations of a file. -/
def runParse (content : String → FileContent) (file : String) : Logged String :=
  match load content file with
  | .error f => ⟨[], .error f⟩
  | .ok schema =>
    ⟨[⟨.info, "Parsed", [("file", file), ("declarations", Nat.repr schema.declarations.length)]⟩],
      .ok (String.join (schema.declarations.map declarationLine))⟩

/-! ### Resolving -/

/-- Opens the source that a URL stands for. A pool of connections connects to its database at once: `connect`
says whether it gets there, and otherwise why not, in the words that are shown. -/
def openSource (connect : String → Except String Unit) (url : String) :
    Except CommandFailure ConnectionSource :=
  if url.startsWith "sqlite:" then
    match connect url with
    | .error why => .error ⟨"failed to connect to " ++ url, some why⟩
    | .ok () => .ok ⟨0, .pool, url⟩
  else .ok ⟨0, .url, url⟩

/-- What a request leaves in the log. Only the requests that a command can make are logged. -/
def requestEntries (dialectId : String) (source : ConnectionSource) (g : Grant) : List LogEntry :=
  match g.result, g.ran with
  | .ok _, some _ => [⟨.info, "Created session", [("key", (SessionKey.of dialectId source).text)]⟩]
  | .error (.error (.unsupportedDialect id)), _ =>
    [⟨.warn, "Unsupported dialect", [("dialect", id)]⟩]
  | _, _ => []

/-- What closing a registry leaves in the log. -/
def closeEntries (r : Registry) : List LogEntry :=
  r.live.map (fun (key, _) => ⟨.debug, "Releasing session", [("key", key.text)]⟩) ++
    [⟨.info, "Session registry closed", [("released", Nat.repr r.close.1)]⟩]

/-- The reports of declarations; the first that cannot be resolved decides. -/
def reports {σ : Type} (session : Session) :
    List (Declaration σ) → Except CommandFailure (List DeclarationReport)
  | [] => .ok []
  | d :: rest =>
    match session.report d with
    | .error e => .error ⟨"cannot resolve " ++ d.name, some e.message⟩
    | .ok report => do
      let more ← reports session rest
      return report :: more

/-- What is wrong when no session was given out. -/
def refusal : Failure → CommandFailure
  | .error e => ⟨e.message, none⟩
  | .brokeDown => ⟨"the session factory broke down", none⟩

/-- Resolves every declaration in the session of a dialect id and a source, then closes the registry,
whether or not that succeeded. -/
def resolveAndClose {σ : Type} (r : Registry) (dialectId : String) (source : ConnectionSource)
    (schema : Schema σ) : Logged (List DeclarationReport) × Registry :=
  let (grant, asked) := r.request dialectId source
  let (entries, result) :=
    match grant.result with
    | .error f => ([], .error (refusal f))
    | .ok handle =>
      ([⟨.debug, "Resolving declarations", [("session", handle.session.listing)]⟩],
        reports handle.session schema.declarations)
  (⟨requestEntries dialectId source grant ++ entries ++ closeEntries asked, result⟩, asked.close.2)

/-- Reports as the program shows them. -/
def showReports (json : Bool) (rs : List DeclarationReport) : String :=
  if json then (Json.list (rs.map DeclarationReport.json)).pretty ++ "\n"
  else String.join (rs.map fun r => r.text ++ "\n")

/-- Shows the physical names of a file's declarations. -/
def runResolve (content : String → FileContent) (connect : String → Except String Unit)
    (settings : Settings) (file : String) (json : Bool) : Logged String :=
  match load content file with
  | .error f => ⟨[], .error f⟩
  | .ok schema =>
    match openSource connect settings.databaseUrl with
    | .error f => ⟨[], .error f⟩
    | .ok source =>
      let (logged, _) :=
        resolveAndClose (.standard settings.strategy) settings.dialect source schema
      ⟨logged.entries, logged.result.map (showReports json)⟩

/-! ### The program -/

/-- Runs a command. -/
def run (content : String → FileContent) (connect : String → Except String Unit) (settings : Settings) :
    Command → Logged String
  | .parse file => runParse content file
  | .resolve file json => runResolve content connect settings file json
  | .dialects =>
    ⟨[], .ok (String.join ((Registry.standard settings.strategy).dialectIds.map (· ++ "\n")))⟩

end Command

namespace Outcome

/-- What is shown of a command's run. -/
def ofLogged (verbose : Bool) (l : Logged String) : Outcome :=
  let log := LogEntry.lines verbose l.entries
  match l.result with
  | .ok output => ⟨0, output, log⟩
  | .error f => ⟨1, "", log ++ f.text⟩

end Outcome

namespace CommandLine

/-- Runs the program on the words of a command line. Unless something else is said of them, all databases can
be connected to. -/
def run (environment : String → Option String) (content : String → FileContent)
    (words : List String) (connect : String → Except String Unit := fun _ => .ok ()) : Outcome :=
  match read environment words with
  | .error e => ⟨2, "", e.message⟩
  | .ok .version => ⟨0, "oxide-idl 0.1.0\n", ""⟩
  | .ok (.help topic) => ⟨0, Terminal.plain (Help.text environment topic), ""⟩
  | .ok (.run settings command) => .ofLogged settings.verbose (command.run content connect settings)

end CommandLine

end ModelIdl
