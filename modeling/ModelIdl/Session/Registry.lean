import ModelIdl.Session.Basic

/-!
# ModelIdl.Session.Registry

The registry of sessions. It knows a factory for each dialect id, and hands out one session for each key: a
dialect id with the URL and the place of a connection source. Design points:

* **Created once, kept until closed.** A session is made when it is first asked for. It is kept even if
  the factory of its id is replaced. Closing forgets all sessions, for good.
* **Factories keep sources in their places.** A key is for one source as long as this stays in its place. It
  does if the session under the key holds it (`SessionKey.HeldBy`), and that is up to the factory
  (`Factory.KeepsSource`). If a factory binds its session to another source, nothing may hold the one that was
  asked for, and a source that is made in its place later on is taken for it.
* **Failures change nothing.** A request that fails, be it in the factory, leaves the registry as it was.
* **Handles** number the sessions in the order of their creation, so two handles are one session exactly
  if their numbers are equal.
* **Every request tells all:** its grant says what was handed out or refused, and which factory ran.
-/

namespace ModelIdl

/-! ### Keys -/

/-- What a session is kept under: a dialect id, and the URL and the place of a source. Of sources that exist at
the same time the keys differ, even if the URLs agree. A source in the place of one that is gone has the same
keys if it has the same URL. -/
structure SessionKey where
  dialectId : String
  url : String
  /-- The place of the source. -/
  source : Nat
deriving DecidableEq, Repr

namespace SessionKey

/-- The key of an id and a source. -/
def of (dialectId : String) (source : ConnectionSource) : SessionKey :=
  ⟨dialectId, source.url, source.identity⟩

/-- The session holds the source that the key names. -/
def HeldBy (k : SessionKey) (session : Session) : Prop :=
  of k.dialectId session.source = k

/-- Was the key made for a source in the place of this one? -/
def isFor (k : SessionKey) (source : ConnectionSource) : Bool :=
  k.source == source.identity

/-- A key as it is listed. -/
def text (k : SessionKey) : String :=
  k.dialectId ++ "@" ++ k.url

/-- The order of keys: by id, then by URL, both by code points, then by source. -/
def le (a b : SessionKey) : Bool :=
  if a.dialectId ≠ b.dialectId then a.dialectId < b.dialectId
  else if a.url ≠ b.url then a.url < b.url
  else a.source ≤ b.source

end SessionKey

/-! ### Factories -/

/-- What a factory is told. -/
structure SessionContext where
  dialectId : String
  source : ConnectionSource
  naming : Naming

namespace SessionContext

/-- A context in a log. -/
def listing (c : SessionContext) : String :=
  "SessionContext \x7b dialect_id: " ++ Text.shownString c.dialectId ++
    ", source: " ++ Text.shownString c.source.url ++ ", .. \x7d"

end SessionContext

/-- Why a factory gave no session. -/
inductive Failure where
  | error (e : SessionError)
  /-- The factory gave no answer at all. -/
  | brokeDown
deriving DecidableEq, Repr

/-- A way to make sessions. -/
inductive Factory where
  /-- Binds a dialect to whatever it is told. -/
  | binding (dialect : Dialect)
  /-- Does as it likes. -/
  | custom (create : SessionContext → Except Failure Session)

namespace Factory

/-- Runs a factory. -/
def create : Factory → SessionContext → Except Failure Session
  | binding dialect, context => .ok ⟨context.dialectId, dialect, context.source, context.naming⟩
  | custom create, context => create context

/-- Is the factory one that does as it likes? -/
def isCustom : Factory → Bool
  | binding _ => false
  | custom _ => true

/-- A factory that binds a dialect, in a log. -/
def listing (dialect : Dialect) : String :=
  "DialectFactory(" ++ Text.shownString dialect.name ++ ")"

end Factory

/-! ### The registry -/

/-- A session that was handed out, with its number. -/
structure Handle where
  number : Nat
  session : Session

/-- The answer to a request: a handle or a failure, and the factory that ran for it. -/
structure Grant where
  result : Except Failure Handle
  ran : Option Factory

/-- The registry. -/
structure Registry where
  naming : Naming
  /-- The factory of each dialect id; ids are distinct. -/
  factories : List (String × Factory)
  /-- The sessions kept, each under its key; keys are distinct. -/
  live : List (SessionKey × Handle)
  /-- How many sessions were created so far. -/
  created : Nat
  closed : Bool

namespace Registry

/-- Puts a value under a name, in the place of the one it had. -/
def put {β : Type} (name : String) (value : β) : List (String × β) → List (String × β)
  | [] => [(name, value)]
  | (n, v) :: rest => if n = name then (name, value) :: rest else (n, v) :: put name value rest

/-- A registry that knows no dialect. -/
def empty (naming : Naming) : Registry where
  naming := naming
  factories := []
  live := []
  created := 0
  closed := false

/-- The id of the dialect that is meant where none is named. -/
def defaultDialect : String := "default"

/-- A registry that knows the built-in dialects, each under its name. -/
def standard (naming : Naming) : Registry :=
  { empty naming with factories := Dialect.builtIn.map fun d => (d.name, .binding d) }

/-- Sets the factory of a dialect id. -/
def register (r : Registry) (dialectId : String) (factory : Factory) :
    Except SessionError Registry :=
  if r.closed then .error .registryClosed
  else .ok { r with factories := put dialectId factory r.factories }

/-- The session kept under a key. -/
def kept? (r : Registry) (key : SessionKey) : Option Handle :=
  r.live.lookup key

/-- The registry with a new session under a key. -/
def keep (r : Registry) (key : SessionKey) (session : Session) : Registry :=
  { r with live := r.live ++ [(key, ⟨r.created, session⟩)], created := r.created + 1 }

/-- Asks for the session of a dialect id and a source. -/
def request (r : Registry) (dialectId : String) (source : ConnectionSource) : Grant × Registry :=
  if r.closed then (⟨.error (.error .registryClosed), none⟩, r)
  else
    match r.factories.lookup dialectId with
    | none => (⟨.error (.error (.unsupportedDialect dialectId)), none⟩, r)
    | some factory =>
      let key := SessionKey.of dialectId source
      match r.kept? key with
      | some handle => (⟨.ok handle, none⟩, r)
      | none =>
        match factory.create ⟨dialectId, source, r.naming⟩ with
        | .error e => (⟨.error e, some factory⟩, r)
        | .ok session => (⟨.ok ⟨r.created, session⟩, some factory⟩, r.keep key session)

/-- Closes the registry, and says how many sessions it released. Closing again releases none. -/
def close (r : Registry) : Nat × Registry :=
  if r.closed then (0, r) else (r.live.length, { r with live := [], closed := true })

/-! ### Views -/

/-- The dialect ids, in order. -/
def dialectIds (r : Registry) : List String :=
  (r.factories.map Prod.fst).mergeSort

/-- The keys of the sessions kept, in order. -/
def keys (r : Registry) : List SessionKey :=
  (r.live.map Prod.fst).mergeSort SessionKey.le

/-- How many sessions are kept. -/
def size (r : Registry) : Nat :=
  r.live.length

/-- Is no session kept? -/
def isEmpty (r : Registry) : Bool :=
  r.size == 0

/-- A registry in a log. -/
def listing (r : Registry) : String :=
  "SessionRegistry \x7b dialects: " ++ Nat.repr r.factories.length ++
    ", sessions: " ++ Nat.repr r.size ++
    ", closed: " ++ (if r.closed then "true" else "false") ++ " \x7d"

end Registry

end ModelIdl
