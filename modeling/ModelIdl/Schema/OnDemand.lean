import ModelIdl.Schema.Parser

/-!
# ModelIdl.Schema.OnDemand

The same grammar, read from a source lexeme by lexeme. A lexeme is asked for only when the one in front of it
was taken, and a fault ends the reading as soon as it is met. Design points:

* **One lexeme in hand.** A desk holds the next token and the cursor behind it. It counts the steps of that
  cursor, and how many types are being read inside each other.
* **Nothing says that reading ends.** Loops go on as long as the next token says so, and types read their
  arguments as types. So each loop has so much patience only, and types are entered so many times inside each
  other only; a loop that wants to go on without patience, or a type that wants to be entered once more, gives
  up, which is neither success nor an error. That nothing ever gives up is to be proved.
* **What is read is the same** as if the source were read into tokens first; that is to be proved as well.
-/

namespace ModelIdl

/-- What is in front of a reader: the next token and the source behind it. -/
structure Desk where
  current : Placed Span Token
  cursor : Cursor
  /-- How many steps the cursor has made. -/
  pulls : Nat
  /-- How many types are being read inside each other. -/
  entered : Nat
  /-- How many types have been read inside each other at most. -/
  deepest : Nat

/-- A desk with nothing read yet. What it holds is no token of the source. -/
def Desk.ofSource (source : String) : Desk :=
  ⟨⟨.endOfInput, ⟨0, 0, 1, 1⟩⟩, .ofSource source, 0, 0, 0⟩

/-- The desk with one more type being read. -/
def Desk.enter (s : Desk) : Desk :=
  { s with entered := s.entered + 1, deepest := max s.deepest (s.entered + 1) }

/-- The desk with one type less being read. -/
def Desk.leave (s : Desk) : Desk :=
  { s with entered := s.entered - 1 }

/-- A way to read from a desk: a value or an error, and the desk behind it. It may also give up. -/
def Demand (α : Type) := Desk → Option (Except (ParseError Span) α × Desk)

namespace Demand

variable {α β : Type}

instance : Monad Demand where
  pure a := fun s => some (.ok a, s)
  bind read f := fun s =>
    match read s with
    | none => none
    | some (.error e, s) => some (.error e, s)
    | some (.ok a, s) => f a s

/-! ### Single tokens -/

/-- Gives up. -/
def giveUp : Demand α := fun _ => none

/-- Asks for the next lexeme. A fault leaves the desk with the token that it holds. -/
def advance : Demand Unit := fun s =>
  let behind := { s with cursor := s.cursor.next, pulls := s.pulls + 1 }
  match s.cursor.lexeme.value with
  | .error fault => some (.error (.lexical fault s.cursor.lexeme.place), behind)
  | .ok t => some (.ok (), { behind with current := ⟨t, s.cursor.lexeme.place⟩ })

/-- The next token. It is not taken. -/
def current : Demand (Placed Span Token) := fun s =>
  some (.ok s.current, s)

/-- Refuses the next token. -/
def refuse (expected : Expectation) : Demand α := fun s =>
  some (.error (.grammatical expected s.current.value s.current.place), s)

/-- Takes the next token and what it means, if it means something here. -/
def tokenThat (meaning : Token → Option α) (expected : Expectation) : Demand (Placed Span α) := do
  let found ← current
  match meaning found.value with
  | some a =>
    advance
    return ⟨a, found.place⟩
  | none => refuse expected

/-- Takes a given symbol. -/
def symbol (s : Symbol) (expected : Expectation) : Demand Span := do
  let found ← tokenThat (fun t => if t = .symbol s then some () else none) expected
  return found.place

/-- Takes a name that is no keyword. -/
def name (expected : Expectation) : Demand (Placed Span String) :=
  tokenThat (fun t => match t with
    | .name text => some text
    | _ => none) expected

/-- Is a given symbol the next token? It is not taken. -/
def sees (s : Symbol) : Demand Bool := do
  let found ← current
  return found.value == .symbol s

/-- Takes a given symbol if it is the next token, and says whether it did. -/
def takes (s : Symbol) : Demand Bool := do
  if ← sees s then
    advance
    return true
  else
    return false

/-! ### Repetition -/

/-- Reads again and again, as long as the next token says so. -/
def whileSeen (more : Token → Bool) (read : Demand α) : Nat → Demand (List α)
  | 0 => giveUp
  | patience + 1 => do
    let found ← current
    if more found.value then
      let a ← read
      let as ← whileSeen more read patience
      return a :: as
    else
      return []

/-- Reads once, and once more behind each comma. -/
def commaSeparated (read : Demand α) : Nat → Demand (List α)
  | 0 => giveUp
  | patience + 1 => do
    let a ← read
    if ← takes .comma then
      let as ← commaSeparated read patience
      return a :: as
    else
      return [a]

/-- Counts a type while it is being read. It is left again whatever reading it comes to. -/
def activation (read : Demand α) : Demand α := fun s =>
  (read s.enter).map fun (result, s) => (result, s.leave)

/-! ### The grammar -/

section

variable (patience : Nat)

/-- Takes a literal. -/
def literal : Demand Literal := do
  let found ← tokenThat Reader.literalOf? .literal
  return found.value

/-- Reads the arguments of an annotation, if a parenthesis opens them. -/
def arguments : Demand (List Literal) := do
  if ← takes .openParen then
    if ← takes .closeParen then
      return []
    else
      let values ← commaSeparated literal patience
      let _ ← symbol .closeParen .closeParen
      return values
  else
    return []

/-- Reads an annotation. -/
def annot : Demand (Annot Span) := do
  let place ← symbol .atSign .atSign
  let name ← name .annotationName
  let values ← arguments patience
  return ⟨name.value, values, place⟩

/-- Reads annotations as long as they come. -/
def annotations : Demand (List (Annot Span)) :=
  whileSeen (· == .symbol .atSign) (annot patience) patience

/-- Takes `[]` if a bracket opens it, and says whether it did. -/
def arrayMark : Demand Bool := do
  if ← takes .openBracket then
    let _ ← symbol .closeBracket .closeBracket
    return true
  else
    return false

/-- Reads the arguments of a type, given what to do at the angle bracket that opens them. -/
def typeArguments (inBrackets : Demand (List (TypeRef Span))) : Demand (List (TypeRef Span)) := do
  if ← sees .openAngle then
    inBrackets
  else
    return []

/-- Reads a type, given what to do at the angle bracket that opens its arguments. -/
def typeWith (inBrackets : Demand (List (TypeRef Span))) : Demand (TypeRef Span) := do
  let name ← name .type
  let inner ← typeArguments inBrackets
  let array ← arrayMark
  let optional ← takes .question
  return ⟨name.value, inner, array, optional, name.place⟩

/-- Reads a type inside so many angle brackets. What stops it from going deeper is that it counts them. -/
def type : Nat → Nat → Demand (TypeRef Span)
  | 0, _ => giveUp
  | activations + 1, depth => activation (typeWith do
    if maxTypeDepth ≤ depth then
      refuse .shallowerType
    else
      let _ ← takes .openAngle
      let types ← commaSeparated (type activations (depth + 1)) patience
      let _ ← symbol .closeAngle .closeAngle
      return types)

/-- Takes a separator if there is one. -/
def separator : Demand Unit := do
  if ← takes .semicolon then
    return ()
  else
    let _ ← takes .comma
    return ()

variable (activations : Nat)

/-- Reads a field with its separator. -/
def field : Demand (Field Span) := do
  let front ← annotations patience
  let name ← name .fieldName
  let _ ← symbol .colon .colon
  let type ← type patience activations 0
  let back ← annotations patience
  separator
  return ⟨name.value, type, front ++ back, name.place⟩

/-- Reads the next field of a body, or finds that the input has ended in it. -/
def nextField : Demand (Field Span) := do
  let found ← current
  if found.value = .endOfInput then
    refuse .fieldOrCloseBrace
  else
    field patience activations

/-- Reads the fields of a body and its closing brace. -/
def fields : Demand (List (Field Span)) := do
  let fields ← whileSeen (· != .symbol .closeBrace) (nextField patience activations) patience
  let _ ← symbol .closeBrace .fieldOrCloseBrace
  return fields

/-- What is expected where a logical name should be: if there is a string, that it is not empty. -/
def logicalNameExpected : Token → Expectation
  | .string _ => .nonEmptyLogicalName
  | _ => .logicalName

/-- Takes a string that can be a logical name. -/
def logicalName : Demand String := do
  let next ← current
  let found ← tokenThat Reader.logicalNameOf? (logicalNameExpected next.value)
  return found.value

/-- Reads `as` and a logical name, if they come. Without them the logical name is the one given. -/
def nameClause (otherwise : String) : Demand String := do
  let found ← current
  if found.value = .keyword .as then
    advance
    logicalName
  else
    return otherwise

/-- Reads a declaration. -/
def declaration : Demand (Declaration Span) := do
  let front ← annotations patience
  let kind ← tokenThat Reader.kindOf? (if front.isEmpty then .declaration else .declarationKeyword)
  let name ← name .declarationName
  let logicalName ← nameClause name.value
  let _ ← symbol .openBrace .openBrace
  let fields ← fields patience activations
  return ⟨kind.value, name.value, logicalName, front, fields, kind.place⟩

/-- Reads a whole source from an untouched desk. -/
def schema : Demand (Schema Span) := do
  advance
  let declarations ← whileSeen (· != .endOfInput) (declaration patience activations) patience
  return ⟨declarations⟩

end

end Demand

end ModelIdl
