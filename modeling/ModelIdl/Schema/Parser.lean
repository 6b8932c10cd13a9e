import ModelIdl.Schema.Declaration
import ModelIdl.Schema.Reader

/-!
# ModelIdl.Schema.Parser

The grammar of model definitions:

* a schema is any number of declarations;
* a declaration is annotations, `model` or `embeddable`, a name, optionally `as` and a non-empty
  string, and fields in braces;
* a field is annotations, a name, a colon, a type, further annotations, and optionally a semicolon or
  a comma;
* a type is a name, optionally types between `<` and `>` separated by commas, optionally `[]`, and
  optionally `?`;
* an annotation is `@`, a name, and optionally literals in parentheses separated by commas.

Annotations between two fields belong to the first of them unless a separator stands in front.
Parsing stops at the first token that cannot stand where it is, or where no token can be read,
whichever comes first, and then there is no schema.
-/

namespace ModelIdl

namespace Reader

variable {σ : Type}

/-! ### Annotations -/

/-- The literal that a token stands for. -/
def literalOf? : Token → Option Literal
  | .integer value => some (.integer value)
  | .number value => some (.number value)
  | .string text => some (.string text)
  | .name text => some (.name text)
  | .keyword .truth => some (.boolean true)
  | .keyword .falsity => some (.boolean false)
  | .keyword .null => some .null
  | _ => none

/-- Takes a literal. -/
def literal : Reader σ Literal := do
  let found ← tokenThat literalOf? .literal
  return found.value

/-- Reads the arguments of an annotation, if a parenthesis opens them. -/
def arguments : Reader σ (List Literal) := do
  if ← takes .openParen then
    if ← takes .closeParen then
      return []
    else
      let values ← commaSeparated literal
      let _ ← symbol .closeParen .closeParen
      return values
  else
    return []

/-- Reads an annotation. -/
def annot : Reader σ (Annot σ) := do
  let place ← symbol .atSign .atSign
  let name ← name .annotationName
  let values ← arguments
  return ⟨name.value, values, place⟩

/-- Reads annotations as long as they come. -/
def annotations : Reader σ (List (Annot σ)) :=
  whileSeen (startsWith .atSign) annot

/-! ### Types -/

/-- Takes `[]` if a bracket opens it, and says whether it did. -/
def arrayMark : Reader σ Bool := do
  if ← takes .openBracket then
    let _ ← symbol .closeBracket .closeBracket
    return true
  else
    return false

/-- Reads the arguments of a type, given what to do at the angle bracket that opens them. -/
def typeArguments (inBrackets : Reader σ (List (TypeRef σ))) : Reader σ (List (TypeRef σ)) := do
  if ← sees .openAngle then
    inBrackets
  else
    return []

theorem typeArguments_of_startsWith (inBrackets : Reader σ (List (TypeRef σ))) {ts : Tokens σ}
    (h : startsWith .openAngle ts = true) : typeArguments inBrackets ts = inBrackets ts := by
  simp [typeArguments, sees, Bind.bind, h]

theorem typeArguments_of_not_startsWith (inBrackets : Reader σ (List (TypeRef σ))) {ts : Tokens σ}
    (h : startsWith .openAngle ts = false) : typeArguments inBrackets ts = .ok ([], ts) := by
  simp [typeArguments, sees, Bind.bind, h]

/-- Reads a type, given what to do at the angle bracket that opens its arguments. -/
def typeWith (inBrackets : Reader σ (List (TypeRef σ))) : Reader σ (TypeRef σ) := do
  let name ← name .type
  let inner ← typeArguments inBrackets
  let array ← arrayMark
  let optional ← takes .question
  return ⟨name.value, inner, array, optional, name.place⟩

/-- Reads a type in which so many more angle brackets may open inside each other. -/
def type : Nat → Reader σ (TypeRef σ)
  | 0 => typeWith (reject .shallowerType)
  | levels + 1 => typeWith do
    let _ ← takes .openAngle
    let types ← commaSeparated (type levels)
    let _ ← symbol .closeAngle .closeAngle
    return types

/-! ### Fields -/

/-- Takes a separator if there is one. -/
def separator : Reader σ Unit := do
  if ← takes .semicolon then
    return ()
  else
    let _ ← takes .comma
    return ()

/-- Reads a field with its separator. -/
def field : Reader σ (Field σ) := do
  let front ← annotations
  let name ← name .fieldName
  let _ ← symbol .colon .colon
  let type ← type maxTypeDepth
  let back ← annotations
  separator
  return ⟨name.value, type, front ++ back, name.place⟩

/-- Reads the next field of a body. If the input ends in front of it, what is missing is a field or the
closing brace, and not the name of a field. -/
def nextField : Reader σ (Field σ)
  | [] => .error ⟨.fieldOrCloseBrace, []⟩
  | t :: rest => field (t :: rest)

/-- Reads the fields of a body and its closing brace. -/
def fields : Reader σ (List (Field σ)) := do
  let fields ← whileSeen (fun ts => !startsWith .closeBrace ts) nextField
  let _ ← symbol .closeBrace .fieldOrCloseBrace
  return fields

/-! ### Declarations -/

/-- The kind of declaration that a token opens. -/
def kindOf? : Token → Option DeclarationKind
  | .keyword .model => some .model
  | .keyword .embeddable => some .embeddable
  | _ => none

/-- The logical name that a string gives; the empty string gives none. -/
def logicalNameOf? : Token → Option String
  | .string text => if text.isEmpty then none else some text
  | _ => none

/-- What is expected where a logical name should be: if there is a string, that it is not empty. -/
def logicalNameExpected : Tokens σ → Expectation
  | ⟨.string _, _⟩ :: _ => .nonEmptyLogicalName
  | _ => .logicalName

/-- Takes a string that can be a logical name. -/
def logicalName : Reader σ String := fun ts => do
  let (found, rest) ← tokenThat logicalNameOf? (logicalNameExpected ts) ts
  return (found.value, rest)

/-- A logical name is taken at once, and anything else is refused at once. -/
theorem logicalName_eq (ts : Tokens σ) : logicalName ts =
    match ts with
    | [] => .error ⟨.logicalName, []⟩
    | t :: rest =>
      match logicalNameOf? t.value with
      | some s => .ok (s, rest)
      | none => .error ⟨logicalNameExpected (t :: rest), t :: rest⟩ := by
  cases ts with
  | nil => rfl
  | cons t rest =>
    simp only [logicalName, tokenThat]
    cases logicalNameOf? t.value <;> rfl

/-- What can be no logical name is refused, if it is a string for being empty. -/
theorem logicalName_eq_error {ts : Tokens σ} {e : Rejection σ} :
    logicalName ts = .error e ↔
      e = ⟨logicalNameExpected ts, ts⟩ ∧ ∀ t ∈ ts.head?, logicalNameOf? t.value = none := by
  rw [logicalName_eq]
  cases ts with
  | nil => simp [logicalNameExpected, eq_comm]
  | cons t rest =>
    simp only [List.head?_cons, Option.mem_def, Option.some.injEq, forall_eq']
    cases logicalNameOf? t.value <;> simp [eq_comm]

/-- Reads `as` and a logical name, if they come. Without them the logical name is the one given. -/
def nameClause (otherwise : String) : Reader σ String
  | ⟨.keyword .as, _⟩ :: rest => logicalName rest
  | ts => .ok (otherwise, ts)

theorem nameClause_of_not_as (otherwise : String) {ts : Tokens σ}
    (h : ¬ ∃ p rest, ts = ⟨.keyword .as, p⟩ :: rest) : nameClause otherwise ts = .ok (otherwise, ts) := by
  unfold nameClause
  split
  · rename_i p rest
    exact absurd ⟨p, rest, rfl⟩ h
  · rfl

/-- Reads a declaration. -/
def declaration : Reader σ (Declaration σ) := do
  let front ← annotations
  let kind ← tokenThat kindOf? (if front.isEmpty then .declaration else .declarationKeyword)
  let name ← name .declarationName
  let logicalName ← nameClause name.value
  let _ ← symbol .openBrace .openBrace
  let fields ← fields
  return ⟨kind.value, name.value, logicalName, front, fields, kind.place⟩

/-- Reads declarations until no tokens are left. -/
def declarations : Reader σ (List (Declaration σ)) :=
  whileSeen (fun ts => !ts.isEmpty) declaration

end Reader

namespace Rejection

/-- The error of a rejection in a stream. At the end of the tokens it is the stream's own fault, if it
has one, and else the end of the input that was not expected. -/
def toError {σ : Type} (r : Rejection σ) (ending : Ending σ) : ParseError σ :=
  match r.remaining, ending with
  | t :: _, _ => .grammatical r.expected t.value t.place
  | [], .finished place => .grammatical r.expected .endOfInput place
  | [], .faulty fault place => .lexical fault place

end Rejection

namespace Schema

/-- The schema that a stream of tokens writes, or the first thing wrong with it. -/
def ofStream {σ : Type} (s : TokenStream σ) : Except (ParseError σ) (Schema σ) :=
  match Reader.declarations s.tokens, s.ending with
  | .error r, ending => .error (r.toError ending)
  | .ok (declarations, _), .finished _ => .ok ⟨declarations⟩
  | .ok _, .faulty fault place => .error (.lexical fault place)

/-- The schema that a source text writes, or the first thing wrong with it. -/
def parse (source : String) : Except (ParseError Span) (Schema Span) :=
  ofStream (TokenStream.ofSource source)

end Schema

end ModelIdl
