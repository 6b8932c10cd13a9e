import ModelIdl.Schema.Parser

/-!
# ModelIdl.Proofs.Schema.Grammar

The grammar of model definitions as derivations, apart from the parser: a relation for each rule, between
the tokens that the rule derives and the tree that they write. The places in a tree are those of the
tokens it is placed at. Design points:

* **Concatenation.** The parts of a rule derive consecutive stretches of tokens, and the rule derives
  the stretches one behind the other. Nothing here says which stretch is the longest.
* **One ambiguity.** Where no separator divides two fields, annotations between them may belong to
  either. A body is therefore derived under a rule for what may stand behind a field: `anyJoin` is the
  plain grammar, `greedyJoin` gives such annotations to the field in front of them.
* **Limits.** That type arguments nest only so deep, and that no logical name is empty, is no matter of
  the rules but of the tree (`Schema.WithinLimits`).
-/

namespace ModelIdl

namespace Grammar

variable {σ α : Type}

/-! ### Repetition -/

/-- `{ item }` -/
inductive Repeated (item : Tokens σ → α → Prop) : Tokens σ → List α → Prop
  | nil : Repeated item [] []
  | cons {w ws : Tokens σ} {a : α} {as : List α} (head : item w a) (tail : Repeated item ws as) :
      Repeated item (w ++ ws) (a :: as)

/-- `item { "," item }` -/
inductive Listed (item : Tokens σ → α → Prop) : Tokens σ → List α → Prop
  | last {w : Tokens σ} {a : α} (only : item w a) : Listed item w [a]
  | more {w ws : Tokens σ} {a : α} {as : List α} {p : σ} (head : item w a)
      (tail : Listed item ws as) : Listed item (w ++ ⟨.symbol .comma, p⟩ :: ws) (a :: as)

/-! ### Annotations -/

/-- `literal = STRING | INTEGER | FLOAT | "true" | "false" | "null" | IDENT` -/
inductive LiteralForm : Tokens σ → Literal → Prop
  | string {s : String} {p : σ} : LiteralForm [⟨.string s, p⟩] (.string s)
  | integer {v : Int64} {p : σ} : LiteralForm [⟨.integer v, p⟩] (.integer v)
  | number {v : Decimal.Binary64} {p : σ} : LiteralForm [⟨.number v, p⟩] (.number v)
  | truth {p : σ} : LiteralForm [⟨.keyword .truth, p⟩] (.boolean true)
  | falsity {p : σ} : LiteralForm [⟨.keyword .falsity, p⟩] (.boolean false)
  | null {p : σ} : LiteralForm [⟨.keyword .null, p⟩] .null
  | name {s : String} {p : σ} : LiteralForm [⟨.name s, p⟩] (.name s)

/-- `[ "(" [ literal { "," literal } ] ")" ]` -/
inductive ArgumentsForm : Tokens σ → List Literal → Prop
  | absent : ArgumentsForm [] []
  | empty {p q : σ} : ArgumentsForm [⟨.symbol .openParen, p⟩, ⟨.symbol .closeParen, q⟩] []
  | listed {w : Tokens σ} {values : List Literal} {p q : σ} (inner : Listed LiteralForm w values) :
      ArgumentsForm (⟨.symbol .openParen, p⟩ :: (w ++ [⟨.symbol .closeParen, q⟩])) values

/-- `annotation = "@" IDENT [ "(" [ literal { "," literal } ] ")" ]` -/
inductive AnnotForm : Tokens σ → Annot σ → Prop
  | mk {w : Tokens σ} {values : List Literal} {n : String} {p q : σ} (inner : ArgumentsForm w values) :
      AnnotForm (⟨.symbol .atSign, p⟩ :: ⟨.name n, q⟩ :: w) ⟨n, values, p⟩

/-! ### Types -/

/-- `[ "[" "]" ]` -/
inductive ArrayForm : Tokens σ → Bool → Prop
  | absent : ArrayForm [] false
  | present {p q : σ} : ArrayForm [⟨.symbol .openBracket, p⟩, ⟨.symbol .closeBracket, q⟩] true

/-- `[ "?" ]` -/
inductive OptionalForm : Tokens σ → Bool → Prop
  | absent : OptionalForm [] false
  | present {p : σ} : OptionalForm [⟨.symbol .question, p⟩] true

/-- `type = IDENT [ "<" type { "," type } ">" ] [ "[" "]" ] [ "?" ]` -/
inductive TypeForm : Tokens σ → TypeRef σ → Prop
  | plain {u v : Tokens σ} {n : String} {array optional : Bool} {p : σ}
      (mark : ArrayForm u array) (tail : OptionalForm v optional) :
      TypeForm (⟨.name n, p⟩ :: (u ++ v)) ⟨n, [], array, optional, p⟩
  | generic {w u v : Tokens σ} {n : String} {types : List (TypeRef σ)} {array optional : Bool}
      {p q r : σ} (inner : Listed TypeForm w types) (mark : ArrayForm u array)
      (tail : OptionalForm v optional) :
      TypeForm (⟨.name n, p⟩ :: ⟨.symbol .openAngle, q⟩ ::
        (w ++ ⟨.symbol .closeAngle, r⟩ :: (u ++ v))) ⟨n, types, array, optional, p⟩

/-! ### Fields -/

/-- `[ ";" | "," ]`, and whether there is a separator. -/
inductive SeparatorForm : Tokens σ → Bool → Prop
  | absent : SeparatorForm [] false
  | semicolon {p : σ} : SeparatorForm [⟨.symbol .semicolon, p⟩] true
  | comma {p : σ} : SeparatorForm [⟨.symbol .comma, p⟩] true

/-- `field = { annotation } IDENT ":" type { annotation } [ ";" | "," ]`, and whether it ends in a
separator. -/
inductive FieldForm : Bool → Tokens σ → Field σ → Prop
  | mk {u v w x : Tokens σ} {front back : List (Annot σ)} {type : TypeRef σ} {n : String}
      {separated : Bool} {p q : σ} (before : Repeated AnnotForm u front) (typed : TypeForm v type)
      (behind : Repeated AnnotForm w back) (divided : SeparatorForm x separated) :
      FieldForm separated (u ++ ⟨.name n, p⟩ :: ⟨.symbol .colon, q⟩ :: (v ++ (w ++ x)))
        ⟨n, type, front ++ back, p⟩

/-- What may stand behind a field: given whether it ends in a separator, the tokens of the fields
behind it. -/
abbrev Join (σ : Type) := Bool → Tokens σ → Prop

/-- Any field may stand behind any other. -/
def anyJoin : Join σ := fun _ _ => True

/-- Behind a field without a separator no annotation comes first, for it would be that field's own. -/
def greedyJoin : Join σ := fun separated behind =>
  separated = true ∨ Reader.startsWith .atSign behind = false

/-- `{ field }` -/
inductive BodyForm (join : Join σ) : Tokens σ → List (Field σ) → Prop
  | nil : BodyForm join [] []
  | cons {w ws : Tokens σ} {field : Field σ} {fields : List (Field σ)} {separated : Bool}
      (head : FieldForm separated w field) (joined : join separated ws)
      (tail : BodyForm join ws fields) : BodyForm join (w ++ ws) (field :: fields)

/-! ### Declarations -/

/-- `kind = "model" | "embeddable"` -/
inductive KindForm : Token → DeclarationKind → Prop
  | model : KindForm (.keyword .model) .model
  | embeddable : KindForm (.keyword .embeddable) .embeddable

/-- `[ "as" STRING ]`: the logical name is the string, or else the structural name. -/
inductive NameClauseForm (structural : String) : Tokens σ → String → Prop
  | absent : NameClauseForm structural [] structural
  | given {s : String} {p q : σ} :
      NameClauseForm structural [⟨.keyword .as, p⟩, ⟨.string s, q⟩] s

/-- `declaration = { annotation } kind IDENT [ "as" STRING ] "{" { field } "}"` -/
inductive DeclarationForm (join : Join σ) : Tokens σ → Declaration σ → Prop
  | mk {u v w : Tokens σ} {front : List (Annot σ)} {word : Token} {kind : DeclarationKind}
      {n logical : String} {fields : List (Field σ)} {p q r s : σ}
      (before : Repeated AnnotForm u front) (opened : KindForm word kind)
      (named : NameClauseForm n v logical) (body : BodyForm join w fields) :
      DeclarationForm join
        (u ++ ⟨word, p⟩ :: ⟨.name n, q⟩ ::
          (v ++ ⟨.symbol .openBrace, r⟩ :: (w ++ [⟨.symbol .closeBrace, s⟩])))
        ⟨kind, n, logical, front, fields, p⟩

/-- `unit = { declaration }` -/
def UnitForm (join : Join σ) (w : Tokens σ) (s : Schema σ) : Prop :=
  Repeated (DeclarationForm join) w s.declarations

end Grammar

/-! ### What the rules do not say -/

variable {σ : Type}

/-- Type arguments nest no deeper than allowed, and the logical name is not empty. Structural names
never are, so this is about the string behind `as`. -/
structure Declaration.WithinLimits (d : Declaration σ) : Prop where
  named : d.logicalName ≠ ""
  shallow : ∀ f ∈ d.fields, f.type.depth ≤ maxTypeDepth

/-- Every declaration is within the limits. -/
def Schema.WithinLimits (s : Schema σ) : Prop :=
  ∀ d ∈ s.declarations, d.WithinLimits

/-- A declaration without the knowledge of which field has which annotation: its fields without
annotations, and the annotations of all its fields in order. -/
def Declaration.pooled (d : Declaration σ) : Declaration σ × List (Annot σ) :=
  ({ d with fields := d.fields.map ({ · with annotations := [] }) },
    d.fields.flatMap (·.annotations))

/-- A schema without the knowledge of which field has which annotation. -/
def Schema.pooled (s : Schema σ) : List (Declaration σ × List (Annot σ)) :=
  s.declarations.map (·.pooled)

end ModelIdl
