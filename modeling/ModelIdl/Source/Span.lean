import ModelIdl.Source.Position

/-!
# ModelIdl.Source.Span

Stretches of a source text: a range of byte offsets, and the line and column where it starts.
-/

namespace ModelIdl

/-- A stretch of source text, from the byte offset `start` up to `stop`. -/
structure Span where
  start : Nat
  stop : Nat
  line : Nat
  column : Nat
deriving DecidableEq, Repr

/-- The stretch between two positions. -/
def Position.to (p q : Position) : Span :=
  ⟨p.offset, q.offset, p.line, p.column⟩

namespace Span

/-- The empty stretch at the start of a text. -/
def origin : Span := ⟨0, 0, 1, 1⟩

/-- Is nothing in the stretch? -/
def isEmpty (s : Span) : Bool :=
  s.start == s.stop

/-- The number of bytes; none for a range that ends before it starts. -/
def size? (s : Span) : Option Nat :=
  if s.start ≤ s.stop then some (s.stop - s.start) else none

/-- The least stretch that covers both. It is placed where the earlier of them starts; of two that
start together, the first. -/
def merge (a b : Span) : Span :=
  let stop := max a.stop b.stop
  if a.start ≤ b.start then ⟨a.start, stop, a.line, a.column⟩
  else ⟨b.start, stop, b.line, b.column⟩

/-- Line and column as diagnostics show them. -/
def text (s : Span) : String :=
  s!"{s.line}:{s.column}"

/-- Cuts a text after a number of bytes; none if that is beyond its end or inside a character. -/
def cutAt? : Nat → List Char → Option (List Char × List Char)
  | 0, cs => some ([], cs)
  | _, [] => none
  | n, c :: cs =>
    if c.utf8Size ≤ n then
      (cutAt? (n - c.utf8Size) cs).map fun (before, behind) => (c :: before, behind)
    else none

/-- The text of the stretch, if the range fits the source. -/
def slice? (s : Span) (source : List Char) : Option (List Char) :=
  if s.start ≤ s.stop then do
    let (_, behind) ← cutAt? s.start source
    let (inside, _) ← cutAt? (s.stop - s.start) behind
    return inside
  else none

/-- The text of the stretch; empty if the range does not fit the source. -/
def slice (s : Span) (source : String) : String :=
  String.ofList ((s.slice? source.toList).getD [])

end Span

end ModelIdl
