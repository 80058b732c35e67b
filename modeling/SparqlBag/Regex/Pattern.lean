import SparqlBag.Regex.Parse
import SparqlBag.Regex.Resolve
import SparqlBag.Regex.Search
import SparqlBag.Regex.Footprint

/-!
# Regular expressions: compiled patterns

A pattern is read into a syntax tree, given its meaning under the flags, and
turned into a program.  It is refused when it cannot be read, when its flags
refuse a part of it, or when the automaton that would run it needs more
memory than the limit allows: `patternLimit` bytes for a pattern, and
`literalLimit` for a text matched literally.
-/

namespace SparqlBag

namespace Regex

/-- The options a pattern is compiled with. -/
structure Options where
  caseInsensitive : Bool := false
  multiLine : Bool := false
  dotMatchesNewLine : Bool := false
  ignoreWhitespace : Bool := false
  deriving DecidableEq, Repr, Inhabited

/-- A compiled pattern. -/
structure Pattern where
  expr : Expr
  /-- The names of the named groups, with their numbers. -/
  names : List (String × Nat)
  program : Program
  deriving Inhabited

/-- The memory limit of the automata of a pattern. -/
def patternLimit : Nat := 1000000

/-- The memory limit of the automata of a text matched literally. -/
def literalLimit : Nat := 10 * 1048576

namespace Pattern

/-- The pattern of an expression with the groups of a syntax tree. -/
def ofExpr (e : Expr) (groups : List (Nat × Option String)) : Pattern :=
  { expr := e
    names := groups.filterMap fun (i, name) => name.map (·, i)
    program := e.program groups.length }

/-- Compiles a pattern under options; `none` when it is refused. -/
def compile (pattern : String) (o : Options) : Option Pattern := do
  let ast ← Ast.parse pattern o.ignoreWhitespace
  let flags : Flags :=
    { caseInsensitive := o.caseInsensitive
      multiLine := o.multiLine
      dotMatchesNewLine := o.dotMatchesNewLine }
  let (e, _) ← ast.resolve flags
  if e.fitsIn patternLimit then pure (ofExpr e ast.captureNames) else none

/-- The pattern that matches a text literally. -/
def literal (text : String) : Option Pattern :=
  let e := Expr.ofText text.toList
  if e.fitsIn literalLimit then some (ofExpr e []) else none

/-- Whether the pattern matches somewhere in a text. -/
def isMatch (p : Pattern) (text : String) : Bool :=
  (p.program.find text.toList.toArray 0).isSome

/-- Replaces every match in a text. -/
def replaceAll (p : Pattern) (text replacement : String) : String :=
  p.program.replaceAll p.names text replacement

end Pattern

end Regex

end SparqlBag
