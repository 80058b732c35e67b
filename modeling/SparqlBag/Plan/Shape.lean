import SparqlBag.Term.Basic
import SparqlBag.Options

/-!
# Shapes of triple patterns

The shape of a triple pattern says which of its three positions hold a term
and carries those terms.  Variables never count as bound; a blank node counts
as bound only when blank nodes match exactly (`BlankNodeMode.exactMatch`), and
stands for a variable otherwise.
-/

namespace SparqlBag

/-- Which positions of a triple pattern are bound, with their terms. -/
inductive PatternShape where
  | allVariables
  | subject (s : Term)
  | predicate (p : String)
  | object (o : Term)
  | subjectPredicate (s : Term) (p : String)
  | subjectObject (s o : Term)
  | predicateObject (p : String) (o : Term)
  | noVariables (s : Term) (p : String) (o : Term)
  deriving DecidableEq, Inhabited, Repr

/-- The term of a position when it acts as a constant. -/
def TermPattern.boundTerm (mode : BlankNodeMode) : TermPattern → Option Term
  | .var _ => none
  | .term (.blank b) => if mode == .exactMatch then some (.blank b) else none
  | .term t => some t

namespace PatternShape

/-- The shape of a triple pattern. -/
def of (t : TriplePattern) (mode : BlankNodeMode) : PatternShape :=
  let p := match t.predicate with
    | .iri p => some p
    | .var _ => none
  match t.subject.boundTerm mode, p, t.object.boundTerm mode with
  | none, none, none => .allVariables
  | some s, none, none => .subject s
  | none, some p, none => .predicate p
  | none, none, some o => .object o
  | some s, some p, none => .subjectPredicate s p
  | some s, none, some o => .subjectObject s o
  | none, some p, some o => .predicateObject p o
  | some s, some p, some o => .noVariables s p o

/-- The number of bound positions. -/
def boundCount : PatternShape → Nat
  | .allVariables => 0
  | .subject _ | .predicate _ | .object _ => 1
  | .subjectPredicate _ _ | .subjectObject _ _ | .predicateObject _ _ => 2
  | .noVariables _ _ _ => 3

/-- A rough number of matches for a pattern of this shape, used when there are
no statistics: the fewer matches a shape usually has, the smaller. -/
def estimate : PatternShape → Nat
  | .noVariables _ _ _ => 1
  | .subjectPredicate _ _ => 10
  | .subjectObject _ _ => 2
  | .predicateObject _ _ => 10000
  | .subject _ => 100
  | .allVariables => 1000000000
  | .predicate _ => 1000000
  | .object _ => 100000

end PatternShape

end SparqlBag
