import SparqlBag.Plan.Shape
import SparqlBag.Number.Decimal
import SparqlBag.Text.Blank

/-!
# Weightings: a selectivity model from statistics

A term seen `n` times in a position has the weight `1 - 1/n`, never below the
machine epsilon: frequent terms weigh almost 1 and rare ones almost 0.  A
term without statistics takes the default weight of its position, and every
variable position the variable weight.  The score of a pattern is the product
of the weights of its three positions; a lower score means a more selective
pattern, which should run earlier.

Statistics are triples `term opt:subjectCount n` (and `opt:predicateCount`,
`opt:objectCount`; `opt:count` counts for all three positions).  When a term
has several counts for one position the largest counts.
-/

namespace SparqlBag

namespace Opt

/-- The namespace of the statistics vocabulary. -/
def ns : String := "http://rdf-multiset.org/optimiser#"

def subjectCount : String := ns ++ "subjectCount"
def predicateCount : String := ns ++ "predicateCount"
def objectCount : String := ns ++ "objectCount"
def count : String := ns ++ "count"

end Opt

/-- The smallest weight, `2⁻⁵²`. -/
def weightEpsilon : Float := Float.ofBits 0x3CB0000000000000

/-- The weight of a term that was seen `count` times. -/
def weight (count : Nat) : Float :=
  let w := 1.0 - 1.0 / (max count 1).toFloat
  if w < weightEpsilon then weightEpsilon else w

/-- The weights of terms without statistics and of variables. -/
structure DefaultWeights where
  subject : Float := 0.8
  predicate : Float := 0.4
  object : Float := 0.6
  anyVariable : Float := 1.0
  deriving Inhabited

/-- A default weight brought into `[ε, 1]`; a NaN becomes 1. -/
def clampWeight (w : Float) : Float :=
  if w.isNaN then 1.0
  else if w < weightEpsilon then weightEpsilon
  else if w > 1.0 then 1.0
  else w

/-- All four defaults brought into `[ε, 1]`. -/
def DefaultWeights.clamped (d : DefaultWeights) : DefaultWeights :=
  ⟨clampWeight d.subject, clampWeight d.predicate, clampWeight d.object, clampWeight d.anyVariable⟩

/-- How often each term was seen in one position. -/
structure TermCounts where
  entries : List (Term × Nat) := []
  deriving Inhabited

namespace TermCounts

/-- The count of a term, if it has one. -/
def get? (c : TermCounts) (t : Term) : Option Nat :=
  (c.entries.find? (·.1 == t)).map (·.2)

/-- Records a count; the larger of the old and the new count stays. -/
def recordMax (c : TermCounts) (t : Term) (n : Nat) : TermCounts :=
  match c.get? t with
  | none => ⟨(t, n) :: c.entries⟩
  | some old => ⟨(t, max old n) :: c.entries.filter (·.1 != t)⟩

end TermCounts

/-- The selectivity model. -/
structure Weightings where
  subjects : TermCounts := {}
  predicates : TermCounts := {}
  objects : TermCounts := {}
  defaults : DefaultWeights := {}
  deriving Inhabited

/-- The count a statistics triple gives: its object must be an integer or a
plain string holding an unsigned 64-bit number. -/
def statisticsCount (t : Triple) : Option Nat :=
  if [Opt.subjectCount, Opt.predicateCount, Opt.objectCount, Opt.count].contains t.predicate then
    match t.object with
    | .literal l =>
      if Xsd.isIntegerType l.datatype || l.datatype == Xsd.string then
        parseUInt64 (trimWhiteSpace l.value)
      else none
    | _ => none
  else none

namespace Weightings

/-- An empty model with the given defaults, clamped. -/
def withDefaults (d : DefaultWeights) : Weightings := { defaults := d.clamped }

def recordSubject (w : Weightings) (t : Term) (n : Nat) : Weightings :=
  { w with subjects := w.subjects.recordMax t n }

def recordPredicate (w : Weightings) (t : Term) (n : Nat) : Weightings :=
  { w with predicates := w.predicates.recordMax t n }

def recordObject (w : Weightings) (t : Term) (n : Nat) : Weightings :=
  { w with objects := w.objects.recordMax t n }

/-- Adds one statistics triple; a malformed one changes nothing. -/
def addStatistic (w : Weightings) (t : Triple) : Weightings :=
  match statisticsCount t with
  | none => w
  | some n =>
    if t.predicate == Opt.subjectCount then w.recordSubject t.subject n
    else if t.predicate == Opt.predicateCount then w.recordPredicate t.subject n
    else if t.predicate == Opt.objectCount then w.recordObject t.subject n
    else ((w.recordSubject t.subject n).recordPredicate t.subject n).recordObject t.subject n

/-- Adds the counts of a statistics graph. -/
def addStatistics (w : Weightings) (graph : List Triple) : Weightings :=
  graph.foldl addStatistic w

/-- The model of a statistics graph. -/
def ofStatistics (graph : List Triple) : Weightings := ({} : Weightings).addStatistics graph

def subjectWeight (w : Weightings) (t : Term) : Float :=
  ((w.subjects.get? t).map weight).getD w.defaults.subject

def predicateWeight (w : Weightings) (p : String) : Float :=
  ((w.predicates.get? (.iri p)).map weight).getD w.defaults.predicate

def objectWeight (w : Weightings) (t : Term) : Float :=
  ((w.objects.get? t).map weight).getD w.defaults.object

def variableWeight (w : Weightings) : Float := w.defaults.anyVariable

/-- The score of a pattern shape: the product of its three weights, subject
first. -/
def selectivity (w : Weightings) : PatternShape → Float
  | .allVariables => w.variableWeight * w.variableWeight * w.variableWeight
  | .subject s => w.subjectWeight s * w.variableWeight * w.variableWeight
  | .predicate p => w.variableWeight * w.predicateWeight p * w.variableWeight
  | .object o => w.variableWeight * w.variableWeight * w.objectWeight o
  | .subjectPredicate s p => w.subjectWeight s * w.predicateWeight p * w.variableWeight
  | .subjectObject s o => w.subjectWeight s * w.variableWeight * w.objectWeight o
  | .predicateObject p o => w.variableWeight * w.predicateWeight p * w.objectWeight o
  | .noVariables s p o => w.subjectWeight s * w.predicateWeight p * w.objectWeight o

end Weightings

end SparqlBag
