import SparqlBag.Plan.Weights
import SparqlBag.Plan.Paths
import SparqlBag.Term.Order
import SparqlBag.Sort

/-!
# Reordering basic graph patterns

A ranking orders triple patterns so that selective ones come first: by the
estimate of their shape (`structural`) or by their score in a selectivity model
(`weighted`), with ties going to a lexical order, so a ranking is a total order.

`reorder` sorts the patterns by the ranking and then chains them: the next
pattern is the best ranked one that shares a variable or blank node with those
chosen so far, and only when none does, the best ranked of the rest.
`GraphPattern.optimise` reorders every basic graph pattern of a tree, first
merging two that are joined directly.
-/

namespace SparqlBag

/-- The number of positions of a pattern that are variables or blank nodes. -/
def TriplePattern.variableCount (t : TriplePattern) : Nat :=
  let isOpen : TermPattern → Nat
    | .var _ | .term (.blank _) => 1
    | .term _ => 0
  isOpen t.subject + (match t.predicate with | .var _ => 1 | .iri _ => 0) + isOpen t.object

/-- Variables first, ordered by name, then terms in the fast term order. -/
def TermPattern.compareLexically : TermPattern → TermPattern → Ordering
  | .var a, .var b => compare a.name b.name
  | .var _, .term _ => .lt
  | .term _, .var _ => .gt
  | .term a, .term b => fastCompareTerms (some a) (some b)

/-- Variables first, ordered by name, then IRIs by their text. -/
def IriPattern.compareLexically : IriPattern → IriPattern → Ordering
  | .var a, .var b => compare a.name b.name
  | .var _, .iri _ => .lt
  | .iri _, .var _ => .gt
  | .iri a, .iri b => compare a b

/-- The tie-break between patterns: fewer open positions first, then subject,
predicate and object in turn. -/
def TriplePattern.compareLexically (a b : TriplePattern) : Ordering :=
  (compare a.variableCount b.variableCount).then <|
    (a.subject.compareLexically b.subject).then <|
      (a.predicate.compareLexically b.predicate).then (a.object.compareLexically b.object)

/-- The total order of IEEE 754 on doubles: `-NaN < -∞ < … < -0 < +0 < … < +∞ < NaN`. -/
def totalCompareFloat (a b : Float) : Ordering :=
  let key (x : Float) : Int :=
    let bits := x.toBits.toNat
    if bits < Nat.pow 2 63 then bits else -((bits - Nat.pow 2 63 : Nat) : Int) - 1
  compare (key a) (key b)

/-- How patterns are ranked. -/
inductive PatternRanking where
  /-- By the estimate of their shape. -/
  | structural (mode : BlankNodeMode)
  /-- By their score in a selectivity model. -/
  | weighted (model : Weightings) (mode : BlankNodeMode)
  deriving Inhabited

namespace PatternRanking

/-- The score of a pattern under a selectivity model. -/
def score (model : Weightings) (mode : BlankNodeMode) (t : TriplePattern) : Float :=
  model.selectivity (PatternShape.of t mode)

/-- Which of two patterns should run first; `.lt` means the first one. -/
def compare : PatternRanking → TriplePattern → TriplePattern → Ordering
  | .structural mode, a, b =>
    (Ord.compare (PatternShape.of a mode).estimate (PatternShape.of b mode).estimate).then
      (a.compareLexically b)
  | .weighted model mode, a, b =>
    (totalCompareFloat (score model mode a) (score model mode b)).then (a.compareLexically b)

/-- The ranking the options ask for, if any: a selectivity model only at the
full level and only when there is one. -/
def ofOptions (options : QueryOptions) (model : Option Weightings) : Option PatternRanking :=
  match options.optimization, model with
  | .none, _ => none
  | .full, some m => some (.weighted m options.blankNodeMode)
  | _, _ => some (.structural options.blankNodeMode)

end PatternRanking

/-- The names through which a pattern joins others: its variables, and its
blank nodes marked so that they never meet a variable's name. -/
def TriplePattern.joinKeys (t : TriplePattern) : List String :=
  let key : TermPattern → List String
    | .var v => [v.name]
    | .term (.blank b) => ["_:" ++ b]
    | .term _ => []
  key t.subject ++ (match t.predicate with | .var v => [v.name] | .iri _ => []) ++ key t.object

/-- Chains ranked patterns: the first one that shares a key with `bound`, or the
first of all when none does, then the rest. -/
def chainPatterns : List TriplePattern → List String → List TriplePattern
  | [], _ => []
  | first :: rest, bound =>
    match _hf : (first :: rest).find? (fun t => t.joinKeys.any bound.contains) with
    | some c => c :: chainPatterns ((first :: rest).erase c) (bound ++ c.joinKeys)
    | none => first :: chainPatterns rest (bound ++ first.joinKeys)
termination_by ranked => ranked.length
decreasing_by
  · rw [List.length_erase_of_mem (List.mem_of_find?_eq_some _hf)]
    simp
  · simp

/-- Reorders the patterns of one basic graph pattern. -/
def PatternRanking.reorder (r : PatternRanking) (patterns : List TriplePattern) :
    List TriplePattern :=
  if patterns.length < 2 then patterns
  else
    -- The ranking is a strict total order, so every stable sort gives this list
    -- (`PatternRanking.sort_eq_insertionSort`).
    chainPatterns (StableSort.insertionSort (fun a b => r.compare a b == .lt) patterns) []

/-- Reorders one basic graph pattern, or merges and reorders two joined directly;
leaves every other node as it is. -/
def PatternRanking.mergeStep (r : PatternRanking) : GraphPattern → Id GraphPattern
  | .bgp ps => pure (.bgp (r.reorder ps))
  | .join (.bgp l) (.bgp rs) => pure (.bgp (r.reorder (l ++ rs)))
  | g => pure g

/-- Reorders every basic graph pattern of a tree; two basic graph patterns
joined directly are merged first. -/
def GraphPattern.optimise (r : PatternRanking) (p : GraphPattern) : GraphPattern :=
  Id.run (p.rewriteUp r.mergeStep)

/-- Makes a pattern ready for evaluation: lowers its property paths and then
reorders its basic graph patterns as the options ask. -/
def GraphPattern.prepare (options : QueryOptions) (model : Option Weightings) (p : GraphPattern) :
    Except QueryError GraphPattern := do
  let lowered ← p.lowerPaths
  match PatternRanking.ofOptions options model with
  | some r => return lowered.optimise r
  | none => return lowered

end SparqlBag
