import SparqlBag.Engine.Pattern
import SparqlBag.Plan.Reorder

/-!
# Evaluating queries

A query is prepared (paths lowered, basic graph patterns reordered) and its
pattern evaluated over the dataset.  The four forms then shape the result:

* `SELECT` gives its variables and the rows of the solutions;
* `ASK` whether there is a solution;
* `CONSTRUCT` the template instantiated for every solution, without repeated
  triples.  Blank nodes of the template are new for every solution; a triple
  with an unbound position, a literal subject or a predicate that is not an
  IRI is skipped;
* `DESCRIBE` the triples of the active graph whose subject is an IRI or blank
  node bound in a solution, without repetitions.
-/

namespace SparqlBag

/-- The results of a query. -/
inductive QueryResults where
  | solutions (vars : List Variable) (rows : List Row)
  | boolean (value : Bool)
  | graph (triples : List Triple)
  deriving Inhabited

/-- The variables of the solutions of a `SELECT` query. -/
def GraphPattern.resultVariables : GraphPattern → List Variable
  | .project _ vars => vars
  | .slice p _ _ | .distinct p | .reduced p | .orderBy p _ => p.resultVariables
  | p => p.inScopeDistinct

/-- Appends the elements not yet in the list. -/
def appendNew {α : Type} [BEq α] (xs : List α) (more : List α) : List α := more.foldl pushNew xs

/-- The template instantiated for one solution. -/
def instantiate (template : List TriplePattern) (sol : Solution) : EvalM (List Triple) := do
  let mut labels : List (String × String) := []
  let mut out := []
  for t in template do
    let mut parts : List (Option Term) := []
    for tp in [t.subject, t.object] do
      match tp with
      | .var v => parts := parts ++ [sol.get v]
      | .term (.blank b) =>
        match labels.lookup b with
        | some l => parts := parts ++ [some (.blank l)]
        | none =>
          let l := Fresh.blankLabel (← modifyGet fun n => (n, n + 1))
          labels := labels ++ [(b, l)]
          parts := parts ++ [some (.blank l)]
      | .term c => parts := parts ++ [some c]
    let predicate := match t.predicate with
      | .iri i => some i
      | .var v => match sol.get v with
        | some (.iri i) => some i
        | _ => none
    match parts, predicate with
    | [some s, some o], some p => if !s.isLiteral then out := out ++ [⟨s, p, o⟩]
    | _, _ => pure ()
  return out

/-- The `CONSTRUCT` result over the solutions. -/
def construct (template : List TriplePattern) (m : Multiset) : EvalM (List Triple) := do
  let mut result := []
  for (_, row) in m.entries do
    result := appendNew result (← instantiate template ⟨m.vars, row⟩)
  return result

/-- The `DESCRIBE` result over the solutions. -/
def describe (g : Graphs) (m : Multiset) : List Triple :=
  let subjects := dedupeList (m.entries.flatMap fun (_, row) =>
    row.filterMap fun v => v.filter (!·.isLiteral))
  subjects.foldl (fun acc s => appendNew acc (g.triples (some s) none none)) []

/-- The instant `NOW` reports. -/
def fixedNow : DateTime := ⟨⟨63884332800 * Int.pow 10 decimalPlaces⟩, some 0⟩

/-- Where the pattern of a query is evaluated: the active graph of its dataset
clause, the graphs of its `FROM NAMED` (every named graph of the dataset if it
has no dataset clause), and no seed. -/
def Query.evalEnv (q : Query) (dataset : Dataset) (options : QueryOptions) : EvalEnv := {
  dataset, options
  call := { baseIri := q.baseIri, now := fixedNow }
  namedGraphs := q.dataset.map (·.namedGraphs.getD [])
  active := ActiveGraph.ofDataset q.dataset options.unionDefaultGraph
  seed := none }

/-- Evaluates a parsed query over a dataset. -/
def Query.evaluate (q : Query) (dataset : Dataset) (options : QueryOptions)
    (model : Option Weightings) : Except QueryError QueryResults := do
  let env := q.evalEnv dataset options
  let pattern ← q.pattern.prepare options model
  let run := fun (m : EvalM QueryResults) => (m.run' 0 : Except QueryError QueryResults)
  match q.form with
  | .select =>
    let vars := q.pattern.resultVariables
    run do
      let m := (← env.evalQuery pattern).project vars
      return .solutions vars (m.entries.map (·.2))
  | .ask => run do return .boolean !(← env.eval pattern).isEmpty
  | .construct template => run do return .graph (← construct template (← env.eval pattern))
  | .describe => run do return .graph (describe env.graphs (← env.evalQuery pattern))

end SparqlBag
