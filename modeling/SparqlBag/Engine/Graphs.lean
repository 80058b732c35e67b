import SparqlBag.Store.Dataset
import SparqlBag.Algebra.Syntax

/-!
# The active graph

Triple patterns are matched against the active graph: the default graph, all
graphs at once, or the union of some graphs (those of `FROM`, or the one graph
of a `GRAPH` pattern).  When matches may come from more than one graph, a
triple found in several of them is returned once: the active graph is then
the merge of those graphs.
-/

namespace SparqlBag

/-- The graphs that triple patterns are matched against. -/
inductive ActiveGraph where
  | default
  | all
  | union (graphs : List GraphName)
  deriving DecidableEq, Inhabited, Repr

namespace ActiveGraph

/-- The active graph at the top of a query: the `FROM` graphs if there is a
`FROM` clause, otherwise all graphs or only the default graph. -/
def ofDataset (dataset : Option QueryDataset) (unionDefaultGraph : Bool) : ActiveGraph :=
  match dataset with
  | some d => .union (d.defaultGraphs.map .named)
  | none => if unionDefaultGraph then .all else .default

/-- The active graph inside `GRAPH g`. -/
def named (g : Term) : ActiveGraph := .union [.named g]

/-- Whether matches from more than one graph are combined. -/
def isMerge : ActiveGraph → Bool
  | .default => false
  | .all => true
  | .union gs => gs.length > 1

end ActiveGraph

/-- Keeps the first of equal elements. -/
def dedupeList {α : Type} [BEq α] (xs : List α) : List α :=
  (xs.foldl (fun (acc : List α × List α) x =>
    if acc.2.contains x then acc else (acc.1 ++ [x], x :: acc.2)) ([], [])).1

/-- A dataset seen through an active graph. -/
structure Graphs where
  dataset : Dataset
  active : ActiveGraph

namespace Graphs

/-- The triples of the active graph matching a pattern, in insertion order of
their quads, graph after graph.  A literal subject matches nothing. -/
def triples (g : Graphs) (s : Option Term) (p : Option String) (o : Option Term) : List Triple :=
  if s.any Term.isLiteral then [] else
  let graphs : List (Option GraphName) := match g.active with
    | .default => [some .default]
    | .all => [none]
    | .union gs => gs.map some
  let found := graphs.flatMap fun graph => (g.dataset.matching s p o graph).map Quad.triple
  if g.active.isMerge then dedupeList found else found

/-- The subjects and objects of the active graph, in the order they appear. -/
def nodes (g : Graphs) : List Term :=
  dedupeList ((g.triples none none none).flatMap fun t => [t.subject, t.object])

end Graphs

end SparqlBag
