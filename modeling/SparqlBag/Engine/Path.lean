import SparqlBag.Engine.Graphs
import SparqlBag.Solution.Multiset
import SparqlBag.Options

/-!
# Property paths

The paths that remain after lowering are evaluated with set semantics: each
pair of connected nodes is returned once, however many routes connect them.

`step` gives the nodes reached from one node, in the order they are first
found, forwards or backwards; `p*` starts with the node itself and `p+` is a
breadth-first search that never expands a node twice.  That search visits at
most the start and the nodes of the dataset, each visit queueing at most one
node per reachable node, so its fuel `closureFuel` is never used up.
-/

namespace SparqlBag

/-- The way a path is followed. -/
inductive Direction where
  | forward
  | backward
  deriving DecidableEq, Inhabited

/-- The other way. -/
def Direction.reverse : Direction → Direction
  | .forward => .backward
  | .backward => .forward

/-- Adds a node at the end unless it is there. -/
def addNode (nodes : List Term) (t : Term) : List Term := if nodes.contains t then nodes else nodes ++ [t]

/-- Adds nodes in order, skipping those already there. -/
def addNodes (nodes : List Term) (more : List Term) : List Term := more.foldl addNode nodes

namespace Graphs

/-- The neighbours of a node over a predicate (any, if `none`) that `accept` allows. -/
def neighbours (g : Graphs) (node : Term) (dir : Direction) (p : Option String)
    (accept : String → Bool) : List Term :=
  match dir with
  | .forward => ((g.triples (some node) p none).filter (accept ·.predicate)).map (·.object)
  | .backward => ((g.triples none p (some node)).filter (accept ·.predicate)).map (·.subject)

/-- Enough fuel for a breadth-first search over the dataset. -/
def closureFuel (g : Graphs) : Nat :=
  let n := 2 * g.dataset.quads.length + 2
  n * n + 2

/-- The breadth-first search of one or more steps: `queue` holds the nodes to
expand, `visited` those expanded, `found` the nodes reached so far. -/
def closure (next : Term → List Term) : Nat → List Term → List Term → List Term → List Term
  | 0, found, _, _ => found
  | _ + 1, found, _, [] => found
  | fuel + 1, found, visited, node :: queue =>
    if visited.contains node then closure next fuel found visited queue
    else
      let reached := next node
      let visited := node :: visited
      closure next fuel (addNodes found reached) visited (queue ++ reached.filter (!visited.contains ·))

/-- The nodes reached from `node` by following `path` in direction `dir`. -/
def step (g : Graphs) : PropertyPath → Direction → Term → List Term
  | .iri p, dir, node => addNodes [] (g.neighbours node dir (some p) fun _ => true)
  | .reverse inner, dir, node => step g inner dir.reverse node
  | .sequence first second, .forward, node =>
    (step g first .forward node).foldl (fun acc mid => addNodes acc (step g second .forward mid)) []
  | .sequence first second, .backward, node =>
    (step g second .backward node).foldl (fun acc mid => addNodes acc (step g first .backward mid)) []
  | .alternative left right, dir, node => addNodes (step g left dir node) (step g right dir node)
  | .zeroOrMore inner, dir, node => closure (step g inner dir) g.closureFuel [node] [] [node]
  | .oneOrMore inner, dir, node => closure (step g inner dir) g.closureFuel [] [] [node]
  | .zeroOrOne inner, dir, node => addNodes [node] (step g inner dir node)
  | .negated iris, dir, node => addNodes [] (g.neighbours node dir none fun p => !iris.contains p)

end Graphs

/-- A position of a pattern: a constant term or a variable. -/
inductive PatternTerm where
  | constant (t : Term)
  | variable (v : Variable)

/-- What a term pattern stands for: a blank node is a hidden variable, or a
constant when blank nodes match exactly. -/
def TermPattern.resolve (mode : BlankNodeMode) : TermPattern → PatternTerm
  | .var v => .variable v
  | .term (.blank b) =>
    match mode with
    | .hiddenVariable => .variable ⟨blankVariablePrefix ++ b⟩
    | .exactMatch => .constant (.blank b)
  | .term t => .constant t

/-- The solutions of a path pattern.  Between two constants it is the identity
or nothing; with two variables every node of the active graph is a start, and
the same variable at both ends keeps the nodes that reach themselves. -/
def Graphs.evalPath (g : Graphs) (mode : BlankNodeMode) (s : TermPattern) (path : PropertyPath)
    (o : TermPattern) : Multiset :=
  match s.resolve mode, o.resolve mode with
  | .constant a, .constant b =>
    if (g.step path .forward a).contains b then .identity else .null
  | .constant a, .variable v => Multiset.ofRows [v] ((g.step path .forward a).map fun n => [some n])
  | .variable v, .constant b => Multiset.ofRows [v] ((g.step path .backward b).map fun n => [some n])
  | .variable v, .variable w =>
    if v == w then
      Multiset.ofRows [v] (g.nodes.flatMap fun n =>
        ((g.step path .forward n).filter (· == n)).map fun r => [some r])
    else
      Multiset.ofRows [v, w] (g.nodes.flatMap fun n =>
        (g.step path .forward n).map fun r => [some n, some r])

end SparqlBag
