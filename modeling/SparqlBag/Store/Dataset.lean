import SparqlBag.Term.Basic

/-!
# An in-memory RDF dataset

A dataset is a set of quads kept in the order they were inserted, and the
list of its named graphs in the order they were declared.  A quad in a named
graph declares its graph; a declared graph may hold no quad.  Every lookup
returns the matching quads in insertion order; a quad removed and inserted
again counts as inserted last.
-/

namespace SparqlBag

/-- The quads and named graphs of a dataset. -/
structure Dataset where
  /-- The quads, without repetitions, in insertion order. -/
  quads : List Quad := []
  /-- The named graphs (IRIs and blank nodes), in declaration order. -/
  namedGraphs : List Term := []
  deriving Inhabited

/-- Whether a quad matches a pattern; a missing part matches anything, and a
missing graph matches every graph, the default graph included. -/
def Quad.matches (q : Quad) (s : Option Term) (p : Option String) (o : Option Term)
    (g : Option GraphName) : Bool :=
  s.all (· == q.subject) && p.all (· == q.predicate) && o.all (· == q.object) &&
    g.all (· == q.graph)

namespace Dataset

/-- The number of quads. -/
def size (d : Dataset) : Nat := d.quads.length

def contains (d : Dataset) (q : Quad) : Bool := d.quads.contains q

/-- Declares a named graph; `false` when it was declared already. -/
def addNamedGraph (d : Dataset) (g : Term) : Bool × Dataset :=
  if d.namedGraphs.contains g then (false, d) else (true, { d with namedGraphs := d.namedGraphs ++ [g] })

/-- Inserts a quad; `false` when it was present already. -/
def insert (d : Dataset) (q : Quad) : Bool × Dataset :=
  if d.contains q then (false, d)
  else
    let d := { d with quads := d.quads ++ [q] }
    match q.graph with
    | .named g => (true, (d.addNamedGraph g).2)
    | .default => (true, d)

/-- Inserts quads one after another and counts the new ones. -/
def insertAll (d : Dataset) (qs : List Quad) : Nat × Dataset :=
  qs.foldl (fun (acc : Nat × Dataset) q =>
    let (added, d) := acc.2.insert q
    (if added then acc.1 + 1 else acc.1, d)) (0, d)

/-- Removes a quad; `false` when it was absent.  The graph stays declared. -/
def remove (d : Dataset) (q : Quad) : Bool × Dataset :=
  if d.contains q then (true, { d with quads := d.quads.erase q }) else (false, d)

def containsNamedGraph (d : Dataset) (g : Term) : Bool := d.namedGraphs.contains g

/-- Removes a named graph and all its quads; `false` when it was not declared. -/
def removeNamedGraph (d : Dataset) (g : Term) : Bool × Dataset :=
  if d.containsNamedGraph g then
    (true, { quads := d.quads.filter (·.graph != .named g),
             namedGraphs := d.namedGraphs.filter (· != g) })
  else (false, d)

/-- The quads that match a pattern, in insertion order. -/
def matching (d : Dataset) (s : Option Term) (p : Option String) (o : Option Term)
    (g : Option GraphName) : List Quad :=
  d.quads.filter (·.matches s p o g)

/-- Counts of terms in first-seen order. -/
def countTerms (ts : List Term) : List (Term × Nat) :=
  ts.foldl (fun acc t =>
    if acc.any (·.1 == t) then acc.map fun (u, n) => if u == t then (u, n + 1) else (u, n)
    else acc ++ [(t, 1)]) []

/-- The statistics of a dataset: for each IRI or blank node and each position,
a triple `term opt:<position>Count n` with the number of quads holding the term
in that position.  Literals are never subjects and so are left out. -/
def statistics (d : Dataset) (subjectCount predicateCount objectCount : String) : List Triple :=
  let emit (pred : String) (counts : List (Term × Nat)) : List Triple :=
    counts.filterMap fun (t, n) =>
      if t.isLiteral then none
      else some ⟨t, pred, .literal (.typed (toString (min n (Nat.pow 2 63 - 1))) Xsd.integer)⟩
  emit subjectCount (countTerms (d.quads.map (·.subject))) ++
    emit predicateCount (countTerms (d.quads.map (Term.iri ·.predicate))) ++
    emit objectCount (countTerms (d.quads.map (·.object)))

end Dataset

end SparqlBag
