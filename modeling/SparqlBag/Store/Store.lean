import SparqlBag.Engine.Query
import SparqlBag.Syntax.Query
import SparqlBag.Store.Content

/-!
# A queryable store

A store is the indexed content of a dataset with the default options of its
queries and, once statistics are loaded, the selectivity model that orders
basic graph patterns under full optimisation.  Queries see the content as a
dataset.  Clearing the store empties the content and keeps the model.
-/

namespace SparqlBag

/-- Indexed quads with query options and an optional selectivity model. -/
structure Store where
  content : Content := {}
  model : Option Weightings := none
  options : QueryOptions := {}
  deriving Inhabited

namespace Store

/-- The stored quads and named graphs. -/
def dataset (s : Store) : Dataset := s.content.dataset

/-- Evaluates a parsed query with the given options. -/
def evaluate (s : Store) (q : Query) (options : QueryOptions) : Except QueryError QueryResults :=
  q.evaluate s.dataset options s.model

/-- Parses and evaluates a query with the given options. -/
def query (s : Store) (text : String) (options : QueryOptions) : Except QueryError QueryResults :=
  match parseQuery text with
  | some q => s.evaluate q options
  | none => .error .parsing

/-- Replaces the model by one built from a statistics graph. -/
def loadStatistics (s : Store) (graph : List Triple) : Store :=
  { s with model := some (Weightings.ofStatistics graph) }

/-- The statistics graph of the current content. -/
def statistics (s : Store) : List Triple :=
  s.dataset.statistics Opt.subjectCount Opt.predicateCount Opt.objectCount

/-- Loads the statistics of the current content. -/
def refreshStatistics (s : Store) : Store := s.loadStatistics s.statistics

/-- Drops the model. -/
def clearStatistics (s : Store) : Store := { s with model := none }

/-- Inserts a quad; `false` when it was present. -/
def insert (s : Store) (q : Quad) : Bool × Store :=
  let (added, c) := s.content.insert q
  (added, { s with content := c })

/-- Inserts quads and counts the new ones. -/
def extend (s : Store) (qs : List Quad) : Nat × Store :=
  let (n, c) := s.content.insertQuads qs
  (n, { s with content := c })

/-- Inserts triples into the default graph and counts the new ones. -/
def extendDefaultGraph (s : Store) (ts : List Triple) : Nat × Store :=
  let (n, c) := s.content.extendGraph (dedupeList ts)
  (n, { s with content := c })

/-- Removes a quad; `false` when it was absent. -/
def remove (s : Store) (q : Quad) : Bool × Store :=
  let (removed, c) := s.content.remove q
  (removed, { s with content := c })

/-- Declares a named graph; `false` when it was declared. -/
def insertNamedGraph (s : Store) (g : Term) : Bool × Store :=
  let (added, c) := s.content.addNamedGraph g
  (added, { s with content := c })

/-- Removes a named graph with its quads; `false` when it was not declared. -/
def removeNamedGraph (s : Store) (g : Term) : Bool × Store :=
  let (removed, c) := s.content.removeNamedGraph g
  (removed, { s with content := c })

/-- Empties the content; the model stays. -/
def clear (s : Store) : Store := { s with content := {} }

end Store

end SparqlBag
