/-!
# Query options

The options of one query evaluation.  They travel explicitly to every part of
the engine that reads them.
-/

namespace SparqlBag

/-- How much the planner reorders basic graph patterns. -/
inductive OptimizationLevel where
  /-- Patterns run in the order they are written. -/
  | none
  /-- Patterns are ranked by which of their positions are bound. -/
  | structural
  /-- Patterns are ranked by statistics when there are any, structurally otherwise. -/
  | full
  deriving DecidableEq, Inhabited, Repr

/-- How a blank node inside a basic graph pattern matches. -/
inductive BlankNodeMode where
  /-- It stands for a hidden variable, which no projection shows. -/
  | hiddenVariable
  /-- It matches only the identical blank node of the dataset. -/
  | exactMatch
  deriving DecidableEq, Inhabited, Repr

/-- The options of an evaluation. -/
structure QueryOptions where
  optimization : OptimizationLevel := .full
  /-- Whether every quad the store returns is checked again against its pattern. -/
  rigorous : Bool := false
  /-- Whether the default graph is the union of all graphs. -/
  unionDefaultGraph : Bool := false
  blankNodeMode : BlankNodeMode := .hiddenVariable
  /-- The deadline in milliseconds; a zero deadline has always passed. -/
  timeout : Option Nat := none
  deriving DecidableEq, Inhabited, Repr

end SparqlBag
