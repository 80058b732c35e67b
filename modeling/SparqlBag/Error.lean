/-!
# Query errors

The errors that abort the evaluation of a whole query.  Errors of a single
expression are values of the expression evaluator instead and never reach
this type.
-/

namespace SparqlBag

/-- Why the evaluation of a query stopped. -/
inductive QueryError where
  /-- The query text is not SPARQL. -/
  | parsing
  /-- A sub-query failed. -/
  | subQuery (inner : QueryError)
  /-- The deadline of the evaluation passed; only a zero deadline is modelled. -/
  | timeout
  /-- The query uses a feature the engine does not support. -/
  | notImplemented (feature : String)
  /-- An invariant of the engine was broken. -/
  | internal (cause : String)
  /-- The engine stopped abnormally, without a message: a text cut inside a
  character, or a sort that found its order inconsistent. -/
  | abort
  deriving DecidableEq, Inhabited, Repr

namespace QueryError

/-- The text of an error, the way the engine reports it. -/
def message : QueryError → String
  | .parsing | .abort => ""
  | .subQuery inner => "Error while evaluating a sub-query: " ++ inner.message
  | .timeout => "The query evaluation exceeded the timeout of 0ns"
  | .notImplemented feature => "A feature has not yet been implemented: " ++ feature
  | .internal cause =>
    "An internal error that likely indicates towards a bug in RdfMultiset: " ++ cause

end QueryError

end SparqlBag
