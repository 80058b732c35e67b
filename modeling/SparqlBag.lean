import SparqlBag.Sort
import SparqlBag.Term.Basic
import SparqlBag.Term.Language
import SparqlBag.Number.Binary
import SparqlBag.Number.Shortest
import SparqlBag.Number.Decimal
import SparqlBag.Number.Numeric
import SparqlBag.Term.DateTime
import SparqlBag.Term.Order
import SparqlBag.Term.Text
import SparqlBag.Term.Iri
import SparqlBag.Algebra.Syntax
import SparqlBag.Algebra.Rewrite
import SparqlBag.Syntax.Reader
import SparqlBag.Syntax.Grammar
import SparqlBag.Syntax.Query
import SparqlBag.Error
import SparqlBag.Options
import SparqlBag.Plan.Paths
import SparqlBag.Plan.Shape
import SparqlBag.Plan.Weights
import SparqlBag.Plan.Reorder
import SparqlBag.Text.Blank
import SparqlBag.Text.Case
import SparqlBag.Text.Inversion
import SparqlBag.Text.Category
import SparqlBag.Text.Script
import SparqlBag.Text.Binary
import SparqlBag.Text.Age
import SparqlBag.Text.Boundary
import SparqlBag.Text.Fold
import SparqlBag.Text.Property
import SparqlBag.Text.Digest
import SparqlBag.Regex.Syntax
import SparqlBag.Regex.Parse
import SparqlBag.Regex.CharSet
import SparqlBag.Regex.Expr
import SparqlBag.Regex.Resolve
import SparqlBag.Regex.Program
import SparqlBag.Regex.Utf8
import SparqlBag.Regex.Footprint
import SparqlBag.Regex.Search
import SparqlBag.Regex.Pattern
import SparqlBag.Store.Dataset
import SparqlBag.Store.Content
import SparqlBag.Solution.Multiset
import SparqlBag.Expr.Value
import SparqlBag.Expr.Strings
import SparqlBag.Expr.Cast
import SparqlBag.Expr.Builtin
import SparqlBag.Expr.Eval
import SparqlBag.Expr.Aggregate
import SparqlBag.Solution.Group
import SparqlBag.Algebra.Variables
import SparqlBag.Engine.Graphs
import SparqlBag.Engine.Path
import SparqlBag.Engine.Pattern
import SparqlBag.Engine.Query
import SparqlBag.Store.Store
import SparqlBag.Proofs.Store.Index
import SparqlBag.Proofs.Store.Invariant
import SparqlBag.Proofs.Store.Refinement
import SparqlBag.Proofs.Term.Order
import SparqlBag.Proofs.Expr.Extremum
import SparqlBag.Proofs.Sort.Perm
import SparqlBag.Proofs.Solution.View
import SparqlBag.Proofs.Solution.Layout
import SparqlBag.Proofs.Solution.Operations
import SparqlBag.Proofs.Engine.Outcome
import SparqlBag.Proofs.Solution.Numbering
import SparqlBag.Proofs.Solution.Buckets
import SparqlBag.Proofs.Solution.Splitting
import SparqlBag.Proofs.Solution.Grouping
import SparqlBag.Proofs.Store.Statistics
import SparqlBag.Proofs.Solution.Sets
import SparqlBag.Proofs.Engine.Matching
import SparqlBag.Proofs.Engine.Reachability
import SparqlBag.Proofs.Engine.Conjunctive
import SparqlBag.Proofs.Plan.Hidden
import SparqlBag.Proofs.Plan.Lowering
import SparqlBag.Proofs.Solution.NestedLoop
import SparqlBag.Proofs.Solution.JoinLaws
import SparqlBag.Proofs.Engine.Closure
import SparqlBag.Proofs.Engine.PathRelation
import SparqlBag.Proofs.Engine.Substitution
import SparqlBag.Proofs.Solution.Combining
import SparqlBag.Proofs.Solution.Encoding
import SparqlBag.Proofs.Sort.Ordered
import SparqlBag.Proofs.Sort.Sorted
import SparqlBag.Proofs.Plan.Ranking
import SparqlBag.Proofs.Plan.Reordering
import SparqlBag.Proofs.Algebra.Rewrite
import SparqlBag.Proofs.Plan.Optimise
import SparqlBag.Proofs.Plan.Counts
import SparqlBag.Proofs.Expr.Totality
import SparqlBag.Proofs.Expr.Aggregation
import SparqlBag.Proofs.Sort.Naturality
import SparqlBag.Proofs.Sort.Success
import SparqlBag.Proofs.Expr.Median
import SparqlBag.Proofs.Plan.Freshness
import SparqlBag.Proofs.Engine.GraphResults
import SparqlBag.Proofs.Engine.Datasets
import SparqlBag.Proofs.Expr.EarlyExit
import SparqlBag.Proofs.Expr.Locality
import SparqlBag.Proofs.Engine.SubQueryErrors
import SparqlBag.Proofs.Plan.JoinSpine
import SparqlBag.Proofs.Engine.Termination
import SparqlBag.Proofs.Engine.PatternOrder
import SparqlBag.Proofs.Solution.Congruence
import SparqlBag.Proofs.Plan.Preserved
import SparqlBag.Proofs.Expr.ScopeTwins
import SparqlBag.Proofs.Engine.OptimiserSoundness
import SparqlBag.Proofs.Expr.Substitution
import SparqlBag.Proofs.Solution.Conditions
import SparqlBag.Proofs.Engine.SeededEvaluation
