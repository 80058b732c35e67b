import SparqlBag.Algebra.Rewrite
import SparqlBag.Term.Text
import SparqlBag.Error

/-!
# Lowering property paths

A path made of IRIs, inverses, sequences and alternatives means the same as a
join of triple patterns: a sequence `p / q` from `s` to `o` is `s p ?t . ?t q o`
for a fresh variable `?t`, an inverse swaps its ends, and an alternative is the
union of its branches.  Repetitions and negated property sets stay path patterns.

The fresh variables `?__path0`, `?__path1`, … are numbered by one counter for
the whole query.  A `PathScope` is the state of lowering one path: its two ends,
the parts produced so far, and the counter; each branch of an alternative is
lowered in a nested scope that shares the counter.
-/

namespace SparqlBag

/-- One piece produced while lowering a path. -/
inductive PathPart where
  | triple (t : TriplePattern)
  | path (subject : TermPattern) (path : PropertyPath) (object : TermPattern)
  /-- An already lowered pattern, such as the union of an alternative. -/
  | nested (p : GraphPattern)
  deriving Inhabited

/-- The state of lowering one path between `start` and `finish`. -/
structure PathScope where
  start : TermPattern
  finish : TermPattern
  subject : TermPattern
  object : TermPattern
  /-- The parts in the order they were added. -/
  parts : List PathPart
  /-- The number of the next fresh variable. -/
  nextIndex : Nat
  /-- Whether this is the outermost scope of a path. -/
  top : Bool
  deriving Inhabited

namespace PathScope

/-- The top scope of a path from `start` to `finish`, numbering from `first`. -/
def new (start finish : TermPattern) (first : Nat := 0) : PathScope :=
  ⟨start, finish, start, finish, [], first, true⟩

/-- A scope for a branch, which continues the counter of `s`. -/
def nested (s : PathScope) (start finish : TermPattern) : PathScope :=
  { PathScope.new start finish s.nextIndex with top := false }

/-- Continues the counter after the nested scope `inner` is done. -/
def absorb (s inner : PathScope) : PathScope :=
  { s with nextIndex := max s.nextIndex inner.nextIndex }

/-- The name of the fresh variable with number `n`. -/
def variableName (n : Nat) : Variable := ⟨pathVariablePrefix ++ toString n⟩

/-- A fresh variable, and the scope with the counter moved on. -/
def fresh (s : PathScope) : Variable × PathScope :=
  (variableName s.nextIndex, { s with nextIndex := s.nextIndex + 1 })

/-- The piece for one step of a path: a triple pattern for an IRI at the top
scope, and a path pattern otherwise. -/
def part (s : PathScope) (subject : TermPattern) (path : PropertyPath)
    (object : TermPattern) : PathPart :=
  match path with
  | .iri p => if s.top then .triple ⟨subject, .iri p, object⟩ else .path subject path object
  | _ => .path subject path object

/-- Adds a piece at the end. -/
def add (s : PathScope) (p : PathPart) : PathScope :=
  { s with parts := s.parts ++ [p] }

/-- Joins the parts gathered in `pending` (a basic graph pattern under
construction) and `done` (the patterns before it). -/
def flush (pending : List TriplePattern) (done : List GraphPattern) : List GraphPattern :=
  if pending.isEmpty then done else done ++ [.bgp pending]

/-- The patterns of the parts: runs of triple patterns become one basic graph
pattern, every other part its own pattern. -/
def groupParts (parts : List PathPart) : List GraphPattern :=
  let step := fun (acc : List TriplePattern × List GraphPattern) (p : PathPart) =>
    match p with
    | .triple t => (acc.1 ++ [t], acc.2)
    | .path s q o => ([], flush acc.1 acc.2 ++ [.path s q o])
    | .nested g => ([], flush acc.1 acc.2 ++ [g])
  let (pending, done) := parts.foldl step ([], [])
  flush pending done

/-- The lowered pattern: the parts joined from left to right.  A scope with
no parts is an internal error. -/
def toPattern (s : PathScope) : Except QueryError GraphPattern :=
  match groupParts s.parts with
  | [] => .error (.internal ("The transformation of the path from " ++ s.start.toText ++
      " to " ++ s.finish.toText ++ " produced no patterns."))
  | g :: gs => .ok (gs.foldl .join g)

end PathScope

/-- Whether lowering turns a path into more than one path pattern. -/
def PropertyPath.isLowerable : PropertyPath → Bool
  | .iri _ | .reverse _ | .sequence _ _ | .alternative _ _ => true
  | _ => false

mutual

/-- Adds the parts for `path` between the current subject and object of the
scope; the scope's subject and object are the same afterwards. -/
def PathScope.lowerStep (path : PropertyPath) (s : PathScope) : Except QueryError PathScope :=
  match path with
  | .reverse inner => do
    let s' ← PathScope.lowerStep inner { s with subject := s.object, object := s.subject }
    return { s' with subject := s.subject, object := s.object }
  | .sequence first second => do
    let (joint, s1) := s.fresh
    let s2 ← PathScope.lowerStep first { s1 with object := .var joint }
    let s3 ← PathScope.lowerStep second { s2 with subject := .var joint, object := s.object }
    return { s3 with subject := s.subject }
  | .alternative left right => do
    let (acc, s1) ← PathScope.lowerBranches left none s
    let (acc, s2) ← PathScope.lowerBranches right acc s1
    match acc with
    | some union => return s2.add (.nested union)
    | none => .error (.internal "Alternative path without alternatives.")
  | path => return s.add (s.part s.subject path s.object)

/-- Lowers the branches of an alternative, each in a nested scope, and adds
them to the union `acc` from left to right. -/
def PathScope.lowerBranches (path : PropertyPath) (acc : Option GraphPattern) (s : PathScope) :
    Except QueryError (Option GraphPattern × PathScope) :=
  match path with
  | .alternative left right => do
    let (acc, s1) ← PathScope.lowerBranches left acc s
    PathScope.lowerBranches right acc s1
  | path => do
    let inner ← PathScope.lowerStep path (s.nested s.subject s.object)
    let branch ← inner.toPattern
    let union := match acc with
      | none => branch
      | some left => .union left branch
    return (some union, s.absorb inner)

end

/-- Lowers the path from `subject` to `object`, numbering fresh variables from
`first`; gives the pattern and the number after the last fresh variable. -/
def PropertyPath.lower (subject : TermPattern) (path : PropertyPath) (object : TermPattern)
    (first : Nat) : Except QueryError (GraphPattern × Nat) := do
  let s ← PathScope.lowerStep path (PathScope.new subject object first)
  let g ← s.toPattern
  return (g, s.nextIndex)

/-- Lowers the path from `subject` to `object` with a counter that lives across
paths: numbers the fresh variables from the counter and moves it past them. -/
def PropertyPath.transform (subject : TermPattern) (path : PropertyPath) (object : TermPattern) :
    StateT Nat (Except QueryError) GraphPattern :=
  fun first => path.lower subject object first

/-- Lowers a lowerable path pattern with the counter of the tree; leaves every
other node as it is. -/
def GraphPattern.lowerPath : GraphPattern → StateT Nat (Except QueryError) GraphPattern
  | .path s q o => if q.isLowerable then q.transform s o else pure (.path s q o)
  | g => pure g

/-- Lowers every lowerable path pattern of a graph pattern, the patterns inside
`EXISTS` included, with one counter for the whole tree. -/
def GraphPattern.lowerPaths (p : GraphPattern) : Except QueryError GraphPattern :=
  (p.rewriteUp GraphPattern.lowerPath).run' 0

end SparqlBag
