import SparqlBag.Expr.Eval

/-!
# Aggregates

An aggregate folds the values of an expression over the solutions of a group in
order, skipping values seen before under `DISTINCT`, and stops once its result is
decided.  `COUNT` counts bound values (or solutions, for `*`); `SUM` and `AVG` add
from the integer zero, a non-number being an error; `MIN` and `MAX` keep the first
extreme value in the term order; `SAMPLE` gives the first bound value, kept by the
early stop; `GROUP_CONCAT` joins strings, keeping a shared language;
`agg:all`, `agg:any` and `agg:none` test effective boolean values, `agg:mode` is
the first most frequent value and `agg:median` the middle number or the mean of
the two middle ones.
-/

namespace SparqlBag

/-- The namespace of the aggregates beyond SPARQL's own. -/
def aggregateNs : String := "http://rdf-multiset.org/aggregates#"

/-- The state of an aggregate while it folds. -/
inductive Accumulator where
  | count (n : Nat)
  | sum (total : Option Numeric)
  | avg (total : Option Numeric) (count : Nat)
  /-- `MIN` (replacing on `lt`) and `MAX` (on `gt`). -/
  | extremum (replaceOn : Ordering) (current : Option Term)
  | sample (value : Option Term)
  | groupConcat (separator : String) (text : Option String) (count : Nat) (language : Option String)
  | all (result : Bool)
  | any (result : Bool)
  | never (found : Bool)
  | mode (counts : List (Term × Nat))
  | median (values : Option (List Numeric))

namespace Accumulator

/-- The accumulator of an aggregate function; an unknown custom one is not implemented. -/
def ofFunction : AggregateFunction → Except QueryError Accumulator
  | .count => pure (.count 0)
  | .sum => pure (.sum (some (.integer 0)))
  | .avg => pure (.avg (some (.integer 0)) 0)
  | .min => pure (.extremum .lt none)
  | .max => pure (.extremum .gt none)
  | .sample => pure (.sample none)
  | .groupConcat sep => pure (.groupConcat (sep.getD " ") (some "") 0 none)
  | .custom name =>
    if name == aggregateNs ++ "all" then pure (.all true)
    else if name == aggregateNs ++ "any" then pure (.any false)
    else if name == aggregateNs ++ "none" then pure (.never false)
    else if name == aggregateNs ++ "mode" then pure (.mode [])
    else if name == aggregateNs ++ "median" then pure (.median (some []))
    else throw (.notImplemented ("Custom aggregate function <" ++ name ++ ">"))

/-- Adds one to the count of a term, or appends it with count one. -/
def bump (t : Term) : List (Term × Nat) → List (Term × Nat)
  | [] => [(t, 1)]
  | (u, n) :: rest => if u == t then (u, n + 1) :: rest else (u, n) :: bump t rest

/-- Takes one value into account. -/
def update (acc : Accumulator) (v : ExprValue) : Accumulator :=
  match acc, v with
  | .count n, .bound _ => .count (n + 1)
  | .count n, _ => .count n
  | .sum (some s), .bound t => .sum (do s.add (← numericArg t))
  | .sum (some s), .unbound => .sum (some s)
  | .sum _, _ => .sum none
  | .avg (some s) c, .bound t => .avg (do s.add (← numericArg t)) (c + 1)
  | .avg (some s) c, .unbound => .avg (some s) c
  | .avg _ c, _ => .avg none (c + 1)
  | .extremum r current, .bound t =>
    match current with
    | some c => if compareTerms (some t) (some c) == r then .extremum r (some t) else acc
    | none => .extremum r (some t)
  | .extremum _ _, _ => acc
  | .sample _, .bound t => .sample (some t)
  | .sample _, _ => acc
  | .groupConcat sep text k lang, .bound t =>
    match stringArg t with
    | some (s, l) =>
      let lang := if k == 0 then l else if lang == l then lang else none
      let text := text.map fun x => if k > 0 then x ++ sep ++ s else x ++ s
      .groupConcat sep text (k + 1) lang
    | none => .groupConcat sep none k lang
  | .groupConcat _ _ _ _, .unbound => acc
  | .groupConcat sep _ k lang, .error => .groupConcat sep none k lang
  | .all r, v => .all (r && v.ebv == some true)
  | .any r, v => .any (r || v.ebv == some true)
  | .never f, v => .never (f || v.ebv == some true)
  | .mode counts, .bound t => .mode (bump t counts)
  | .mode _, _ => acc
  | .median (some xs), .bound t => .median ((numericArg t).map (xs ++ [·]))
  | .median (some xs), .unbound => .median (some xs)
  | .median _, _ => .median none

/-- Whether the result can no longer change. -/
def isDone : Accumulator → Bool
  | .sum none | .avg none _ | .groupConcat _ none _ _ | .median none => true
  | .sample (some _) => true
  | .all false | .any true | .never true => true
  | _ => false

/-- The most frequent term, the first seen among equals. -/
def mostFrequent (counts : List (Term × Nat)) : Option Term :=
  (counts.foldl (fun (best : Option (Term × Nat)) (t, n) =>
    match best with
    | some (_, m) => if n > m then some (t, n) else best
    | none => some (t, n)) none).map (·.1)

/-- The median of numbers: the middle one, or the mean of the two middle ones;
`none` when the sort finds the order of the numbers inconsistent, as a NaN
among them makes it. -/
def medianOf (xs : List Numeric) : Option ExprValue := do
  let sorted ← StableSort.sort 32 (fun a b => a.partialCompare b == some .lt) xs
  let middle := sorted.length / 2
  let value : Option Numeric :=
    if sorted.length % 2 == 1 then sorted[middle]?
    else do
      let a ← sorted[middle - 1]?
      let b ← sorted[middle]?
      (← a.add b).div (.integer 2)
  pure (ExprValue.ofOption (value.map Numeric.toTerm))

/-- The value of the accumulated aggregate. -/
def value : Accumulator → ExprValue
  | .count n => .bound (.literal (integerLiteral n))
  | .sum s => ExprValue.ofOption (s.map Numeric.toTerm)
  | .avg s c =>
    ExprValue.ofOption (do
      let total ← s
      if c == 0 then return total.toTerm
      return (← total.div (.integer c)).toTerm)
  | .extremum _ current | .sample current => current.elim .unbound .bound
  | .groupConcat _ text _ lang => ExprValue.ofOption (text.map (stringTerm · lang))
  | .all r | .any r => .ofBool r
  | .never f => .ofBool (!f)
  | .mode counts => (mostFrequent counts).elim .unbound .bound
  | .median none => .error
  | .median (some []) => .unbound
  | .median (some xs) => (medianOf xs).getD .error

/-- The result; a median over numbers whose order is inconsistent aborts the
evaluation. -/
def finish : Accumulator → Except QueryError ExprValue
  | .median (some (x :: xs)) => match medianOf (x :: xs) with
    | some v => pure v
    | none => throw .abort
  | acc => pure acc.value

end Accumulator

/-- Folds an expression over the scopes of a group. -/
def Accumulator.run (ctx : CallContext) (e : Expression) (distinct : Bool) :
    Accumulator → List ExprValue → List Scope → EvalM ExprValue
  | acc, _, [] => acc.finish
  | acc, seen, sc :: rest => do
    if acc.isDone then return ← acc.finish
    let v ← e.eval ctx sc
    if distinct && seen.contains v then Accumulator.run ctx e distinct acc seen rest
    else Accumulator.run ctx e distinct (acc.update v) (if distinct then v :: seen else seen) rest

/-- Keeps the first of equal elements. -/
def dedupe {α : Type} [BEq α] (xs : List α) : List α :=
  xs.foldl (fun acc x => if acc.contains x then acc else acc ++ [x]) []

/-- The value of an aggregate over the scopes of a group, whose solutions range
over `vars`. -/
def Aggregate.apply (ctx : CallContext) (vars : List Variable) (scopes : List Scope) :
    Aggregate → EvalM ExprValue
  | .countSolutions false => pure (.bound (.literal (integerLiteral scopes.length)))
  | .countSolutions true =>
    let visible := vars.filter (!·.isHidden)
    let rows := scopes.map fun sc => visible.map sc.solution.get
    pure (.bound (.literal (integerLiteral (dedupe rows).length)))
  | .call f e distinct => do
    let acc ← (Accumulator.ofFunction f : Except QueryError Accumulator)
    Accumulator.run ctx e distinct acc [] scopes

end SparqlBag
