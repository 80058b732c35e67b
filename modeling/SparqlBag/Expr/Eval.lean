import SparqlBag.Expr.Builtin
import SparqlBag.Solution.Multiset
import SparqlBag.Error

/-!
# Evaluating expressions

An expression is evaluated for one solution.  Type errors give the error value
and never stop the query; only an `EXISTS` pattern or a text cut inside a
character can.  `||` and `&&` short-circuit and tolerate an error on the side that
does not decide; other operators evaluate both sides, an unbound side being an
error; a call stops at the first unbound or error argument; `COALESCE` gives the
first bound value; `IN` tries the candidates in order.  The `Scope` of a solution
decides `EXISTS`, and evaluation threads the counter of fresh values.
-/

namespace SparqlBag

/-- What an expression is evaluated against: a solution, and how `EXISTS`
patterns are decided for it. -/
structure Scope where
  solution : Solution
  patternExists : GraphPattern → EvalM Bool

namespace Scope

/-- `EXISTS` needs a dataset; a scope without one reports it. -/
def withoutDataset (s : Solution) : Scope :=
  ⟨s, fun _ => throw (.internal "EXISTS cannot be evaluated without a dataset")⟩

end Scope

namespace ExprValue

/-- The effective boolean value; unbound and error values have none. -/
def ebv : ExprValue → Option Bool
  | .bound t => effectiveBooleanValue t
  | _ => none

/-- Applies an operation to two values that must both be terms. -/
def lift₂ (op : Term → Term → Option Term) : ExprValue → ExprValue → ExprValue
  | .bound a, .bound b => ofOption (op a b)
  | _, _ => .error

/-- Applies an operation to a value that must be a term. -/
def lift₁ (op : Term → Option Term) : ExprValue → ExprValue
  | .bound a => ofOption (op a)
  | _ => .error

/-- The value of an optional truth value. -/
def ofTruth : Option Bool → ExprValue
  | some b => ofBool b
  | none => .error

end ExprValue

/-- A numeric operation on two terms. -/
def numericOp (op : Numeric → Numeric → Option Numeric) (a b : Term) : Option Term := do
  return (← op (← numericArg a) (← numericArg b)).toTerm

/-- A comparison of two terms that accepts some orderings. -/
def compareOp (accept : Ordering → Bool) (a b : Term) : Option Term :=
  (termCompare a b).map fun o => .ofBool (accept o)

mutual

/-- The value of an expression in a scope. -/
def Expression.eval (ctx : CallContext) (sc : Scope) : Expression → EvalM ExprValue
  | .iri i => pure (.bound (.iri i))
  | .literal l => pure (.bound (.literal l))
  | .var v => pure ((sc.solution.get v).elim .unbound .bound)
  | .or a b => do
    let x := (← a.eval ctx sc).ebv
    if x == some true then return .ofBool true
    let y := (← b.eval ctx sc).ebv
    return match x, y with
      | _, some true => .ofBool true
      | some false, some false => .ofBool false
      | _, _ => .error
  | .and a b => do
    let x := (← a.eval ctx sc).ebv
    if x == some false then return .ofBool false
    let y := (← b.eval ctx sc).ebv
    return match x, y with
      | _, some false => .ofBool false
      | some true, some true => .ofBool true
      | _, _ => .error
  | .equal a b => do
    let x ← a.eval ctx sc
    let y ← b.eval ctx sc
    return ExprValue.lift₂ (fun s t => (termEquals s t).map Term.ofBool) x y
  | .sameTerm a b => do
    let x ← a.eval ctx sc
    let y ← b.eval ctx sc
    return ExprValue.lift₂ (fun s t => some (.ofBool (s == t))) x y
  | .greater a b => do
    let x ← a.eval ctx sc
    let y ← b.eval ctx sc
    return ExprValue.lift₂ (compareOp (· == .gt)) x y
  | .greaterOrEqual a b => do
    let x ← a.eval ctx sc
    let y ← b.eval ctx sc
    return ExprValue.lift₂ (compareOp (· != .lt)) x y
  | .less a b => do
    let x ← a.eval ctx sc
    let y ← b.eval ctx sc
    return ExprValue.lift₂ (compareOp (· == .lt)) x y
  | .lessOrEqual a b => do
    let x ← a.eval ctx sc
    let y ← b.eval ctx sc
    return ExprValue.lift₂ (compareOp (· != .gt)) x y
  | .in needle haystack => do
    match ← needle.eval ctx sc with
    | .bound t => Expression.evalIn ctx sc t false haystack
    | _ => return .error
  | .add a b => do
    let x ← a.eval ctx sc
    let y ← b.eval ctx sc
    return ExprValue.lift₂ (numericOp Numeric.add) x y
  | .subtract a b => do
    let x ← a.eval ctx sc
    let y ← b.eval ctx sc
    return ExprValue.lift₂ (numericOp Numeric.sub) x y
  | .multiply a b => do
    let x ← a.eval ctx sc
    let y ← b.eval ctx sc
    return ExprValue.lift₂ (numericOp Numeric.mul) x y
  | .divide a b => do
    let x ← a.eval ctx sc
    let y ← b.eval ctx sc
    return ExprValue.lift₂ (numericOp Numeric.div) x y
  | .unaryPlus a => do
    return ExprValue.lift₁ (fun t => (numericArg t).map Numeric.toTerm) (← a.eval ctx sc)
  | .unaryMinus a => do
    return ExprValue.lift₁ (fun t => do return (← (← numericArg t).neg).toTerm) (← a.eval ctx sc)
  | .not a => do
    return ExprValue.ofTruth ((← a.eval ctx sc).ebv.map (!·))
  | .exists p => do
    return .ofBool (← sc.patternExists p)
  | .bound v => pure (.ofBool (sc.solution.get v).isSome)
  | .if c t e => do
    match (← c.eval ctx sc).ebv with
    | some true => t.eval ctx sc
    | some false => e.eval ctx sc
    | none => return .error
  | .coalesce alternatives => Expression.evalFirstBound ctx sc alternatives
  | .call f args => do
    match ← Expression.evalArgs ctx sc args with
    | some terms => return ExprValue.ofOption (← callFunction ctx f terms)
    | none => return .error

/-- `IN`: compares the needle with each candidate; `sawError` records an
error on the way. -/
def Expression.evalIn (ctx : CallContext) (sc : Scope) (needle : Term) (sawError : Bool) :
    List Expression → EvalM ExprValue
  | [] => pure (if sawError then .error else .ofBool false)
  | e :: rest => do
    let equal := match ← e.eval ctx sc with
      | .bound t => termEquals needle t
      | _ => none
    match equal with
    | some true => return .ofBool true
    | some false => Expression.evalIn ctx sc needle sawError rest
    | none => Expression.evalIn ctx sc needle true rest

/-- `COALESCE`: the first bound value. -/
def Expression.evalFirstBound (ctx : CallContext) (sc : Scope) : List Expression → EvalM ExprValue
  | [] => pure .error
  | e :: rest => do
    match ← e.eval ctx sc with
    | .bound t => return .bound t
    | _ => Expression.evalFirstBound ctx sc rest

/-- The arguments of a call, up to the first one that is not a term. -/
def Expression.evalArgs (ctx : CallContext) (sc : Scope) : List Expression → EvalM (Option (List Term))
  | [] => pure (some [])
  | e :: rest => do
    match ← e.eval ctx sc with
    | .bound t => return (← Expression.evalArgs ctx sc rest).map (t :: ·)
    | _ => return none

end

/-- The effective boolean value of an expression; `none` for an error or an
unbound value. -/
def Expression.truth (ctx : CallContext) (sc : Scope) (e : Expression) : EvalM (Option Bool) := do
  return (← e.eval ctx sc).ebv

end SparqlBag
