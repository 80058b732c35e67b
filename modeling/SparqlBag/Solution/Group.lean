import SparqlBag.Expr.Aggregate

/-!
# Grouping solutions

`GROUP BY` splits the numbers of the solutions into groups, each key splitting the
groups of the one before; without keys all solutions form one group, even when
there are none.  A variable key makes one group per bound term in the order first
met, then one for the unbound; an expression key one per value, then one for the
errors, then one for the unbound.  Terms are compared as terms, so
`"1"^^xsd:integer` and `"01"^^xsd:integer` differ.  A key may assign its value to
a variable; a later key's group keeps the assignments it inherits, its own
replacing them.
-/

namespace SparqlBag

/-- A group: the numbers of its solutions and the values assigned to variables. -/
structure BindingGroup where
  ids : List Nat
  assignments : List (Variable × Option Term) := []
  deriving Inhabited

namespace BindingGroup

/-- Assigns a value; an earlier assignment of the variable is dropped. -/
def assign (g : BindingGroup) (v : Variable) (value : Option Term) : BindingGroup :=
  { g with assignments := g.assignments.filter (·.1 != v) ++ [(v, value)] }

/-- The assignment of a variable: `none` if there is none, `some none` if the
variable is assigned the unbound value. -/
def assignment (g : BindingGroup) (v : Variable) : Option (Option Term) :=
  (g.assignments.find? (·.1 == v)).map (·.2)

end BindingGroup

/-- A key of `GROUP BY`. -/
inductive GroupKey where
  | variable (v : Variable) (assign : Option Variable)
  | expression (e : Expression) (assign : Option Variable)

/-- Appends `x` to the bucket of `k`, or opens a bucket for it at the end. -/
def addToBucket {κ : Type} [BEq κ] (k : κ) (x : Nat) : List (κ × List Nat) → List (κ × List Nat)
  | [] => [(k, [x])]
  | (k', xs) :: rest => if k' == k then (k', xs ++ [x]) :: rest else (k', xs) :: addToBucket k x rest

namespace GroupKey

/-- The variable that receives the value of each group. -/
def assignVariable : GroupKey → Option Variable
  | .variable _ a | .expression _ a => a

/-- The variables whose values are equal within each group. -/
def vars : GroupKey → List Variable
  | .variable v _ => [v]
  | .expression _ _ => []

/-- The variables that may be projected after grouping. -/
def projectable (k : GroupKey) : List Variable :=
  match k.assignVariable with
  | some a => pushNew k.vars a
  | none => k.vars

/-- Whether the key is an expression. -/
def hasExpression : GroupKey → Bool
  | .variable _ _ => false
  | .expression _ _ => true

/-- A group of this key, with its assignment. -/
def group (k : GroupKey) (ids : List Nat) (value : Option Term) : BindingGroup :=
  match k.assignVariable with
  | some a => BindingGroup.assign ⟨ids, []⟩ a value
  | none => ⟨ids, []⟩

/-- Splits `ids`; `scope` gives the scope of each solution. -/
def apply (ctx : CallContext) (scope : Nat → Scope) (k : GroupKey) (ids : List Nat) :
    EvalM (List BindingGroup) := do
  match k with
  | .variable v _ =>
    let (keyed, nulls) := ids.foldl (fun (acc : List (Term × List Nat) × List Nat) id =>
      match (scope id).solution.get v with
      | some t => (addToBucket t id acc.1, acc.2)
      | none => (acc.1, acc.2 ++ [id])) ([], [])
    return keyed.map (fun (t, xs) => k.group xs (some t)) ++
      (if nulls.isEmpty then [] else [k.group nulls none])
  | .expression e _ =>
    let mut keyed : List (Term × List Nat) := []
    let mut errors : List Nat := []
    let mut nulls : List Nat := []
    for id in ids do
      match ← e.eval ctx (scope id) with
      | .bound t => keyed := addToBucket t id keyed
      | .error => errors := errors ++ [id]
      | .unbound => nulls := nulls ++ [id]
    return keyed.map (fun (t, xs) => k.group xs (some t)) ++
      (if errors.isEmpty then [] else [k.group errors none]) ++
      (if nulls.isEmpty then [] else [k.group nulls none])

/-- Splits each group further; the new groups keep the assignments of their
parent, overridden by their own. -/
def subdivide (ctx : CallContext) (scope : Nat → Scope) (k : GroupKey) (groups : List BindingGroup) :
    EvalM (List BindingGroup) := do
  let mut result := []
  for g in groups do
    for child in ← k.apply ctx scope g.ids do
      let inherited := child.assignments.foldl (fun acc (v, x) => acc.assign v x)
        { g with ids := child.ids }
      result := result ++ [inherited]
  return result

end GroupKey

/-- Chained keys. -/
structure GroupBy where
  keys : List GroupKey

namespace GroupBy

/-- Splits `ids` by the first key and each group by the following ones. -/
def apply (ctx : CallContext) (scope : Nat → Scope) (g : GroupBy) (ids : List Nat) :
    EvalM (List BindingGroup) :=
  match g.keys with
  | [] => pure [⟨ids, []⟩]
  | first :: rest => do
    let mut groups ← first.apply ctx scope ids
    for k in rest do
      groups ← k.subdivide ctx scope groups
    return groups

/-- The variables of all keys, without repetitions. -/
def vars (g : GroupBy) : List Variable := (g.keys.flatMap GroupKey.vars).foldl pushNew []

/-- The projectable variables of all keys, without repetitions. -/
def projectable (g : GroupBy) : List Variable := (g.keys.flatMap GroupKey.projectable).foldl pushNew []

end GroupBy

end SparqlBag
