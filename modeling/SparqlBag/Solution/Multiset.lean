import SparqlBag.Term.Basic
import SparqlBag.Sort

/-!
# Multisets of solutions

A multiset of solutions is the join identity (one solution binding nothing), the
empty multiset, or a bag: numbered solutions over one list of variables, each
value possibly unbound.  Numbers grow in the order solutions are added and are
never reused; filtering and extending keep them, `orderBy` numbers anew.

`join` pairs the solutions of two multisets that agree on every variable bound
in both.  For each left solution, the right solutions that bind every shared
variable come first, then those that leave one unbound, each group in its own
order.
-/

namespace SparqlBag

/-- The values of one solution, aligned with the variables of its bag. -/
abbrev Row := List (Option Term)

/-- A solution: its variables and its values. -/
structure Solution where
  vars : List Variable
  values : Row
  deriving Inhabited

/-- The value of a variable in a solution. -/
def Solution.get (s : Solution) (v : Variable) : Option Term :=
  match s.vars.idxOf? v with
  | some i => (s.values[i]?).join
  | none => none

/-- Brings a row to `n` values: cut, or filled with unbound values. -/
def Row.fit (values : Row) (n : Nat) : Row :=
  values.take n ++ List.replicate (n - values.length) none

/-- Solutions over common variables, numbered. -/
structure Bag where
  vars : List Variable
  /-- The solutions with their numbers, in increasing order of number. -/
  rows : List (Nat × Row)
  /-- The number the next solution receives. -/
  nextId : Nat
  deriving Inhabited

namespace Bag

def empty (vars : List Variable) : Bag := ⟨vars, [], 0⟩

/-- Adds a solution; missing trailing values are unbound. -/
def add (b : Bag) (values : Row) : Nat × Bag :=
  (b.nextId, { b with rows := b.rows ++ [(b.nextId, values.fit b.vars.length)],
                      nextId := b.nextId + 1 })

/-- Adds solutions in order, numbering them as `add` would one by one. -/
def addAll (b : Bag) (rows : List Row) : Bag :=
  { b with rows := b.rows ++ rows.zipIdx.map (fun (r, i) => (b.nextId + i, r.fit b.vars.length)),
           nextId := b.nextId + rows.length }

/-- Adds a variable unless it is there, unbound in every solution, and gives its position. -/
def positionOrInsert (b : Bag) (v : Variable) : Nat × Bag :=
  match b.vars.idxOf? v with
  | some i => (i, b)
  | none =>
    (b.vars.length,
     { b with vars := b.vars ++ [v], rows := b.rows.map fun (i, r) => (i, r ++ [none]) })

end Bag

/-- A multiset of solutions. -/
inductive Multiset where
  /-- One solution that binds nothing: the identity of `join`. -/
  | identity
  /-- No solution: it annihilates `join`. -/
  | null
  | bag (b : Bag)
  deriving Inhabited

/-- How the variables of two multisets combine: the left ones keep their
places, new right ones follow. -/
structure Layout where
  vars : List Variable
  /-- Where each right variable goes. -/
  rightTargets : List Nat
  /-- The (left, right) positions of the shared variables. -/
  shared : List (Nat × Nat)

namespace Layout

/-- Places one more right variable, the `j`-th: on its left position if the
left side has it, else after the variables placed so far. -/
def addRight (left : List Variable) (acc : Layout × Nat) (v : Variable) : Layout × Nat :=
  let (l, j) := acc
  match left.idxOf? v with
  | some i => ({ l with rightTargets := l.rightTargets ++ [i], shared := l.shared ++ [(i, j)] }, j + 1)
  | none => ({ l with rightTargets := l.rightTargets ++ [l.vars.length], vars := l.vars ++ [v] }, j + 1)

def ofVariables (left right : List Variable) : Layout :=
  (right.foldl (addRight left) (⟨left, [], []⟩, 0)).1

/-- The value at a position. -/
def at? (r : Row) (i : Nat) : Option Term := (r[i]?).join

/-- Whether two solutions agree on every shared variable bound in both. -/
def compatible (l : Layout) (left right : Row) : Bool :=
  l.shared.all fun (i, j) =>
    match at? left i, at? right j with
    | some a, some b => a == b
    | _, _ => true

/-- Whether some shared variable is bound in both solutions. -/
def sharesBound (l : Layout) (left right : Row) : Bool :=
  l.shared.any fun (i, j) => (at? left i).isSome && (at? right j).isSome

/-- Writes a right value at its target unless the target is bound already. -/
def fill (acc : Row) (vt : Option Term × Nat) : Row :=
  if (at? acc vt.2).isNone then acc.set vt.2 vt.1 else acc

/-- The combined solution: the left values, and right values where the left is unbound. -/
def merge (l : Layout) (left right : Row) : Row :=
  (right.zip l.rightTargets).foldl fill (left.fit l.vars.length)

/-- The values of the shared variables, if all are bound. -/
def key (positions : List Nat) (r : Row) : Option (List Term) :=
  positions.mapM (at? r)

/-- The right solutions that can join a left one, in join order. -/
def candidates (l : Layout) (rights : List Row) (left : Row) : List Row :=
  match key (l.shared.map (·.1)) left with
  | some k =>
    let rightKey := key (l.shared.map (·.2))
    rights.filter (fun r => rightKey r == some k) ++
      rights.filter (fun r => (rightKey r).isNone && l.compatible left r)
  | none => rights.filter (l.compatible left)

end Layout

namespace Multiset

/-- A bag holding `rows` over `vars`. -/
def ofRows (vars : List Variable) (rows : List Row) : Multiset :=
  .bag ((Bag.empty vars).addAll rows)

def vars : Multiset → List Variable
  | .bag b => b.vars
  | _ => []

/-- The number of solutions. -/
def size : Multiset → Nat
  | .identity => 1
  | .null => 0
  | .bag b => b.rows.length

def isEmpty (m : Multiset) : Bool := m.size == 0

/-- The numbered solutions in order. -/
def entries : Multiset → List (Nat × Row)
  | .identity => [(0, [])]
  | .null => []
  | .bag b => b.rows

def ids (m : Multiset) : List Nat := m.entries.map (·.1)

/-- The solutions as a bag; the identity is a bag of one empty solution. -/
def toBag : Multiset → Bag
  | .identity => ⟨[], [(0, [])], 1⟩
  | .null => Bag.empty []
  | .bag b => b

/-- The values of solution `id`. -/
def values (m : Multiset) (id : Nat) : Option Row :=
  (m.entries.find? (·.1 == id)).map (·.2)

/-- Solution `id` with its variables; an unknown number binds nothing. -/
def solution (m : Multiset) (id : Nat) : Solution :=
  ⟨m.vars, (m.values id).getD []⟩

/-- The value of a variable in solution `id`. -/
def get (m : Multiset) (id : Nat) (v : Variable) : Option Term := (m.solution id).get v

/-- Adds a solution and gives its number. -/
def add (m : Multiset) (values : Row) : Nat × Multiset :=
  let (id, b) := m.toBag.add values
  (id, .bag b)

/-- Adds a solution from pairs of variable and value; new variables are added
to the bag, unbound in every other solution. -/
def addBindings (m : Multiset) (bindings : List (Variable × Term)) : Nat × Multiset :=
  let (values, b) := bindings.foldl (fun (acc : Row × Bag) (v, t) =>
    let (pos, b) := acc.2.positionOrInsert v
    ((acc.1.fit (max acc.1.length (pos + 1))).set pos (some t), b)) ([], m.toBag)
  let (id, b) := b.add values
  (id, .bag b)

/-- Removes solution `id` and gives its values. -/
def remove (m : Multiset) (id : Nat) : Option Row × Multiset :=
  match m with
  | .identity => if id == 0 then (some [], .null) else (none, m)
  | .null => (none, m)
  | .bag b =>
    match b.rows.find? (·.1 == id) with
    | some (_, r) => (some r, .bag { b with rows := b.rows.filter (·.1 != id) })
    | none => (none, m)

/-- The join of two multisets. -/
def join (m n : Multiset) : Multiset :=
  match m, n with
  | .null, _ | _, .null => .null
  | .identity, n => n
  | m, .identity => m
  | .bag l, .bag r =>
    let layout := Layout.ofVariables l.vars r.vars
    let rights := r.rows.map (·.2)
    .bag ((Bag.empty layout.vars).addAll (l.rows.flatMap fun (_, left) =>
      (layout.candidates rights left).map (layout.merge left)))

/-- The left join: every joined solution that `keep` accepts, and each left
solution that keeps no partner. -/
def leftJoin {μ : Type → Type} [Monad μ] (m n : Multiset) (keep : Solution → μ Bool) :
    μ Multiset := do
  let l := m.toBag
  let r := n.toBag
  let layout := Layout.ofVariables l.vars r.vars
  let rights := r.rows.map (·.2)
  let width := layout.vars.length
  let joined := fun (left : Row) =>
    (layout.candidates rights left).map fun right => (layout.merge left right).fit width
  let verdicts ← l.rows.mapM fun (_, left) => (joined left).mapM fun row => keep ⟨layout.vars, row⟩
  -- One slot, and one number, per joined solution tried, kept or not, and per left
  -- solution that keeps none.
  let slots := (l.rows.zip verdicts).flatMap fun ((_, left), oks) =>
    ((joined left).zip oks).map (fun (row, ok) => if ok then some row else none) ++
      (if oks.any id then [] else [some (left.fit width)])
  return .bag ⟨layout.vars, slots.zipIdx.filterMap (fun (slot, i) => slot.map (i, ·)), slots.length⟩

/-- All solutions of both multisets, the left ones first. -/
def union (m n : Multiset) : Multiset :=
  let l := m.toBag
  let r := n.toBag
  let layout := Layout.ofVariables l.vars r.vars
  .bag (((Bag.empty layout.vars).addAll (l.rows.map (·.2))).addAll
    (r.rows.map fun (_, v) => layout.merge [] v))

/-- Removes the left solutions that are compatible with a right solution and
share a bound variable with it. -/
def minus (m n : Multiset) : Multiset :=
  match m, n with
  | .bag l, .bag r =>
    let layout := Layout.ofVariables l.vars r.vars
    if layout.shared.isEmpty then m
    else
      let survives := fun (entry : Nat × Row) =>
        !r.rows.any fun (_, right) => layout.compatible entry.2 right && layout.sharesBound entry.2 right
      .bag { l with rows := l.rows.filter survives }
  | _, _ => m

/-- Keeps the solutions that `keep` accepts; their numbers stay. -/
def filterM {μ : Type → Type} [Monad μ] (m : Multiset) (keep : Solution → μ Bool) : μ Multiset := do
  let verdicts ← m.entries.mapM fun (_, r) => keep ⟨m.vars, r⟩
  return match m with
    | .bag b => .bag { b with rows := ((b.rows.zip verdicts).filter (·.2)).map (·.1) }
    | .identity => if verdicts == [true] then .identity else .null
    | .null => .null

/-- Binds `v` in every solution to the value `value` computes, or leaves it unbound. -/
def extendM {μ : Type → Type} [Monad μ] (m : Multiset) (v : Variable)
    (value : Solution → μ (Option Term)) : μ Multiset := do
  let computed ← m.entries.mapM fun (_, r) => value ⟨m.vars, r⟩
  let (pos, b) := m.toBag.positionOrInsert v
  return .bag { b with rows := (b.rows.zip computed).map fun ((id, r), x) => (id, r.set pos x) }

/-- Keeps the values of `vars`, in that order; a variable out of scope is unbound. -/
def project (m : Multiset) (vars : List Variable) : Multiset :=
  match m with
  | .null => .null
  | m =>
    let b := m.toBag
    let positions := vars.map b.vars.idxOf?
    .bag ⟨vars, b.rows.map (fun (id, r) => (id, positions.map fun p => p.bind (Layout.at? r))),
      b.nextId⟩

/-- Keeps a numbered solution, last first, unless its values are among those
seen. -/
def keepNew (acc : List (Nat × Row) × List Row) (e : Nat × Row) : List (Nat × Row) × List Row :=
  if acc.2.contains e.2 then acc else (e :: acc.1, e.2 :: acc.2)

/-- Keeps the first of equal solutions. -/
def distinct (m : Multiset) : Multiset :=
  match m with
  | .bag b => .bag { b with rows := (b.rows.foldl keepNew ([], [])).1.reverse }
  | m => m

/-- Sorts the solutions stably by `cmp` on their numbers and numbers them
anew; `none` when the sort finds `cmp` inconsistent. -/
def orderBy (m : Multiset) (cmp : Nat → Nat → Ordering) : Option Multiset :=
  match m with
  | .bag b => do
    let sorted ← StableSort.sort 8 (fun x y => cmp x.1 y.1 == .lt) b.rows
    pure (.bag ((Bag.empty b.vars).addAll (sorted.map (·.2))))
  | m => some m

/-- Skips `start` solutions and keeps at most `length` of the rest. -/
def slice (m : Multiset) (start : Nat) (length : Option Nat) : Multiset :=
  let inRange (i : Nat) : Bool := start ≤ i && length.all (i < start + ·)
  match m with
  | .identity => if inRange 0 then .identity else .null
  | .null => .null
  | .bag b => .bag { b with rows := (b.rows.zipIdx.filter (inRange ·.2)).map (·.1) }

end Multiset

end SparqlBag
