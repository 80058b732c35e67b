import SparqlBag.Regex.Expr

/-!
# Regular expressions: matching programs

An expression becomes an array of numbered steps that a matcher walks: read a
character or one of a set, check an assertion, record a capture position, jump,
or split into alternatives tried in order; `done` is a match.  The shape fixes the
preferred match: alternatives left to right, a greedy repetition tries one more
round first and a lazy one stops first.  An unbounded repetition of an expression
that may match the empty text is built as `(x+)?`, and `x{m,n}` as `m` copies
followed by nested optional ones.
-/

namespace SparqlBag

namespace Regex

/-- A step of a program. -/
inductive Step where
  /-- Reads the character `c`. -/
  | char (c : Char) (next : Nat)
  /-- Reads a character of the ranges. -/
  | set (ranges : Array (Nat × Nat)) (next : Nat)
  | look (l : Look) (next : Nat)
  /-- Tries the alternatives in order; a lazy split takes the alternatives
  linked later first. -/
  | split (alts : List Nat) (lazy : Bool)
  /-- Records the position in a capture slot. -/
  | save (slot : Nat) (next : Nat)
  | goto (next : Nat)
  | done
  deriving Repr, Inhabited

/-- The step with one more way out: the next step of a plain step, or one
more alternative of a split. -/
def Step.link (dst : Nat) : Step → Step
  | .char c _ => .char c dst
  | .set r _ => .set r dst
  | .look l _ => .look l dst
  | .split alts lazy => .split (if lazy then dst :: alts else alts ++ [dst]) lazy
  | .save s _ => .save s dst
  | .goto _ => .goto dst
  | .done => .done

/-- The number of ways out of a step. -/
def Step.degree : Step → Nat
  | .split alts _ => alts.length
  | .done => 0
  | _ => 1

/-- A program: its steps, where it starts, and how many capture slots it
records. -/
structure Program where
  steps : Array Step
  start : Nat
  slots : Nat
  deriving Repr, Inhabited

/-- A part of a program under construction: where it starts and the step
whose way out is still to be linked. -/
structure Fragment where
  start : Nat
  finish : Nat

/-- Building a program: the steps so far. -/
abbrev Build := StateM (Array Step)

namespace Build

/-- Adds a step and gives its number. -/
def add (s : Step) : Build Nat := modifyGet fun a => (a.size, a.push s)

/-- Links a step to another. -/
def link (src dst : Nat) : Build Unit :=
  modify fun a => a.modify src (Step.link dst)

/-- A fragment of one step. -/
def single (s : Step) : Build Fragment := do
  let i ← add s
  pure ⟨i, i⟩

/-- The fragment that matches the empty text. -/
def empty : Build Fragment := single (.goto 0)

/-- The fragment that matches nothing. -/
def fail : Build Fragment := single (.set #[] 0)

/-- A split that prefers its first alternatives when greedy. -/
def split (greedy : Bool) : Build Nat := add (.split [] (!greedy))

/-- Fragments one after the other. -/
def concat : List (Build Fragment) → Build Fragment
  | [] => empty
  | first :: rest => do
    let f ← first
    rest.foldlM (fun acc part => do
      let g ← part
      link acc.finish g.start
      pure ⟨acc.start, g.finish⟩) f

/-- Fragments as alternatives, tried in order. -/
def alternation : List (Build Fragment) → Build Fragment
  | [] => fail
  | [part] => part
  | parts => do
    let u ← add (.split [] false)
    let e ← add (.goto 0)
    parts.forM fun part => do
      let f ← part
      link u f.start
      link f.finish e
    pure ⟨u, e⟩

/-- A fragment recording its position in two capture slots. -/
def capture (index : Nat) (part : Build Fragment) : Build Fragment := do
  let s ← add (.save (2 * index) 0)
  let f ← part
  let e ← add (.save (2 * index + 1) 0)
  link s f.start
  link f.finish e
  pure ⟨s, e⟩

/-- A fragment at most once. -/
def zeroOrOne (part : Build Fragment) (greedy : Bool) : Build Fragment := do
  let u ← split greedy
  let f ← part
  let e ← add (.goto 0)
  link u f.start
  link u e
  link f.finish e
  pure ⟨u, e⟩

/-- A fragment exactly `n` times. -/
def exactly (part : Build Fragment) (n : Nat) : Build Fragment :=
  concat (List.replicate n part)

/-- A fragment at least `n` times; `nonEmpty` tells whether every match of
it is non-empty. -/
def atLeast (part : Build Fragment) (greedy nonEmpty : Bool) (n : Nat) : Build Fragment :=
  if n == 0 then
    if nonEmpty then do
      let u ← split greedy
      let f ← part
      link u f.start
      link f.finish u
      pure ⟨u, u⟩
    else do
      let f ← part
      let plus ← split greedy
      link f.finish plus
      link plus f.start
      let question ← split greedy
      let e ← add (.goto 0)
      link question f.start
      link question e
      link plus e
      pure ⟨question, e⟩
  else if n == 1 then do
    let f ← part
    let u ← split greedy
    link f.finish u
    link u f.start
    pure ⟨f.start, u⟩
  else do
    let p ← exactly part (n - 1)
    let last ← part
    let u ← split greedy
    link p.finish last.start
    link last.finish u
    link u last.start
    pure ⟨p.start, u⟩

/-- A fragment between `min` and `max` times: the required copies, then
nested optional ones. -/
def bounded (part : Build Fragment) (greedy : Bool) (min max : Nat) : Build Fragment := do
  let p ← exactly part min
  if min == max then return p
  let e ← add (.goto 0)
  let last ← (List.range (max - min)).foldlM (fun prevEnd _ => do
    let u ← split greedy
    let f ← part
    link prevEnd u
    link u f.start
    link u e
    pure f.finish) p.finish
  link last e
  pure ⟨p.start, e⟩

/-- A repetition of a fragment. -/
def repetition (part : Build Fragment) (nonEmpty : Bool) (min : Nat) (max : Option Nat)
    (greedy : Bool) : Build Fragment :=
  match min, max with
  | 0, some 1 => zeroOrOne part greedy
  | n, none => atLeast part greedy nonEmpty n
  | m, some n => if m == n then exactly part m else bounded part greedy m n

mutual

/-- The fragment of an expression. -/
def ofExpr : Expr → Build Fragment
  | .empty => empty
  | .literal cs => concat (cs.map fun c => single (.char c 0))
  | .chars s => single (.set s.ranges.toArray 0)
  | .bytes s => single (.set s.ranges.toArray 0)
  | .look l => single (.look l 0)
  | .repetition min max greedy sub =>
    repetition (ofExpr sub) (sub.shape.minLen.any (0 < ·)) min max greedy
  | .capture index _ sub => capture index (ofExpr sub)
  | .concat items => concat (ofExprs items)
  | .alternation items => alternation (ofExprs items)

/-- The fragments of expressions. -/
def ofExprs : List Expr → List (Build Fragment)
  | [] => []
  | e :: rest => ofExpr e :: ofExprs rest

end

end Build

/-- The program of an expression with `groups` explicit capture groups; the
whole match is group 0. -/
def Expr.program (e : Expr) (groups : Nat) : Program :=
  let build : Build Nat := do
    let f ← Build.capture 0 (Build.ofExpr e)
    let m ← Build.add .done
    Build.link f.finish m
    pure f.start
  let (start, steps) := build.run #[]
  ⟨steps, start, 2 * (groups + 1)⟩

end Regex

end SparqlBag
