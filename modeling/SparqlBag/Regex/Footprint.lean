import Std.Data.HashMap
import SparqlBag.Regex.Expr
import SparqlBag.Regex.Utf8

/-!
# Regular expressions: the memory of an automaton

A pattern is refused when the byte automata that would run it, one forwards with
the captures and one backwards without, need more memory than a limit.  They are
built state by state, keeping only what their size depends on, and the build stops
once the limit is passed.  A state takes 32 bytes, 8 more per byte range and 4
more per alternative of a split; an unanchored prefix and a final state come on
top.  A set beyond ASCII becomes a UTF-8 automaton: forwards built minimal on the
fly through a table of 10000 slots (FNV-1a), backwards as chains sharing their
tails through a table of 1000 slots.  An alternation of literals becomes a trie.
-/

namespace SparqlBag

namespace Regex

namespace Footprint

/-- The states counted so far, the extra bytes they hold, and which of them
split (only those grow when linked). -/
structure Tally where
  states : Nat
  extra : Nat
  splits : Array Bool

/-- The memory of the states counted so far. -/
def Tally.memory (t : Tally) : Nat := 32 * t.states + t.extra

/-- Measuring: a state on the tally, failing once the limit is passed. -/
abbrev Measure := StateT Tally (Except Unit)

/-- A part of an automaton: its first state and the state whose way out is
still to be linked. -/
structure Part where
  start : Nat
  finish : Nat

/-- Fails when the memory passes the limit. -/
def check (limit : Nat) : Measure Unit := do
  if limit < (← get).memory then throw ()

/-- Adds a state holding `extra` bytes beyond its own, telling whether it
splits; gives its number. -/
def addState (limit extra : Nat) (split : Bool) : Measure Nat := do
  let t ← get
  set { states := t.states + 1, extra := t.extra + extra, splits := t.splits.push split : Tally }
  check limit
  pure t.states

/-- Adds a state that does not split. -/
def add (limit extra : Nat) : Measure Nat := addState limit extra false

/-- Links a state onward: a split grows by one alternative. -/
def link (limit src : Nat) : Measure Unit := do
  let t ← get
  if t.splits[src]?.getD false then
    set { t with extra := t.extra + 4 }
    check limit

/-- A part of one state. -/
def single (limit extra : Nat) : Measure Part := do
  let i ← add limit extra
  pure ⟨i, i⟩

/-- A split with no alternatives yet. -/
def split (limit : Nat) : Measure Nat := addState limit 0 true

/-- The FNV-1a hash of numbers, modulo a table size. -/
def fnv (xs : List Nat) (slots : Nat) : Nat :=
  let h := xs.foldl (fun (h : UInt64) x => (h ^^^ x.toUInt64) * 1099511628211) 14695981039346656037
  h.toNat % slots

/-- A byte range with its target. -/
abbrev Edge := Nat × Nat × Nat

/-- A state of the forward UTF-8 automaton not finished yet: its edges, and
the range of its last edge, whose target is not known yet. -/
structure Open where
  edges : Array Edge
  last : Option (Nat × Nat)

/-- The edges of an open state once its last edge leads to `next`. -/
def Open.close (o : Open) (next : Nat) : Array Edge :=
  match o.last with
  | some (a, b) => o.edges.push (a, b, next)
  | none => o.edges

/-- The forward UTF-8 automaton under construction: the state every sequence
ends in, the states still open from the root, and the table of finished states. -/
structure Minimal where
  target : Nat
  pending : Array Open
  table : Std.HashMap Nat (Array Edge × Nat)

/-- Measuring with the forward UTF-8 automaton under construction. -/
abbrev MinimalM := StateT Minimal Measure

/-- Finishes a state: the state with the same edges from the table, or a new
one. -/
def finishState (limit : Nat) (edges : Array Edge) : MinimalM Nat := do
  let m ← get
  let h := fnv (edges.toList.flatMap fun (a, b, n) => [a, b, n]) 10000
  match m.table[h]? with
  | some (key, id) => if key == edges then return id
  | none => pure ()
  let id ← liftM (add limit (8 * edges.size))
  modify fun m => { m with table := m.table.insert h (edges, id) }
  pure id

/-- Finishes the open states deeper than `depth`, from the deepest, and
closes the last edge of the state at `depth`. -/
def finishFrom (limit depth : Nat) : Nat → Nat → MinimalM Unit
  | 0, next => modify fun m =>
      { m with pending := m.pending.modify (m.pending.size - 1) fun o => ⟨o.close next, none⟩ }
  | fuel + 1, next => do
    let m ← get
    if depth + 1 < m.pending.size then
      match m.pending.back? with
      | some o =>
        set { m with pending := m.pending.pop }
        let id ← finishState limit (o.close next)
        finishFrom limit depth fuel id
      | none => pure ()
    else
      modify fun m =>
        { m with pending := m.pending.modify (m.pending.size - 1) fun o => ⟨o.close next, none⟩ }

/-- The number of leading ranges that the open states already end with. -/
def sharedPrefix (opens : List Open) (ranges : List (Nat × Nat)) : Nat :=
  match opens, ranges with
  | o :: os, r :: rs => if o.last == some r then sharedPrefix os rs + 1 else 0
  | _, _ => 0

/-- Adds a sequence of byte ranges, in increasing order. -/
def addSequence (limit : Nat) (ranges : List (Nat × Nat)) : MinimalM Unit := do
  let m ← get
  let depth := sharedPrefix m.pending.toList ranges
  finishFrom limit depth m.pending.size m.target
  match ranges.drop depth with
  | [] => pure ()
  | first :: rest =>
    modify fun m =>
      let opens := m.pending.modify (m.pending.size - 1) fun o => { o with last := some first }
      { m with pending := rest.foldl (fun a r => a.push ⟨#[], some r⟩) opens }

/-- The forward automaton of a set of characters beyond ASCII. -/
def forwardChars (limit : Nat) (s : CharSet) : Measure Part := do
  let target ← add limit 0
  let run : MinimalM Nat := do
    for (lo, hi) in s.ranges do
      for seq in Utf8.sequences lo hi do
        addSequence limit seq
    finishFrom limit 0 (← get).pending.size (← get).target
    let m ← get
    let root := (m.pending[0]?).map (·.edges) |>.getD #[]
    set { m with pending := #[] }
    finishState limit root
  let (start, _) ← run.run ⟨target, #[⟨#[], none⟩], {}⟩
  pure ⟨start, target⟩

/-- The backward automaton of a set of characters beyond ASCII: a split
over chains of byte ranges, last byte first, sharing their tails. -/
def backwardChars (limit : Nat) (s : CharSet) : Measure Part := do
  let u ← split limit
  let altEnd ← add limit 0
  let seqs := s.ranges.flatMap fun (lo, hi) => Utf8.sequences lo hi
  let _ ← seqs.foldlM (fun (table : Std.HashMap Nat ((Nat × Nat × Nat) × Nat)) seq => do
    let (_, table) ← seq.foldlM (fun (acc : Nat × Std.HashMap Nat ((Nat × Nat × Nat) × Nat))
        (r : Nat × Nat) => do
      let (next, table) := acc
      let key := (next, r.1, r.2)
      let h := fnv [next, r.1, r.2] 1000
      match table[h]? with
      | some (k, id) => if k == key then return (id, table)
      | none => pure ()
      let id ← add limit 0
      pure (id, table.insert h (key, id))) (altEnd, table)
    link limit u
    pure table) {}
  pure ⟨u, altEnd⟩

/-- The part of a set of bytes, or of ASCII characters: an empty state and a
state with the ranges. -/
def rangeSet (limit : Nat) (s : CharSet) : Measure Part := do
  let e ← add limit 0
  let start ← add limit (8 * s.ranges.length)
  pure ⟨start, e⟩

/-- The part of a set of characters. -/
def charSet (backward : Bool) (limit : Nat) (s : CharSet) : Measure Part :=
  if s.isAscii then rangeSet limit s
  else if backward then backwardChars limit s
  else forwardChars limit s

/-- Parts one after the other. -/
def concat (limit : Nat) : List (Measure Part) → Measure Part
  | [] => single limit 0
  | first :: rest => do
    let f ← first
    rest.foldlM (fun acc part => do
      let g ← part
      link limit acc.finish
      pure ⟨acc.start, g.finish⟩) f

/-- Parts as alternatives: the first two, then the split and the common end,
then the others. -/
def alternation (limit : Nat) : List (Measure Part) → Measure Part
  | [] => single limit 0
  | [part] => part
  | first :: second :: rest => do
    let a ← first
    let b ← second
    let u ← split limit
    let e ← add limit 0
    link limit u
    link limit a.finish
    link limit u
    link limit b.finish
    for part in rest do
      let c ← part
      link limit u
      link limit c.finish
    pure ⟨u, e⟩

/-- A node of a trie of literals: its edges by byte, and where its earlier
groups of edges end (a literal ends before each later group). -/
structure TrieNode where
  edges : Array (Nat × Nat)
  groups : Array (Nat × Nat)
  deriving Inhabited

/-- Where the group of edges still open starts. -/
def TrieNode.openStart (n : TrieNode) : Nat := (n.groups.back?.map (·.2)).getD 0

/-- The groups of edges, the open one last. -/
def TrieNode.allGroups (n : TrieNode) : List (Array (Nat × Nat)) :=
  n.groups.toList.map (fun (a, b) => n.edges.extract a b) ++ [n.edges.extract n.openStart n.edges.size]

/-- Marks the end of a literal at a node. -/
def TrieNode.markEnd (n : TrieNode) : TrieNode :=
  if n.edges.isEmpty && !n.groups.isEmpty then n
  else { n with groups := n.groups.push (n.openStart, n.edges.size) }

/-- Adds the bytes of a literal to a trie. -/
def trieAdd (nodes : Array TrieNode) (bytes : List Nat) : Array TrieNode :=
  let (nodes, last) := bytes.foldl (fun (acc : Array TrieNode × Nat) b =>
    let (nodes, cur) := acc
    let node := nodes[cur]!
    let start := node.openStart
    let active := (node.edges.extract start node.edges.size).toList
    match active.find? (·.1 == b) with
    | some (_, next) => (nodes, next)
    | none =>
      let next := nodes.size
      let pos := start + (active.filter (·.1 < b)).length
      let node := { node with edges := node.edges.insertIdxIfInBounds pos (b, next) }
      ((nodes.set! cur node).push default, next)) (nodes, 0)
  nodes.modify last TrieNode.markEnd

/-- The automaton of a trie node, its children first; gives the split that
starts it. -/
def trieNode (limit : Nat) (nodes : Array TrieNode) (finish : Nat) : Nat → Nat → Measure Nat
  | 0, _ => addState limit 0 true
  | fuel + 1, cur => do
    let node := nodes[cur]!
    let groups := node.allGroups
    let alts ← groups.zipIdx.foldlM (fun (alts : Array Nat) (group, i) => do
      let alts := if i == 0 then alts else alts.push finish
      let ranges ← group.toList.mapM fun (b, next) => do
        if (nodes[next]!).edges.isEmpty then pure (b, b, finish)
        else pure (b, b, ← trieNode limit nodes finish fuel next)
      if ranges.isEmpty then pure alts
      else
        let id ← add limit (if ranges.length == 1 then 0 else 8 * ranges.length)
        pure (alts.push id)) #[]
    addState limit (4 * alts.size) true

/-- The automaton of an alternation of literals, as a trie of their bytes
(reversed when reading backwards). -/
def literalTrie (backward : Bool) (limit : Nat) (literals : List (List Char)) : Measure Part := do
  let bytes := literals.map fun cs =>
    let bs := cs.flatMap (Utf8.encode ·.toNat)
    if backward then bs.reverse else bs
  let nodes := bytes.foldl trieAdd #[default]
  let finish ← add limit 0
  let start ← trieNode limit nodes finish nodes.size 0
  pure ⟨start, finish⟩

/-- The texts of literals, if every item is one. -/
def literalTexts : List Expr → Option (List (List Char))
  | [] => some []
  | .literal cs :: rest => (literalTexts rest).map (cs :: ·)
  | _ => none

/-- A part exactly `n` times. -/
def exactly (limit : Nat) (part : Measure Part) (n : Nat) : Measure Part :=
  match n with
  | 0 => single limit 0
  | k + 1 => do
    let first ← part
    go k first
where
  /-- Adds `k` more copies after `acc`. -/
  go : Nat → Part → Measure Part
    | 0, acc => pure acc
    | k + 1, acc => do
      let g ← part
      link limit acc.finish
      go k ⟨acc.start, g.finish⟩

/-- A part at most once. -/
def zeroOrOne (limit : Nat) (part : Measure Part) : Measure Part := do
  let u ← split limit
  let f ← part
  let e ← add limit 0
  link limit u
  link limit u
  link limit f.finish
  pure ⟨u, e⟩

/-- A part at least `n` times; `nonEmpty` tells whether every match of it is
non-empty. -/
def atLeast (limit : Nat) (part : Measure Part) (nonEmpty : Bool) (n : Nat) : Measure Part :=
  if n == 0 then
    if nonEmpty then do
      let u ← split limit
      let f ← part
      link limit u
      link limit f.finish
      pure ⟨u, u⟩
    else do
      let f ← part
      let plus ← split limit
      link limit f.finish
      link limit plus
      let question ← split limit
      let e ← add limit 0
      link limit question
      link limit question
      link limit plus
      pure ⟨question, e⟩
  else if n == 1 then do
    let f ← part
    let u ← split limit
    link limit f.finish
    link limit u
    pure ⟨f.start, u⟩
  else do
    let p ← exactly limit part (n - 1)
    let last ← part
    let u ← split limit
    link limit p.finish
    link limit last.finish
    link limit u
    pure ⟨p.start, u⟩

/-- A part between `min` and `max` times. -/
def bounded (limit : Nat) (part : Measure Part) (min max : Nat) : Measure Part := do
  let p ← exactly limit part min
  if min == max then return p
  let e ← add limit 0
  let last ← go e (max - min) p.finish
  link limit last
  pure ⟨p.start, e⟩
where
  /-- Adds `k` optional copies after the state `prevEnd`. -/
  go (e : Nat) : Nat → Nat → Measure Nat
    | 0, prevEnd => pure prevEnd
    | k + 1, prevEnd => do
      let u ← split limit
      let f ← part
      link limit prevEnd
      link limit u
      link limit u
      go e k f.finish

/-- A repetition of a part. -/
def repetition (limit : Nat) (part : Measure Part) (nonEmpty : Bool) (min : Nat)
    (max : Option Nat) : Measure Part :=
  match min, max with
  | 0, some 1 => zeroOrOne limit part
  | n, none => atLeast limit part nonEmpty n
  | m, some n => if m == n then exactly limit part m else bounded limit part m n

mutual

/-- The part of an expression; `backward` reads it from its end, without
capture groups. -/
def ofExpr (backward : Bool) (limit : Nat) : Expr → Measure Part
  | .empty => single limit 0
  | .literal cs =>
    let bytes := cs.flatMap (Utf8.encode ·.toNat)
    concat limit ((if backward then bytes.reverse else bytes).map fun _ => single limit 0)
  | .chars s => charSet backward limit s
  | .bytes s => rangeSet limit s
  | .look _ => single limit 0
  | .repetition min max _ sub =>
    repetition limit (ofExpr backward limit sub) (sub.shape.minLen.any (0 < ·)) min max
  | .capture _ _ sub =>
    if backward then ofExpr backward limit sub
    else do
      let s ← add limit 0
      let f ← ofExpr backward limit sub
      let e ← add limit 0
      link limit s
      link limit f.finish
      pure ⟨s, e⟩
  | .concat items =>
    let parts := ofExprs backward limit items
    concat limit (if backward then parts.reverse else parts)
  | .alternation items =>
    match literalTexts items with
    | some texts => if 2 ≤ texts.length then literalTrie backward limit texts
        else alternation limit (ofExprs backward limit items)
    | none => alternation limit (ofExprs backward limit items)

/-- The parts of expressions. -/
def ofExprs (backward : Bool) (limit : Nat) : List Expr → List (Measure Part)
  | [] => []
  | e :: rest => ofExpr backward limit e :: ofExprs backward limit rest

end

/-- The whole automaton of an expression: the prefix that lets a match start
anywhere unless every match is anchored, the expression (inside the capture
of the whole match when reading forwards), and the final state. -/
def automaton (backward : Bool) (limit : Nat) (e : Expr) : Measure Unit := do
  let shape := e.shape
  let anchored := if backward then shape.anchoredEnd else shape.anchoredStart
  let prefixPart ← if anchored then single limit 0 else do
    let u ← split limit
    let _ ← rangeSet limit (CharSet.ofRanges [(0, 0xFF)])
    link limit u
    pure ⟨u, u⟩
  let body ← if backward then ofExpr true limit e else do
    let s ← add limit 0
    let f ← ofExpr false limit e
    let t ← add limit 0
    link limit s
    link limit f.finish
    pure ⟨s, t⟩
  let _ ← add limit 0
  link limit body.finish
  link limit prefixPart.finish

/-- Whether the automaton of an expression, read in one direction, fits in
`limit` bytes. -/
def fits (backward : Bool) (limit : Nat) (e : Expr) : Bool :=
  match (automaton backward limit e).run ⟨0, 0, #[]⟩ with
  | .ok _ => true
  | .error _ => false

end Footprint

/-- Whether both automata of an expression fit in `limit` bytes. -/
def Expr.fitsIn (e : Expr) (limit : Nat) : Bool :=
  Footprint.fits false limit e && Footprint.fits true limit e

end Regex

end SparqlBag
