import Std.Data.HashMap
import Std.Data.HashSet
import SparqlBag.Store.Dataset
import SparqlBag.Term.Text

/-!
# The indexed content of an in-memory dataset

The quads are stored in slots in insertion order; removing a quad empties its
slot and keeps the others in place, so the four indexes (subject, predicate,
object, graph) refer to quads by slot.  Each index maps a term to the increasing
slots holding it, dropping a term with no quad left.  `slotOf` finds a quad's
slot, and the named graphs are kept as a list and as a set.  A lookup scans the
shortest slot list among the bound positions.  `Content.dataset` forgets the
indexes, and `validate` checks them against the slots as the store does.
-/

namespace SparqlBag

/-- The slots of the quads holding each key in one position. -/
abbrev QuadIndex (κ : Type) [BEq κ] [Hashable κ] := Std.HashMap κ (List Nat)

/-- The halving loop of `binarySearch`: the window `[base, base + size)`
shrinks to its upper half while the element at its middle is not above `x`,
and to its lower half otherwise, without stopping early on a match. -/
def binarySearchBase (xs : List Nat) (x : Nat) (base size : Nat) : Nat :=
  if size ≤ 1 then base
  else
    let half := size / 2
    binarySearchBase xs x (if x < xs.getD (base + half) 0 then base else base + half) (size - half)
termination_by size
decreasing_by omega

/-- Searches a sorted list by halving: `.ok i` when the element at the last
position probed is `x`, otherwise `.error i` with `i` the place where `x`
would be inserted. -/
def binarySearch (xs : List Nat) (x : Nat) : Except Nat Nat :=
  if xs.isEmpty then .error 0 else
  let base := binarySearchBase xs x 0 xs.length
  let probe := xs.getD base 0
  if probe = x then .ok base else .error (if probe < x then base + 1 else base)

namespace QuadIndex

variable {κ : Type} [BEq κ] [Hashable κ]

/-- The slots of the quads holding `key`; none when the key is not indexed. -/
def lookup (index : QuadIndex κ) (key : κ) : List Nat := index.getD key []

/-- Records that the quad in `slot` holds `key`. -/
def pushSlot (index : QuadIndex κ) (key : κ) (slot : Nat) : QuadIndex κ :=
  index.insert key (index.getD key [] ++ [slot])

/-- Forgets that the quad in `slot` holds `key`, dropping the key once it has
no slot left.  The slot is found by binary search. -/
def removeSlot (index : QuadIndex κ) (key : κ) (slot : Nat) : QuadIndex κ :=
  match index[key]? with
  | none => index
  | some slots =>
    let slots := match binarySearch slots slot with
      | .ok position => slots.eraseIdx position
      | .error _ => slots
    if slots.isEmpty then index.erase key else index.insert key slots

/-- Whether the index records `slot` for `key`, found by binary search. -/
def containsSlot (index : QuadIndex κ) (key : κ) (slot : Nat) : Bool :=
  match index[key]? with
  | some slots => (binarySearch slots slot).toBool
  | none => false

end QuadIndex

/-- The text of a quad: its terms, and its graph unless it is the default one. -/
def Quad.toText (q : Quad) : String :=
  let triple := q.subject.toText ++ " <" ++ q.predicate ++ "> " ++ q.object.toText
  match q.graph with
  | .default => triple
  | .named g => triple ++ " " ++ g.toText

/-- The first of the shortest lists. -/
def shortestList : List (List Nat) → Option (List Nat)
  | [] => none
  | first :: rest => some (rest.foldl (fun best xs => if xs.length < best.length then xs else best) first)

/-- The quads of a dataset in slots, with their indexes. -/
structure Content where
  /-- The quads in insertion order; a removed quad leaves an empty slot. -/
  slots : List (Option Quad) := []
  slotOf : Std.HashMap Quad Nat := {}
  bySubject : QuadIndex Term := {}
  byPredicate : QuadIndex String := {}
  byObject : QuadIndex Term := {}
  byGraphName : QuadIndex GraphName := {}
  /-- The named graphs in declaration order. -/
  namedGraphs : List Term := []
  namedGraphSet : Std.HashSet Term := {}

instance : Inhabited Content := ⟨{}⟩

namespace Content

/-- The number of stored quads. -/
def len (c : Content) : Nat := c.slotOf.size

def contains (c : Content) (q : Quad) : Bool := c.slotOf.contains q

/-- The stored quads in insertion order. -/
def quads (c : Content) : List Quad := c.slots.filterMap id

/-- Declares a named graph; `false` when it was declared already. -/
def addNamedGraph (c : Content) (g : Term) : Bool × Content :=
  let (present, set) := c.namedGraphSet.containsThenInsert g
  if present then (false, c)
  else (true, { c with namedGraphSet := set, namedGraphs := c.namedGraphs ++ [g] })

def containsNamedGraph (c : Content) (g : Term) : Bool := c.namedGraphSet.contains g

/-- Stores a quad in a new slot and indexes it; `false` when it is stored already. -/
def insert (c : Content) (q : Quad) : Bool × Content :=
  if c.slotOf.contains q then (false, c)
  else
    let slot := c.slots.length
    let c := { c with
      bySubject := c.bySubject.pushSlot q.subject slot
      byPredicate := c.byPredicate.pushSlot q.predicate slot
      byObject := c.byObject.pushSlot q.object slot
      byGraphName := c.byGraphName.pushSlot q.graph slot }
    let c := match q.graph with
      | .named g => (c.addNamedGraph g).2
      | .default => c
    (true, { c with slotOf := c.slotOf.insert q slot, slots := c.slots ++ [some q] })

/-- Empties the slot of a quad and removes it from the indexes; `false` when
it is not stored. -/
def remove (c : Content) (q : Quad) : Bool × Content :=
  match c.slotOf[q]? with
  | none => (false, c)
  | some slot =>
    (true, { c with
      slotOf := c.slotOf.erase q
      slots := c.slots.set slot none
      bySubject := c.bySubject.removeSlot q.subject slot
      byPredicate := c.byPredicate.removeSlot q.predicate slot
      byObject := c.byObject.removeSlot q.object slot
      byGraphName := c.byGraphName.removeSlot q.graph slot })

/-- The quads matching a pattern, in insertion order: the quads in the
shortest slot list of a bound position that match the other positions, or
all matching quads when no position is bound. -/
def matching (c : Content) (s : Option Term) (p : Option String) (o : Option Term)
    (g : Option GraphName) : List Quad :=
  let candidates := [s.map c.bySubject.lookup, p.map c.byPredicate.lookup,
    o.map c.byObject.lookup, g.map c.byGraphName.lookup]
  match shortestList (candidates.filterMap id) with
  | some slots => (slots.filterMap fun slot => (c.slots[slot]?).join).filter (·.matches s p o g)
  | none => c.quads.filter (·.matches s p o g)

/-- Removes a named graph and then every quad in it; `false` when it was not
declared. -/
def removeNamedGraph (c : Content) (g : Term) : Bool × Content :=
  if !c.namedGraphSet.contains g then (false, c)
  else
    let c := { c with namedGraphSet := c.namedGraphSet.erase g,
                      namedGraphs := c.namedGraphs.filter (· != g) }
    (true, (c.matching none none none (some (.named g))).foldl (fun c q => (c.remove q).2) c)

/-- Checks every stored quad against its slot and the four indexes, then the
number of occupied slots. -/
def validate (c : Content) : Except String Unit := do
  for (quad, slot) in c.slotOf.toList do
    if (c.slots[slot]?).join != some quad then
      throw ("Quad " ++ quad.toText ++ " is not stored in slot " ++ toString slot ++ ".")
    let indexed := c.bySubject.containsSlot quad.subject slot &&
      c.byPredicate.containsSlot quad.predicate slot &&
      c.byObject.containsSlot quad.object slot &&
      c.byGraphName.containsSlot quad.graph slot
    if !indexed then throw ("Quad " ++ quad.toText ++ " is missing in an index.")
  let occupied := c.quads.length
  if occupied != c.slotOf.size then
    throw (toString occupied ++ " occupied slots but " ++ toString c.slotOf.size ++
      " registered quads.")

/-- Inserts quads one after another and counts those that were new. -/
def insertQuads (c : Content) (qs : List Quad) : Nat × Content :=
  qs.foldl (fun (acc : Nat × Content) q =>
    let (added, c) := acc.2.insert q
    (if added then acc.1 + 1 else acc.1, c)) (0, c)

/-- Inserts triples into the default graph and counts those that were new. -/
def extendGraph (c : Content) (ts : List Triple) : Nat × Content :=
  c.insertQuads (ts.map fun t => ⟨t.subject, t.predicate, t.object, .default⟩)

/-- The stored quads and the declared graphs, without the indexes. -/
def dataset (c : Content) : Dataset := ⟨c.quads, c.namedGraphs⟩

end Content

end SparqlBag
