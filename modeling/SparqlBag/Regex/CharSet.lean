import SparqlBag.Text.Fold

/-!
# Regular expressions: sets of characters

A class is a set of characters, or in a byte pattern of bytes: a list of closed
ranges, canonically in increasing order with no two overlapping or touching.
Building, adding and union sort and join the ranges; intersection and difference
walk two sorted lists side by side.  Negation works in the space of characters,
which skips the surrogates, writing the complement gap by gap with crossing ends
swapped.  A set carries a mark that it is closed under simple case folding, kept
conservatively: folding sets it, adding a range clears it, negation keeps it, and
the binary operations keep it when both sides have it.
-/

namespace SparqlBag

namespace Regex

/-- What the members of a set are: characters, or bytes. -/
inductive Domain where
  | chars
  | bytes
  deriving DecidableEq, Repr, Inhabited

namespace Domain

/-- The largest member. -/
def top : Domain → Nat
  | .chars => 0x10FFFF
  | .bytes => 0xFF

/-- The member after `n`, skipping the surrogates among characters. -/
def succ : Domain → Nat → Nat
  | .chars, n => if n == 0xD7FF then 0xE000 else n + 1
  | .bytes, n => n + 1

/-- The member before `n`, skipping the surrogates among characters. -/
def pred : Domain → Nat → Nat
  | .chars, n => if n == 0xE000 then 0xD7FF else n - 1
  | .bytes, n => n - 1

end Domain

/-- A range with its ends in order. -/
def mkRange (a b : Nat) : Nat × Nat := if a ≤ b then (a, b) else (b, a)

/-- The lexicographic order of ranges. -/
def rangeLe (r s : Nat × Nat) : Bool := r.1 < s.1 || (r.1 == s.1 && r.2 ≤ s.2)

/-- Whether two ranges overlap or touch. -/
def contiguous (r s : Nat × Nat) : Bool := max r.1 s.1 ≤ min r.2 s.2 + 1

/-- The canonical form of ranges: sorted, then joined where they overlap or
touch. -/
def canonical (rs : List (Nat × Nat)) : List (Nat × Nat) :=
  joinSortedLeft (rs.mergeSort rangeLe)
where
  /-- Joins sorted ranges from the left, each into the range kept before it. -/
  joinSortedLeft (sorted : List (Nat × Nat)) : List (Nat × Nat) :=
    (sorted.foldl (fun acc r =>
      match acc with
      | last :: more =>
        if contiguous last r then mkRange (min last.1 r.1) (max last.2 r.2) :: more
        else r :: acc
      | [] => [r]) []).reverse

/-- A set of characters or bytes. -/
structure CharSet where
  ranges : List (Nat × Nat)
  /-- Whether the set is known to be closed under simple case folding. -/
  folded : Bool
  deriving DecidableEq, Repr, Inhabited

namespace CharSet

/-- The empty set, which is closed under case folding. -/
def empty : CharSet := ⟨[], true⟩

/-- The set of some ranges. -/
def ofRanges (rs : List (Nat × Nat)) : CharSet := ⟨canonical rs, rs.isEmpty⟩

/-- Whether the set is empty. -/
def isEmpty (s : CharSet) : Bool := s.ranges.isEmpty

/-- Whether every member is below `0x80`. -/
def isAscii (s : CharSet) : Bool :=
  match s.ranges.getLast? with
  | some r => r.2 ≤ 0x7F
  | none => true

/-- Adds a range; the set is then no longer known to be closed under folding. -/
def push (s : CharSet) (r : Nat × Nat) : CharSet := ⟨canonical (s.ranges ++ [r]), false⟩

/-- The union of two sets. -/
def union (s t : CharSet) : CharSet :=
  if t.ranges.isEmpty || s.ranges == t.ranges then s
  else ⟨canonical (s.ranges ++ t.ranges), s.folded && t.folded⟩

/-- The common part of two ranges, if any. -/
def meet (r s : Nat × Nat) : Option (Nat × Nat) :=
  let a := max r.1 s.1
  let b := min r.2 s.2
  if a ≤ b then some (a, b) else none

/-- The intersection of sorted ranges, walking both lists. -/
def intersectRanges : List (Nat × Nat) → List (Nat × Nat) → List (Nat × Nat)
  | a :: as, b :: bs =>
    let here := (meet a b).toList
    if a.2 < b.2 then
      if as.isEmpty then here else here ++ intersectRanges as (b :: bs)
    else
      if bs.isEmpty then here else here ++ intersectRanges (a :: as) bs
  | _, _ => []
termination_by as bs => as.length + bs.length

/-- The intersection of two sets. -/
def intersect (s t : CharSet) : CharSet :=
  if s.ranges.isEmpty then s
  else if t.ranges.isEmpty then empty
  else ⟨intersectRanges s.ranges t.ranges, s.folded && t.folded⟩

/-- What is left of range `r` after taking away range `s`: nothing, one range
or two. -/
def rangeMinus (d : Domain) (r s : Nat × Nat) : List (Nat × Nat) :=
  if s.1 ≤ r.1 && r.2 ≤ s.2 then []
  else if max r.1 s.1 > min r.2 s.2 then [r]
  else
    let lower := if r.1 < s.1 then [mkRange r.1 (d.pred s.1)] else []
    let upper := if s.2 < r.2 then [mkRange (d.succ s.2) r.2] else []
    lower ++ upper

mutual

/-- The difference of sorted ranges: the ranges of `as` less those of `bs`. -/
def differenceRanges (d : Domain) : List (Nat × Nat) → List (Nat × Nat) → List (Nat × Nat)
  | [], _ => []
  | as, [] => as
  | a :: as, b :: bs =>
    if b.2 < a.1 then differenceRanges d (a :: as) bs
    else if a.2 < b.1 then a :: differenceRanges d as (b :: bs)
    else subtractFrom d a (b :: bs) as
termination_by as bs => 2 * (as.length + bs.length) + 1

/-- Takes the ranges of `bs` away from `r` while they reach it, then goes on
with the ranges `as` after it. -/
def subtractFrom (d : Domain) (r : Nat × Nat) (bs as : List (Nat × Nat)) : List (Nat × Nat) :=
  match bs with
  | [] => r :: differenceRanges d as []
  | b :: rest =>
    if max r.1 b.1 > min r.2 b.2 then r :: differenceRanges d as (b :: rest)
    else
      match rangeMinus d r b with
      | [] => differenceRanges d as (b :: rest)
      | [x] =>
        if r.2 < b.2 then x :: differenceRanges d as (b :: rest) else subtractFrom d x rest as
      | x :: y :: _ =>
        if r.2 < b.2 then x :: y :: differenceRanges d as (b :: rest)
        else x :: subtractFrom d y rest as
termination_by 2 * (as.length + bs.length) + 2

end

/-- The difference of two sets. -/
def difference (d : Domain) (s t : CharSet) : CharSet :=
  if s.ranges.isEmpty || t.ranges.isEmpty then s
  else ⟨differenceRanges d s.ranges t.ranges, s.folded && t.folded⟩

/-- The symmetric difference of two sets: their union less their intersection. -/
def symmetricDifference (d : Domain) (s t : CharSet) : CharSet :=
  (s.union t).difference d (s.intersect t)

/-- The gaps between consecutive ranges. -/
def gaps (d : Domain) : List (Nat × Nat) → List (Nat × Nat)
  | r :: s :: rest => mkRange (d.succ r.2) (d.pred s.1) :: gaps d (s :: rest)
  | _ => []

/-- The complement of a set among all characters or all bytes. -/
def negate (d : Domain) (s : CharSet) : CharSet :=
  match s.ranges, s.ranges.getLast? with
  | first :: _, some last =>
    let before := if first.1 > 0 then [mkRange 0 (d.pred first.1)] else []
    let after := if last.2 < d.top then [mkRange (d.succ last.2) d.top] else []
    ⟨before ++ gaps d s.ranges ++ after, s.folded⟩
  | _, _ => ⟨[(0, d.top)], true⟩

/-- The entries of the folding table from `lo` on, by binary search: the
first position whose character is at least `lo`, searched in `[lo', hi)`. -/
def firstPartnerFrom (lo : Nat) : Nat → Nat → Nat → Nat
  | 0, a, _ => a
  | fuel + 1, a, b =>
    if a < b then
      let mid := (a + b) / 2
      match Fold.partners[mid]? with
      | some (c, _) => if c < lo then firstPartnerFrom lo fuel (mid + 1) b else firstPartnerFrom lo fuel a mid
      | none => a
    else a

/-- The characters that fold like some character of a range, as ranges of
one character. -/
def partnersIn (r : Nat × Nat) : List (Nat × Nat) :=
  let n := Fold.partners.size
  let start := firstPartnerFrom r.1 (Nat.log2 n + 2) 0 n
  let found := ((Fold.partners.toList.drop start).takeWhile (·.1 ≤ r.2))
  found.flatMap fun (_, others) => others.map fun x => (x, x)

/-- The ASCII letters of the other case of the letters in a range of bytes. -/
def asciiPartnersIn (r : Nat × Nat) : List (Nat × Nat) :=
  let lower := if max r.1 0x61 ≤ min r.2 0x7A then [(max r.1 0x61 - 32, min r.2 0x7A - 32)] else []
  let upper := if max r.1 0x41 ≤ min r.2 0x5A then [(max r.1 0x41 + 32, min r.2 0x5A + 32)] else []
  lower ++ upper

/-- The closure of a set under simple case folding. -/
def caseFold (d : Domain) (s : CharSet) : CharSet :=
  if s.folded then s
  else
    let added := match d with
      | .chars => s.ranges.flatMap partnersIn
      | .bytes => s.ranges.flatMap asciiPartnersIn
    ⟨canonical (s.ranges ++ added), true⟩

/-- Whether a code point is in a set, by binary search over its ranges. -/
def containsIn (ranges : Array (Nat × Nat)) (n : Nat) : Bool :=
  go (Nat.log2 ranges.size + 2) 0 ranges.size
where
  /-- Searches `[a, b)`. -/
  go : Nat → Nat → Nat → Bool
    | 0, _, _ => false
    | fuel + 1, a, b =>
      if a < b then
        let mid := (a + b) / 2
        match ranges[mid]? with
        | some (lo, hi) =>
          if n < lo then go fuel a mid else if hi < n then go fuel (mid + 1) b else true
        | none => false
      else false

end CharSet

end Regex

end SparqlBag
