import SparqlBag.Regex.CharSet

/-!
# Regular expressions: expressions

The meaning of a pattern once its flags are applied: literals, sets of
characters or bytes, assertions, repetitions, captures, concatenations and
alternations.  The builders `Expr.mkConcat`, `Expr.mkAlternation`,
`Expr.mkRepetition` and `Expr.ofChars` keep a normal form: no empty or nested
concatenation and no two literals side by side; no nested alternation, one set
for an alternation of single characters or sets, and a common first part taken
out in front; a repetition of the empty match runs at most once; a one-character
set is a literal and an empty set is `Expr.fail`.  Beside the expression stand the
fewest and most bytes a match may span, and whether matches are anchored.
-/

namespace SparqlBag

namespace Regex

/-- The zero-width assertions. -/
inductive Look where
  | start
  | finish
  | startLF
  | endLF
  | startCRLF
  | endCRLF
  | wordAscii
  | wordAsciiNegate
  | wordUnicode
  | wordUnicodeNegate
  | wordStartAscii
  | wordEndAscii
  | wordStartUnicode
  | wordEndUnicode
  | wordStartHalfAscii
  | wordEndHalfAscii
  | wordStartHalfUnicode
  | wordEndHalfUnicode
  deriving DecidableEq, Repr, Inhabited

/-- An expression. -/
inductive Expr where
  | empty
  /-- A text of at least one character. -/
  | literal (cs : List Char)
  | chars (s : CharSet)
  | bytes (s : CharSet)
  | look (l : Look)
  /-- A repetition at least `min` times and, if `max` bounds it, at most
  `max` times; `greedy` prefers more. -/
  | repetition (min : Nat) (max : Option Nat) (greedy : Bool) (sub : Expr)
  | capture (index : Nat) (name : Option String) (sub : Expr)
  | concat (items : List Expr)
  | alternation (items : List Expr)
  deriving Repr, Inhabited

mutual

/-- Structural equality of expressions. -/
def Expr.beq : Expr → Expr → Bool
  | .empty, .empty => true
  | .literal a, .literal b => a == b
  | .chars a, .chars b => a == b
  | .bytes a, .bytes b => a == b
  | .look a, .look b => a == b
  | .repetition m n g a, .repetition m' n' g' b => m == m' && n == n' && g == g' && a.beq b
  | .capture i n a, .capture i' n' b => i == i' && n == n' && a.beq b
  | .concat as, .concat bs => Expr.beqList as bs
  | .alternation as, .alternation bs => Expr.beqList as bs
  | _, _ => false

/-- Structural equality of lists of expressions. -/
def Expr.beqList : List Expr → List Expr → Bool
  | [], [] => true
  | a :: as, b :: bs => a.beq b && Expr.beqList as bs
  | _, _ => false

end

instance : BEq Expr := ⟨Expr.beq⟩

/-- The expression that matches nothing: the empty set of bytes. -/
def Expr.fail : Expr := .bytes CharSet.empty

/-- The number of bytes of the UTF-8 encoding of a code point. -/
def utf8Width (n : Nat) : Nat :=
  if n < 0x80 then 1 else if n < 0x800 then 2 else if n < 0x10000 then 3 else 4

/-- What later stages ask of an expression. -/
structure Shape where
  /-- The fewest bytes a match spans; `none` when nothing matches. -/
  minLen : Option Nat
  /-- The most bytes a match spans; `none` when unbounded or nothing matches. -/
  maxLen : Option Nat
  /-- Whether every match starts at the start of the text. -/
  anchoredStart : Bool
  /-- Whether every match ends at the end of the text. -/
  anchoredEnd : Bool
  deriving DecidableEq, Repr, Inhabited

/-- The sum of two lengths, `none` when either is. -/
def addLen (a b : Option Nat) : Option Nat := a.bind fun x => b.map (x + ·)

/-- Whether an expression matches only the empty text, by its shape. -/
def Shape.onlyEmpty (s : Shape) : Bool := s.maxLen == some 0

/-- Whether a first part of a concatenation is anchored, through its leading
items that match only the empty text. -/
def anchoredThrough (get : Shape → Bool) : List Shape → Bool
  | [] => false
  | s :: rest => get s || (s.onlyEmpty && anchoredThrough get rest)

/-- The shape of a concatenation from the shapes of its items. -/
def Shape.concat (items : List Shape) : Shape :=
  { minLen := items.foldl (fun acc s => addLen acc s.minLen) (some 0)
    maxLen := items.foldl (fun acc s => addLen acc s.maxLen) (some 0)
    anchoredStart := anchoredThrough (·.anchoredStart) items
    anchoredEnd := anchoredThrough (·.anchoredEnd) items.reverse }

/-- The smaller or larger of two lengths by `pick`, `none` when either is. -/
def pickLen (pick : Nat → Nat → Nat) (a b : Option Nat) : Option Nat :=
  a.bind fun x => b.map (pick x ·)

/-- The shape of an alternation from the shapes of its items. -/
def Shape.alternation : List Shape → Shape
  | [] => ⟨none, none, false, false⟩
  | s :: rest =>
    { minLen := rest.foldl (fun acc t => pickLen min acc t.minLen) s.minLen
      maxLen := rest.foldl (fun acc t => pickLen max acc t.maxLen) s.maxLen
      anchoredStart := (s :: rest).all (·.anchoredStart)
      anchoredEnd := (s :: rest).all (·.anchoredEnd) }

/-- The shape of a set of characters: its least and greatest members fix the
fewest and the most bytes. -/
def CharSet.charShape (s : CharSet) : Shape :=
  { minLen := s.ranges.head?.map (utf8Width ·.1)
    maxLen := s.ranges.getLast?.map (utf8Width ·.2)
    anchoredStart := false
    anchoredEnd := false }

mutual

/-- The shape of an expression. -/
def Expr.shape : Expr → Shape
  | .empty => ⟨some 0, some 0, false, false⟩
  | .literal cs =>
    let n := (cs.map (utf8Width ·.toNat)).sum
    ⟨some n, some n, false, false⟩
  | .chars s => s.charShape
  | .bytes s => if s.isEmpty then ⟨none, none, false, false⟩ else ⟨some 1, some 1, false, false⟩
  | .look l => ⟨some 0, some 0, l == .start, l == .finish⟩
  | .repetition min max _ sub =>
    let s := sub.shape
    { minLen := s.minLen.map (· * min)
      maxLen := max.bind fun m => s.maxLen.map (· * m)
      anchoredStart := 0 < min && s.anchoredStart
      anchoredEnd := 0 < min && s.anchoredEnd }
  | .capture _ _ sub => sub.shape
  | .concat items => Shape.concat (Expr.shapeList items)
  | .alternation items => Shape.alternation (Expr.shapeList items)

/-- The shapes of a list of expressions. -/
def Expr.shapeList : List Expr → List Shape
  | [] => []
  | e :: rest => e.shape :: Expr.shapeList rest

end

mutual

/-- The number of nodes of an expression. -/
def Expr.size : Expr → Nat
  | .repetition _ _ _ sub => sub.size + 1
  | .capture _ _ sub => sub.size + 1
  | .concat items => Expr.sizeList items + 1
  | .alternation items => Expr.sizeList items + 1
  | _ => 1

/-- The number of nodes of a list of expressions. -/
def Expr.sizeList : List Expr → Nat
  | [] => 0
  | e :: rest => e.size + Expr.sizeList rest

end

namespace Expr

/-- The expression of a text: a literal, or the empty expression. -/
def ofText (cs : List Char) : Expr := if cs.isEmpty then .empty else .literal cs

/-- The expression of a set of characters: `fail` when empty, a literal when
it has one character. -/
def ofChars (s : CharSet) : Expr :=
  match s.ranges with
  | [] => fail
  | [(a, b)] => if a == b then .literal [Char.ofNat a] else .chars s
  | _ => .chars s

/-- The expression of a set of bytes: `fail` when empty, a literal when it
has one byte. -/
def ofBytes (s : CharSet) : Expr :=
  match s.ranges with
  | [] => fail
  | [(a, b)] => if a == b then .literal [Char.ofNat a] else .bytes s
  | _ => .bytes s

/-- The items of a concatenation under construction, last first, and the
characters of a literal not yet closed, last first. -/
structure Joined where
  items : List Expr
  pending : List Char

/-- The items with the pending literal closed. -/
def Joined.close (j : Joined) : List Expr :=
  if j.pending.isEmpty then j.items else .literal j.pending.reverse :: j.items

/-- Adds an item that came from inside a concatenation. -/
def Joined.addInner (j : Joined) : Expr → Joined
  | .literal cs => { j with pending := cs.reverse ++ j.pending }
  | e => ⟨e :: j.close, []⟩

/-- Adds an item: literals join the pending one, a concatenation gives up its
items, and empty items are dropped. -/
def Joined.add (j : Joined) : Expr → Joined
  | .literal cs => { j with pending := cs.reverse ++ j.pending }
  | .concat subs => subs.foldl Joined.addInner j
  | .empty => j
  | e => ⟨e :: j.close, []⟩

/-- The concatenation of expressions, in normal form. -/
def mkConcat (items : List Expr) : Expr :=
  match (items.foldl Joined.add ⟨[], []⟩).close.reverse with
  | [] => .empty
  | [e] => e
  | es => .concat es

/-- The characters of one-character literals, if every item is one. -/
def singleChars : List Expr → Option (List Char)
  | [] => some []
  | .literal [c] :: rest => (singleChars rest).map (c :: ·)
  | _ => none

/-- The union of sets, taken from the left, if every item is a set; a set of
bytes counts as the set of the same characters. -/
def unionOfSets (items : List Expr) : Option CharSet :=
  items.foldlM (fun acc e =>
    match e with
    | .chars s => some (acc.union s)
    | .bytes s => some (acc.union (CharSet.ofRanges s.ranges))
    | _ => none) CharSet.empty

/-- The number of leading items two lists share. -/
def sharedPrefix : List Expr → List Expr → Nat
  | a :: as, b :: bs => if a == b then sharedPrefix as bs + 1 else 0
  | _, _ => 0

/-- The items of every concatenation, if every expression is one. -/
def concatItems : List Expr → Option (List (List Expr))
  | [] => some []
  | .concat xs :: rest => (concatItems rest).map (xs :: ·)
  | _ => none

/-- The alternation of expressions, in normal form, with `fuel` bounding the
depth of shared first parts taken out. -/
def mkAlternationWith : Nat → List Expr → Expr
  | 0, items => .alternation items
  | fuel + 1, items =>
    let flat := items.flatMap fun
      | .alternation subs => subs
      | e => [e]
    match flat with
    | [] => fail
    | [e] => e
    | _ =>
      match singleChars flat, unionOfSets flat with
      | some cs, _ => ofChars (CharSet.ofRanges (cs.map fun c => (c.toNat, c.toNat)))
      | none, some s => ofChars s
      | none, none =>
        match concatItems flat with
        | some (first :: rest) =>
          let n := rest.foldl (fun n xs => min n (sharedPrefix first xs)) first.length
          if n == 0 then .alternation flat
          else
            let suffixes := (first :: rest).map fun xs => mkConcat (xs.drop n)
            mkConcat (first.take n ++ [mkAlternationWith fuel suffixes])
        | _ => .alternation flat

/-- The alternation of expressions, in normal form. -/
def mkAlternation (items : List Expr) : Expr :=
  mkAlternationWith (Expr.sizeList items + 1) items

/-- The repetition of an expression, in normal form. -/
def mkRepetition (min : Nat) (max : Option Nat) (greedy : Bool) (sub : Expr) : Expr :=
  let (min, max) :=
    if sub.shape.onlyEmpty then (Nat.min min 1, some (Nat.min (max.getD 1) 1)) else (min, max)
  if min == 0 && max == some 0 then .empty
  else if min == 1 && max == some 1 then sub
  else .repetition min max greedy sub

end Expr

end Regex

end SparqlBag
