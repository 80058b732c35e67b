import SparqlBag.Regex.Syntax
import SparqlBag.Regex.Expr
import SparqlBag.Text.Property

/-!
# Regular expressions: from syntax to expressions

The flags give the syntax tree its meaning; `(?flags)` changes them for the rest
of the group, `(?flags:…)` only inside.  Under `i` a literal is the set of the
characters that fold like it; `.` excludes `\n` (and `\r` under `R`) unless `s`;
`^` and `$` match at line ends under `m`; `\d`, `\s`, `\w` and the word assertions
are Unicode, or ASCII with `u` off.  A bracketed class is built from the empty set
by adding literals, ranges and classes and applying set operations, folded under
`i` and negated by `^`.  With `u` off, whatever could match a byte that is not
UTF-8 is refused.
-/

namespace SparqlBag

namespace Regex

/-- The flags that give a pattern its meaning. -/
structure Flags where
  caseInsensitive : Bool := false
  multiLine : Bool := false
  dotMatchesNewLine : Bool := false
  swapGreed : Bool := false
  unicode : Bool := true
  crlf : Bool := false
  deriving DecidableEq, Repr, Inhabited

namespace Flags

/-- The flags after a flag list sets and clears some of them. -/
def apply (f : Flags) (items : List FlagItem) : Flags :=
  let pick := fun (flag : Flag) (old : Bool) => (flagState items flag).getD old
  { caseInsensitive := pick .caseInsensitive f.caseInsensitive
    multiLine := pick .multiLine f.multiLine
    dotMatchesNewLine := pick .dotMatchesNewLine f.dotMatchesNewLine
    swapGreed := pick .swapGreed f.swapGreed
    unicode := pick .unicode f.unicode
    crlf := pick .crlf f.crlf }

/-- Whether the members of sets are characters or bytes. -/
def domain (f : Flags) : Domain := if f.unicode then .chars else .bytes

end Flags

/-- The ranges of a POSIX class. -/
def asciiRanges : AsciiKind → List (Nat × Nat)
  | .alnum => [(0x30, 0x39), (0x41, 0x5A), (0x61, 0x7A)]
  | .alpha => [(0x41, 0x5A), (0x61, 0x7A)]
  | .ascii => [(0, 0x7F)]
  | .blank => [(0x09, 0x09), (0x20, 0x20)]
  | .cntrl => [(0, 0x1F), (0x7F, 0x7F)]
  | .digit => [(0x30, 0x39)]
  | .graph => [(0x21, 0x7E)]
  | .lower => [(0x61, 0x7A)]
  | .print => [(0x20, 0x7E)]
  | .punct => [(0x21, 0x2F), (0x3A, 0x40), (0x5B, 0x60), (0x7B, 0x7E)]
  | .space => [(0x09, 0x0D), (0x20, 0x20)]
  | .upper => [(0x41, 0x5A)]
  | .word => [(0x30, 0x39), (0x41, 0x5A), (0x5F, 0x5F), (0x61, 0x7A)]
  | .xdigit => [(0x30, 0x39), (0x41, 0x46), (0x61, 0x66)]

/-- The ASCII class behind `\d`, `\s` or `\w`. -/
def PerlKind.asciiKind : PerlKind → AsciiKind
  | .digit => .digit
  | .space => .space
  | .word => .word

/-- The Unicode ranges behind `\d`, `\s` or `\w`. -/
def PerlKind.ranges : PerlKind → List (Nat × Nat)
  | .digit => UnicodeProperty.digitRanges
  | .space => UnicodeProperty.spaceRanges
  | .word => UnicodeProperty.wordRanges

/-- A set folded under `i` and negated when asked; a set of bytes that then
reaches beyond ASCII is refused. -/
def foldAndNegate (f : Flags) (negated : Bool) (s : CharSet) : Option CharSet :=
  let folded := if f.caseInsensitive then s.caseFold f.domain else s
  let result := if negated then folded.negate f.domain else folded
  if f.unicode || result.isAscii then some result else none

/-- The set of `\d`, `\s` or `\w`, or their negations; negated ASCII classes
are refused, as they reach beyond ASCII. -/
def perlSet (f : Flags) (kind : PerlKind) (negated : Bool) : Option CharSet :=
  if f.unicode then
    let s := CharSet.ofRanges kind.ranges
    some (if negated then s.negate .chars else s)
  else
    let s := CharSet.ofRanges (asciiRanges kind.asciiKind)
    let s := if negated then s.negate .bytes else s
    if s.isAscii then some s else none

/-- The set of a POSIX class. -/
def asciiSet (f : Flags) (kind : AsciiKind) (negated : Bool) : Option CharSet :=
  foldAndNegate f negated (CharSet.ofRanges (asciiRanges kind))

/-- The set of a named class `\p…` or `\P…`; refused with `u` off or when the
name names no set. -/
def unicodeSet (f : Flags) (u : UnicodeClass) : Option CharSet := do
  if !f.unicode then none
  let ranges ← match u.query with
    | .oneLetter c => UnicodeProperty.ofName (String.singleton c)
    | .named name => UnicodeProperty.ofName name
    | .withValue name value _ => UnicodeProperty.ofValue name value
  foldAndNegate f u.isNegated (CharSet.ofRanges ranges)

/-- Whether a character has other characters that fold like it. -/
def hasFoldPartners (c : Char) : Bool := !(CharSet.partnersIn (c.toNat, c.toNat)).isEmpty

/-- The expression of a literal. -/
def literalExpr (f : Flags) (l : Literal) : Option Expr :=
  if !f.unicode && l.byteEscape && 0x7F < l.c.toNat then none
  else if f.caseInsensitive && f.unicode && hasFoldPartners l.c then
    some (Expr.ofChars ((CharSet.ofRanges [(l.c.toNat, l.c.toNat)]).caseFold .chars))
  else if f.caseInsensitive && !f.unicode && l.c.toNat < 0x80 then
    some (Expr.ofBytes ((CharSet.ofRanges [(l.c.toNat, l.c.toNat)]).caseFold .bytes))
  else some (.literal [l.c])

/-- The code of a literal as a member of a set of bytes: refused outside
ASCII. -/
def classByte (l : Literal) : Option Nat :=
  if l.c.toNat < 0x80 then some l.c.toNat else none

/-- Adds the range between two literals to a set. -/
def pushRange (f : Flags) (acc : CharSet) (lo hi : Literal) : Option CharSet :=
  if f.unicode then some (acc.push (lo.c.toNat, hi.c.toNat))
  else do
    let a ← classByte lo
    let b ← classByte hi
    some (acc.push (a, b))

/-- Applies a set operation. -/
def SetOp.apply (d : Domain) : SetOp → CharSet → CharSet → CharSet
  | .intersection, a, b => a.intersect b
  | .difference, a, b => a.difference d b
  | .symmetricDifference, a, b => a.symmetricDifference d b

mutual

/-- Adds a class item to the set built so far. -/
def classItem (f : Flags) (acc : CharSet) : ClassItem → Option CharSet
  | .empty => some acc
  | .literal l => pushRange f acc l l
  | .range lo hi => pushRange f acc lo hi
  | .ascii kind negated => (asciiSet f kind negated).map acc.union
  | .unicode u => (unicodeSet f u).map acc.union
  | .perl kind negated => (perlSet f kind negated).map acc.union
  | .bracketed negated set => do
    let inner ← classSet f set
    let s ← foldAndNegate f negated inner
    some (acc.union s)
  | .union items => classItems f acc items

/-- Adds class items, in order, to the set built so far. -/
def classItems (f : Flags) (acc : CharSet) : List ClassItem → Option CharSet
  | [] => some acc
  | i :: rest => do classItems f (← classItem f acc i) rest

/-- The set of the contents of a bracket, before folding and negation. -/
def classSet (f : Flags) : ClassSet → Option CharSet
  | .item i => classItem f CharSet.empty i
  | .op kind lhs rhs => do
    let l ← classSet f lhs
    let r ← classSet f rhs
    let (l, r) := if f.caseInsensitive then (l.caseFold f.domain, r.caseFold f.domain) else (l, r)
    some (CharSet.empty.union (kind.apply f.domain l r))

end

/-- The expression of a set under the flags: of characters or of bytes. -/
def setExpr (f : Flags) (s : CharSet) : Expr :=
  if f.unicode then Expr.ofChars s else Expr.ofBytes s

/-- The expression of `.`. -/
def dotExpr (f : Flags) : Option Expr :=
  if !f.unicode then none
  else if f.dotMatchesNewLine then some (Expr.ofChars (CharSet.ofRanges [(0, 0x10FFFF)]))
  else if f.crlf then some (Expr.ofChars ((CharSet.ofRanges [(13, 13), (10, 10)]).negate .chars))
  else some (Expr.ofChars ((CharSet.ofRanges [(10, 10)]).negate .chars))

/-- The assertion an assertion of the syntax stands for under the flags. -/
def lookOf (f : Flags) : AssertionKind → Look
  | .startLine => if f.multiLine then (if f.crlf then .startCRLF else .startLF) else .start
  | .endLine => if f.multiLine then (if f.crlf then .endCRLF else .endLF) else .finish
  | .startText => .start
  | .endText => .finish
  | .wordBoundary => if f.unicode then .wordUnicode else .wordAscii
  | .notWordBoundary => if f.unicode then .wordUnicodeNegate else .wordAsciiNegate
  | .wordStart => if f.unicode then .wordStartUnicode else .wordStartAscii
  | .wordEnd => if f.unicode then .wordEndUnicode else .wordEndAscii
  | .wordStartHalf => if f.unicode then .wordStartHalfUnicode else .wordStartHalfAscii
  | .wordEndHalf => if f.unicode then .wordEndHalfUnicode else .wordEndHalfAscii

/-- The counts of a repetition. -/
def RepetitionKind.bounds : RepetitionKind → Nat × Option Nat
  | .zeroOrOne => (0, some 1)
  | .zeroOrMore => (0, none)
  | .oneOrMore => (1, none)
  | .exactly n => (n, some n)
  | .atLeast n => (n, none)
  | .bounded m n => (m, some n)

mutual

/-- The expression of a syntax tree under the flags, with the flags in force
after it; `none` when it is refused. -/
def Ast.resolve (f : Flags) : Ast → Option (Expr × Flags)
  | .empty => some (.empty, f)
  | .flags items => some (.empty, f.apply items)
  | .literal l => (literalExpr f l).map (·, f)
  | .dot => (dotExpr f).map (·, f)
  | .assertion k => some (.look (lookOf f k), f)
  | .unicode u => (unicodeSet f u).map (Expr.ofChars ·, f)
  | .perl kind negated => (perlSet f kind negated).map (setExpr f ·, f)
  | .bracketed negated set => do
    let inner ← classSet f set
    let s ← foldAndNegate f negated inner
    some (setExpr f s, f)
  | .repetition kind greedy sub => do
    let (e, g) ← sub.resolve f
    let (min, max) := kind.bounds
    some (Expr.mkRepetition min max (if g.swapGreed then !greedy else greedy) e, g)
  | .group kind sub => do
    let inner := match kind with
      | .nonCapturing items => f.apply items
      | .capture _ _ => f
    let (e, _) ← sub.resolve inner
    match kind with
    | .capture index name => some (.capture index name e, f)
    | .nonCapturing _ => some (e, f)
  | .alternation items => do
    let (es, g) ← Ast.resolveList f items
    some (Expr.mkAlternation es, g)
  | .concat items => do
    let (es, g) ← Ast.resolveList f items
    some (Expr.mkConcat es, g)

/-- The expressions of syntax trees in sequence, the flags that one leaves
in force passing to the next. -/
def Ast.resolveList (f : Flags) : List Ast → Option (List Expr × Flags)
  | [] => some ([], f)
  | a :: rest => do
    let (e, g) ← a.resolve f
    let (es, h) ← Ast.resolveList g rest
    some (e :: es, h)

end

end Regex

end SparqlBag
