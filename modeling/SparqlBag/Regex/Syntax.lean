/-!
# Regular expressions: syntax trees

The tree that reading a pattern produces, before flags and Unicode data give
it a meaning.  It keeps what the text says: which flags a group sets, whether
a literal was written as a two-digit `\x` escape (in a pattern that matches
bytes, such a literal is a byte), how a repetition was written, and how a
bracketed class nests its items and set operations.

The nesting depth of a tree counts groups, repetitions, alternations,
concatenations, bracketed classes, unions of class items and class set
operations; a pattern nested deeper than `nestLimit` is refused.
-/

namespace SparqlBag

namespace Regex

/-- A flag that a group may set or clear. -/
inductive Flag where
  | caseInsensitive
  | multiLine
  | dotMatchesNewLine
  | swapGreed
  | unicode
  | crlf
  | ignoreWhitespace
  deriving DecidableEq, Repr, Inhabited

/-- An item of a flag list: a flag, or the `-` that clears the flags after it. -/
inductive FlagItem where
  | negation
  | flag (f : Flag)
  deriving DecidableEq, Repr, Inhabited

/-- Whether a flag list sets (`some true`) or clears (`some false`) a flag. -/
def flagState (items : List FlagItem) (f : Flag) : Option Bool :=
  go false items
where
  /-- The state of the flag, `negated` telling whether a `-` came before. -/
  go (negated : Bool) : List FlagItem → Option Bool
    | [] => none
    | .negation :: rest => go true rest
    | .flag g :: rest => if g = f then some (!negated) else go negated rest

/-- A literal character, and whether it was written as `\x` with two digits. -/
structure Literal where
  c : Char
  byteEscape : Bool := false
  deriving DecidableEq, Repr, Inhabited

/-- The kinds of zero-width assertions. -/
inductive AssertionKind where
  | startLine
  | endLine
  | startText
  | endText
  | wordBoundary
  | notWordBoundary
  | wordStart
  | wordEnd
  | wordStartHalf
  | wordEndHalf
  deriving DecidableEq, Repr, Inhabited

/-- The classes `\d`, `\s` and `\w`. -/
inductive PerlKind where
  | digit
  | space
  | word
  deriving DecidableEq, Repr, Inhabited

/-- The POSIX class names allowed inside brackets, as in `[[:alpha:]]`. -/
inductive AsciiKind where
  | alnum | alpha | ascii | blank | cntrl | digit | graph | lower | print | punct | space
  | upper | word | xdigit
  deriving DecidableEq, Repr, Inhabited

/-- The POSIX class of a name. -/
def AsciiKind.ofName : String → Option AsciiKind
  | "alnum" => some .alnum | "alpha" => some .alpha | "ascii" => some .ascii
  | "blank" => some .blank | "cntrl" => some .cntrl | "digit" => some .digit
  | "graph" => some .graph | "lower" => some .lower | "print" => some .print
  | "punct" => some .punct | "space" => some .space | "upper" => some .upper
  | "word" => some .word | "xdigit" => some .xdigit
  | _ => none

/-- How a Unicode class names its property: one letter (`\pL`), a name
(`\p{Greek}`), or a property with a value (`\p{sc=Greek}`), where `!=`
negates the class. -/
inductive PropertyQuery where
  | oneLetter (c : Char)
  | named (name : String)
  | withValue (name value : String) (notEqual : Bool)
  deriving DecidableEq, Repr, Inhabited

/-- A Unicode class, `\p…` or `\P…`. -/
structure UnicodeClass where
  /-- Whether it was written `\P`. -/
  negated : Bool
  query : PropertyQuery
  deriving DecidableEq, Repr, Inhabited

/-- Whether a Unicode class stands for the complement of its property: `\P`
and `!=` each negate, and together they cancel. -/
def UnicodeClass.isNegated (u : UnicodeClass) : Bool :=
  match u.query with
  | .withValue _ _ true => !u.negated
  | _ => u.negated

/-- The set operations of bracketed classes: `&&`, `--` and `~~`. -/
inductive SetOp where
  | intersection
  | difference
  | symmetricDifference
  deriving DecidableEq, Repr, Inhabited

mutual

/-- An item of a bracketed class. -/
inductive ClassItem where
  | empty
  | literal (l : Literal)
  | range (lo hi : Literal)
  | ascii (kind : AsciiKind) (negated : Bool)
  | unicode (u : UnicodeClass)
  | perl (kind : PerlKind) (negated : Bool)
  | bracketed (negated : Bool) (set : ClassSet)
  | union (items : List ClassItem)

/-- The contents of a bracketed class: an item, or a set operation whose
left side may itself be one. -/
inductive ClassSet where
  | item (i : ClassItem)
  | op (kind : SetOp) (lhs rhs : ClassSet)

end

/-- How a repetition was written. -/
inductive RepetitionKind where
  | zeroOrOne
  | zeroOrMore
  | oneOrMore
  | exactly (n : Nat)
  | atLeast (n : Nat)
  | bounded (m n : Nat)
  deriving DecidableEq, Repr, Inhabited

/-- The kinds of groups. -/
inductive GroupKind where
  | capture (index : Nat) (name : Option String)
  | nonCapturing (flags : List FlagItem)
  deriving DecidableEq, Repr, Inhabited

/-- A syntax tree. -/
inductive Ast where
  | empty
  /-- Flags set for the rest of the enclosing group, `(?i)`. -/
  | flags (items : List FlagItem)
  | literal (l : Literal)
  | dot
  | assertion (kind : AssertionKind)
  | unicode (u : UnicodeClass)
  | perl (kind : PerlKind) (negated : Bool)
  | bracketed (negated : Bool) (set : ClassSet)
  | repetition (kind : RepetitionKind) (greedy : Bool) (sub : Ast)
  | group (kind : GroupKind) (sub : Ast)
  | alternation (items : List Ast)
  | concat (items : List Ast)

/-- The deepest nesting a pattern may have. -/
def nestLimit : Nat := 250

mutual

/-- The nesting depth of a class item. -/
def ClassItem.depth : ClassItem → Nat
  | .bracketed _ set => set.depth + 1
  | .union items => (ClassItem.depthList items) + 1
  | _ => 0

/-- The greatest nesting depth of class items. -/
def ClassItem.depthList : List ClassItem → Nat
  | [] => 0
  | i :: rest => max i.depth (ClassItem.depthList rest)

/-- The nesting depth of the contents of a bracketed class. -/
def ClassSet.depth : ClassSet → Nat
  | .item i => i.depth
  | .op _ lhs rhs => max lhs.depth rhs.depth + 1

end

mutual

/-- The nesting depth of a syntax tree. -/
def Ast.depth : Ast → Nat
  | .bracketed _ set => set.depth + 1
  | .repetition _ _ sub => sub.depth + 1
  | .group _ sub => sub.depth + 1
  | .alternation items => Ast.depthList items + 1
  | .concat items => Ast.depthList items + 1
  | _ => 0

/-- The greatest nesting depth of syntax trees. -/
def Ast.depthList : List Ast → Nat
  | [] => 0
  | a :: rest => max a.depth (Ast.depthList rest)

end

end Regex

end SparqlBag
