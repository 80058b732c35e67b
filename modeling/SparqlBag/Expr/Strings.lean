import SparqlBag.Expr.Value
import SparqlBag.Regex.Pattern
import SparqlBag.Text.Case
import SparqlBag.Error

/-!
# String functions

The SPARQL functions on strings, over simple, `xsd:string` and language-tagged
literals.  Where two strings meet, the second must have no language or that of
the first, and the result keeps the language of the first; `none` is the error.

Positions of `SUBSTR` count characters from one and are rounded as doubles.
`STRBEFORE`, `STRAFTER` and `LANGMATCHES` cut their text at byte offsets
instead, and a cut inside a character stops the query abnormally.  Regular
expressions take the flags `s`, `m`, `i` and `x`; `q` makes the pattern a
literal text, and any other letter is an error.
-/

namespace SparqlBag

/-- Two string arguments that satisfy the compatibility rule. -/
def compatibleArgs (a b : Term) : Option ((String × Option String) × (String × Option String)) := do
  let x ← stringArg a
  let y ← stringArg b
  if y.2.isNone || x.2 == y.2 then some (x, y) else none

/-- The characters before and after the first occurrence of `needle`. -/
def splitFirst (needle : List Char) : List Char → Option (List Char × List Char)
  | [] => if needle.isEmpty then some ([], []) else none
  | c :: rest =>
    if needle.isPrefixOf (c :: rest) then some ([], (c :: rest).drop needle.length)
    else (splitFirst needle rest).map fun (before, after) => (c :: before, after)

/-- Whether `needle` occurs in `hay`. -/
def containsText (hay needle : String) : Bool := (splitFirst needle.toList hay.toList).isSome

/-- The byte offset of the first occurrence of `needle` in `hay`. -/
def firstOffset (needle : List UInt8) : List UInt8 → Option Nat
  | [] => if needle.isEmpty then some 0 else none
  | b :: rest =>
    if needle.isPrefixOf (b :: rest) then some 0 else (firstOffset needle rest).map (· + 1)

/-- The text between two byte offsets; an abnormal stop when an offset falls
inside a character or past the end. -/
def sliceBytes (s : String) (start stop : Nat) : Except QueryError String :=
  if String.Pos.Raw.isValid s ⟨start⟩ && String.Pos.Raw.isValid s ⟨stop⟩ then
    pure (String.Pos.Raw.extract s ⟨start⟩ ⟨stop⟩)
  else throw .abort

namespace Strings

/-- `STRLEN`: the number of characters. -/
def strLen (t : Term) : Option Term := do
  let (s, _) ← stringArg t
  return .literal (integerLiteral s.length)

/-- `UCASE`. -/
def ucase (t : Term) : Option Term := do
  let (s, lang) ← stringArg t
  return stringTerm (toUpperText s) lang

/-- `LCASE`. -/
def lcase (t : Term) : Option Term := do
  let (s, lang) ← stringArg t
  return stringTerm (toLowerText s) lang

/-- `CONTAINS`. -/
def contains (a b : Term) : Option Bool := do
  let ((x, _), (y, _)) ← compatibleArgs a b
  return containsText x y

/-- `STRSTARTS`. -/
def strStarts (a b : Term) : Option Bool := do
  let ((x, _), (y, _)) ← compatibleArgs a b
  return y.toList.isPrefixOf x.toList

/-- `STRENDS`. -/
def strEnds (a b : Term) : Option Bool := do
  let ((x, _), (y, _)) ← compatibleArgs a b
  return y.toList.reverse.isPrefixOf x.toList.reverse

/-- `STRBEFORE`: the text before the first occurrence, cut at its byte
offset, with the language of the first argument; the simple empty string when
there is none. -/
def strBefore (a b : Term) : Except QueryError (Option Term) :=
  match compatibleArgs a b with
  | none => pure none
  | some ((x, lang), (y, _)) =>
    match firstOffset y.toUTF8.toList x.toUTF8.toList with
    | some offset => do return some (stringTerm (← sliceBytes x 0 offset) lang)
    | none => pure (some (stringTerm "" none))

/-- `STRAFTER`: the text after the first occurrence, cut at the byte offset of
its end. -/
def strAfter (a b : Term) : Except QueryError (Option Term) :=
  match compatibleArgs a b with
  | none => pure none
  | some ((x, lang), (y, _)) =>
    match firstOffset y.toUTF8.toList x.toUTF8.toList with
    | some offset => do
      return some (stringTerm (← sliceBytes x (offset + y.utf8ByteSize) x.utf8ByteSize) lang)
    | none => pure (some (stringTerm "" none))

/-- `CONCAT`: the language stays if every argument has it. -/
def concat (args : List Term) : Option Term := do
  let parts ← args.mapM stringArg
  let lang := match parts with
    | [] => none
    | (_, l) :: rest => if rest.all (·.2 == l) then l else none
  return stringTerm (String.join (parts.map (·.1))) lang

/-- A position argument of `SUBSTR`: a number, rounded, and not NaN. -/
def roundedPosition (t : Term) : Option Float := do
  let n ← numericArg t
  let r ← n.round
  let x := r.toDouble
  if x.isNaN then none else some x

/-- The double of a natural number. -/
def natToDouble (n : Nat) : Float := Numeric.intToDouble n

/-- `SUBSTR`: the characters at positions `p` with `start ≤ p < start + length`. -/
def substr (source start : Term) (length : Option Term) : Option Term := do
  let (s, lang) ← stringArg source
  let first ← roundedPosition start
  let last ← match length with
    | some l => (roundedPosition l).map (first + ·)
    | none => some (Numeric.doubleOfBits (BinaryFormat.binary64.infinityBits))
  let kept := s.toList.zipIdx.filter fun (_, i) =>
    let p := natToDouble (i + 1)
    first ≤ p && p < last
  return stringTerm (String.ofList (kept.map (·.1))) lang

/-- The two hexadecimal digits of a byte, in upper case. -/
def percentByte (b : UInt8) : String :=
  let digit := fun (n : Nat) => if n < 10 then Char.ofNat (48 + n) else Char.ofNat (55 + n)
  String.ofList ['%', digit (b.toNat / 16), digit (b.toNat % 16)]

/-- Whether a byte stays as it is in `ENCODE_FOR_URI`. -/
def isUnreservedByte (b : UInt8) : Bool :=
  let c := Char.ofNat b.toNat
  b < 128 && (c.isAlphanum || c == '-' || c == '_' || c == '.' || c == '~')

/-- `ENCODE_FOR_URI`: percent-encodes every UTF-8 byte but the unreserved ones. -/
def encodeForUri (t : Term) : Option Term := do
  let (s, _) ← stringArg t
  let encoded := s.toUTF8.toList.map fun b =>
    if isUnreservedByte b then (Char.ofNat b.toNat).toString else percentByte b
  return .literal (.simple (String.join encoded))

/-- The options of a regular expression from its flags: `none` for an invalid
letter, and the literal marker `q` ends the reading. -/
def readFlags : List Char → Regex.Options → Option (Regex.Options × Bool)
  | [], o => some (o, false)
  | c :: rest, o =>
    if c == 's' then readFlags rest { o with dotMatchesNewLine := true }
    else if c == 'm' then readFlags rest { o with multiLine := true }
    else if c == 'i' then readFlags rest { o with caseInsensitive := true }
    else if c == 'x' then readFlags rest { o with ignoreWhitespace := true }
    else if c == 'q' then some (o, true)
    else none

/-- The regular expression of a pattern argument and an optional flags argument. -/
def compileRegex (pattern : Term) (flags : Option Term) : Option Regex.Pattern := do
  let p ← plainStringArg pattern
  let (o, literal) ← match flags with
    | some t => do readFlags (← plainStringArg t).toList {}
    | none => some ({}, false)
  if literal then Regex.Pattern.literal p else Regex.Pattern.compile p o

/-- `REGEX`. -/
def regex (text pattern : Term) (flags : Option Term) : Option Bool := do
  let (s, _) ← stringArg text
  let r ← compileRegex pattern flags
  return r.isMatch s

/-- `REPLACE`: every match replaced; the text keeps its language. -/
def replace (text pattern replacement : Term) (flags : Option Term) : Option Term := do
  let (s, lang) ← stringArg text
  let substitute ← plainStringArg replacement
  let r ← compileRegex pattern flags
  return stringTerm (r.replaceAll s substitute) lang

/-- Whether two bytes are equal up to ASCII case. -/
def asciiCaselessEq (a b : UInt8) : Bool :=
  let lower := fun (x : UInt8) => if 65 ≤ x && x ≤ 90 then x + 32 else x
  lower a == lower b

/-- Whether two texts have the same bytes up to ASCII case. -/
def asciiCaselessEqText (a b : String) : Bool :=
  a.utf8ByteSize == b.utf8ByteSize &&
    (a.toUTF8.toList.zip b.toUTF8.toList).all fun (x, y) => asciiCaselessEq x y

/-- `LANGMATCHES` by basic filtering: `*` matches every non-empty tag, and a
range matches a tag that starts with it, up to ASCII case, followed by nothing
or `-`.  The tag is cut at the byte length of the range. -/
def langMatches (tag range : Term) : Except QueryError (Option Bool) :=
  match plainStringArg tag, plainStringArg range with
  | some t, some r =>
    if r == "*" then pure (some !t.isEmpty)
    else if t.utf8ByteSize < r.utf8ByteSize then pure (some false)
    else do
      let front ← sliceBytes t 0 r.utf8ByteSize
      let rest ← sliceBytes t r.utf8ByteSize t.utf8ByteSize
      return some (asciiCaselessEqText front r && (rest.isEmpty || rest.startsWith "-"))
  | _, _ => pure none

end Strings

end SparqlBag
