import SparqlBag.Expr.Strings
import SparqlBag.Expr.Cast
import SparqlBag.Algebra.Syntax
import SparqlBag.Term.DateTime
import SparqlBag.Term.Iri
import SparqlBag.Text.Digest
import SparqlBag.Syntax.Reader
import SparqlBag.Error

/-!
# Built-in functions

The dispatch of a function call on the evaluated arguments.  A call with the
wrong number of arguments is an error, and so are `TIMEZONE`, `TZ` and custom
functions that are not casts.

`BNODE`, `RAND`, `UUID` and `STRUUID` give a new value on every call.  They
draw on a counter that the whole evaluation threads through, so that
two calls never give the same value: blank nodes are labelled `e` and 31
hexadecimal digits, random numbers are spread over `[0, 1)`, and identifiers
are version-4 UUIDs.  `NOW` is one fixed instant for a whole evaluation.
-/

namespace SparqlBag

/-- The monad of evaluation: the counter of fresh values, and errors that stop
the query. -/
abbrev EvalM := StateT Nat (Except QueryError)

/-- The next number of the counter of fresh values. -/
def Fresh.next : EvalM Nat := modifyGet fun n => (n, n + 1)

/-- What function calls may read besides their arguments. -/
structure CallContext where
  /-- The base IRI against which `IRI` resolves relative references. -/
  baseIri : Option String := none
  /-- The instant `NOW` returns. -/
  now : DateTime := ⟨⟨0⟩, some 0⟩

namespace Fresh

/-- `n` as `width` lower-case hexadecimal digits. -/
def hexDigits (width n : Nat) : String :=
  let digit := fun (k : Nat) => if k < 10 then Char.ofNat (48 + k) else Char.ofNat (87 + k)
  String.ofList ((List.range width).reverse.map fun i => digit (n / Nat.pow 16 i % 16))

/-- The label of fresh blank node number `n`. -/
def blankLabel (n : Nat) : String := freshLabel 'e' n

/-- The text of version-4 UUID number `n`. -/
def uuidText (n : Nat) : String :=
  let h := (hexDigits 32 (n * 2654435761 % Nat.pow 2 64 * Nat.pow 2 48 + n % Nat.pow 2 48)).toList
  let h := (h.set 12 '4').set 16 '8'
  let part := fun (a b : Nat) => String.ofList ((h.drop a).take (b - a))
  part 0 8 ++ "-" ++ part 8 12 ++ "-" ++ part 12 16 ++ "-" ++ part 16 20 ++ "-" ++ part 20 32

/-- The double of random number `n`, in `[0, 1)`. -/
def randomDouble (n : Nat) : Float :=
  Numeric.intToDouble ((n * 7919 + 104729) % 1000003) / 1000003.0

end Fresh

namespace Builtin

/-- `STR`. -/
def str : Term → Option Term
  | .iri i => some (.literal (.simple i))
  | .literal l => some (.literal (.simple l.value))
  | .blank _ => none

/-- `LANG`: the language, or the empty string. -/
def lang : Term → Option Term
  | .literal l => some (.literal (.simple (l.language.getD "")))
  | _ => none

/-- `DATATYPE`. -/
def datatype : Term → Option Term
  | .literal l => some (.iri l.datatype)
  | _ => none

/-- `IRI`: an IRI as it is, or a simple string resolved against the base. -/
def iri (base : Option String) : Term → Option Term
  | .iri i => some (.iri i)
  | t@(.literal _) => do
    let s ← plainStringArg t
    let resolved ← match base with
      | some b => Iri.resolve b s
      | none => Iri.parse s
    return .iri resolved
  | .blank _ => none

/-- `STRDT`. -/
def strDt (value dt : Term) : Option Term := do
  let s ← plainStringArg value
  let .iri d := dt | none
  return .literal (Literal.ofTyped s d)

/-- `STRLANG`: the tag is lower-cased and must be well formed. -/
def strLang (value language : Term) : Option Term := do
  let s ← plainStringArg value
  let tag := (← plainStringArg language).toLower
  if LanguageTag.isWellFormed tag then some (.literal (.tagged s tag)) else none

/-- `isNUMERIC`: a literal of a numeric datatype with a valid lexical form. -/
def isNumeric : Term → Bool
  | .literal l => Xsd.isNumericType l.datatype && (Numeric.ofLiteral l).isSome
  | _ => false

/-- A numeric function applied to a numeric argument. -/
def numeric (op : Numeric → Option Numeric) (t : Term) : Option Term := do
  return (← op (← numericArg t)).toTerm

/-- The date-time of an `xsd:dateTime` literal. -/
def dateTimeArg : Term → Option DateTime
  | .literal l => if l.datatype == Xsd.dateTime then DateTime.parse l.value else none
  | _ => none

/-- A calendar field of a date-time, as an integer. -/
def dateField (field : DateTime → Int) (t : Term) : Option Term := do
  return .literal (integerLiteral (field (← dateTimeArg t)))

/-- `SECONDS`: the seconds with their fraction, as a decimal. -/
def seconds (t : Term) : Option Term := do
  return .literal (.typed (← dateTimeArg t).second.toText Xsd.decimal)

/-- A hash function applied to the UTF-8 bytes of a simple string. -/
def digest (hash : List UInt8 → String) (t : Term) : Option Term := do
  return .literal (.simple (hash (← plainStringArg t).toUTF8.toList))

/-- A boolean result. -/
def bool (b : Option Bool) : Option Term := b.map Term.ofBool

end Builtin

open Builtin in
/-- Calls a function on evaluated arguments; `none` is the error value. -/
def callFunction (ctx : CallContext) (f : Function) (args : List Term) : EvalM (Option Term) :=
  match f, args with
  | .str, [a] => pure (str a)
  | .lang, [a] => pure (lang a)
  | .langMatches, [a, b] => do return bool (← Strings.langMatches a b)
  | .datatype, [a] => pure (datatype a)
  | .iri, [a] => pure (iri ctx.baseIri a)
  | .bnode, [] => do return some (.blank (Fresh.blankLabel (← Fresh.next)))
  | .bnode, [a] =>
    match plainStringArg a with
    | some _ => do return some (.blank (Fresh.blankLabel (← Fresh.next)))
    | none => pure none
  | .strDt, [a, b] => pure (strDt a b)
  | .strLang, [a, b] => pure (strLang a b)
  | .isIri, [a] => pure (some (.ofBool a.isIri))
  | .isBlank, [a] => pure (some (.ofBool a.isBlank))
  | .isLiteral, [a] => pure (some (.ofBool a.isLiteral))
  | .isNumeric, [a] => pure (some (.ofBool (isNumeric a)))
  | .rand, [] => do return some (Cast.doubleTerm (Fresh.randomDouble (← Fresh.next)))
  | .abs, [a] => pure (numeric Numeric.abs a)
  | .ceil, [a] => pure (numeric Numeric.ceil a)
  | .floor, [a] => pure (numeric Numeric.floor a)
  | .round, [a] => pure (numeric Numeric.round a)
  | .concat, args => pure (Strings.concat args)
  | .subStr, [a, b] => pure (Strings.substr a b none)
  | .subStr, [a, b, c] => pure (Strings.substr a b (some c))
  | .strLen, [a] => pure (Strings.strLen a)
  | .replace, [a, b, c] => pure (Strings.replace a b c none)
  | .replace, [a, b, c, d] => pure (Strings.replace a b c (some d))
  | .ucase, [a] => pure (Strings.ucase a)
  | .lcase, [a] => pure (Strings.lcase a)
  | .encodeForUri, [a] => pure (Strings.encodeForUri a)
  | .contains, [a, b] => pure (bool (Strings.contains a b))
  | .strStarts, [a, b] => pure (bool (Strings.strStarts a b))
  | .strEnds, [a, b] => pure (bool (Strings.strEnds a b))
  | .strBefore, [a, b] => Strings.strBefore a b
  | .strAfter, [a, b] => Strings.strAfter a b
  | .regex, [a, b] => pure (bool (Strings.regex a b none))
  | .regex, [a, b, c] => pure (bool (Strings.regex a b (some c)))
  | .year, [a] => pure (dateField DateTime.year a)
  | .month, [a] => pure (dateField (fun d => d.month) a)
  | .day, [a] => pure (dateField (fun d => d.day) a)
  | .hours, [a] => pure (dateField (fun d => d.hour) a)
  | .minutes, [a] => pure (dateField (fun d => d.minute) a)
  | .seconds, [a] => pure (seconds a)
  | .now, [] => pure (some (.literal (.typed ctx.now.toText Xsd.dateTime)))
  | .uuid, [] => do return some (.iri ("urn:uuid:" ++ Fresh.uuidText (← Fresh.next)))
  | .strUuid, [] => do return some (.literal (.simple (Fresh.uuidText (← Fresh.next))))
  | .md5, [a] => pure (digest Digest.md5 a)
  | .sha1, [a] => pure (digest Digest.sha1 a)
  | .sha256, [a] => pure (digest Digest.sha256 a)
  | .sha384, [a] => pure (digest Digest.sha384 a)
  | .sha512, [a] => pure (digest Digest.sha512 a)
  | .custom name, [a] => pure ((castTo name a).getD none)
  | _, _ => pure none

end SparqlBag
