import SparqlBag.Algebra.Syntax
import SparqlBag.Term.Iri
import SparqlBag.Number.Binary
import SparqlBag.Term.Language

/-!
# Reading SPARQL text: the parser monad and the tokens

A parser is a function of the parser state that may fail; a failed alternative
leaves the state as it was, so `p <|> q` is ordered choice with backtracking.  The
state holds the input and position, the prologue's prefixes and base, a counter
for fresh labels, the aggregates of the enclosing `SELECT`s, and the blank-node
labels of closed groups.  This module reads the tokens: white space and comments,
IRIs, prefixed names, blank nodes, variables, strings, numbers, language tags and
booleans.  `\u` and `\U` escapes are read only inside strings and IRIs, and names
take their characters from the Basic Multilingual Plane.
-/

namespace SparqlBag

/-- A fresh label: the character `tag` and the counter in 31 hexadecimal digits.
Labels of this shape never occur in queries or data. -/
def freshLabel (tag : Char) (n : Nat) : String :=
  let digits := (Nat.toDigits 16 n)
  String.ofList (tag :: (List.replicate (31 - digits.length) '0' ++ digits))

/-- The state of the parser. -/
structure ParserState where
  input : Array Char
  pos : Nat
  prefixes : List (String × String)
  base : Option String
  fresh : Nat
  aggregates : List (List (Variable × Aggregate))
  usedBlanks : List String
  currentBlanks : List String

/-- A parser: a state transformer that may fail. -/
abbrev Parser := StateT ParserState Option

namespace Parser

/-- The state at the start of a text. -/
def start (text : String) (fresh : Nat) : ParserState :=
  ⟨text.toList.toArray, 0, [], none, fresh, [], [], []⟩

/-- The next character, if any, without consuming it. -/
def peek : Parser (Option Char) := fun s => some (s.input[s.pos]?, s)

/-- The character `k` places ahead, without consuming anything. -/
def peekAt (k : Nat) : Parser (Option Char) := fun s => some (s.input[s.pos + k]?, s)

/-- The current position. -/
def position : Parser Nat := fun s => some (s.pos, s)

/-- The number of characters left. -/
def remaining : Parser Nat := fun s => some (s.input.size - s.pos, s)

/-- Consumes one character. -/
def next : Parser Char := fun s =>
  match s.input[s.pos]? with
  | some c => some (c, { s with pos := s.pos + 1 })
  | none => none

/-- Consumes a character satisfying `p`. -/
def satisfy (p : Char → Bool) : Parser Char := do
  let c ← next
  if p c then pure c else failure

/-- Consumes exactly this character. -/
def char (c : Char) : Parser Unit := do
  let d ← next
  if c == d then pure () else failure

/-- Consumes exactly these characters. -/
def text (t : String) : Parser Unit := t.toList.forM char

/-- Consumes these characters, ignoring the case of ASCII letters. -/
def keyword (t : String) : Parser Unit :=
  t.toList.forM fun c => do
    let d ← next
    if c.toLower == d.toLower then pure () else failure

/-- Fails unless the end of the input is reached. -/
def atEnd : Parser Unit := do
  match ← peek with
  | none => pure ()
  | some _ => failure

/-- Repeats `p` while it succeeds and consumes input. -/
def manyLoop {α : Type} (p : Parser α) : (fuel : Nat) → List α → Parser (List α)
  | 0, acc => pure acc.reverse
  | fuel + 1, acc => do
    let before ← position
    match ← (some <$> p) <|> pure none with
    | some x =>
      if (← position) == before then pure (x :: acc).reverse
      else manyLoop p fuel (x :: acc)
    | none => pure acc.reverse

/-- Zero or more `p`. -/
def many {α : Type} (p : Parser α) : Parser (List α) := do
  manyLoop p ((← remaining) + 1) []

/-- One or more `p`. -/
def many1 {α : Type} (p : Parser α) : Parser (List α) := do
  let x ← p
  let xs ← many p
  pure (x :: xs)

/-- One or more `p` separated by `sep`. -/
def sepBy1 {α : Type} (p : Parser α) (sep : Parser Unit) : Parser (List α) := do
  let x ← p
  let xs ← many (sep *> p)
  pure (x :: xs)

/-- `p` or nothing. -/
def opt {α : Type} (p : Parser α) : Parser (Option α) := (some <$> p) <|> pure none

/-- Characters while `p` holds. -/
def takeWhile (p : Char → Bool) : Parser (List Char) := many (satisfy p)

/-- White space of the grammar. -/
def isWs (c : Char) : Bool := c == ' ' || c == '\t' || c == '\n' || c == '\r'

/-- A comment: `#` up to the end of the line. -/
def comment : Parser Unit := do
  char '#'
  let _ ← takeWhile (fun c => c != '\n' && c != '\r')

/-- Skips white space and comments. -/
def skip : Parser Unit := do
  let _ ← many ((satisfy isWs *> pure ()) <|> comment)

/-- Runs `p` and also returns the characters it consumed. -/
def consumed {α : Type} (p : Parser α) : Parser (α × List Char) := fun s =>
  (p s).map fun (x, s') => ((x, ((s.input.extract s.pos s'.pos).toList)), s')

/-- A fresh label for a blank node or a variable. -/
def freshName : Parser String := fun s =>
  some (freshLabel 'f' s.fresh, { s with fresh := s.fresh + 1 })

/-! ## Character classes -/

/-- `PN_CHARS_BASE`, within the Basic Multilingual Plane. -/
def isPnCharsBase (c : Char) : Bool :=
  let n := c.toNat
  ('A' ≤ c && c ≤ 'Z') || ('a' ≤ c && c ≤ 'z') || (0xC0 ≤ n && n ≤ 0xD6) ||
  (0xD8 ≤ n && n ≤ 0xF6) || (0xF8 ≤ n && n ≤ 0x2FF) || (0x370 ≤ n && n ≤ 0x37D) ||
  (0x37F ≤ n && n ≤ 0x1FFF) || (0x200C ≤ n && n ≤ 0x200D) || (0x2070 ≤ n && n ≤ 0x218F) ||
  (0x2C00 ≤ n && n ≤ 0x2FEF) || (0x3001 ≤ n && n ≤ 0xD7FF) || (0xF900 ≤ n && n ≤ 0xFDCF) ||
  (0xFDF0 ≤ n && n ≤ 0xFFFD)

/-- `PN_CHARS_U`. -/
def isPnCharsU (c : Char) : Bool := c == '_' || isPnCharsBase c

/-- `PN_CHARS`. -/
def isPnChars (c : Char) : Bool :=
  let n := c.toNat
  isPnCharsU c || c == '-' || c.isDigit || n == 0xB7 || (0x300 ≤ n && n ≤ 0x36F) ||
  (0x203F ≤ n && n ≤ 0x2040)

/-- The characters after the first of a variable name. -/
def isVarChar (c : Char) : Bool :=
  let n := c.toNat
  isPnCharsU c || c.isDigit || n == 0xB7 || (0x300 ≤ n && n ≤ 0x36F) || (0x203F ≤ n && n ≤ 0x2040)

/-! ## Names -/

/-- A dotted name: a first character, then characters of `inner` and dots,
never ending with a dot. -/
def dotted (first : Parser (List Char)) (inner : Parser (List Char)) : Parser (List Char) := do
  let head ← first
  let rest ← many (do
    let dots ← takeWhile (· == '.')
    let part ← inner
    if part.isEmpty then failure
    pure (dots ++ part))
  pure (head ++ rest.flatten)

/-- `PN_PREFIX`. -/
def pnPrefix : Parser String := do
  let cs ← dotted ((·::[]) <$> satisfy isPnCharsBase) (takeWhile isPnChars)
  pure (String.ofList cs)

/-- `PNAME_NS`: a prefix and `:`. -/
def pnameNs : Parser String := do
  let p ← (pnPrefix <|> pure "")
  char ':'
  pure p

/-- One unit of a local name: a character, `%` with two hexadecimal digits, or
an escaped punctuation character (which stands for itself). -/
def localUnit (allowed : Char → Bool) : Parser (List Char) :=
  (do
    char '%'
    let a ← satisfy Iri.isHex
    let b ← satisfy Iri.isHex
    pure ['%', a, b]) <|>
  (do
    char '\\'
    let c ← satisfy (fun c => "_~.-!$&'()*+,;=/?#@%".toList.contains c)
    pure [c]) <|>
  ((·::[]) <$> satisfy allowed)

/-- `PN_LOCAL`, with its escapes removed: a first unit, more units without
dots, then at most one run of dots followed by more units.  A local name
holds at most one such run. -/
def pnLocal : Parser String := do
  let units := (many (localUnit (fun c => isPnChars c || c == ':'))).map List.flatten
  let head ← localUnit (fun c => isPnCharsU c || c == ':' || c.isDigit)
  let body ← units
  let tail ← opt (do
    let dots ← many1 (satisfy (· == '.'))
    let part ← units
    if part.isEmpty then failure
    pure (dots ++ part))
  pure (String.ofList (head ++ body ++ tail.getD []))

/-- The IRI of a text, resolved against the base when there is one. -/
def resolveIri (t : String) : Parser String := fun s =>
  let r := match s.base with
    | some b => Iri.resolve b t
    | none => Iri.parse t
  r.map (·, s)

/-- The value of hexadecimal digits. -/
def hexValue (ds : List Char) : Nat :=
  ds.foldl (fun acc d =>
    acc * 16 + (if d.isDigit then d.toNat - '0'.toNat else (d.toLower.toNat - 'a'.toNat + 10))) 0

/-- `UCHAR`: `\u` and four or `\U` and eight hexadecimal digits, naming a
character. -/
def uchar : Parser Char := do
  char '\\'
  let width ← (char 'u' *> pure 4) <|> (char 'U' *> pure 8)
  let ds ← (List.replicate width ()).mapM fun _ => satisfy Iri.isHex
  let n := hexValue ds
  if n.isValidChar then pure (Char.ofNat n) else failure

/-- The value of a field of an escape in an IRI: an optional `+` and at least
one hexadecimal digit. -/
def hexField (cs : List Char) : Option Nat :=
  let ds := match cs with
    | '+' :: rest => rest
    | _ => cs
  if !ds.isEmpty && ds.all Iri.isHex then some (hexValue ds) else none

/-- An escape in an IRI: `\u` and a field of four or `\U` and a field of
eight characters, naming a character. -/
def iriEscape : Parser Char := do
  char '\\'
  let width ← (char 'u' *> pure 4) <|> (char 'U' *> pure 8)
  let cs ← (List.replicate width ()).mapM fun _ => next
  match hexField cs with
  | some n => if n.isValidChar then pure (Char.ofNat n) else failure
  | none => failure

/-- `IRIREF`: `<`, any characters but `>` with escapes read, `>`. -/
def iriRef : Parser String := do
  char '<'
  let cs ← many (iriEscape <|> satisfy (· != '>'))
  char '>'
  resolveIri (String.ofList cs)

/-- A prefixed name, expanded with the declared prefixes. -/
def prefixedName : Parser String := do
  let ns ← pnameNs
  let localName ← pnLocal <|> pure ""
  let s ← get
  match s.prefixes.lookup ns with
  | some iri =>
    match Iri.parse (iri ++ localName) with
    | some r => pure r
    | none => failure
  | none => failure

/-- An IRI, written in full or prefixed. -/
def iri : Parser String := iriRef <|> prefixedName

/-- `BLANK_NODE_LABEL` without its `_:`. -/
def blankNodeLabel : Parser String := do
  text "_:"
  let cs ← dotted ((·::[]) <$> satisfy (fun c => isPnCharsU c || c.isDigit)) (takeWhile isPnChars)
  pure (String.ofList cs)

/-- `NIL`: `(` and `)` with only white space between. -/
def nil : Parser Unit := do
  char '('
  let _ ← takeWhile isWs
  char ')'

/-- `ANON`: `[` and `]` with only white space between. -/
def anon : Parser Unit := do
  char '['
  let _ ← takeWhile isWs
  char ']'

/-- A blank node: a label that no closed group used, or a fresh one for `[]`. -/
def blankNode : Parser String :=
  (do
    let label ← blankNodeLabel
    let s ← get
    if s.usedBlanks.contains label then failure
    set { s with currentBlanks := pushNew s.currentBlanks label }
    pure label) <|>
  (anon *> freshName)

/-- The labels of the current group become unavailable to later groups. -/
def closeBlankScope : Parser Unit :=
  modify fun s => { s with usedBlanks := s.usedBlanks ++ s.currentBlanks, currentBlanks := [] }

/-- A variable: `?` or `$` and a name. -/
def var : Parser Variable := do
  let _ ← satisfy (fun c => c == '?' || c == '$')
  let first ← satisfy (fun c => isPnCharsU c || c.isDigit)
  let rest ← takeWhile isVarChar
  pure ⟨String.ofList (first :: rest)⟩

/-! ## Literals -/

/-- The character an escape `\c` stands for in a string. -/
def escapeChar (c : Char) : Option Char :=
  match c with
  | 't' => some '\t'
  | 'b' => some (Char.ofNat 8)
  | 'n' => some '\n'
  | 'r' => some '\r'
  | 'f' => some (Char.ofNat 12)
  | '"' => some '"'
  | '\'' => some '\''
  | '\\' => some '\\'
  | _ => none

/-- An escape sequence of a string: `ECHAR` or `UCHAR`. -/
def echar : Parser Char :=
  (do
    char '\\'
    let c ← next
    match escapeChar c with
    | some d => pure d
    | none => failure) <|> uchar

/-- A one-line string delimited by `q`. -/
def shortString (q : Char) : Parser String := do
  char q
  let cs ← many (echar <|> satisfy (fun c => c != q && c != '\\' && c != '\n' && c != '\r'))
  char q
  pure (String.ofList cs)

/-- A long string delimited by three `q`. -/
def longString (q : Char) : Parser String := do
  text (String.ofList [q, q, q])
  let parts ← many (do
    let quotes ← (text (String.ofList [q, q]) *> pure [q, q]) <|> (char q *> pure [q]) <|> pure []
    let c ← echar <|> satisfy (fun c => c != q && c != '\\')
    pure (quotes ++ [c]))
  text (String.ofList [q, q, q])
  pure (String.ofList parts.flatten)

/-- A string in any of its four forms. -/
def string : Parser String := longString '\'' <|> longString '"' <|> shortString '\'' <|> shortString '"'

/-- `LANGTAG`: `@`, letters, and `-` with letters or digits, lower-cased. -/
def langTag : Parser String := do
  char '@'
  let first ← many1 (satisfy Iri.isAlpha)
  let rest ← many (do
    char '-'
    let part ← many1 (satisfy (fun c => Iri.isAlpha c || c.isDigit))
    pure ('-' :: part))
  let tag := String.ofList ((first ++ rest.flatten).map Char.toLower)
  if LanguageTag.isWellFormed tag then pure tag else failure

/-- Digits, at least one. -/
def digits : Parser (List Char) := many1 (satisfy Char.isDigit)

/-- An exponent: `e` or `E`, an optional sign, digits. -/
def exponent : Parser (List Char) := do
  let e ← satisfy (fun c => c == 'e' || c == 'E')
  let sign ← opt (satisfy (fun c => c == '+' || c == '-'))
  let ds ← digits
  pure (e :: (sign.toList ++ ds))

/-- An unsigned number and its datatype: a double if it has an exponent, a
decimal if it has a point, an integer otherwise. -/
def unsignedNumber : Parser Literal :=
  (do
    let mantissa ←
      (do
        let w ← digits
        char '.'
        let f ← takeWhile Char.isDigit
        pure (w ++ '.' :: f)) <|>
      (do
        char '.'
        let f ← digits
        pure ('.' :: f)) <|>
      digits
    let e ← exponent
    pure (.typed (String.ofList (mantissa ++ e)) Xsd.double)) <|>
  (do
    let w ← takeWhile Char.isDigit
    char '.'
    let f ← digits
    pure (.typed (String.ofList (w ++ '.' :: f)) Xsd.decimal)) <|>
  (do
    let w ← digits
    pure (.typed (String.ofList w) Xsd.integer))

/-- A number, unsigned or with a sign.  White space and comments may follow
the sign, and the lexical form keeps all the text from the sign on. -/
def numericLiteral : Parser Literal :=
  unsignedNumber <|>
  (do
    let sign ← satisfy (fun c => c == '+' || c == '-')
    let ((), gap) ← consumed skip
    let l ← unsignedNumber
    match l with
    | .typed v d => pure (.typed (String.ofList (sign :: gap) ++ v) d)
    | other => pure other)

/-- `true` or `false`. -/
def booleanLiteral : Parser Literal :=
  (text "true" *> pure (Literal.ofBool true)) <|> (text "false" *> pure (Literal.ofBool false))

/-- A string with an optional language tag or datatype. -/
def rdfLiteral : Parser Literal := do
  let value ← string
  (do
    skip
    text "^^"
    skip
    let dt ← iri
    pure (Literal.ofTyped value dt)) <|>
  (do
    skip
    let tag ← langTag
    pure (.tagged value tag)) <|>
  pure (.simple value)

end Parser

end SparqlBag
