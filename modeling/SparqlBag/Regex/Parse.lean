import SparqlBag.Regex.Syntax
import SparqlBag.Text.Blank
import SparqlBag.Text.Property

/-!
# Regular expressions: reading a pattern

The reader walks the text once, keeping a stack of the open groups and
alternations, and inside a bracketed class a stack of the open brackets and set
operations.  With the flag `x`, white space and `#` comments are skipped between
pieces, inside counts, escapes and brackets.  Flags may appear once each, look-around,
octal escapes and back-references are refused, capture names are unique, a
repetition needs a non-empty piece before it and `{m,n}` needs `m ≤ n`.  In
brackets a leading `-` and a first `]` are literal, `[:name:]` is a POSIX class
when the name is known, and `&&`, `--` and `~~` group to the left.
-/

namespace SparqlBag

namespace Regex

/-- An open group, or an alternation inside the innermost open group. -/
inductive GroupFrame where
  /-- The pieces before the group, the group, and the flag `x` outside it. -/
  | group (before : List Ast) (kind : GroupKind) (ignoreWhitespace : Bool)
  /-- The branches read so far. -/
  | alternation (branches : List Ast)

/-- An open bracket with the items before it, or a set operation with its
left side. -/
inductive ClassFrame where
  | bracket (before : List ClassItem) (negated : Bool)
  | op (kind : SetOp) (lhs : ClassSet)

/-- The state of the reader. -/
structure ReadState where
  text : Array Char
  pos : Nat
  ignoreWhitespace : Bool
  captures : Nat
  names : List String
  groups : List GroupFrame

/-- A reader: a state transformer that may refuse the pattern. -/
abbrev ReadM := StateT ReadState Option

/-- A piece that an escape or a single character stands for. -/
inductive Piece where
  | literal (l : Literal)
  | dot
  | assertion (kind : AssertionKind)
  | perl (kind : PerlKind) (negated : Bool)
  | unicode (u : UnicodeClass)

/-- The syntax tree of a piece. -/
def Piece.toAst : Piece → Ast
  | .literal l => .literal l
  | .dot => .dot
  | .assertion k => .assertion k
  | .perl k n => .perl k n
  | .unicode u => .unicode u

/-- The tree of a concatenation, its pieces kept last first. -/
def concatAst (rev : List Ast) : Ast :=
  match rev with
  | [] => .empty
  | [a] => a
  | _ => .concat rev.reverse

/-- The tree of an alternation, its branches kept last first. -/
def alternationAst (rev : List Ast) : Ast :=
  match rev with
  | [] => .empty
  | [a] => a
  | _ => .alternation rev.reverse

/-- The item of a union of class items, kept last first. -/
def unionItem (rev : List ClassItem) : ClassItem :=
  match rev with
  | [] => .empty
  | [i] => i
  | _ => .union rev.reverse

/-- Whether a character is meta: it needs an escape to stand for itself. -/
def isMeta (c : Char) : Bool := "\\.+*?()|[]{}^$#&-~".toList.contains c

/-- Whether a character may follow `\` to stand for itself. -/
def isEscapable (c : Char) : Bool :=
  isMeta c || (c.toNat < 0x80 && !c.isAlphanum && c != '<' && c != '>')

/-- Whether a character may be in a capture name, `first` telling whether it
is the first one. -/
def isCaptureChar (c : Char) (first : Bool) : Bool :=
  if first then c == '_' || UnicodeProperty.isAlphabetic c
  else c == '_' || c == '.' || c == '[' || c == ']' || UnicodeProperty.isAlphanumeric c

/-- The value of a hexadecimal digit. -/
def hexDigitValue (c : Char) : Option Nat :=
  if '0' ≤ c && c ≤ '9' then some (c.toNat - 48)
  else if 'a' ≤ c && c ≤ 'f' then some (c.toNat - 87)
  else if 'A' ≤ c && c ≤ 'F' then some (c.toNat - 55)
  else none

/-- The number that digits in a base stand for. -/
def digitsValue (base : Nat) (ds : List Nat) : Nat := ds.foldl (fun n d => base * n + d) 0

/-- The largest number of 32 bits, the limit of counts and code points. -/
def wordLimit : Nat := 0xFFFFFFFF

/-- The character of a code point, if it is one. -/
def charOf (n : Nat) : Option Char :=
  if n ≤ 0x10FFFF && (n < 0xD800 || 0xDFFF < n) then some (Char.ofNat n) else none

/-- The position after a `#` comment that starts at `pos`: after its line end,
or at the end of the text. -/
def skipComment (text : Array Char) (pos : Nat) : Nat :=
  if h : pos < text.size then
    if text[pos] == '\n' then pos + 1 else skipComment text (pos + 1)
  else pos
termination_by text.size - pos

/-- The position after white space and comments from `pos`. -/
def skipSpace (text : Array Char) (pos : Nat) : Nat :=
  if h : pos < text.size then
    let c := text[pos]
    if isWhiteSpace c then skipSpace text (pos + 1)
    else if c == '#' then
      let next := skipComment text (pos + 1)
      if pos < next then skipSpace text next else pos
    else pos
  else pos
termination_by text.size - pos
decreasing_by all_goals omega

/-- The character after white space and comments past `pos + 1`, in the way
the reader peeks past a `-` in brackets: a character inside a comment that is
not white space ends the search too, and when nothing ends it the answer is
the character right after `pos`. -/
def peekPastSpace (text : Array Char) (pos : Nat) : Option Char :=
  go (pos + 1) false
where
  /-- Scans from `i`, `inComment` telling whether a comment is open. -/
  go (i : Nat) (inComment : Bool) : Option Char :=
    if h : i < text.size then
      let c := text[i]
      if isWhiteSpace c then go (i + 1) inComment
      else if !inComment && c == '#' then go (i + 1) true
      else if inComment && c == '\n' then go (i + 1) false
      else some c
    else text[pos + 1]?
  termination_by text.size - i

namespace Read

/-- The current character. -/
def current : ReadM (Option Char) := do
  let s ← get
  return s.text[s.pos]?

/-- Whether the whole text has been read. -/
def isEof : ReadM Bool := do
  let s ← get
  return s.text.size ≤ s.pos

/-- Whether the current character is `c`. -/
def at? (c : Char) : ReadM Bool := do
  return (← current) == some c

/-- The character after the current one. -/
def peek : ReadM (Option Char) := do
  let s ← get
  return s.text[s.pos + 1]?

/-- Refuses the pattern. -/
def refuse : ReadM α := failure

/-- Moves past the current character; tells whether a character follows. -/
def bump : ReadM Bool := do
  let s ← get
  if s.text.size ≤ s.pos then return false
  set { s with pos := s.pos + 1 }
  return s.pos + 1 < s.text.size

/-- Skips white space and comments under the flag `x`. -/
def bumpSpace : ReadM Unit := do
  let s ← get
  if s.ignoreWhitespace then set { s with pos := skipSpace s.text s.pos }

/-- Moves past the current character and the white space after it; tells
whether a character follows. -/
def bumpAndSpace : ReadM Bool := do
  if !(← bump) then return false
  bumpSpace
  return !(← isEof)

/-- Moves past `lead` if the text goes on with it. -/
def bumpIf (lead : List Char) : ReadM Bool := do
  let s ← get
  if (s.text.toList.drop s.pos).take lead.length == lead then
    set { s with pos := s.pos + lead.length }
    return true
  return false

/-- The character after the current one, past white space under `x`. -/
def peekSpace : ReadM (Option Char) := do
  let s ← get
  if !s.ignoreWhitespace then return s.text[s.pos + 1]?
  if s.text.size ≤ s.pos then return none
  return peekPastSpace s.text s.pos

/-- Moves to a position. -/
def moveTo (pos : Nat) : ReadM Unit := modify fun s => { s with pos := pos }

/-- The current position. -/
def position : ReadM Nat := do return (← get).pos

/-- Reads the digits of a count, with the white space around them. -/
def decimal : ReadM Nat := do
  let s ← get
  set { s with pos := skipWhite s.text s.pos }
  let ds ← digits s.text.size
  modify fun s => { s with pos := skipWhiteAndComments s.text s.pos s.ignoreWhitespace }
  if ds.isEmpty then refuse
  let n := digitsValue 10 ds
  if wordLimit < n then refuse
  return n
where
  /-- The position after white space. -/
  skipWhite (text : Array Char) (pos : Nat) : Nat :=
    if h : pos < text.size then
      if isWhiteSpace text[pos] then skipWhite text (pos + 1) else pos
    else pos
  termination_by text.size - pos
  /-- The position after white space, and comments under `x`. -/
  skipWhiteAndComments (text : Array Char) (pos : Nat) (x : Bool) : Nat :=
    if h : pos < text.size then
      if isWhiteSpace text[pos] then
        let next := if x then skipSpace text (pos + 1) else pos + 1
        if _ : pos < next then skipWhiteAndComments text next x else pos
      else pos
    else pos
  termination_by text.size - pos
  decreasing_by omega
  /-- Reads decimal digits, skipping white space under `x` after each. -/
  digits : Nat → ReadM (List Nat)
    | 0 => return []
    | fuel + 1 => do
      match ← current with
      | some c =>
        if '0' ≤ c && c ≤ '9' then
          let _ ← bumpAndSpace
          return (c.toNat - 48) :: (← digits fuel)
        else return []
      | none => return []

/-- Reads the hexadecimal digits of an escape of fixed width. -/
def hexFixed (width : Nat) (byteEscape : Bool) : ReadM Literal := do
  let ds ← go width true
  let _ ← bumpAndSpace
  match charOf (digitsValue 16 ds) with
  | some c => return { c, byteEscape }
  | none => refuse
where
  /-- Reads `n` digits, moving between them. -/
  go : Nat → Bool → ReadM (List Nat)
    | 0, _ => return []
    | n + 1, first => do
      if !first then
        if !(← bumpAndSpace) then refuse
      match (← current).bind hexDigitValue with
      | some d => return d :: (← go n false)
      | none => refuse

/-- Reads the hexadecimal digits of `{…}` after `\x`, `\u` or `\U`. -/
def hexBrace : ReadM Literal := do
  let ds ← go (← get).text.size
  if ← isEof then refuse
  let _ ← bumpAndSpace
  if ds.isEmpty then refuse
  let n := digitsValue 16 ds
  if wordLimit < n then refuse
  match charOf n with
  | some c => return { c }
  | none => refuse
where
  /-- Reads digits up to the closing brace. -/
  go : Nat → ReadM (List Nat)
    | 0 => return []
    | fuel + 1 => do
      if !(← bumpAndSpace) then return []
      if ← at? '}' then return []
      match (← current).bind hexDigitValue with
      | some d => return d :: (← go fuel)
      | none => refuse

/-- Reads a hexadecimal escape, the current character being `x`, `u` or `U`. -/
def hexEscape : ReadM Literal := do
  let kind ← current
  if !(← bumpAndSpace) then refuse
  if ← at? '{' then hexBrace
  else
    match kind with
    | some 'x' => hexFixed 2 true
    | some 'u' => hexFixed 4 false
    | _ => hexFixed 8 false

/-- Reads a Unicode class after `\p` or `\P`, the current character being
`p` or `P`. -/
def unicodeClass : ReadM UnicodeClass := do
  let negated ← at? 'P'
  if !(← bumpAndSpace) then refuse
  if ← at? '{' then
    let name ← collect (← get).text.size
    if ← isEof then refuse
    let _ ← bump
    return { negated, query := queryOf name }
  else
    match ← current with
    | some '\\' => refuse
    | some c =>
      let _ ← bumpAndSpace
      return { negated, query := .oneLetter c }
    | none => refuse
where
  /-- Collects the characters up to the closing brace. -/
  collect : Nat → ReadM (List Char)
    | 0 => return []
    | fuel + 1 => do
      if !(← bumpAndSpace) then return []
      match ← current with
      | some '}' => return []
      | some c => return c :: (← collect fuel)
      | none => return []
  /-- The query of the text in braces: split at the first `!=`, or else at the
  first `:` or `=`. -/
  queryOf (name : List Char) : PropertyQuery :=
    match splitNotEqual name with
    | some (n, v) => .withValue (String.ofList n) (String.ofList v) true
    | none =>
      match splitAt name with
      | some (n, v) => .withValue (String.ofList n) (String.ofList v) false
      | none => .named (String.ofList name)
  /-- The parts before and after the first `!=`. -/
  splitNotEqual : List Char → Option (List Char × List Char)
    | '!' :: '=' :: rest => some ([], rest)
    | c :: rest => (splitNotEqual rest).map fun (n, v) => (c :: n, v)
    | [] => none
  /-- The parts before and after the first `:` or `=`. -/
  splitAt : List Char → Option (List Char × List Char)
    | c :: rest =>
      if c == ':' || c == '=' then some ([], rest) else (splitAt rest).map fun (n, v) => (c :: n, v)
    | [] => none

/-- Tries to read `{start}`, `{end}`, `{start-half}` or `{end-half}` after
`\b`; when the brace is not followed by a letter or `-`, nothing is read and
the brace is left to a count. -/
def specialWordBoundary : ReadM (Option AssertionKind) := do
  let start ← position
  if !(← bumpAndSpace) then refuse
  let valid := fun (c : Char) => ('a' ≤ c && c ≤ 'z') || ('A' ≤ c && c ≤ 'Z') || c == '-'
  match ← current with
  | some c =>
    if !valid c then
      moveTo start
      return none
  | none => refuse
  let word ← collect valid (← get).text.size
  if !(← at? '}') then refuse
  let _ ← bump
  match String.ofList word with
  | "start" => return some .wordStart
  | "end" => return some .wordEnd
  | "start-half" => return some .wordStartHalf
  | "end-half" => return some .wordEndHalf
  | _ => refuse
where
  /-- Collects the characters of the word. -/
  collect (valid : Char → Bool) : Nat → ReadM (List Char)
    | 0 => return []
    | fuel + 1 => do
      match ← current with
      | some c =>
        if valid c then
          let _ ← bumpAndSpace
          return c :: (← collect valid fuel)
        else return []
      | none => return []

/-- Reads an escape, the current character being `\`. -/
def escape : ReadM Piece := do
  if !(← bump) then refuse
  let some c ← current | refuse
  if '0' ≤ c && c ≤ '9' then refuse
  if c == 'x' || c == 'u' || c == 'U' then return .literal (← hexEscape)
  if c == 'p' || c == 'P' then return .unicode (← unicodeClass)
  if "dswDSW".toList.contains c then
    let _ ← bump
    let kind := if c == 'd' || c == 'D' then PerlKind.digit
      else if c == 's' || c == 'S' then .space else .word
    return .perl kind (c == 'D' || c == 'S' || c == 'W')
  let _ ← bump
  if isEscapable c then return .literal { c }
  match c with
  | 'a' => return .literal { c := '\x07' }
  | 'f' => return .literal { c := '\x0c' }
  | 't' => return .literal { c := '\t' }
  | 'n' => return .literal { c := '\n' }
  | 'r' => return .literal { c := '\r' }
  | 'v' => return .literal { c := '\x0b' }
  | 'A' => return .assertion .startText
  | 'z' => return .assertion .endText
  | 'b' =>
    if ← at? '{' then
      match ← specialWordBoundary with
      | some kind => return .assertion kind
      | none => return .assertion .wordBoundary
    else return .assertion .wordBoundary
  | 'B' => return .assertion .notWordBoundary
  | '<' => return .assertion .wordStart
  | '>' => return .assertion .wordEnd
  | _ => refuse

/-- Reads a piece outside brackets. -/
def primitive : ReadM Piece := do
  match ← current with
  | some '\\' => escape
  | some '.' =>
    let _ ← bump
    return .dot
  | some '^' =>
    let _ ← bump
    return .assertion .startLine
  | some '$' =>
    let _ ← bump
    return .assertion .endLine
  | some c =>
    let _ ← bump
    return .literal { c }
  | none => refuse

/-- Reads a flag letter. -/
def flagLetter (c : Char) : Option Flag :=
  match c with
  | 'i' => some .caseInsensitive
  | 'm' => some .multiLine
  | 's' => some .dotMatchesNewLine
  | 'U' => some .swapGreed
  | 'u' => some .unicode
  | 'R' => some .crlf
  | 'x' => some .ignoreWhitespace
  | _ => none

/-- Reads the flags of a group up to `:` or `)`, skipping white space between
them under `x`; a repeated flag, a second `-` and a `-` with no flag after it
are refused. -/
def flags : ReadM (List FlagItem) := do
  let items ← go [] false (← get).text.size
  return items.reverse
where
  /-- Reads flags after `items` (last first); `dangling` tells whether the
  last one read was `-`. -/
  go (items : List FlagItem) (dangling : Bool) : Nat → ReadM (List FlagItem)
    | 0 => refuse
    | fuel + 1 => do
      match ← current with
      | some ':' | some ')' => if dangling then refuse else return items
      | some '-' =>
        if items.contains .negation then refuse
        if !(← bumpAndSpace) then refuse
        go (.negation :: items) true fuel
      | some c =>
        let some f := flagLetter c | refuse
        if items.contains (.flag f) then refuse
        if !(← bumpAndSpace) then refuse
        go (.flag f :: items) false fuel
      | none => refuse

/-- Takes the next capture index. -/
def nextCapture : ReadM Nat := do
  let s ← get
  set { s with captures := s.captures + 1 }
  return s.captures + 1

/-- Reads a capture name up to `>`, and records it. -/
def captureName : ReadM String := do
  if ← isEof then refuse
  let name ← go true (← get).text.size
  if ← isEof then refuse
  let _ ← bump
  if name.isEmpty then refuse
  let s ← get
  let text := String.ofList name
  if s.names.contains text then refuse
  set { s with names := text :: s.names }
  return text
where
  /-- Collects name characters up to `>`. -/
  go (first : Bool) : Nat → ReadM (List Char)
    | 0 => return []
    | fuel + 1 => do
      match ← current with
      | some '>' => return []
      | some c =>
        if !isCaptureChar c first then refuse
        if !(← bump) then return [c]
        return c :: (← go false fuel)
      | none => return []

/-- What an opening parenthesis starts: flags for the rest of the group, or
a group. -/
inductive Opening where
  | setFlags (items : List FlagItem)
  | group (kind : GroupKind)

/-- Reads the opening of a group, the current character being `(`. -/
def groupOpening : ReadM Opening := do
  let _ ← bump
  bumpSpace
  if ← bumpIf ['?', '='] then refuse
  if ← bumpIf ['?', '!'] then refuse
  if ← bumpIf ['?', '<', '='] then refuse
  if ← bumpIf ['?', '<', '!'] then refuse
  let named ← do
    if ← bumpIf ['?', 'P', '<'] then pure true else bumpIf ['?', '<']
  if named then
    let index ← nextCapture
    let name ← captureName
    return .group (.capture index (some name))
  if ← bumpIf ['?'] then
    if ← isEof then refuse
    let items ← flags
    let closing ← at? ')'
    let _ ← bump
    if closing then
      if items.isEmpty then refuse
      return .setFlags items
    return .group (.nonCapturing items)
  let index ← nextCapture
  return .group (.capture index none)

/-- Opens a group at `(`, given the pieces read before it. -/
def pushGroup (concat : List Ast) : ReadM (List Ast) := do
  match ← groupOpening with
  | .setFlags items =>
    if let some v := flagState items .ignoreWhitespace then
      modify fun s => { s with ignoreWhitespace := v }
    return .flags items :: concat
  | .group kind =>
    let s ← get
    let inner := match kind with
      | .nonCapturing items => (flagState items .ignoreWhitespace).getD s.ignoreWhitespace
      | _ => s.ignoreWhitespace
    set { s with groups := .group concat kind s.ignoreWhitespace :: s.groups,
                 ignoreWhitespace := inner }
    return []

/-- Closes the innermost group at `)`, given the pieces of its last branch. -/
def popGroup (concat : List Ast) : ReadM (List Ast) := do
  let s ← get
  let (before, kind, ignore, branches, rest) ← match s.groups with
    | .group before kind ignore :: rest => pure (before, kind, ignore, none, rest)
    | .alternation bs :: .group before kind ignore :: rest =>
      pure (before, kind, ignore, some bs, rest)
    | _ => refuse
  set { s with groups := rest, ignoreWhitespace := ignore }
  let _ ← bump
  let sub := match branches with
    | some bs => alternationAst (concatAst concat :: bs)
    | none => concatAst concat
  return .group kind sub :: before

/-- Ends a branch at `|`. -/
def pushAlternate (concat : List Ast) : ReadM (List Ast) := do
  let s ← get
  let groups := match s.groups with
    | .alternation bs :: rest => .alternation (concatAst concat :: bs) :: rest
    | gs => .alternation [concatAst concat] :: gs
  set { s with groups }
  let _ ← bump
  return []

/-- The whole tree at the end of the text. -/
def popGroupEnd (concat : List Ast) : ReadM Ast := do
  match (← get).groups with
  | [] => return concatAst concat
  | [.alternation bs] => return .alternation (concatAst concat :: bs).reverse
  | _ => refuse

/-- Applies `?`, `*` or `+` to the last piece. -/
def uncountedRepetition (concat : List Ast) (kind : RepetitionKind) : ReadM (List Ast) := do
  match concat with
  | [] => refuse
  | .empty :: _ => refuse
  | .flags _ :: _ => refuse
  | sub :: before =>
    let greedy ← do
      if (← bump) && (← at? '?') then
        let _ ← bump
        pure false
      else pure true
    return .repetition kind greedy sub :: before

/-- Applies a count `{…}` to the last piece. -/
def countedRepetition (concat : List Ast) : ReadM (List Ast) := do
  match concat with
  | [] => refuse
  | .empty :: _ => refuse
  | .flags _ :: _ => refuse
  | sub :: before =>
    if !(← bumpAndSpace) then refuse
    let low ← decimal
    if ← isEof then refuse
    let kind ← do
      if ← at? ',' then
        if !(← bumpAndSpace) then refuse
        if ← at? '}' then pure (RepetitionKind.atLeast low)
        else pure (.bounded low (← decimal))
      else pure (.exactly low)
    if !(← at? '}') then refuse
    let greedy ← do
      if (← bumpAndSpace) && (← at? '?') then
        let _ ← bump
        pure false
      else pure true
    match kind with
    | .bounded m n => if n < m then refuse
    | _ => pure ()
    return .repetition kind greedy sub :: before

/-- Tries to read a POSIX class `[:name:]` or `[:^name:]`; when that fails
nothing is read. -/
def asciiClass : ReadM (Option ClassItem) := do
  let start ← position
  let back : ReadM (Option ClassItem) := do
    moveTo start
    return none
  if !(← bump) || !(← at? ':') then return ← back
  if !(← bump) then return ← back
  let negated ← at? '^'
  if negated then
    if !(← bump) then return ← back
  let name ← collect (← get).text.size
  if ← isEof then return ← back
  if !(← bumpIf [':', ']']) then return ← back
  match AsciiKind.ofName (String.ofList name) with
  | some kind => return some (.ascii kind negated)
  | none => back
where
  /-- Collects the characters up to `:`. -/
  collect : Nat → ReadM (List Char)
    | 0 => return []
    | fuel + 1 => do
      match ← current with
      | some ':' => return []
      | some c =>
        if ← bump then return c :: (← collect fuel) else return [c]
      | none => return []

/-- Reads the start of a bracket, the current character being `[`: the `^`,
and the leading `-` and `]` that stand for themselves. -/
def bracketOpening : ReadM (Bool × List ClassItem) := do
  if !(← bumpAndSpace) then refuse
  let negated ← at? '^'
  if negated then
    if !(← bumpAndSpace) then refuse
  let dashes ← leadingDashes (← get).text.size
  let items := dashes.map fun _ => ClassItem.literal { c := '-' }
  if items.isEmpty && (← at? ']') then
    if !(← bumpAndSpace) then refuse
    return (negated, [.literal { c := ']' }])
  return (negated, items.reverse)
where
  /-- Reads the leading dashes. -/
  leadingDashes : Nat → ReadM (List Unit)
    | 0 => return []
    | fuel + 1 => do
      if ← at? '-' then
        if !(← bumpAndSpace) then refuse
        return () :: (← leadingDashes fuel)
      else return []

/-- A piece inside brackets: an escape, or any other character as itself. -/
def classPiece : ReadM Piece := do
  if ← at? '\\' then escape
  else
    let some c ← current | refuse
    let _ ← bump
    return .literal { c }

/-- The class item of a piece inside brackets. -/
def pieceItem : Piece → Option ClassItem
  | .literal l => some (.literal l)
  | .perl k n => some (.perl k n)
  | .unicode u => some (.unicode u)
  | _ => none

/-- Reads a class item or a range `a-b`. -/
def classRange : ReadM ClassItem := do
  let first ← classPiece
  bumpSpace
  if ← isEof then refuse
  let after ← peekSpace
  if !(← at? '-') || after == some ']' || after == some '-' then
    match pieceItem first with
    | some i => return i
    | none => refuse
  if !(← bumpAndSpace) then refuse
  let second ← classPiece
  match first, second with
  | .literal lo, .literal hi => if hi.c < lo.c then refuse else return .range lo hi
  | _, _ => refuse

/-- Combines a right side with the set operation open on the stack, if any. -/
def popClassOp (stack : List ClassFrame) (rhs : ClassSet) : List ClassFrame × ClassSet :=
  match stack with
  | .op kind lhs :: rest => (rest, .op kind lhs rhs)
  | _ => (stack, rhs)

/-- Reads a bracketed class, the current character being `[`: whether it is
negated, and its contents. -/
def bracketed : ReadM (Bool × ClassSet) := do
  let (negated, items) ← bracketOpening
  go [.bracket [] negated] items (← get).text.size
where
  /-- Reads class items after `union` (last first), `stack` holding the open
  brackets and operations, innermost first. -/
  go (stack : List ClassFrame) (union : List ClassItem) : Nat → ReadM (Bool × ClassSet)
    | 0 => refuse
    | fuel + 1 => do
      bumpSpace
      let some c ← current | refuse
      match c with
      | '[' =>
        if let some item ← asciiClass then
          go stack (item :: union) fuel
        else
          let (negated, items) ← bracketOpening
          go (.bracket union negated :: stack) items fuel
      | ']' =>
        let (stack, set) := popClassOp stack (.item (unionItem union))
        match stack with
        | .bracket before negated :: rest =>
          let _ ← bump
          if rest.isEmpty then return (negated, set)
          go rest (.bracketed negated set :: before) fuel
        | _ => refuse
      | _ =>
        let op : Option SetOp ← do
          let next ← peek
          if c == '&' && next == some '&' then pure (some .intersection)
          else if c == '-' && next == some '-' then pure (some .difference)
          else if c == '~' && next == some '~' then pure (some .symmetricDifference)
          else pure none
        match op with
        | some kind =>
          let _ ← bump
          let _ ← bump
          let (stack, lhs) := popClassOp stack (.item (unionItem union))
          go (.op kind lhs :: stack) [] fuel
        | none => go stack ((← classRange) :: union) fuel

/-- Reads the pieces of a pattern after `concat` (last first). -/
def pieces (concat : List Ast) : Nat → ReadM (List Ast)
  | 0 => refuse
  | fuel + 1 => do
    bumpSpace
    let some c ← current | return concat
    let next ← match c with
      | '(' => pushGroup concat
      | ')' => popGroup concat
      | '|' => pushAlternate concat
      | '[' => do
        let (negated, set) ← bracketed
        pure (.bracketed negated set :: concat)
      | '?' => uncountedRepetition concat .zeroOrOne
      | '*' => uncountedRepetition concat .zeroOrMore
      | '+' => uncountedRepetition concat .oneOrMore
      | '{' => countedRepetition concat
      | _ => do pure ((← primitive).toAst :: concat)
    pieces next fuel

end Read

/-- Reads a pattern, with the flag `x` given from outside; `none` when the
pattern is refused or nested deeper than `nestLimit`. -/
def Ast.parse (pattern : String) (ignoreWhitespace : Bool) : Option Ast := do
  let text := pattern.toList.toArray
  let start : ReadState := ⟨text, 0, ignoreWhitespace, 0, [], []⟩
  let (ast, _) ← (do
    let concat ← Read.pieces [] (text.size + 1)
    Read.popGroupEnd concat).run start
  if nestLimit < ast.depth then none else some ast

/-- Counts the capture groups of a pattern as the reader numbers them. -/
def Ast.captureNames : Ast → List (Nat × Option String)
  | .group (.capture i name) sub => (i, name) :: sub.captureNames
  | .group _ sub => sub.captureNames
  | .repetition _ _ sub => sub.captureNames
  | .alternation items => items.attach.flatMap fun ⟨a, _⟩ => a.captureNames
  | .concat items => items.attach.flatMap fun ⟨a, _⟩ => a.captureNames
  | _ => []

end Regex

end SparqlBag
