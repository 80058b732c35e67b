/-!
# IRIs

`Iri.parse` checks that a text is an absolute IRI (RFC 3987): scheme, optional
authority, path, optional query and fragment, each of the characters its part
allows.  `Iri.resolve` keeps a reference with a scheme or authority as written;
otherwise it builds the path from units, each a segment and its `/`, starting from
the base path up to its last `/` or from the root, where `.` adds nothing and `..`
removes the last unit.  Without an authority the reference is refused when the
path written after a segment starts with `//`, as is a relative path whose first
segment holds a `:`.
-/

namespace SparqlBag

namespace Iri

/-- ASCII letters. -/
def isAlpha (c : Char) : Bool := ('a' ≤ c && c ≤ 'z') || ('A' ≤ c && c ≤ 'Z')

/-- Hexadecimal digits. -/
def isHex (c : Char) : Bool := c.isDigit || ('a' ≤ c && c ≤ 'f') || ('A' ≤ c && c ≤ 'F')

/-- The characters of `ucschar`: outside ASCII, the private use areas and the
noncharacters, and in plane 14 only from `E1000`. -/
def isUcs (c : Char) : Bool :=
  let n := c.toNat
  (0xA0 ≤ n && n ≤ 0xD7FF) || (0xF900 ≤ n && n ≤ 0xFDCF) || (0xFDF0 ≤ n && n ≤ 0xFFEF) ||
  (0x10000 ≤ n && n ≤ 0xDFFFD && n % 0x10000 ≤ 0xFFFD) || (0xE1000 ≤ n && n ≤ 0xEFFFD)

/-- The characters of `iprivate`. -/
def isPrivate (c : Char) : Bool :=
  let n := c.toNat
  (0xE000 ≤ n && n ≤ 0xF8FF) || (0xF0000 ≤ n && n ≤ 0xFFFFD) || (0x100000 ≤ n && n ≤ 0x10FFFD)

/-- `iunreserved`. -/
def isUnreserved (c : Char) : Bool :=
  isAlpha c || c.isDigit || c == '-' || c == '.' || c == '_' || c == '~' || isUcs c

/-- `sub-delims`. -/
def isSubDelim (c : Char) : Bool := "!$&'()*+,;=".toList.contains c

/-- Checks a text against a class of characters, where `%` must start a
percent-encoded byte. -/
def validChars (allowed : Char → Bool) : List Char → Bool
  | [] => true
  | '%' :: a :: b :: rest => isHex a && isHex b && validChars allowed rest
  | '%' :: _ => false
  | c :: rest => allowed c && validChars allowed rest

/-- `ipchar` without percent encoding. -/
def isPathChar (c : Char) : Bool := isUnreserved c || isSubDelim c || c == ':' || c == '@'

/-- The parts of an IRI reference. -/
structure Parts where
  scheme : Option String
  authority : Option String
  path : String
  query : Option String
  fragment : Option String
  deriving Repr

/-- Splits at the first character satisfying `p`. -/
def splitAtFirst (p : Char → Bool) (cs : List Char) : List Char × List Char :=
  (cs.takeWhile (fun c => !p c), cs.dropWhile (fun c => !p c))

/-- Whether a text is a decimal octet: 0 to 255 without leading zeros. -/
def isDecOctet (cs : List Char) : Bool :=
  !cs.isEmpty && cs.length ≤ 3 && cs.all Char.isDigit && (cs.length == 1 || cs.head? != some '0') &&
    (cs.foldl (fun n c => 10 * n + (c.toNat - 48)) 0) ≤ 255

/-- Whether a text is a dotted IPv4 address. -/
def isIpv4 (cs : List Char) : Bool :=
  let parts := (String.ofList cs).splitOn "."
  parts.length == 4 && parts.all (isDecOctet ·.toList)

/-- Whether a text is a group of one to four hexadecimal digits. -/
def isH16 (g : String) : Bool := 0 < g.length && g.length ≤ 4 && g.all isHex

/-- The number of 16-bit pieces of groups separated by `:`, an IPv4 address
counting for two when `ipv4Last` allows it at the end; `none` if a group is
malformed. -/
def ipv6Pieces (groups : List String) (ipv4Last : Bool) : Option Nat :=
  match groups.reverse with
  | [] => some 0
  | last :: before =>
    if before.all isH16 then
      if isH16 last then some groups.length
      else if ipv4Last && isIpv4 last.toList then some (groups.length + 1)
      else none
    else none

/-- Whether a text is an IPv6 address: eight pieces, or fewer around one `::`
that stands for at least one. -/
def isIpv6 (cs : List Char) : Bool :=
  let text := String.ofList cs
  match text.splitOn "::" with
  | [whole] => ipv6Pieces (whole.splitOn ":") true == some 8
  | [head, tail] =>
    let headGroups := if head.isEmpty then [] else head.splitOn ":"
    let tailGroups := if tail.isEmpty then [] else tail.splitOn ":"
    match ipv6Pieces headGroups false, ipv6Pieces tailGroups true with
    | some h, some t => h + t ≤ 7
    | _, _ => false
  | _ => false

/-- Whether a text is an `IPvFuture` literal: `v`, hexadecimal digits, `.` and
unreserved, sub-delimiter or `:` characters. -/
def isIpvFuture : List Char → Bool
  | v :: rest =>
    let digits := rest.takeWhile isHex
    (v == 'v' || v == 'V') && !digits.isEmpty &&
      match rest.drop digits.length with
      | '.' :: tail => !tail.isEmpty && tail.all fun c =>
          (c.toNat < 0x80 && (isAlpha c || c.isDigit || "-._~".toList.contains c)) ||
            isSubDelim c || c == ':'
      | _ => false
  | [] => false

/-- Whether an authority is valid: user information, a host (a bracketed IP
literal or a registered name) and an optional `:` followed by digits. -/
def validAuthority (a : List Char) : Bool :=
  let (user, hostPort) :=
    if a.contains '@' then
      let rev := a.reverse
      let hp := (rev.takeWhile (· != '@')).reverse
      ((a.take (a.length - hp.length - 1)), hp)
    else ([], a)
  let userOk := validChars (fun c => isUnreserved c || isSubDelim c || c == ':') user
  match hostPort with
  | '[' :: rest =>
    let inner := rest.takeWhile (· != ']')
    let after := rest.dropWhile (· != ']')
    let innerOk := isIpv6 inner || isIpvFuture inner
    match after with
    | ']' :: tail => userOk && innerOk && (tail.isEmpty || (tail.head? == some ':' && (tail.drop 1).all Char.isDigit))
    | _ => false
  | _ =>
    let host := hostPort.takeWhile (· != ':')
    let tail := hostPort.dropWhile (· != ':')
    userOk && validChars (fun c => isUnreserved c || isSubDelim c) host &&
      (tail.isEmpty || (tail.drop 1).all Char.isDigit)

/-- Splits a reference into its parts and checks their characters. -/
def split (text : String) : Option Parts :=
  let cs := text.toList
  let (beforeFragment, fragmentPart) := splitAtFirst (· == '#') cs
  let fragment := match fragmentPart with | [] => none | _ :: f => some f
  let (beforeQuery, queryPart) := splitAtFirst (· == '?') beforeFragment
  let query := match queryPart with | [] => none | _ :: q => some q
  -- A scheme is letters, digits, `+`, `-`, `.` before the first `:`, starting with a letter.
  let schemeCandidate := beforeQuery.takeWhile (fun c => c != ':' && c != '/')
  let afterCandidate := beforeQuery.drop schemeCandidate.length
  let (scheme, hier) :=
    match schemeCandidate, afterCandidate with
    | c :: more, ':' :: rest =>
      if isAlpha c && more.all (fun d => isAlpha d || d.isDigit || d == '+' || d == '-' || d == '.')
      then (some schemeCandidate, rest) else (none, beforeQuery)
    | _, _ => (none, beforeQuery)
  let (authority, path) := match hier with
    | '/' :: '/' :: rest => (some (rest.takeWhile (· != '/')), rest.dropWhile (· != '/'))
    | _ => (none, hier)
  let schemeOk := match scheme, schemeCandidate, afterCandidate with
    | none, _ :: _, ':' :: _ => false
    | _, _, _ => true
  -- Without a scheme, the first segment of a relative path holds no `:`.
  let firstSegmentOk := scheme.isSome || authority.isSome ||
    !(path.takeWhile (· != '/')).contains ':'
  let ok := schemeOk && firstSegmentOk &&
    (authority.map validAuthority).getD true &&
    validChars (fun c => isPathChar c || c == '/') path &&
    (query.map (validChars (fun c => isPathChar c || isPrivate c || c == '/' || c == '?'))).getD true &&
    (fragment.map (validChars (fun c => isPathChar c || c == '/' || c == '?'))).getD true
  if ok then
    some ⟨scheme.map String.ofList, authority.map String.ofList, String.ofList path,
      query.map String.ofList, fragment.map String.ofList⟩
  else none

/-- The text of an absolute IRI, if it is one. -/
def parse (text : String) : Option String :=
  match split text with
  | some p => if p.scheme.isSome then some text else none
  | none => none

/-- Writes the parts of an IRI. -/
def Parts.toText (p : Parts) : String :=
  (p.scheme.map (· ++ ":")).getD "" ++ (p.authority.map ("//" ++ ·)).getD "" ++ p.path ++
    (p.query.map ("?" ++ ·)).getD "" ++ (p.fragment.map ("#" ++ ·)).getD ""

/-- Removes the last unit of a path given last unit first; with `keepRoot`,
the root `/` stays. -/
def popUnit (keepRoot : Bool) : List String → List String
  | [root] => if keepRoot then [root] else []
  | _ :: rest => rest
  | [] => []

/-- The path written by units given last unit first. -/
def written (units : List String) : String := String.join units.reverse

/-- Adds the segments of a reference path to units given last unit first:
each segment but the last is followed by `/`; `.` adds nothing and `..`
removes the last unit.  Without an authority (`keepRoot` false), the path
written once a segment is read, before the `/` after it, may not start with
`//`; `none` then. -/
def addSegments (keepRoot : Bool) (units : List String) : List String → Option (List String)
  | [] => some units
  | seg :: rest =>
    let now :=
      if seg == "." then units
      else if seg == ".." then popUnit keepRoot units
      else seg :: units
    if !keepRoot && (written now).startsWith "//" then none
    else if rest.isEmpty then some now
    else
      let units := if seg == "." || seg == ".." then now else (seg ++ "/") :: units
      addSegments keepRoot units rest

/-- The units of a base path up to its last `/`, last unit first. -/
def baseUnits (b : Parts) : List String :=
  if b.authority.isSome && b.path.isEmpty then ["/"]
  else
    match (b.path.splitOn "/").reverse with
    | _ :: kept => kept.map (· ++ "/")
    | [] => []

/-- The path of a reference resolved against a base, if it can be written. -/
def resolvedPath (b : Parts) (refPath : String) : Option String :=
  let keepRoot := b.authority.isSome
  let units :=
    if refPath.startsWith "/" then addSegments keepRoot ["/"] ((refPath.drop 1).toString.splitOn "/")
    else addSegments keepRoot (baseUnits b) (refPath.splitOn "/")
  units.map written

/-- Resolves a reference against an absolute base IRI. -/
def resolve (base : String) (ref : String) : Option String := do
  let b ← split base
  let r ← split ref
  if r.scheme.isSome then return ref
  if r.authority.isSome then return { r with scheme := b.scheme }.toText
  let target : Parts ←
    if r.path.isEmpty then
      pure { b with query := if r.query.isSome then r.query else b.query, fragment := r.fragment }
    else
      let path ← resolvedPath b r.path
      pure { b with path := path, query := r.query, fragment := r.fragment }
  if target.authority.isNone && target.path.startsWith "//" then none
  return target.toText

end Iri

end SparqlBag
