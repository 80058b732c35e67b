import SparqlBag.Number.Binary

/-!
# The fewest digits that read back

`shortestDigits` picks, for a finite nonzero value of a binary format, the
decimal `c * 10 ^ k` with the fewest significant digits that rounds back to the
same value, and of two such the nearer one; an exact tie goes to the larger
magnitude in plain text and to the even last digit in JSON.  The search is over grids: for `n = 1, 2, …` the two neighbours of the
value on the grid of `n`-digit decimals are tested against the interval of
reals that round to the value.  The interval's ends belong to it exactly when
the significand is even, because a tie then rounds back to this value.

Layout is separate: `Layout.display` writes the digits positionally, the
plain text of a float, `Layout.json` as JSON numbers are written (positional
between `1e-5` and `1e16`, scientific outside).
-/

namespace SparqlBag

/-- Compares `a * 10 ^ k` with `b * 2 ^ s` exactly. -/
def compareScaled (a : Nat) (k : Int) (b : Nat) (s : Int) : Ordering :=
  let lhs := a * Nat.pow 10 (max k 0).toNat * Nat.pow 2 (max (-s) 0).toNat
  let rhs := b * Nat.pow 2 (max s 0).toNat * Nat.pow 10 (max (-k) 0).toNat
  compare lhs rhs

/-- `⌊b * 2 ^ s / 10 ^ k⌋`. -/
def floorScaled (b : Nat) (s k : Int) : Nat :=
  (b * Nat.pow 2 (max s 0).toNat * Nat.pow 10 (max (-k) 0).toNat) / (Nat.pow 2 (max (-s) 0).toNat * Nat.pow 10 (max k 0).toNat)

/-- The decimal exponent `e` with `10 ^ e ≤ b * 2 ^ s < 10 ^ (e + 1)`, for
`b > 0`, found from an estimate through the binary logarithm. -/
def decimalExponent (b : Nat) (s : Int) : Int :=
  let estimate : Int := (((b.log2 : Int) + s) * 30103) / 100000
  let e := if compareScaled 1 estimate b s == .gt then estimate - 1 else estimate
  let e := if compareScaled 1 e b s == .gt then e - 1 else e
  let e := if compareScaled 1 (e + 1) b s != .gt then e + 1 else e
  if compareScaled 1 (e + 1) b s != .gt then e + 1 else e

/-- Removes trailing zeros from `c * 10 ^ k`. -/
def stripZeros (c : Nat) (k : Int) : (fuel : Nat) → Nat × Int
  | 0 => (c, k)
  | fuel + 1 => if c != 0 && c % 10 == 0 then stripZeros (c / 10) (k + 1) fuel else (c, k)

/-- How an exact tie between two shortest decimals is broken. -/
inductive Tie where
  /-- The decimal of larger magnitude wins. -/
  | up
  /-- The decimal with an even last digit wins. -/
  | even
  deriving DecidableEq, Repr

/-- The shortest decimal `c * 10 ^ k` that rounds to `m * 2 ^ q` in the format
`f`, for `m > 0`, ties broken by `tie`.  Trailing zeros of `c` are removed. -/
def shortestDigits (f : BinaryFormat) (tie : Tie) (m : Nat) (q : Int) : Nat × Int :=
  -- The value and the ends of its rounding interval, in units of `2 ^ (q - 2)`.
  let s := q - 2
  let v := 4 * m
  let closerBelow := m == f.hiddenBit && q > f.minQuantum
  let low := if closerBelow then v - 1 else v - 2
  let high := v + 2
  let inclusive := m % 2 == 0
  let inside (c : Nat) (k : Int) : Bool :=
    let aboveLow := compareScaled c k low s
    let belowHigh := compareScaled c k high s
    (aboveLow == .gt || (inclusive && aboveLow == .eq)) &&
      (belowHigh == .lt || (inclusive && belowHigh == .eq))
  let e := decimalExponent v s
  let rec search : List Nat → Nat × Int
    | [] => (m, q)
    | n :: more =>
      let k := e - (n : Int) + 1
      let below := floorScaled v s k
      let inBelow := inside below k
      let inAbove := inside (below + 1) k
      if inBelow && inAbove then
        -- Twice the value against twice the midpoint of the two neighbours.
        match compareScaled (2 * below + 1) k (2 * v) s with
        | .gt => stripZeros below k 40
        | .lt => stripZeros (below + 1) k 40
        | .eq =>
          if tie == .even && below % 2 == 0 then stripZeros below k 40
          else stripZeros (below + 1) k 40
      else if inBelow then stripZeros below k 40
      else if inAbove then stripZeros (below + 1) k 40
      else search more
  search (List.range' 1 20)

namespace Layout

/-- Digits `ds` of the value `0.ds * 10 ^ point` written without exponent and
without a fractional part when there is none: the plain text of a float. -/
def display (ds : String) (point : Int) : String :=
  let len : Int := ds.length
  if point ≤ 0 then "0." ++ zeros (-point).toNat ++ ds
  else if point < len then
    String.ofList (ds.toList.take point.toNat) ++ "." ++ String.ofList (ds.toList.drop point.toNat)
  else ds ++ zeros (point - len).toNat

/-- Digits `ds` of the value `0.ds * 10 ^ point` written as a JSON number:
positional with at least one fractional digit when `-5 < point ≤ 16`, otherwise
one digit, a point if more digits follow, and an exponent. -/
def json (ds : String) (point : Int) : String :=
  let len : Int := ds.length
  let k := point - len
  if 0 ≤ k && point ≤ 16 then ds ++ zeros k.toNat ++ ".0"
  else if 0 < point && point ≤ 16 then
    String.ofList (ds.toList.take point.toNat) ++ "." ++ String.ofList (ds.toList.drop point.toNat)
  else if -5 < point && point ≤ 0 then "0." ++ zeros (-point).toNat ++ ds
  else if len == 1 then ds ++ "e" ++ toString (point - 1)
  else String.ofList (ds.toList.take 1) ++ "." ++ String.ofList (ds.toList.drop 1) ++ "e" ++ toString (point - 1)

end Layout

/-- The plain text of a float of format `f` with these bits:
`NaN`, `inf`, `-inf`, a signed `0`, or the shortest digits laid out
positionally. -/
def BinaryFormat.displayText (f : BinaryFormat) (bits : Nat) : String :=
  match f.decode bits with
  | .nan => "NaN"
  | .infinite negative => if negative then "-inf" else "inf"
  | .finite negative m q =>
    let sign := if negative then "-" else ""
    if m = 0 then sign ++ "0" else
    let (c, k) := shortestDigits f .up m q
    let ds := toString c
    sign ++ Layout.display ds (k + ds.length)

/-- The JSON text of a double with these bits; `none` for NaN and infinities,
which JSON cannot write. -/
def BinaryFormat.jsonText (f : BinaryFormat) (bits : Nat) : Option String :=
  match f.decode bits with
  | .finite negative m q =>
    let sign := if negative then "-" else ""
    if m = 0 then some (sign ++ "0.0") else
    let (c, k) := shortestDigits f .even m q
    let ds := toString c
    some (sign ++ Layout.json ds (k + ds.length))
  | _ => none

/-- The plain text of a double. -/
def Float.displayText (x : Float) : String :=
  BinaryFormat.binary64.displayText x.toBits.toNat

/-- The plain text of a single. -/
def Float32.displayText (x : Float32) : String :=
  BinaryFormat.binary32.displayText x.toBits.toNat

/-- The JSON text of a double, or `none` for NaN and infinities. -/
def Float.jsonText (x : Float) : Option String :=
  BinaryFormat.binary64.jsonText x.toBits.toNat

end SparqlBag
