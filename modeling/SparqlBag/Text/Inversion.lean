/-!
# Inversion maps

A property of code points stored as the code points where its value changes:
an entry `(start, value)` gives the value from `start` up to the next entry's
start.  Code points below the first entry take the default value.

The Unicode tables are written as text: lines of lowercase hexadecimal starts,
each followed by its value for a map, or alone for a set, where the starts
alternate between entering and leaving the set.  The text is read once into an
array, and a lookup is a binary search.
-/

namespace SparqlBag

/-- A function on code points that changes value at the starts of its entries. -/
structure InversionMap (α : Type) where
  /-- The entries, by increasing start. -/
  entries : Array (Nat × α)
  /-- The value below the first start. -/
  default : α
  deriving Inhabited, Repr

namespace InversionMap

/-- The value of a lowercase hexadecimal digit. -/
def hexDigit (c : Char) : Nat := if c.isDigit then c.toNat - 48 else c.toNat - 87

/-- The number a lowercase hexadecimal text stands for. -/
def hexNumber (s : String) : Nat := s.foldl (fun n c => 16 * n + hexDigit c) 0

/-- The words of lines of text separated by spaces. -/
def words (lines : List String) : List String :=
  (lines.flatMap (·.splitOn " ")).filter (!·.isEmpty)

/-- Pairs a start with the word after it. -/
def pairs : List String → List (Nat × String)
  | start :: value :: rest => (hexNumber start, value) :: pairs rest
  | _ => []

/-- A map read from lines of starts and values. -/
def ofLines (lines : List String) (value : String → α) (default : α) : InversionMap α :=
  ⟨((pairs (words lines)).map fun (n, v) => (n, value v)).toArray, default⟩

/-- A set read from lines of starts, which alternately enter and leave it. -/
def ofBoundaries (lines : List String) : InversionMap Bool :=
  ⟨((words lines).zipIdx.map fun (w, i) => (hexNumber w, i % 2 == 0)).toArray, false⟩

/-- The position of the last entry whose start is at most `n`, within
`[lo, hi)`, where the start at `lo` is at most `n`. -/
def search (entries : Array (Nat × α)) (n : Nat) : Nat → Nat → Nat → Nat
  | 0, lo, _ => lo
  | fuel + 1, lo, hi =>
    if lo + 1 < hi then
      let mid := (lo + hi) / 2
      match entries[mid]? with
      | some (start, _) =>
        if start ≤ n then search entries n fuel mid hi else search entries n fuel lo mid
      | none => lo
    else lo

/-- The value at a code point. -/
def get (m : InversionMap α) (n : Nat) : α :=
  match m.entries[0]? with
  | some (first, _) =>
    if n < first then m.default
    else
      let i := search m.entries n (Nat.log2 m.entries.size + 1) 0 m.entries.size
      (m.entries[i]?.map (·.2)).getD m.default
  | none => m.default

/-- The spans of a list of entries: each entry's start, the code point before
the next entry's start (the last one reaches `U+10FFFF`), and its value. -/
def spans : List (Nat × α) → List (Nat × Nat × α)
  | [] => []
  | (s, v) :: rest =>
    let last := match rest with
      | (t, _) :: _ => t - 1
      | [] => 0x10FFFF
    (s, last, v) :: spans rest

/-- Joins ranges that touch: `(a, b)` and `(b + 1, c)` become `(a, c)`. -/
def joinTouching : List (Nat × Nat) → List (Nat × Nat)
  | [] => []
  | (a, b) :: rest =>
    match joinTouching rest with
    | (c, d) :: more => if b + 1 == c then (a, d) :: more else (a, b) :: (c, d) :: more
    | [] => [(a, b)]

/-- Ranges of characters: the parts of ranges of code points outside the
surrogates `U+D800` to `U+DFFF`, which are not characters. -/
def withoutSurrogates : List (Nat × Nat) → List (Nat × Nat)
  | [] => []
  | (a, b) :: rest =>
    let low := if a ≤ 0xD7FF then [(a, min b 0xD7FF)] else []
    let high := if 0xE000 ≤ b then [(max a 0xE000, b)] else []
    low ++ high ++ withoutSurrogates rest

/-- The ranges of characters whose value satisfies `p`, in increasing order,
as long as possible without crossing the surrogates. -/
def ranges (m : InversionMap α) (p : α → Bool) : List (Nat × Nat) :=
  let chosen := ((spans m.entries.toList).filter fun (a, b, v) => a ≤ b && p v).map
    fun (a, b, _) => (a, b)
  withoutSurrogates (joinTouching chosen)

end InversionMap

end SparqlBag
