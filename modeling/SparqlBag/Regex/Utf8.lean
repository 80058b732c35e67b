/-!
# Regular expressions: UTF-8 byte ranges

An automaton that reads bytes matches a range of characters by the byte
sequences of their UTF-8 encodings.  A range of characters splits into a few
sequences of byte ranges, each sequence matching exactly the encodings of a
part of the range.

The splitting goes left to right over a stack of pending ranges.  A range is
cut around the surrogates, then where the encoding length changes (after
`U+007F`, `U+07FF` and `U+FFFF`); an ASCII range is one byte range; any
other range is cut until the characters in it agree on all but the last
`k` continuation bytes and fill them completely, for `k` from 1 to 3.  The
encodings of its two ends then give the byte ranges, position by position.
-/

namespace SparqlBag

namespace Regex

namespace Utf8

/-- The bytes of the UTF-8 encoding of a code point. -/
def encode (n : Nat) : List Nat :=
  if n < 0x80 then [n]
  else if n < 0x800 then [0xC0 + n / 64, 0x80 + n % 64]
  else if n < 0x10000 then [0xE0 + n / 4096, 0x80 + n / 64 % 64, 0x80 + n % 64]
  else [0xF0 + n / 262144, 0x80 + n / 4096 % 64, 0x80 + n / 64 % 64, 0x80 + n % 64]

/-- The largest code point encoded in `k` bytes. -/
def maxWithBytes : Nat → Nat
  | 1 => 0x7F
  | 2 => 0x7FF
  | 3 => 0xFFFF
  | _ => 0x10FFFF

/-- What to do with a pending range: cut it in two and go on with the first
part, drop it, or emit a sequence of byte ranges. -/
inductive Cut where
  | split (first second : Nat × Nat)
  | drop
  | emit (seq : List (Nat × Nat))

/-- A cut where the characters of a range stop agreeing on their leading
bytes, with `k` continuation bytes left: at the end of the first full block,
or before the last full block. -/
def blockCut (s e : Nat) : Nat → Option Cut
  | 0 => none
  | k + 1 =>
    match blockCut s e k with
    | some c => some c
    | none =>
      let size := 64 ^ (k + 1)
      if s / size != e / size then
        if s % size != 0 then some (.split (s, s - s % size + size - 1) (s - s % size + size, e))
        else if e % size != size - 1 then some (.split (s, e - e % size - 1) (e - e % size, e))
        else none
      else none

/-- The next step for a pending range. -/
def cut (r : Nat × Nat) : Cut :=
  let (s, e) := r
  if s < 0xE000 && 0xD7FF < e then .split (s, 0xD7FF) (0xE000, e)
  else if e < s then .drop
  else
    match [1, 2, 3].find? (fun k => s ≤ maxWithBytes k && maxWithBytes k < e) with
    | some k => .split (s, maxWithBytes k) (maxWithBytes k + 1, e)
    | none =>
      if e ≤ 0x7F then .emit [(s, e)]
      else
        match blockCut s e 3 with
        | some c => c
        | none => .emit ((encode s).zip (encode e))

/-- The sequences of the pending ranges, the first one on top. -/
def sequencesOf : Nat → List (Nat × Nat) → List (List (Nat × Nat))
  | 0, _ => []
  | _, [] => []
  | fuel + 1, r :: rest =>
    match cut r with
    | .split first second => sequencesOf fuel (first :: second :: rest)
    | .drop => sequencesOf fuel rest
    | .emit seq => seq :: sequencesOf fuel rest

/-- The byte range sequences that together match the UTF-8 encodings of the
characters from `lo` to `hi`, in increasing order. -/
def sequences (lo hi : Nat) : List (List (Nat × Nat)) := sequencesOf 256 [(lo, hi)]

end Utf8

end Regex

end SparqlBag
