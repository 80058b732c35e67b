/-!
# Stable sorting

The stable sort that orders solutions, median values and compared terms.  When
the order is no strict weak order, the result depends on which pairs the sort
compares, and the sort may notice and refuse (`none`); both are observable, so
the algorithm is written out: insertion up to twenty elements; beyond, runs
(sorted stretches, or unsorted ones sorted later by quicksort) merged along the
powersort merge tree; a stable quicksort around a pseudo-median pivot; and a
small sort that merges two presorted halves from both ends, refusing where the
ends do not meet as a consistent order would make them.  The stages carry fuel,
far more than any input needs.  The elements' size in bytes decides the small
sort's network and the scratch buffer.
-/

namespace SparqlBag

namespace StableSort

/-- Inserts `x` into a sorted list given from its last element backwards,
moving it past the elements it is less than. -/
def insertBackwards {α : Type} (less : α → α → Bool) (x : α) : List α → List α
  | [] => [x]
  | y :: ys => if less x y then y :: insertBackwards less x ys else x :: y :: ys

/-- Inserts the elements of `rest`, one after another from the left, into the
sorted list `sorted`. -/
def insertAll {α : Type} (less : α → α → Bool) (sorted rest : List α) : List α :=
  (rest.foldl (fun backwards x => insertBackwards less x backwards) sorted.reverse).reverse

/-- Sorts by insertion from the left. -/
def insertionSort {α : Type} (less : α → α → Bool) (xs : List α) : List α := insertAll less [] xs

/-- A stretch of the input: its length, and whether it is sorted yet. -/
structure Run where
  len : Nat
  sorted : Bool

/-- The settings of one sort: the order, the length of the scratch buffer,
and whether the elements take at most sixteen bytes. -/
structure Config (α : Type) where
  less : α → α → Bool
  scratch : Nat
  smallElements : Bool

/-- The largest slice that the small sort handles. -/
def smallSortThreshold : Nat := 32

variable {α : Type} [Inhabited α]

/-- The element at a position, which callers keep in range. -/
def get (v : Array α) (i : Nat) : α := v.getD i default

/-- The elements of `[lo, lo + len)`. -/
def slice (v : Array α) (lo len : Nat) : List α := (v.extract lo (lo + len)).toList

/-- Writes `xs` over the elements from `lo` on. -/
def writeAt (v : Array α) (lo : Nat) (xs : List α) : Array α :=
  xs.zipIdx.foldl (fun v (x, i) => v.set! (lo + i) x) v

/-- Sorts four elements with five comparisons, stably. -/
def sort4 (less : α → α → Bool) (v : Array α) : List α :=
  let c1 := less (get v 1) (get v 0)
  let c2 := less (get v 3) (get v 2)
  let a := if c1 then get v 1 else get v 0
  let b := if c1 then get v 0 else get v 1
  let c := if c2 then get v 3 else get v 2
  let d := if c2 then get v 2 else get v 3
  let c3 := less c a
  let c4 := less d b
  let least := if c3 then c else a
  let greatest := if c4 then b else d
  let unknownLeft := if c3 then a else if c4 then c else b
  let unknownRight := if c4 then d else if c3 then b else c
  let c5 := less unknownRight unknownLeft
  [least, if c5 then unknownRight else unknownLeft, if c5 then unknownLeft else unknownRight,
    greatest]

/-- One step of the merge of two sorted halves from both ends: `left` and
`right` are the next elements from the front, `leftEnd` and `rightEnd` one
past the next elements from the back. -/
structure MergeState (α : Type) where
  left : Nat
  right : Nat
  leftEnd : Nat
  rightEnd : Nat
  out : Array α

namespace MergeState

/-- One step of the merge from both ends: position `k` takes the lesser of the
next front elements, position `src.size - 1 - k` the greater of the next back
elements. -/
def step (less : α → α → Bool) (src : Array α) (s : MergeState α) (k : Nat) : MergeState α :=
  let len := src.size
  let takeLeft := !less (get src s.right) (get src s.left)
  let out := s.out.set! k (if takeLeft then get src s.left else get src s.right)
  let (left, right) := if takeLeft then (s.left + 1, s.right) else (s.left, s.right + 1)
  let lastLeft := get src (s.leftEnd - 1)
  let lastRight := get src (s.rightEnd - 1)
  let takeRight := !less lastRight lastLeft
  let out := out.set! (len - 1 - k) (if takeRight then lastRight else lastLeft)
  let (leftEnd, rightEnd) :=
    if takeRight then (s.leftEnd, s.rightEnd - 1) else (s.leftEnd - 1, s.rightEnd)
  ⟨left, right, leftEnd, rightEnd, out⟩

/-- The middle position of an odd number of elements takes the next left
element while the left half lasts, else the next right one. -/
def middle (src : Array α) (s : MergeState α) : MergeState α :=
  if s.left < s.leftEnd then { s with out := s.out.set! (src.size / 2) (get src s.left), left := s.left + 1 }
  else { s with out := s.out.set! (src.size / 2) (get src s.right), right := s.right + 1 }

end MergeState

/-- Merges the two sorted halves of `src` (the first `src.size / 2` elements
and the rest) from the front and from the back at once, one element from each
side per step.  With a consistent order the two sides meet exactly; when they
do not, the order is inconsistent and the merge fails. -/
def bidirectionalMerge (less : α → α → Bool) (src : Array α) : Option (Array α) :=
  let half := src.size / 2
  let s := (List.range half).foldl (MergeState.step less src) ⟨0, half, half, src.size, src⟩
  let s := if src.size % 2 != 0 then s.middle src else s
  if s.left == s.leftEnd && s.right == s.rightEnd then some s.out else none

/-- Sorts eight elements: two sorts of four and a merge from both ends. -/
def sort8 (less : α → α → Bool) (v : Array α) : Option (List α) :=
  let firstHalf := sort4 less (v.extract 0 4)
  let secondHalf := sort4 less (v.extract 4 8)
  (bidirectionalMerge less (firstHalf ++ secondHalf).toArray).map (·.toList)

/-- The small sort of a slice of at least two elements: both halves are
presorted (eight elements each when the elements are small and the slice has
at least sixteen, four each from eight elements, otherwise one), completed by
insertion, and merged from both ends. -/
def smallSort (cfg : Config α) (v : Array α) : Option (Array α) := do
  let len := v.size
  let half := len / 2
  let (first, second, presorted) ←
    if cfg.smallElements && 16 ≤ len then do
      let first ← sort8 cfg.less (v.extract 0 8)
      let second ← sort8 cfg.less (v.extract half (half + 8))
      pure (first, second, 8)
    else if 8 ≤ len then
      pure (sort4 cfg.less (v.extract 0 4), sort4 cfg.less (v.extract half (half + 4)), 4)
    else pure ([get v 0], [get v half], 1)
  let first := insertAll cfg.less first (v.extract presorted half).toList
  let second := insertAll cfg.less second (v.extract (half + presorted) len).toList
  bidirectionalMerge cfg.less (first ++ second).toArray

/-- The small sort applied to `[lo, lo + len)`. -/
def smallSortAt (cfg : Config α) (v : Array α) (lo len : Nat) : Option (Array α) :=
  if len < 2 then some v
  else (smallSort cfg (v.extract lo (lo + len))).map (writeAt v lo ·.toList)

/-- The median of the elements at three positions of a slice. -/
def median3 (less : α → α → Bool) (v : Array α) (lo a b c : Nat) : Nat :=
  let x := less (get v (lo + a)) (get v (lo + b))
  let y := less (get v (lo + a)) (get v (lo + c))
  if x == y then
    let z := less (get v (lo + b)) (get v (lo + c))
    if z != x then c else b
  else a

/-- The pseudo-median of three regions of `n` elements starting at `a`, `b`
and `c`, each replaced by its own pseudo-median while regions hold at least
eight elements per sample. -/
def median3Rec (less : α → α → Bool) (v : Array α) (lo : Nat) : (fuel : Nat) → Nat → Nat → Nat → Nat → Nat
  | 0, a, b, c, _ => median3 less v lo a b c
  | fuel + 1, a, b, c, n =>
    if 64 ≤ n * 8 then
      let n8 := n / 8
      let a := median3Rec less v lo fuel a (a + n8 * 4) (a + n8 * 7) n8
      let b := median3Rec less v lo fuel b (b + n8 * 4) (b + n8 * 7) n8
      let c := median3Rec less v lo fuel c (c + n8 * 4) (c + n8 * 7) n8
      median3 less v lo a b c
    else median3 less v lo a b c

/-- The position of the pivot within a slice of at least eight elements: the
median of the elements at 0, 4/8 and 7/8 of the slice, or for 64 elements and
more the recursive pseudo-median of the regions there. -/
def choosePivot (less : α → α → Bool) (v : Array α) (lo len : Nat) : Nat :=
  let n := len / 8
  if len < 64 then median3 less v lo 0 (n * 4) (n * 7)
  else median3Rec less v lo len 0 (n * 4) (n * 7) n

/-- Partitions `[lo, lo + len)` stably: the elements for which `toLeft` holds
go first, the pivot at `pivot` goes left exactly when `pivotLeft`.  Returns
the new array and the number of elements that went left. -/
def stablePartition (v : Array α) (lo len pivot : Nat) (pivotLeft : Bool) (toLeft : α → Bool) :
    Array α × Nat :=
  let items := (slice v lo len).zipIdx
  let goesLeft := fun (x, i) => if i == pivot then pivotLeft else toLeft x
  let left := (items.filter goesLeft).map (·.1)
  let right := (items.filter (!goesLeft ·)).map (·.1)
  (writeAt v lo (left ++ right), left.length)

/-- The first partition of quicksort around the pivot at `p`: the elements
less than the pivot go left, unless the pivot is no greater than the pivot of
the nearest ancestor whose right side this is, and then nothing goes left. -/
def partitionBelow (cfg : Config α) (v : Array α) (lo len p : Nat) (ancestor : Option α) :
    Array α × Nat :=
  let pivot := get v (lo + p)
  let repeated := match ancestor with
    | some a => !cfg.less a pivot
    | none => false
  if repeated then (v, 0) else stablePartition v lo len p false (cfg.less · pivot)

/-- Finds the sorted run at the start of a list: ascending (non-descending),
or strictly descending; returns its length and whether it descends. -/
def existingRun (less : α → α → Bool) : List α → Nat × Bool
  | x0 :: x1 :: rest =>
    let descending := less x1 x0
    let rec count (prev : α) : List α → Nat
      | [] => 0
      | x :: xs => if less x prev == descending then count x xs + 1 else 0
    (count x1 rest + 2, descending)
  | xs => (xs.length, false)

/-- Merges two sorted lists from the front, taking the left element unless
the right one is less. -/
def mergeForward (less : α → α → Bool) : List α → List α → List α
  | [], ys => ys
  | xs, [] => xs
  | x :: xs, y :: ys =>
    if less y x then y :: mergeForward less (x :: xs) ys else x :: mergeForward less xs (y :: ys)
termination_by xs ys => xs.length + ys.length

/-- Merges two sorted lists from the back, given reversed, onto `acc`:
the last left element goes last when the last right element is less than it. -/
def mergeBackward (less : α → α → Bool) : List α → List α → List α → List α
  | [], ys, acc => ys.reverse ++ acc
  | xs, [], acc => xs.reverse ++ acc
  | x :: xs, y :: ys, acc =>
    if less y x then mergeBackward less xs (y :: ys) (x :: acc)
    else mergeBackward less (x :: xs) ys (y :: acc)
termination_by xs ys => xs.length + ys.length

/-- Merges the sorted runs `[lo, lo + mid)` and `[lo + mid, lo + len)`: from
the front when the left run is the shorter, from the back otherwise. -/
def mergeAt (less : α → α → Bool) (v : Array α) (lo len mid : Nat) : Array α :=
  if mid == 0 || len ≤ mid then v
  else
    let left := slice v lo mid
    let right := slice v (lo + mid) (len - mid)
    let merged :=
      if mid ≤ len - mid then mergeForward less left right
      else mergeBackward less left.reverse right.reverse []
    writeAt v lo merged

/-- The number of leading zeros of a 64-bit word. -/
def leadingZeros64 (n : Nat) : Nat := if n = 0 then 64 else 63 - Nat.log2 n

/-- The desired depth of the merge between the runs `[left, mid)` and
`[mid, right)`: the leading zeros of the difference of their midpoints scaled
to 62 bits. -/
def mergeTreeDepth (left mid right scale : Nat) : Nat :=
  let word := Nat.pow 2 64
  leadingZeros64 (((scale * (left + mid)) % word) ^^^ ((scale * (mid + right)) % word))

/-- An approximate square root: one Newton step from a power of two. -/
def sqrtApprox (n : Nat) : Nat :=
  let shift := (1 + Nat.log2 (n ||| 1)) / 2
  ((1 <<< shift) + (n >>> shift)) / 2

mutual

/-- Quicksort of `[lo, lo + len)` with `limit` unbalanced partitions left and
the pivot of the nearest ancestor whose right side this slice is. -/
def quicksort (cfg : Config α) : (fuel : Nat) → Array α → Nat → Nat → Nat → Option α → Option (Array α)
  | 0, _, _, _, _, _ => none
  | fuel + 1, v, lo, len, limit, ancestor =>
    if len ≤ smallSortThreshold then smallSortAt cfg v lo len
    else if limit == 0 then runSort cfg fuel v lo len true
    else
      let limit := limit - 1
      let p := choosePivot cfg.less v lo len
      let pivot := get v (lo + p)
      let (v, leftLen) := partitionBelow cfg v lo len p ancestor
      if leftLen == 0 then
        let (v, mid) := stablePartition v lo len p true (fun x => !cfg.less pivot x)
        quicksort cfg fuel v (lo + mid) (len - mid) limit none
      else do
        let v ← quicksort cfg fuel v (lo + leftLen) (len - leftLen) limit (some pivot)
        quicksort cfg fuel v lo leftLen limit ancestor

/-- Quicksort with a limit of twice the binary logarithm of the length. -/
def stableQuicksort (cfg : Config α) : (fuel : Nat) → Array α → Nat → Nat → Option (Array α)
  | 0, _, _, _ => none
  | fuel + 1, v, lo, len => quicksort cfg fuel v lo len (2 * Nat.log2 (len ||| 1)) none

/-- The next run at `lo`, with `len` elements left: an existing sorted run of
at least `minGood` elements, else a small-sorted run when `eager`, else an
unsorted one. -/
def createRun (cfg : Config α) : (fuel : Nat) → Array α → Nat → Nat → Nat → Bool → Option (Array α × Run)
  | 0, _, _, _, _, _ => none
  | fuel + 1, v, lo, len, minGood, eager =>
    let (runLen, descending) :=
      if minGood ≤ len then existingRun cfg.less (slice v lo len) else (0, false)
    if minGood ≤ len && minGood ≤ runLen then
      let v := if descending then writeAt v lo (slice v lo runLen).reverse else v
      some (v, ⟨runLen, true⟩)
    else if eager then
      let r := min smallSortThreshold len
      (quicksort cfg fuel v lo r 0 none).map (·, ⟨r, true⟩)
    else some (v, ⟨min minGood len, false⟩)

/-- Merges two neighbouring runs of `[lo, lo + len)`: lazily when both are
unsorted and fit in the scratch buffer, else by sorting the unsorted ones
and merging. -/
def logicalMerge (cfg : Config α) : (fuel : Nat) → Array α → Nat → Nat → Run → Run → Option (Array α × Run)
  | 0, _, _, _, _, _ => none
  | fuel + 1, v, lo, len, left, right =>
    if len ≤ cfg.scratch && !left.sorted && !right.sorted then some (v, ⟨len, false⟩)
    else do
      let v ← (if left.sorted then pure v else stableQuicksort cfg fuel v lo left.len)
      let v ← (if right.sorted then pure v else stableQuicksort cfg fuel v (lo + left.len) right.len)
      pure (mergeAt cfg.less v lo len left.len, ⟨len, true⟩)

/-- Merges the runs on the stack, the nearest first, into `prev` while their
desired depth is at least `depth`; the bottom entry stays. -/
def collapse (cfg : Config α) : (fuel : Nat) → Array α → Nat → Nat → Run → List (Run × Nat) → Nat →
    Option (Array α × Run × List (Run × Nat))
  | 0, _, _, _, _, _, _ => none
  | fuel + 1, v, lo, scan, prev, stack, depth =>
    match stack with
    | (left, d) :: below@(_ :: _) =>
      if depth ≤ d then do
        let merged := left.len + prev.len
        let (v, prev) ← logicalMerge cfg fuel v (lo + scan - merged) merged left prev
        collapse cfg fuel v lo scan prev below depth
      else some (v, prev, stack)
    | _ => some (v, prev, stack)

/-- The main loop of the run-merging sort of `[lo, lo + len)`, with `scan`
elements covered by the stack and `prev`. -/
def runLoop (cfg : Config α) : (fuel : Nat) → Array α → Nat → Nat → Nat → Nat → Bool → Nat → Run →
    List (Run × Nat) → Option (Array α)
  | 0, _, _, _, _, _, _, _, _, _ => none
  | fuel + 1, v, lo, len, scale, minGood, eager, scan, prev, stack => do
    let (v, next, depth) ← (
      if scan < len then do
        let (v, next) ← createRun cfg fuel v (lo + scan) (len - scan) minGood eager
        pure (v, next, mergeTreeDepth (scan - prev.len) scan (scan + next.len) scale)
      else pure (v, ⟨0, true⟩, 0))
    let (v, prev, stack) ← collapse cfg fuel v lo scan prev stack depth
    let stack := (prev, depth) :: stack
    if len ≤ scan then
      if prev.sorted then pure v else stableQuicksort cfg fuel v lo len
    else runLoop cfg fuel v lo len scale minGood eager (scan + next.len) next stack

/-- The run-merging sort of `[lo, lo + len)`. -/
def runSort (cfg : Config α) : (fuel : Nat) → Array α → Nat → Nat → Bool → Option (Array α)
  | 0, _, _, _, _ => none
  | fuel + 1, v, lo, len, eager =>
    if len < 2 then some v
    else
      let scale := (Nat.pow 2 62 + len - 1) / len
      let minGood := if len ≤ 64 * 64 then min (len - len / 2) 64 else sqrtApprox len
      runLoop cfg fuel v lo len scale minGood eager 0 ⟨0, true⟩ []

end

/-- The length of the scratch buffer for `len` elements of `bytes` bytes: a
stack buffer of 4096 bytes when it is large enough, else as many elements as
the sort needs. -/
def scratchLength (bytes len : Nat) : Nat :=
  let size := max bytes 1
  let needed := max (max (len - len / 2) (min len (8000000 / size))) 48
  let stack := 4096 / size
  if needed ≤ stack then stack else needed

/-- Sorts a list stably by `less`, for elements of `bytes` bytes; `none` when
the sort notices that the order is inconsistent (or runs out of fuel, which
no input reaches). -/
def sort (bytes : Nat) (less : α → α → Bool) (xs : List α) : Option (List α) :=
  let len := xs.length
  if len ≤ 20 then some (insertionSort less xs)
  else
    let cfg : Config α := ⟨less, scratchLength bytes len, bytes ≤ 16⟩
    let fuel := 16 * len * (Nat.log2 len + 2) + 256
    (runSort cfg fuel xs.toArray 0 len (len ≤ 2 * smallSortThreshold)).map (·.toList)

end StableSort

end SparqlBag
