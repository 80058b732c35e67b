import SparqlBag.Regex.Program
import SparqlBag.Text.Property

/-!
# Regular expressions: searching

A program runs on a text by backtracking: steps are followed depth first,
alternatives in order, and the leftmost start position with a match wins.  A pair
of a step and a position is explored at most once per search, which bounds a
search by steps times positions.  Successive matches for replacing start where the
previous one ended, skipping an empty match right there.  In a replacement `$$` is
a dollar, `$name` and `${name}` the text of a group by number or by name, empty
when the group did not take part or does not exist; any other `$` is itself.
-/

namespace SparqlBag

namespace Regex

/-- Whether a character is an ASCII word character. -/
def isAsciiWord (c : Char) : Bool := c.toNat < 0x80 && (c.isAlphanum || c == '_')

/-- Whether the character at a position satisfies a test; `false` past the
end. -/
def charAt (text : Array Char) (i : Nat) (p : Char → Bool) : Bool :=
  match text[i]? with
  | some c => p c
  | none => false

/-- Whether the character before a position satisfies a test. -/
def charBefore (text : Array Char) (pos : Nat) (p : Char → Bool) : Bool :=
  0 < pos && charAt text (pos - 1) p

/-- Whether an assertion holds at a position. -/
def Look.holds (text : Array Char) (pos : Nat) : Look → Bool
  | .start => pos == 0
  | .finish => pos == text.size
  | .startLF => pos == 0 || text[pos - 1]? == some '\n'
  | .endLF => pos == text.size || text[pos]? == some '\n'
  | .startCRLF =>
    pos == 0 || text[pos - 1]? == some '\n' ||
      (text[pos - 1]? == some '\r' && text[pos]? != some '\n')
  | .endCRLF =>
    pos == text.size || text[pos]? == some '\r' ||
      (text[pos]? == some '\n' && (pos == 0 || text[pos - 1]? != some '\r'))
  | .wordAscii => charBefore text pos isAsciiWord != charAt text pos isAsciiWord
  | .wordAsciiNegate => charBefore text pos isAsciiWord == charAt text pos isAsciiWord
  | .wordUnicode =>
    charBefore text pos UnicodeProperty.isWordChar != charAt text pos UnicodeProperty.isWordChar
  | .wordUnicodeNegate =>
    charBefore text pos UnicodeProperty.isWordChar == charAt text pos UnicodeProperty.isWordChar
  | .wordStartAscii => !charBefore text pos isAsciiWord && charAt text pos isAsciiWord
  | .wordEndAscii => charBefore text pos isAsciiWord && !charAt text pos isAsciiWord
  | .wordStartUnicode =>
    !charBefore text pos UnicodeProperty.isWordChar && charAt text pos UnicodeProperty.isWordChar
  | .wordEndUnicode =>
    charBefore text pos UnicodeProperty.isWordChar && !charAt text pos UnicodeProperty.isWordChar
  | .wordStartHalfAscii => !charBefore text pos isAsciiWord
  | .wordEndHalfAscii => !charAt text pos isAsciiWord
  | .wordStartHalfUnicode => !charBefore text pos UnicodeProperty.isWordChar
  | .wordEndHalfUnicode => !charAt text pos UnicodeProperty.isWordChar

/-- The capture slots of a match: slots `2 i` and `2 i + 1` hold where group
`i` starts and ends. -/
abbrev Slots := Array (Option Nat)

/-- A task of the backtracking search: explore a step at a position, or put
back a capture slot when backing out. -/
inductive Task where
  | explore (step pos : Nat)
  | restore (slot : Nat) (old : Option Nat)

/-- The outcome of a run of the search: the slots of a match, if one was
found, and the pairs explored so far. -/
structure Outcome where
  found : Option Slots
  visited : ByteArray

/-- Runs the tasks; `width` is the number of positions, and a pair of a step
and a position is explored only if `visited` does not mark it yet. -/
def Program.run (p : Program) (text : Array Char) (width : Nat) :
    Nat → List Task → ByteArray → Slots → Outcome
  | 0, _, visited, _ => ⟨none, visited⟩
  | _, [], visited, _ => ⟨none, visited⟩
  | fuel + 1, .restore slot old :: rest, visited, slots =>
    p.run text width fuel rest visited (slots.set! slot old)
  | fuel + 1, .explore sid pos :: rest, visited, slots =>
    let key := sid * width + pos
    if visited.get! key != 0 then p.run text width fuel rest visited slots
    else
      let visited := visited.set! key 1
      match p.steps[sid]? with
      | some (.char c next) =>
        if text[pos]? == some c then p.run text width fuel (.explore next (pos + 1) :: rest) visited slots
        else p.run text width fuel rest visited slots
      | some (.set ranges next) =>
        if charAt text pos (fun c => CharSet.containsIn ranges c.toNat) then
          p.run text width fuel (.explore next (pos + 1) :: rest) visited slots
        else p.run text width fuel rest visited slots
      | some (.look l next) =>
        if l.holds text pos then p.run text width fuel (.explore next pos :: rest) visited slots
        else p.run text width fuel rest visited slots
      | some (.split alts _) =>
        p.run text width fuel (alts.map (Task.explore · pos) ++ rest) visited slots
      | some (.save slot next) =>
        let old := (slots[slot]?).join
        p.run text width fuel (.explore next pos :: .restore slot old :: rest) visited
          (slots.set! slot (some pos))
      | some (.goto next) => p.run text width fuel (.explore next pos :: rest) visited slots
      | some .done => ⟨some slots, visited⟩
      | none => p.run text width fuel rest visited slots

/-- A bound on the tasks of a whole search: every explored pair adds at most
its ways out and one restoring task. -/
def Program.taskBound (p : Program) (width : Nat) : Nat :=
  (p.steps.foldl (fun n s => n + s.degree + 2) 0) * width + 2

/-- Tries the start positions from `pos` on, in order. -/
def Program.searchFrom (p : Program) (text : Array Char) (width bound : Nat) :
    Nat → Nat → ByteArray → Option Slots
  | 0, _, _ => none
  | tries + 1, pos, visited =>
    if text.size < pos then none
    else
      let out := p.run text width bound [.explore p.start pos] visited
        (Array.replicate p.slots none)
      match out.found with
      | some slots => some slots
      | none => p.searchFrom text width bound tries (pos + 1) out.visited

/-- The leftmost match that starts at `start` or later. -/
def Program.find (p : Program) (text : Array Char) (start : Nat) : Option Slots :=
  let width := text.size + 1
  p.searchFrom text width (p.taskBound width) (width + 1) start
    (ByteArray.mk (Array.replicate (p.steps.size * width) 0))

/-- The span of the whole match. -/
def Slots.span (s : Slots) : Nat × Nat :=
  ((s[0]?).join.getD 0, (s[1]?).join.getD 0)

/-- The span of a group, if it took part in the match. -/
def Slots.group (s : Slots) (i : Nat) : Option (Nat × Nat) := do
  let a ← (s[2 * i]?).join
  let b ← (s[2 * i + 1]?).join
  pure (a, b)

/-- The successive matches from `start`; `lastEnd` is where the previous match
ended. -/
def Program.matchesFrom (p : Program) (text : Array Char) :
    (fuel : Nat) → (start : Nat) → (lastEnd : Option Nat) → List Slots
  | 0, _, _ => []
  | fuel + 1, start, lastEnd =>
    if text.size < start then []
    else
      match p.find text start with
      | none => []
      | some found =>
        let (s, e) := found.span
        if s == e && lastEnd == some e then
          match p.find text (start + 1) with
          | none => []
          | some again =>
            let e := again.span.2
            again :: p.matchesFrom text fuel e (some e)
        else found :: p.matchesFrom text fuel e (some e)

/-- The characters of a text between two positions. -/
def slice (text : Array Char) (s e : Nat) : String :=
  String.ofList ((text.toList.drop s).take (e - s))

/-- Whether a character may belong to a group reference without braces. -/
def isRefChar (c : Char) : Bool := isAsciiWord c

/-- The number a group reference names: decimal digits, in braces maybe after
a `+`. -/
def refNumber (name : List Char) (braced : Bool) : Option Nat :=
  let digits := if braced && name.head? == some '+' then name.drop 1 else name
  if !digits.isEmpty && digits.all Char.isDigit then
    some (digits.foldl (fun n c => 10 * n + (c.toNat - 48)) 0)
  else none

/-- The text a group reference stands for. -/
def groupText (names : List (String × Nat)) (text : Array Char) (slots : Slots)
    (name : List Char) (braced : Bool) : String :=
  let index := (refNumber name braced).orElse fun _ => names.lookup (String.ofList name)
  match index.bind slots.group with
  | some (s, e) => slice text s e
  | none => ""

/-- Expands a replacement for one match; every step consumes a character, so
`fuel` at least the length of the replacement suffices. -/
def expandWith (names : List (String × Nat)) (text : Array Char) (slots : Slots) :
    Nat → List Char → String
  | 0, _ => ""
  | _ + 1, [] => ""
  | fuel + 1, '$' :: '$' :: rest => "$" ++ expandWith names text slots fuel rest
  | fuel + 1, '$' :: '{' :: rest =>
    let name := rest.takeWhile (· != '}')
    match rest.drop name.length with
    | '}' :: after =>
      groupText names text slots name true ++ expandWith names text slots fuel after
    | _ => "$" ++ expandWith names text slots fuel ('{' :: rest)
  | fuel + 1, '$' :: rest =>
    let name := rest.takeWhile isRefChar
    if name.isEmpty then "$" ++ expandWith names text slots fuel rest
    else
      groupText names text slots name false ++
        expandWith names text slots fuel (rest.drop name.length)
  | fuel + 1, c :: rest => c.toString ++ expandWith names text slots fuel rest

/-- Replaces every match of a program in a text, expanding the replacement
for each. -/
def Program.replaceAll (p : Program) (names : List (String × Nat)) (input replacement : String) :
    String :=
  let text := input.toList.toArray
  let found := p.matchesFrom text (2 * text.size + 4) 0 none
  let repl := replacement.toList
  let (out, last) := found.foldl (fun (acc : String × Nat) slots =>
    let (s, e) := slots.span
    (acc.1 ++ slice text acc.2 s ++ expandWith names text slots (repl.length + 1) repl, e))
    ("", 0)
  out ++ slice text last text.size

end Regex

end SparqlBag
