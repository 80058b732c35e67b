/-!
# Language tags

Whether a text is a well-formed language tag of BCP 47 (RFC 5646), in any case: a
grandfathered tag, a private-use tag, or subtags of one to eight letters or digits
separated by `-`: a primary language, up to three extended languages, a script of
four letters, a region of two letters or three digits, variants, extensions (a
singleton and at least one subtag) and private use (`x` and at least one subtag,
ending the tag).
-/

namespace SparqlBag

namespace LanguageTag

/-- The grandfathered tags, in lower case. -/
def grandfathered : List String := [
  "art-lojban", "cel-gaulish", "en-gb-oed", "i-ami", "i-bnn", "i-default", "i-enochian", "i-hak",
  "i-klingon", "i-lux", "i-mingo", "i-navajo", "i-pwn", "i-tao", "i-tay", "i-tsu", "no-bok",
  "no-nyn", "sgn-be-fr", "sgn-be-nl", "sgn-ch-de", "zh-guoyu", "zh-hakka", "zh-min", "zh-min-nan",
  "zh-xiang"]

/-- Whether a character is an ASCII letter. -/
def isLetter (c : Char) : Bool := ('a' ≤ c && c ≤ 'z') || ('A' ≤ c && c ≤ 'Z')

/-- Whether a character is an ASCII digit. -/
def isDigit (c : Char) : Bool := '0' ≤ c && c ≤ '9'

/-- Whether a character is an ASCII letter or digit. -/
def isAlphanumeric (c : Char) : Bool := isLetter c || isDigit c

/-- What the subtags read so far allow next. -/
inductive State where
  | start
  /-- After a primary language of two or three letters and `extlangs` extended languages. -/
  | afterLanguage (extlangs : Nat)
  /-- After a longer primary language, which takes no extended language. -/
  | afterExtlang
  | afterScript
  /-- After a region or a variant. -/
  | afterRegion
  /-- Within an extension; `expected` until its first subtag. -/
  | inExtension (expected : Bool)
  /-- Within private use; `expected` until its first subtag. -/
  | inPrivateUse (expected : Bool)

/-- Whether the state is still before the script. -/
def State.beforeScript : State → Bool
  | .afterLanguage _ | .afterExtlang => true
  | _ => false

/-- Whether the state is still before the region. -/
def State.beforeRegion : State → Bool
  | .afterLanguage _ | .afterExtlang | .afterScript => true
  | _ => false

/-- Whether the state is still before the extensions. -/
def State.beforeExtensions : State → Bool
  | .afterLanguage _ | .afterExtlang | .afterScript | .afterRegion => true
  | _ => false

/-- Whether an extension has been opened and has no subtag yet. -/
def State.awaitsExtension : State → Bool
  | .inExtension true => true
  | _ => false

/-- Reads one subtag, or fails. -/
def step (state : State) (sub : List Char) : Option State :=
  let n := sub.length
  let letters := sub.all isLetter
  let alnum := sub.all isAlphanumeric
  if n == 0 || n > 8 then none else
  match state with
  | .start =>
    if n < 2 || !letters then none
    else if n < 4 then some (.afterLanguage 0) else some .afterExtlang
  | .inPrivateUse _ => if alnum then some (.inPrivateUse false) else none
  | _ =>
    if sub == ['x'] || sub == ['X'] then
      if state.awaitsExtension then none else some (.inPrivateUse true)
    else if n == 1 && alnum then
      if state.awaitsExtension then none else some (.inExtension true)
    else match state with
      | .inExtension _ => if alnum then some (.inExtension false) else none
      | _ =>
        match state with
        | .afterLanguage k =>
          if n == 3 && letters then
            if k + 1 > 3 then none else some (.afterLanguage (k + 1))
          else rest state n letters alnum sub
        | _ => rest state n letters alnum sub
where
  /-- The script, region and variant subtags. -/
  rest (state : State) (n : Nat) (letters alnum : Bool) (sub : List Char) : Option State :=
    if state.beforeScript && n == 4 && letters then some .afterScript
    else if state.beforeRegion && ((n == 2 && letters) || (n == 3 && sub.all isDigit)) then
      some .afterRegion
    else if state.beforeExtensions && alnum &&
        ((n ≥ 5 && (sub.head?.any isLetter)) || (n ≥ 4 && (sub.head?.any isDigit))) then
      some .afterRegion
    else none

/-- Whether the subtags read leave a complete tag. -/
def State.complete : State → Bool
  | .start | .inExtension true | .inPrivateUse true => false
  | _ => true

/-- Reads subtags in order. -/
def run : State → List (List Char) → Option State
  | s, [] => some s
  | s, sub :: more => (step s sub).bind (run · more)

/-- Whether a text is a well-formed language tag, in any case. -/
def isWellFormed (tag : String) : Bool :=
  let lower := tag.toLower
  if grandfathered.contains lower then true
  else if lower.startsWith "x-" then
    match run (.inPrivateUse true) (((lower.drop 2).toString.splitOn "-").map String.toList) with
    | some s => s.complete
    | none => false
  else
    match run .start ((tag.splitOn "-").map String.toList) with
    | some s => s.complete
    | none => false

end LanguageTag

end SparqlBag
