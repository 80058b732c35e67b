import SparqlBag.Term.Basic

/-!
# The text of terms

Terms written the way SPARQL and N-Triples write them: `<iri>`, `_:label`,
quoted literals with `@lang` or `^^<datatype>`, and `?name` for variables.
A literal's lexical form escapes the quote, the backslash and the control
characters.
-/

namespace SparqlBag

/-- The escaped form of one character inside a quoted literal. -/
def quotedChar (c : Char) : String :=
  match c with
  | '\x08' => "\\b"
  | '\t' => "\\t"
  | '\n' => "\\n"
  | '\x0c' => "\\f"
  | '\r' => "\\r"
  | '"' => "\\\""
  | '\\' => "\\\\"
  | c =>
    if c.toNat < 0x20 || c.toNat == 0x7f then
      let hex := Nat.toDigits 16 c.toNat
      "\\u" ++ String.ofList ((List.replicate (4 - hex.length) '0' ++ hex).map Char.toUpper)
    else c.toString

/-- A text between double quotes, escaped. -/
def quoted (s : String) : String :=
  "\"" ++ String.join (s.toList.map quotedChar) ++ "\""

/-- The SPARQL text of a literal; `xsd:string` literals are written bare. -/
def Literal.toText : Literal → String
  | .simple v => quoted v
  | .tagged v lang => quoted v ++ "@" ++ lang
  | .typed v dt => quoted v ++ "^^<" ++ dt ++ ">"

/-- The SPARQL text of a term. -/
def Term.toText : Term → String
  | .iri i => "<" ++ i ++ ">"
  | .blank b => "_:" ++ b
  | .literal l => l.toText

/-- The SPARQL text of a term pattern. -/
def TermPattern.toText : TermPattern → String
  | .var v => "?" ++ v.name
  | .term t => t.toText

end SparqlBag
