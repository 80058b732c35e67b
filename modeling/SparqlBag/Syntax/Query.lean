import SparqlBag.Syntax.Grammar

/-!
# Queries

The four query forms with their prologue and dataset clauses, and the entry
point `parseQuery`.

`CONSTRUCT`, `ASK` and `DESCRIBE *` project nothing; `DESCRIBE` of IRIs binds
each IRI to a fresh variable and projects those.  The fuel of the descent is
twenty steps per character of the text, more than any nesting the text can
express needs.
-/

namespace SparqlBag

namespace Parser

/-- `BASE` and `PREFIX` declarations. -/
def prologue : Parser Unit := do
  let _ ← many ((do
    keyword "BASE"
    skip
    let i ← iriRef
    modify fun s => { s with base := some i }
    skip) <|> (do
    keyword "PREFIX"
    skip
    let ns ← pnameNs
    skip
    let i ← iriRef
    modify fun s => { s with prefixes := (ns, i) :: s.prefixes }
    skip))

/-- `FROM` and `FROM NAMED` clauses; `none` when there are none. -/
def datasetClauses : Parser (Option QueryDataset) := do
  let clauses ← many (do
    keyword "FROM"
    skip
    let c ← ((Sum.inl ∘ Term.iri) <$> iri) <|> (keyword "NAMED" *> skip *> ((Sum.inr ∘ Term.iri) <$> iri))
    skip
    pure c)
  if clauses.isEmpty then pure none
  else pure (some ⟨clauses.filterMap (fun c => match c with | .inl g => some g | .inr _ => none),
    some (clauses.filterMap (fun c => match c with | .inr g => some g | .inl _ => none))⟩)

/-- A `CONSTRUCT` template: triples without paths in braces. -/
def constructTemplate (n : Nat) : Parser (List TriplePattern) := do
  char '{'
  skip
  let ts ← opt (triplesBlock false n)
  skip
  char '}'
  pure ((ts.getD []).filterMap fun t => match t with
    | .triple t => some t
    | .path _ _ _ => none)

/-- A query of any form, after the prologue. -/
def queryForm (n : Nat) : Parser (QueryForm × Option QueryDataset × GraphPattern) :=
  (do
    let sel ← selectClause n
    skip
    let d ← datasetClauses
    skip
    let w ← whereClause n
    let mods ← modifiers n
    pure (.select, d, ← buildSelect sel w mods)) <|>
  (do
    keyword "CONSTRUCT"
    skip
    (do
      let template ← constructTemplate n
      skip
      let d ← datasetClauses
      skip
      let w ← whereClause n
      let mods ← modifiers n
      pure (.construct template, d, ← buildSelect ⟨.none, .everything⟩ w mods)) <|>
    (do
      let d ← datasetClauses
      skip
      keyword "WHERE"
      skip
      let template ← constructTemplate n
      let mods ← modifiers n
      pure (.construct template, d, ← buildSelect ⟨.none, .everything⟩ (.bgp template) mods))) <|>
  (do
    keyword "DESCRIBE"
    skip
    let projection ← (char '*' *> pure none) <|> (some <$> many1 (varOrIri <* skip))
    skip
    let d ← datasetClauses
    skip
    let w ← opt (whereClause n)
    let mods ← modifiers n
    let sel : Selection ← match projection with
      | none => pure ⟨.none, .everything⟩
      | some items => do
        let members ← items.mapM fun item => match item with
          | .var v => pure (SelectMember.var v)
          | .iri i => do pure (SelectMember.expr (.iri i) ⟨← freshName⟩)
        pure ⟨.none, .explicit members⟩
    pure (.describe, d, ← buildSelect sel (w.getD (.bgp [])) mods)) <|>
  (do
    keyword "ASK"
    skip
    let d ← datasetClauses
    skip
    let w ← whereClause n
    let mods ← modifiers n
    pure (.ask, d, ← buildSelect ⟨.none, .everything⟩ w mods))

/-- A whole query text. -/
def query (n : Nat) : Parser Query := do
  skip
  prologue
  skip
  let (form, dataset, pattern) ← queryForm n
  skip
  atEnd
  let s ← get
  pure ⟨form, dataset, pattern, s.base⟩

end Parser

/-- Parses a query; `fresh` numbers the first fresh label.  Returns the query
and the next free label number, or `none` for a syntax error. -/
def parseQueryFrom (text : String) (fresh : Nat) : Option (Query × Nat) :=
  let fuel := 20 * text.length + 100
  match (Parser.query fuel).run (Parser.start text fresh) with
  | some (q, s) => some (q, s.fresh)
  | none => none

/-- Parses a query, or `none` for a syntax error. -/
def parseQuery (text : String) : Option Query := (parseQueryFrom text 0).map (·.1)

end SparqlBag
