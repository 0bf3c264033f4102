import RdfGateway.Proofs.FilterContainment
import RdfGateway.Proofs.LiteralTerminals

/-!
# The grammar of an update

The productions of SPARQL Update over the units of a text. A unit is a text over characters, an IRI,
a label, a keyword, a mark, or a literal or a filter as a whole, and units are divided by breaks
alone (`Divided`). Whether a unit is an IRI, a label or a literal is for the languages of the
terminals to say; before a break each of these is read as it stands (`Terminal.reads_iff`). A filter
is read as a whole because it stays inside its parentheses.

Two rules for blank nodes belong to the grammar although no production can state them: what is
deleted has no blank nodes (`Allowed`), and no label stands in two scopes (`AreApart`). The scopes
are the data of each insertion, and each basic graph pattern, that is the units of a pattern between
two braces.

The grammar is less than the whole of SPARQL in what may be written shorter: IRIs stand in full, a
subject is written again for each statement, keywords are in capitals and strings in double quotes,
and there are no comments. Subjects are those of RDF, so that they are no literals. `expressions`
stands for the expressions of SPARQL that have no pattern inside. That SPARQL resolves escapes of
code points before it reads a text is left out.

* `Grammar.Update`: the units are those of an update, with its scopes.
* `IsUpdate`: the text is divided into the units of an update whose scopes are apart.
-/

namespace RdfGateway.Sparql

/-- The texts that a text is made of. -/
abbrev Units := List (List Char)

/-- The text consists of the units, with breaks before, between and after them. Between two units
there is at least one. -/
inductive Divided : List Char → Units → Prop where
  | nil : Divided [] []
  | space {c : Char} {text : List Char} {units : Units} (hc : isBreak c = true)
      (h : Divided text units) : Divided (c :: text) units
  | unit {unit text : List Char} {units : Units} (hbreaks : Breaks text) (h : Divided text units) :
      Divided (unit ++ text) (unit :: units)

namespace Grammar

/-! ## Terms -/

/-- Whether variables and blank nodes may stand in the statements of a clause. -/
structure Allowed where
  vars : Bool
  blanks : Bool

/-- The texts of the language, when they are allowed. -/
def only (allowed : Bool) (language : Language Char) : Language Char :=
  if allowed then language else 0

section
variable (allowed : Allowed)

/-- `VarOrIri`. -/
def varOrIri : Language Char :=
  Terminal.iriRef.language + only allowed.vars (Terminal.var1.language + Terminal.var2.language)

def subject : Language Char :=
  varOrIri allowed + only allowed.blanks Terminal.blankNodeLabel.language

/-- `VarOrTerm`. -/
def object : Language Char := subject allowed + rdfLiteral

end

/-! ## Units -/

def openingBrace : List Char := "\x7b".toList

def closingBrace : List Char := "\x7d".toList

def braces (units : Units) : Units := openingBrace :: (units ++ [closingBrace])

def isBrace (unit : List Char) : Bool := unit == openingBrace || unit == closingBrace

/-- The production, or nothing. -/
inductive Maybe (production : Units → Prop) : Units → Prop where
  | absent : Maybe production []
  | present {units : Units} (h : production units) : Maybe production units

/-- The production, as often as it comes. -/
inductive Many (production : Units → Prop) : Units → Prop where
  | nil : Many production []
  | cons {first rest : Units} (hfirst : production first) (hrest : Many production rest) :
      Many production (first ++ rest)

/-! ## Statements -/

section
variable (allowed : Allowed)

/-- `TriplesSameSubject`, with one predicate and one object. -/
inductive SameSubject : Units → Prop where
  | statement {first second third : List Char} (hsubject : first ∈ subject allowed)
      (hpredicate : second ∈ varOrIri allowed) (hobject : third ∈ object allowed) :
      SameSubject [first, second, third]

/-- `TriplesTemplate` and `TriplesBlock`: a dot between statements, and perhaps after the last. -/
inductive Statements : Units → Prop where
  | last {units : Units} (h : SameSubject allowed units) : Statements units
  | dotted {units : Units} (h : SameSubject allowed units) : Statements (units ++ [".".toList])
  | more {units rest : Units} (h : SameSubject allowed units) (hrest : Statements rest) :
      Statements (units ++ ".".toList :: rest)

/-- `Quads` and `GroupGraphPatternSub`: statements and other parts, perhaps a dot after a part. -/
inductive Content (others : Units → Prop) : Units → Prop where
  | end {units : Units} (h : Maybe (Statements allowed) units) : Content others units
  | next {units part mark rest : Units} (h : Maybe (Statements allowed) units)
      (hpart : others part) (hmark : Maybe (· = [".".toList]) mark) (hrest : Content others rest) :
      Content others (units ++ (part ++ (mark ++ rest)))

/-- `QuadsNotTriples`. -/
inductive GraphQuads : Units → Prop where
  | graph {name : List Char} {units : Units} (hname : name ∈ varOrIri allowed)
      (h : Maybe (Statements allowed) units) :
      GraphQuads ("GRAPH".toList :: name :: braces units)

/-- `QuadData` and `QuadPattern`. -/
inductive Quads : Units → Prop where
  | braces {units : Units} (h : Content allowed (GraphQuads allowed) units) : Quads (braces units)

end

/-! ## Patterns -/

section
variable (expressions : Language Char)

/-- The text of a filter. -/
def filter (expression : String) : List Char := "FILTER(".toList ++ (expression.toList ++ [')'])

/-- `GraphPatternNotTriples`, with a group for each `GroupGraphPattern`. -/
inductive PatternPart : Units → Prop where
  | group {units : Units} (h : Content ⟨true, true⟩ PatternPart units) : PatternPart (braces units)
  | optional {units : Units} (h : Content ⟨true, true⟩ PatternPart units) :
      PatternPart ("OPTIONAL".toList :: braces units)
  | graph {name : List Char} {units : Units} (hname : name ∈ varOrIri ⟨true, true⟩)
      (h : Content ⟨true, true⟩ PatternPart units) :
      PatternPart ("GRAPH".toList :: name :: braces units)
  | filter {expression : String} (h : expression.toList ∈ expressions)
      (hinside : Filter.StaysInside expression) : PatternPart [filter expression]

end

/-! ## Operations -/

/-- `DeleteClause` and `InsertClause`. -/
inductive Template (keyword : String) (allowed : Allowed) : Units → Prop where
  | quads {units : Units} (h : Quads allowed units) :
      Template keyword allowed (keyword.toList :: units)

/-- `DeleteClause InsertClause? | InsertClause`. -/
inductive Templates : Units → Prop where
  | delete {units rest : Units} (h : Template "DELETE" ⟨true, false⟩ units)
      (hrest : Maybe (Template "INSERT" ⟨true, true⟩) rest) : Templates (units ++ rest)
  | insert {units : Units} (h : Template "INSERT" ⟨true, true⟩ units) : Templates units

inductive With : Units → Prop where
  | iri {text : List Char} (h : text ∈ Terminal.iriRef.language) : With ["WITH".toList, text]

/-- `UsingClause`. -/
inductive Using : Units → Prop where
  | iri {text : List Char} (h : text ∈ Terminal.iriRef.language) : Using ["USING".toList, text]
  | named {text : List Char} (h : text ∈ Terminal.iriRef.language) :
      Using ["USING".toList, "NAMED".toList, text]

/-- `BaseDecl` and `PrefixDecl`. -/
inductive Declaration : Units → Prop where
  | base {text : List Char} (h : text ∈ Terminal.iriRef.language) : Declaration ["BASE".toList, text]
  | named {label text : List Char} (hlabel : label ∈ Terminal.pnameNs.language)
      (h : text ∈ Terminal.iriRef.language) : Declaration ["PREFIX".toList, label, text]

section
variable (expressions : Language Char)

/-- `InsertData`, `DeleteData`, `DeleteWhere` and `Modify`, with the data that is inserted and with
the basic graph patterns. -/
inductive Update1 : Units → List Units → List Units → Prop where
  | insertData {units : Units} (h : Quads ⟨false, true⟩ units) :
      Update1 ("INSERT".toList :: "DATA".toList :: units) [units] []
  | deleteData {units : Units} (h : Quads ⟨false, false⟩ units) :
      Update1 ("DELETE".toList :: "DATA".toList :: units) [] []
  | deleteWhere {units : Units} (h : Quads ⟨true, false⟩ units) :
      Update1 ("DELETE".toList :: "WHERE".toList :: units) [] []
  | modify {graph templates graphs pattern : Units} (hgraph : Maybe With graph)
      (htemplates : Templates templates) (hgraphs : Many Using graphs)
      (hpattern : Content ⟨true, true⟩ (PatternPart expressions) pattern) :
      Update1 (graph ++ (templates ++ (graphs ++ "WHERE".toList :: braces pattern))) []
        (pattern.splitOnP isBrace)

/-- `Update`: each operation behind a prologue of its own. -/
inductive Update : Units → List Units → List Units → Prop where
  | prologue {units : Units} (h : Many Declaration units) : Update units [] []
  | operation {units operation : Units} {data patterns : List Units} (h : Many Declaration units)
      (hoperation : Update1 expressions operation data patterns) :
      Update (units ++ operation) data patterns
  | sequence {units operation rest : Units} {data patterns laterData laterPatterns : List Units}
      (h : Many Declaration units) (hoperation : Update1 expressions operation data patterns)
      (hrest : Update rest laterData laterPatterns) :
      Update (units ++ (operation ++ ";".toList :: rest)) (data ++ laterData)
        (patterns ++ laterPatterns)

end

/-! ## Contents -/

namespace Content

variable {allowed : Allowed} {others : Units → Prop} {units rest : Units}

theorem nil : Content allowed others [] := .end .absent

/-- A statement with its dot in front of statements. -/
theorem maybe_statements (h : SameSubject allowed units)
    (hrest : Maybe (Statements allowed) rest) :
    Maybe (Statements allowed) (units ++ ".".toList :: rest) := by
  cases hrest with
  | absent => exact .present (.dotted h)
  | present hrest => exact .present (.more h hrest)

/-- A statement with its dot may stand in front of a content. -/
theorem statement (h : SameSubject allowed units) (hrest : Content allowed others rest) :
    Content allowed others (units ++ ".".toList :: rest) := by
  cases hrest with
  | «end» hrest => exact .end (maybe_statements h hrest)
  | next hstatements hpart hmark hrest =>
    have hnext := next (maybe_statements h hstatements) hpart hmark hrest
    rwa [List.append_assoc, List.cons_append] at hnext

/-- Another part may stand in front of a content. -/
theorem other (h : others units) (hrest : Content allowed others rest) :
    Content allowed others (units ++ rest) := by
  have hnext := next .absent h .absent hrest
  rwa [List.nil_append, List.nil_append] at hnext

end Content

end Grammar

/-! ## Updates -/

/-- No label of a blank node stands in two of the scopes. -/
def AreApart (scopes : List Units) : Prop :=
  scopes.Pairwise fun scope other =>
    ∀ unit ∈ scope, unit ∈ Terminal.blankNodeLabel.language → unit ∉ other

/-- **The text is an update**, whatever the expressions are. -/
def IsUpdate (expressions : Language Char) (text : List Char) : Prop :=
  ∃ units data patterns, Divided text units ∧ Grammar.Update expressions units data patterns ∧
    AreApart data ∧ AreApart patterns

end RdfGateway.Sparql
