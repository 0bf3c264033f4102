/-!
# Terms and statements

An RDF term is an IRI, a blank node or a literal; inside the pattern of an update it may also be a
variable. A statement has a subject, a predicate and an object, each any term: which kinds belong
where is a question for the place the statement is used in.
-/

namespace RdfGateway

/-- A literal: its text, and the datatype IRI or language tag that goes with it. -/
structure Literal where
  lexical : String
  datatype : Option String
  language : Option String
  deriving DecidableEq, Inhabited

/-- A literal with neither datatype nor language tag. -/
def Literal.plain (lexical : String) : Literal := ⟨lexical, none, none⟩

/-- A literal with a datatype. -/
def Literal.typed (lexical datatype : String) : Literal := ⟨lexical, some datatype, none⟩

/-- A literal with a language tag. -/
def Literal.tagged (lexical language : String) : Literal := ⟨lexical, none, some language⟩

/-- A term of a statement or of an update pattern. -/
inductive Term where
  | iri (iri : String)
  | blank (label : String)
  | literal (literal : Literal)
  | variable (name : String)
  deriving DecidableEq, Inhabited

/-- The IRI, when the term is one. -/
def Term.asIri : Term → Option String
  | .iri text => some text
  | _ => none

/-- The term is an IRI. -/
def Term.isIri (term : Term) : Bool := term.asIri.isSome

/-- The term is a variable. -/
def Term.isVariable : Term → Bool
  | .variable _ => true
  | _ => false

/-- A statement. -/
structure Triple where
  subject : Term
  predicate : Term
  object : Term
  deriving DecidableEq, Inhabited

/-- The graph that a statement of an update belongs to. -/
inductive GraphName where
  | default
  | named (name : Term)
  deriving DecidableEq, Inhabited

/-- A statement and the graph it belongs to. -/
structure Quad where
  triple : Triple
  graph : GraphName
  deriving DecidableEq, Inhabited

end RdfGateway
