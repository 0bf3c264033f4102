import RdfGateway.Iri.Absolute
import RdfGateway.Rdf.Name
import RdfGateway.Sparql.Filter
import RdfGateway.Sparql.Update

/-!
# Faults

Every text that is written out as it stands is checked first: IRIs, labels, variable names,
language tags, prefix labels and filter expressions. A text that does not have its form is a fault,
and the first fault of a request is the one that is reported.
-/

namespace RdfGateway

open RdfGateway.Text

/-- A text that does not have the form that its place asks for. -/
inductive Fault where
  /-- The text is no absolute IRI. -/
  | iri (text : String)
  /-- The text is no language tag. -/
  | languageTag (text : String)
  /-- The text is no label or name; it is given with the mark of its kind. -/
  | name (text : String)
  /-- The expression does not stay inside its parentheses. -/
  | filter (text : String)
  deriving DecidableEq, Inhabited

/-- What is said of a fault. -/
def Fault.message : Fault → String
  | .iri text => "invalid URI: " ++ text
  | .languageTag text => "invalid language tag: " ++ text
  | .name text => "invalid name: " ++ text
  | .filter text => "invalid FILTER expression: " ++ text

/-- A fault unless the condition holds. -/
def faultUnless (holds : Bool) (fault : Fault) : Option Fault :=
  if holds then none else some fault

/-- The fault of a text in the place of an IRI. -/
def iriFault? (text : String) : Option Fault := faultUnless (Iri.isAbsolute text) (.iri text)

/-- The fault of a literal: its datatype is looked at before its language tag. -/
def Literal.fault? (literal : Literal) : Option Fault :=
  literal.datatype.bind iriFault? <|>
    literal.language.bind fun tag =>
      faultUnless (Name.isLanguageTag tag.toList) (.languageTag tag)

/-- The fault of a term. -/
def Term.fault? : Term → Option Fault
  | .iri text => iriFault? text
  | .blank label => faultUnless (Name.isBlankLabel label.toList) (.name ("_:" ++ label))
  | .variable name => faultUnless (Name.isVariableName name.toList) (.name ("?" ++ name))
  | .literal content => content.fault?

/-- The first fault of a statement. -/
def Triple.fault? (triple : Triple) : Option Fault :=
  triple.subject.fault? <|> triple.predicate.fault? <|> triple.object.fault?

/-- The fault of a graph name. -/
def GraphName.fault? : GraphName → Option Fault
  | .default => none
  | .named name => name.fault?

/-- The first fault of a prefix declaration. -/
def PrefixDecl.fault? (decl : PrefixDecl) : Option Fault :=
  faultUnless (Name.isPrefixLabel decl.label.toList) (.name (decl.label ++ ":")) <|>
    iriFault? decl.iri

/-- The first fault of a prologue. -/
def prologueFault? (base : Option String) (prefixes : List PrefixDecl) : Option Fault :=
  base.bind iriFault? <|> prefixes.findSome? PrefixDecl.fault?

/-- The fault of a filter expression. -/
def filterFault? (expression : String) : Option Fault :=
  faultUnless (Filter.isContained expression.toList) (.filter expression)

/-- A fault ends what is being done. -/
def Fault.check : Option Fault → Except Fault Unit
  | some fault => .error fault
  | none => .ok ()

end RdfGateway
