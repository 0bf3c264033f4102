import RdfGateway.Iri.Address
import RdfGateway.Text.Lead

/-!
# Absolute IRIs

`isAbsolute` is the grammar that every IRI of a statement or of an update has to satisfy: a scheme
and a colon, then a path or an authority with an address in brackets, then an optional query and
an optional fragment. A host name needs no rule of its own, because `//` and whatever follows it
is also a path.
-/

namespace RdfGateway.Iri

open RdfGateway.Text

/-- Nothing, or a colon and digits. -/
def isOptionalNumber : List Char → Bool
  | [] => true
  | c :: text => c == ':' && text.all Char.isDigit

/-- Nothing, or user information and an at sign. -/
def isOptionalUser (text : List Char) : Bool :=
  match text.reverse with
  | [] => true
  | c :: user => c == '@' && encodes isUserChar user.reverse

/-- What follows `//` when the host is an address in brackets. -/
def isBracketHost (text : List Char) : Bool :=
  match cut '[' text with
  | (user, some host) =>
    match cut ']' host with
    | (address, some rest) =>
      let number := rest.takeWhile (· != '/')
      let path := rest.dropWhile (· != '/')
      isOptionalUser user && isBracketed address && isOptionalNumber number &&
        encodes isPathChar path
    | (_, none) => false
  | (_, none) => false

/-- What may stand between the scheme and the query. -/
def isHierarchy (text : List Char) : Bool :=
  encodes isPathChar text ||
    match rest? ['/', '/'] text with
    | some host => isBracketHost host
    | none => false

/-- What may follow the scheme and its colon. -/
def isSchemeSpecific (text : List Char) : Bool :=
  let (before, fragment) := cut '#' text
  let (hierarchy, query) := cut '?' before
  isHierarchy hierarchy && query.all (encodes isQueryChar) && fragment.all (encodes isFragmentChar)

/-- The characters form an absolute IRI. -/
def isAbsoluteText (text : List Char) : Bool :=
  match cut ':' text with
  | (scheme, some rest) => isScheme scheme && isSchemeSpecific rest
  | (_, none) => false

/-- The text is an absolute IRI. -/
def isAbsolute (iri : String) : Bool := isAbsoluteText iri.toList

end RdfGateway.Iri
