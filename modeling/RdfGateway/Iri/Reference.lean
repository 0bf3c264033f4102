import RdfGateway.Iri.Address
import RdfGateway.Text.Lead

/-!
# IRI references

A reference is an absolute IRI or a text that becomes one against a base. It is divided into its
components, the characters of each component are checked, and it is resolved by the usual rules,
with this treatment of dot segments: they are removed from what a relative path adds to the path
of the base, never from the base's own path and never from a reference that brings a scheme or an
authority of its own.
-/

namespace RdfGateway.Iri

open RdfGateway.Text

/-- The components of a reference, without the marks between them. -/
structure Reference where
  scheme : Option (List Char)
  authority : Option (List Char)
  path : List Char
  query : Option (List Char)
  fragment : Option (List Char)
  deriving DecidableEq

namespace Reference

/-! ## Components -/

/-- The authority and the path of a reference without scheme, query and fragment. -/
def splitAuthority (text : List Char) : Option (List Char) × List Char :=
  match rest? ['/', '/'] text with
  | some rest => (some (rest.takeWhile (· != '/')), rest.dropWhile (· != '/'))
  | none => (none, text)

/-- The scheme and the rest. A text before the first colon that is no scheme belongs to the path. -/
def splitScheme (text : List Char) : Option (List Char) × List Char :=
  match cut ':' text with
  | (before, some rest) => if isScheme before then (some before, rest) else (none, text)
  | (_, none) => (none, text)

/-- The components of a text. -/
def ofText (text : List Char) : Reference :=
  let (scheme, rest) := splitScheme text
  let (before, fragment) := cut '#' rest
  let (hierarchy, query) := cut '?' before
  let (authority, path) := splitAuthority hierarchy
  { scheme, authority, path, query, fragment }

/-- A component behind its mark, nothing when it is absent. -/
def marked (mark : List Char) : Option (List Char) → List Char
  | some text => mark ++ text
  | none => []

/-- The text of the components. -/
def toText (reference : Reference) : List Char :=
  (match reference.scheme with
    | some scheme => scheme ++ [':']
    | none => []) ++
  marked ['/', '/'] reference.authority ++ reference.path ++ marked ['?'] reference.query ++
  marked ['#'] reference.fragment

/-! ## Characters -/

/-- A host name and an optional number. -/
def isNamedHost (text : List Char) : Bool :=
  match cut ':' text with
  | (host, number) => encodes isHostChar host && number.all (·.all Char.isDigit)

/-- An address in brackets and an optional number. -/
def isAddressHost (text : List Char) : Bool :=
  match rest? ['['] text with
  | none => false
  | some text =>
    match cut ']' text with
    | (address, some rest) =>
      (isLaterAddress (fun c => c == 'v' || c == 'V') isUserChar address || isIPv6 address) &&
        (match rest with
          | [] => true
          | c :: number => c == ':' && number.all Char.isDigit)
    | (_, none) => false

/-- A host and what may follow it. -/
def isHost (text : List Char) : Bool := isNamedHost text || isAddressHost text

/-- Optional user information, a host and an optional number. -/
def isAuthority (text : List Char) : Bool :=
  match cut '@' text with
  | (user, some host) => encodes isUserChar user && isHost host
  | (host, none) => isHost host

/-- A path that stands at the start of a reference has no colon in its first segment. -/
def startsRelative (path : List Char) : Bool :=
  !(path.takeWhile (· != '/')).contains ':'

/-- Every component has only characters of its class. -/
def wellFormed (reference : Reference) : Bool :=
  reference.authority.all isAuthority && encodes isPathChar reference.path &&
    reference.query.all (encodes isQueryChar) && reference.fragment.all (encodes isFragmentChar) &&
    (reference.scheme.isSome || reference.authority.isSome || startsRelative reference.path)

/-! ## Dot segments -/

/-- A path written backwards, cut back to just after its last slash. -/
def parent (rooted : Bool) (path : List Char) : List Char :=
  match path.dropWhile (· != '/') with
  | [] => if rooted then ['/'] else []
  | path => path

/-- A path written backwards whose last segment has ended: a dot segment takes effect and is gone,
and the slash that ended it is not written. -/
def endSegment (rooted : Bool) : List Char → List Char × Bool
  | '.' :: '.' :: '/' :: path => (parent rooted path, true)
  | ['.', '.'] => ([], true)
  | '.' :: '/' :: path => ('/' :: path, true)
  | ['.'] => ([], true)
  | path => (path, false)

/-- A path written backwards, continued by the characters of a reference. -/
def continued (rooted : Bool) (path : List Char) : List Char → List Char
  | [] => (endSegment rooted path).1
  | '/' :: text =>
    let (path, dotted) := endSegment rooted path
    continued rooted (if dotted then path else '/' :: path) text
  | c :: text => continued rooted (c :: path) text

/-- The path of a reference, taken from the path of the base. -/
def mergedPath (base : Reference) (path : List Char) : List Char :=
  let rooted := base.authority.isSome
  match path with
  | '/' :: rest => (continued rooted ['/'] rest).reverse
  | path =>
    let start := base.path.reverse.dropWhile (· != '/')
    let start := if base.path.isEmpty && rooted then ['/'] else start
    (continued rooted start path).reverse

/-! ## Resolution -/

/-- The reference made absolute by a base. -/
def against (base reference : Reference) : Reference :=
  if reference.scheme.isSome then reference
  else if reference.authority.isSome then { reference with scheme := base.scheme }
  else if reference.path.isEmpty then
    { base with
      query := if reference.query.isSome then reference.query else base.query
      fragment := reference.fragment }
  else
    { base with
      path := mergedPath base reference.path
      query := reference.query
      fragment := reference.fragment }

/-- A path that starts with two slashes would be read as an authority. -/
def readsBack (reference : Reference) : Bool :=
  reference.authority.isSome || (rest? ['/', '/'] reference.path).isNone

end Reference

/-- The text is an absolute reference. -/
def isAbsoluteReference (text : List Char) : Bool :=
  (Reference.ofText text).wellFormed && (Reference.ofText text).scheme.isSome

/-- The IRI that a reference stands for: itself when it has a scheme, otherwise what it is against
the base. There is none when the reference is not well-formed, or relative without a base. -/
def resolve? (base : Option Reference) (text : List Char) : Option Reference :=
  let reference := Reference.ofText text
  if !reference.wellFormed then none
  else
    match base with
    | none => if reference.scheme.isSome then some reference else none
    | some base =>
      let result := base.against reference
      if result.readsBack then some result else none

end RdfGateway.Iri
