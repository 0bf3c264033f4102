import RdfGateway.Iri.Reference
import RdfGateway.Rdf.LanguageTag
import RdfGateway.Rdf.Name
import RdfGateway.Rdf.Statement
import RdfGateway.Text.Hex

/-!
# The tokens of Turtle and N-Triples

Each function reads one token at the front of a document and gives what it stands for and the
document after it; there is no answer when no such token stands there. A byte that belongs to no
character ends every token without an answer.
-/

namespace RdfGateway

/-- The characters of a document, with none in the place of a byte that belongs to no character. -/
abbrev Document := List (Option Char)

namespace Token

open RdfGateway.Text

/-! ## Names -/

/-- The character lies outside ASCII. -/
def isForeign (c : Char) : Bool := 0x80 ≤ c.toNat

/-- A name goes on after a dot: a name character follows, or anything outside ASCII. -/
def goesOn : Document → Bool
  | [] => false
  | none :: _ => true
  | some c :: _ => Name.isNameChar c || isForeign c

/-- The later characters of a label. -/
def nameTail : Document → Option (List Char × Document)
  | [] => some ([], [])
  | none :: _ => none
  | some c :: rest =>
    if c = '.' then
      if goesOn rest then (fun (name, rest) => (c :: name, rest)) <$> nameTail rest
      else some ([], some c :: rest)
    else if Name.isNameChar c then (fun (name, rest) => (c :: name, rest)) <$> nameTail rest
    else if isForeign c then none
    else some ([], some c :: rest)

/-- A blank node label after its mark. -/
def blankLabel : Document → Option (String × Document)
  | some c :: rest =>
    if Name.isNameStart c then (fun (name, rest) => (.ofList (c :: name), rest)) <$> nameTail rest
    else none
  | _ => none

/-- A prefix label, which may be empty. -/
def prefixLabel : Document → Option (String × Document)
  | [] => some ("", [])
  | none :: _ => none
  | some c :: rest =>
    if Name.startsName c then (fun (name, rest) => (.ofList (c :: name), rest)) <$> nameTail rest
    else if isForeign c then none
    else some ("", some c :: rest)

/-- The characters that a backslash may stand before in a local name. -/
def isLocalEscape (c : Char) : Bool := "_~.-!$&'()*+,;=/?#@%".toList.contains c

/-- A local name goes on after its dots. -/
def localGoesOn (document : Document) : Bool :=
  match document.dropWhile (· == some '.') with
  | [] => false
  | none :: _ => true
  | some c :: _ => Name.isNameChar c || isForeign c || c == ':' || c == '%' || c == '\\'

/-- The characters of a local name; `first` tells that none has been read. Percent signs stay with
their digits, and escaped characters stand for themselves. -/
def localName (first : Bool) : Document → Option (List Char × Document)
  | [] => some ([], [])
  | none :: _ => none
  | some '%' :: some a :: some b :: rest =>
    if Iri.isHexDigit a && Iri.isHexDigit b then
      (fun (name, rest) => ('%' :: a :: b :: name, rest)) <$> localName false rest
    else none
  | some '\\' :: some c :: rest =>
    if isLocalEscape c then (fun (name, rest) => (c :: name, rest)) <$> localName false rest
    else none
  | some c :: rest =>
    if c = '%' || c = '\\' then none
    else if c = '.' && !first then
      if localGoesOn rest then (fun (name, rest) => (c :: name, rest)) <$> localName false rest
      else some ([], some c :: rest)
    else if c = ':' || Name.isNameStart c || (!first && Name.isNameChar c) then
      (fun (name, rest) => (c :: name, rest)) <$> localName false rest
    else if isForeign c then none
    else some ([], some c :: rest)

/-! ## IRIs and strings -/

/-- The character of an escape by number. -/
def escapedScalar? (digits : List Char) : Option Char := do scalar? (← hexNumber? digits)

/-- The characters between angle brackets, the first of which has been read. -/
def iriText : Document → Option (List Char × Document)
  | [] => none
  | some '\\' :: some 'u' :: some a :: some b :: some c :: some d :: rest => do
    let char ← escapedScalar? [a, b, c, d]
    let (text, rest) ← iriText rest
    return (char :: text, rest)
  | some '\\' :: some 'U' :: some a :: some b :: some c :: some d :: some e :: some f :: some g ::
      some h :: rest => do
    let char ← escapedScalar? [a, b, c, d, e, f, g, h]
    let (text, rest) ← iriText rest
    return (char :: text, rest)
  | some '>' :: rest => some ([], rest)
  | some c :: rest =>
    if c = '\\' then none else (fun (text, rest) => (c :: text, rest)) <$> iriText rest
  | none :: _ => none

/-- The character that a one-letter escape stands for. -/
def escaped? : Char → Option Char
  | 't' => some '\t'
  | 'b' => some '\x08'
  | 'n' => some '\n'
  | 'r' => some '\r'
  | 'f' => some '\x0c'
  | '"' => some '"'
  | '\'' => some '\''
  | '\\' => some '\\'
  | _ => none

/-- Where a string ends: at its quote, or at three of them. -/
inductive Quoting where
  | short (quote : Char)
  | long (quote : Char)
  deriving DecidableEq

/-- The document after the end of the string, when the string ends here. -/
def Quoting.end? : Quoting → Document → Option Document
  | .short quote, some a :: rest => if a = quote then some rest else none
  | .long quote, some a :: some b :: some c :: rest =>
    if a = quote && b = quote && c = quote then some rest else none
  | _, _ => none

/-- The character may stand in the string as it is. -/
def Quoting.allows : Quoting → Char → Bool
  | .short _, c => c != '\n' && c != '\r' && c != '\\'
  | .long _, c => c != '\\'

/-- The characters of a string after its opening quote. -/
def stringText (quoting : Quoting) : Document → Option (List Char × Document)
  | [] => none
  | some '\\' :: some 'u' :: some a :: some b :: some c :: some d :: rest => do
    let char ← escapedScalar? [a, b, c, d]
    let (text, rest) ← stringText quoting rest
    return (char :: text, rest)
  | some '\\' :: some 'U' :: some a :: some b :: some c :: some d :: some e :: some f :: some g ::
      some h :: rest => do
    let char ← escapedScalar? [a, b, c, d, e, f, g, h]
    let (text, rest) ← stringText quoting rest
    return (char :: text, rest)
  | some '\\' :: some c :: rest => do
    let char ← escaped? c
    let (text, rest) ← stringText quoting rest
    return (char :: text, rest)
  | some c :: rest =>
    match quoting.end? (some c :: rest) with
    | some rest => some ([], rest)
    | none =>
      if quoting.allows c then (fun (text, rest) => (c :: text, rest)) <$> stringText quoting rest
      else none
  | none :: _ => none

/-- A language tag after its mark, in lower case. -/
def languageTag (document : Document) : Option (String × Document) :=
  let isTagChar := fun c : Option Char => c.any fun c => c.isAlphanum || c == '-'
  let tag := (document.takeWhile isTagChar).filterMap id
  if LanguageTag.isWellFormedTag tag then
    some (.ofList (tag.map Char.toLower), document.dropWhile isTagChar)
  else none

/-! ## Numbers -/

/-- The digits at the front of a document, and the document after them. -/
def digits (document : Document) : List Char × Document :=
  let isDigit := fun c : Option Char => c.any Char.isDigit
  ((document.takeWhile isDigit).filterMap id, document.dropWhile isDigit)

/-- An optional sign. -/
def sign : Document → List Char × Document
  | some '+' :: rest => (['+'], rest)
  | some '-' :: rest => (['-'], rest)
  | rest => ([], rest)

/-- An exponent after its letter. -/
def exponent (document : Document) : Option (List Char × Document) :=
  let (sign, rest) := sign document
  match digits rest with
  | ([], _) => none
  | (power, rest) => some (sign ++ power, rest)

/-- The point and the digits after it. A point that neither a digit nor an exponent follows ends
the statement instead. -/
def fraction : Document → List Char × Document
  | some '.' :: some c :: rest =>
    if c.isDigit || c == 'e' || c == 'E' then
      let (after, rest) := digits (some c :: rest)
      ('.' :: after, rest)
    else ([], some '.' :: some c :: rest)
  | rest => ([], rest)

/-- A number, which keeps its text. -/
def number (document : Document) : Option (Node × Document) :=
  let (sign, rest) := sign document
  let (whole, rest) := digits rest
  let (fraction, rest) := fraction rest
  let text := sign ++ whole ++ fraction
  if whole.isEmpty && fraction.length ≤ 1 then none
  else
    match rest with
    | some 'e' :: rest => do
      let (power, rest) ← exponent rest
      return (.typed (.ofList (text ++ 'e' :: power)) Vocabulary.xsdDouble, rest)
    | some 'E' :: rest => do
      let (power, rest) ← exponent rest
      return (.typed (.ofList (text ++ 'E' :: power)) Vocabulary.xsdDouble, rest)
    | rest =>
      if fraction.isEmpty then some (.typed (.ofList text) Vocabulary.xsdInteger, rest)
      else some (.typed (.ofList text) Vocabulary.xsdDecimal, rest)

end Token

end RdfGateway
