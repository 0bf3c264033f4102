import RdfGateway.Body.Reading
import RdfGateway.Text.Lead
import RdfGateway.Turtle.Token

/-!
# Reading Turtle

A document is a sequence of directives and statements. A statement is stated when its object is
complete, so the statements within an object come before the statement that points to it. Nodes
without a label are numbered in the order in which their brackets open, and every item of a
collection has a node before its own.

A statement may have another statement in double angle brackets in the place of its subject or its
object. It is stated like any other one and refused afterwards, so what fails first in the document
decides. A reader that fails keeps what has been stated.
-/

namespace RdfGateway.Turtle

open RdfGateway.Text

/-- What has been read: the document after it, and what it has declared and stated. -/
structure State where
  rest : Document
  /-- The number of nodes without a label. -/
  nodes : Nat
  /-- The declared prefixes, the latest first. -/
  prefixes : List (String × String)
  /-- What relative IRIs are resolved against. -/
  base : Option Iri.Reference
  /-- What has been stated, the latest first. -/
  stated : List Emission

/-- A reader of a part of a document. -/
abbrev Reader (α : Type) := ExceptT Unit (StateM State) α

namespace Reader

/-- The document does not go on as it should. -/
def fail {α : Type} : Reader α := throw ()

/-- The document that is still to be read. -/
def rest : Reader Document := return (← get).rest

/-- Go on at a later place. -/
def moveTo (document : Document) : Reader Unit :=
  modify fun state => { state with rest := document }

/-- A token at the front of the document. -/
def token {α : Type} (read : Document → Option (α × Document)) : Reader α := do
  match read (← rest) with
  | some (found, document) =>
    moveTo document
    return found
  | none => fail

/-- These characters come next, and are read over. -/
def accept (text : String) : Reader Bool := do
  match rest? (text.toList.map some) (← rest) with
  | some document =>
    moveTo document
    return true
  | none => return false

/-- These characters come next. -/
def sees (text : String) : Reader Bool := do
  return (rest? (text.toList.map some) (← rest)).isSome

/-- These characters have to come next. -/
def expect (text : String) : Reader Unit := do
  unless ← accept text do fail

/-- State something. -/
def state (subject : Place Resource) (predicate : String) (object : Place Node) : Reader Unit :=
  modify fun state => { state with stated := ⟨subject, predicate, object⟩ :: state.stated }

end Reader

open Reader

/-! ## Tokens -/

/-- White space of Turtle. -/
def isSpace (c : Option Char) : Bool :=
  c == some ' ' || c == some '\t' || c == some '\n' || c == some '\r'

/-- The document after blanks and comments; `comment` tells that it begins in a comment. -/
def afterBlanks (blank : Option Char → Bool) (comment : Bool) : Document → Document
  | [] => []
  | c :: document =>
    if comment then afterBlanks blank (c != some '\n' && c != some '\r') document
    else if c == some '#' then afterBlanks blank true document
    else if blank c then afterBlanks blank false document
    else c :: document

/-- Read over white space and comments. -/
def skip : Reader Unit := do moveTo (afterBlanks isSpace false (← rest))

/-- Read over semicolons, white space and comments. -/
def skipSemicolons : Reader Unit := do
  moveTo (afterBlanks (fun c => isSpace c || c == some ';') false (← rest))

/-- A number in eight digits or more. -/
def eightDigits (n : Nat) : List Char :=
  let digits := Nat.toDigits 10 n
  List.replicate (8 - digits.length) '0' ++ digits

/-- A new node without a label. -/
def freshNode : Reader Resource := do
  let number := (← get).nodes + 1
  modify fun state => { state with nodes := number }
  return .blank (.ofList ("riog".toList ++ eightDigits number))

/-- A label that a new node might have too: `riog`, eight digits, and any number of `d`. -/
def isReserved (label : List Char) : Bool :=
  match rest? "riog".toList label with
  | some rest =>
    (rest.take 8).length == 8 && (rest.take 8).all Char.isDigit && (rest.drop 8).all (· == 'd')
  | none => false

/-- A label as it is written, set apart from those of new nodes. -/
def writtenLabel (label : String) : String :=
  if isReserved label.toList then label ++ "d" else label

/-- An IRI in angle brackets, absolute or resolved against the base. -/
def iriReference : Reader Iri.Reference := do
  expect "<"
  let text ← token Token.iriText
  match Iri.resolve? (← get).base text with
  | some reference => return reference
  | none => fail

/-- A prefix label and its colon. -/
def prefixMark : Reader String := do
  let label ← token Token.prefixLabel
  expect ":"
  return label

/-- An IRI in angle brackets, or a name with a declared prefix. -/
def iri : Reader String := do
  if ← sees "<" then
    return .ofList (← iriReference).toText
  else
    let label ← prefixMark
    match (← get).prefixes.lookup label with
    | some iri => return iri ++ .ofList (← token (Token.localName true))
    | none => fail

/-- A labelled blank node after its mark. -/
def blankNode : Reader Resource := do
  expect "_:"
  return .blank (writtenLabel (← token Token.blankLabel))

/-- The quotes that open a string. -/
def quoting? : Document → Option (Token.Quoting × Document)
  | some '"' :: some '"' :: some '"' :: rest => some (.long '"', rest)
  | some '\'' :: some '\'' :: some '\'' :: rest => some (.long '\'', rest)
  | some '"' :: rest => some (.short '"', rest)
  | some '\'' :: rest => some (.short '\'', rest)
  | _ => none

/-- A string with a language tag, a datatype or neither. -/
def literal : Reader Node := do
  let quoting ← token quoting?
  let lexical := String.ofList (← token (Token.stringText quoting))
  skip
  if ← accept "@" then
    return .tagged lexical (← token Token.languageTag)
  else if ← sees "^" then
    expect "^^"
    skip
    return .typed lexical (← iri)
  else return .plain lexical

/-- A word that stands for itself: no name goes on after it. -/
def isWholeWord (word : String) (document : Document) : Bool :=
  match rest? (word.toList.map some) document with
  | none => false
  | some [] => true
  | some (none :: _) => false
  | some (some c :: _) => !(Name.isNameChar c || Token.isForeign c || c == ':')

/-- A term without brackets in the place of an object. -/
def simpleNode : Reader Node := do
  let document ← rest
  match document with
  | [] | none :: _ => fail
  | some c :: _ =>
    if c == '"' || c == '\'' then literal
    else if c.isDigit || c == '+' || c == '-' || c == '.' then token Token.number
    else if ← sees "_:" then return .resource (← blankNode)
    else if isWholeWord "true" document then
      expect "true"
      return .typed "true" Vocabulary.xsdBoolean
    else if isWholeWord "false" document then
      expect "false"
      return .typed "false" Vocabulary.xsdBoolean
    else return .resource (.iri (← iri))

/-- The predicate of statements; the letter `a` alone asserts a type. -/
def predicate : Reader String := do
  match ← rest with
  | some 'a' :: document =>
    match document with
    | some c :: _ =>
      if Name.isNameChar c || c == '.' || c == ':' || Token.isForeign c then iri
      else
        moveTo document
        return Vocabulary.rdfType
    | none :: _ => fail
    | [] => fail
  | _ => iri

/-- Brackets with nothing but white space between them. -/
def isEmptyBrackets : Document → Bool
  | some '[' :: document => (document.dropWhile isSpace).head? == some (some ']')
  | _ => false

/-- A node in brackets with nothing between them. -/
def emptyBrackets : Reader Resource := do
  expect "["
  skip
  expect "]"
  freshNode

/-! ## Statements -/

/-- The greatest depth of brackets within brackets. -/
def maxDepth : Nat := 128

mutual

/-- An object. -/
def object : Nat → Nat → Reader (Place Node)
  | 0, _ => fail
  | fuel + 1, depth => do
    let document ← rest
    if ← sees "<<" then
      quotedStatement fuel depth
      return .quoted
    else if ← sees "(" then return .term (.resource (← collection fuel depth))
    else if isEmptyBrackets document then return .term (.resource (← emptyBrackets))
    else if ← sees "[" then return .term (.resource (← propertyList fuel depth))
    else return .term (← simpleNode)

/-- A collection in parentheses; it is its first node. -/
def collection : Nat → Nat → Reader Resource
  | 0, _ | _, 0 => fail
  | fuel + 1, depth + 1 => do
    expect "("
    skip
    if ← accept ")" then return .iri Vocabulary.rdfNil
    else
      let node ← freshNode
      let item ← object fuel depth
      state (.term node) Vocabulary.rdfFirst item
      items fuel depth node
      return node

/-- The items of a collection after the one of `last`, and the closing parenthesis. -/
def items : Nat → Nat → Resource → Reader Unit
  | 0, _, _ => fail
  | fuel + 1, depth, last => do
    skip
    if ← accept ")" then
      state (.term last) Vocabulary.rdfRest (.term (.resource (.iri Vocabulary.rdfNil)))
    else
      let node ← freshNode
      state (.term last) Vocabulary.rdfRest (.term (.resource node))
      let item ← object fuel depth
      state (.term node) Vocabulary.rdfFirst item
      items fuel depth node

/-- A node in square brackets with what is said of it. -/
def propertyList : Nat → Nat → Reader Resource
  | 0, _ | _, 0 => fail
  | fuel + 1, depth + 1 => do
    expect "["
    skip
    let node ← freshNode
    predicateObjectList fuel depth (.term node)
    expect "]"
    return node

/-- What is said of a subject, up to white space after it. -/
def predicateObjectList : Nat → Nat → Place Resource → Reader Unit
  | 0, _, _ => fail
  | fuel + 1, depth, subject => do
    let predicate ← predicate
    skip
    objectList fuel depth subject predicate
    if ← accept ";" then
      skipSemicolons
      match ← rest with
      | [] => return ()
      | c :: _ =>
        if c == some '.' || c == some ']' || c == some '}' then return ()
        else predicateObjectList fuel depth subject

/-- The objects of a subject and a predicate, up to white space after them. What braces say of a
statement is said of a statement in the place of a term. -/
def objectList : Nat → Nat → Place Resource → String → Reader Unit
  | 0, _, _, _ => fail
  | fuel + 1, depth, subject, predicate => do
    state subject predicate (← object fuel depth)
    skip
    if ← accept "\x7b|" then
      skip
      predicateObjectList fuel depth .quoted
      fail
    if ← accept "," then
      skip
      objectList fuel depth subject predicate

/-- A statement in double angle brackets. -/
def quotedStatement : Nat → Nat → Reader Unit
  | 0, _ | _, 0 => fail
  | fuel + 1, depth + 1 => do
    expect "<<"
    skip
    if ← sees "<<" then quotedStatement fuel depth
    else if ← sees "[" then discard emptyBrackets
    else if ← sees "_:" then discard blankNode
    else discard iri
    skip
    discard predicate
    skip
    if ← sees "<<" then quotedStatement fuel depth
    else if ← sees "[" then discard emptyBrackets
    else discard simpleNode
    skip
    expect ">>"

end

/-- The subject of statements. -/
def subject (fuel : Nat) : Reader (Place Resource) := do
  if ← sees "<<" then
    quotedStatement fuel maxDepth
    return .quoted
  else if ← sees "(" then return .term (← collection fuel maxDepth)
  else if ← sees "[" then return .term (← emptyBrackets)
  else if ← sees "_:" then return .term (← blankNode)
  else return .term (.iri (← iri))

/-- Statements of one subject, up to their dot. Brackets that say something may stand alone. -/
def statements (fuel : Nat) : Reader Unit := do
  let document ← rest
  if document.head? == some (some '[') && !isEmptyBrackets document then
    let node ← propertyList fuel maxDepth
    skip
    unless ← sees "." do predicateObjectList fuel maxDepth (.term node)
  else
    let subject ← subject fuel
    skip
    predicateObjectList fuel maxDepth subject
  expect "."

/-! ## Directives -/

/-- Declare a prefix. -/
def declarePrefix : Reader Unit := do
  skip
  let label ← prefixMark
  skip
  let iri := String.ofList (← iriReference).toText
  modify fun state => { state with prefixes := (label, iri) :: state.prefixes }

/-- Declare the base. -/
def declareBase : Reader Unit := do
  skip
  let reference ← iriReference
  modify fun state => { state with base := some reference }

/-- The document after a word in any case, when one of the given characters follows it. -/
def directive? (word : String) (follows : Char → Bool) (document : Document) : Option Document :=
  let length := word.length
  let read := (document.take length).map fun c => c.map Char.toLower
  match document.drop length with
  | some c :: _ =>
    if read == word.toList.map some && follows c then some (document.drop length) else none
  | _ => none

/-- A directive or a statement. -/
def item (fuel : Nat) : Reader Unit := do
  let document ← rest
  if ← accept "@prefix" then
    declarePrefix
    skip
    expect "."
  else if ← accept "@base" then
    declareBase
    skip
    expect "."
  else
    match directive? "base" (fun c => isSpace (some c) || c == '<') document,
        directive? "prefix" (fun c => isSpace (some c)) document with
    | some document, _ =>
      moveTo document
      declareBase
    | none, some document =>
      moveTo document
      declarePrefix
    | none, none => statements fuel

/-- The items of a document. An item has a character at least, so `count` items are enough for a
document that is not longer. -/
def document (fuel : Nat) : Nat → Reader Unit
  | 0 => fail
  | count + 1 => do
    skip
    unless (← rest).isEmpty do
      item fuel
      document fuel count

/-- The reader before a document. -/
def start (base : Option Iri.Reference) (text : Document) : State where
  rest := text
  nodes := 0
  prefixes := []
  base := base
  stated := []

/-- What a document states. A character opens at most four calls within one another, so the length
of the document bounds the recursion. -/
def reading (base : Option Iri.Reference) (text : Document) : Reading :=
  let (outcome, final) :=
    (document (4 * text.length + 8) (text.length + 1)).run.run (start base text)
  { stated := final.stated.reverse, complete := outcome.isOk }

/-- The statements of a document in order. -/
def statementsOf (base : Option Iri.Reference) (text : Document) :
    Except BodyError (List Statement) :=
  (reading base text).statements

end RdfGateway.Turtle
