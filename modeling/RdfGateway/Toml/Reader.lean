import RdfGateway.Toml.Basic
import RdfGateway.Toml.Quoting
import RdfGateway.Toml.Scalar

/-!
# Reading TOML

`Toml.parse?` reads a document: settings and headers, each on a line of its own, with comments and
empty lines between them. The first line that breaks the grammar, or that names again what is
already there, makes the whole no document.
-/

namespace RdfGateway.Toml

open RdfGateway.Text

/-- Lists and tables are nested at most so deep, and a dotted key has at most so many parts. -/
def maxNesting : Nat := 79

/-! ## Lines -/

/-- The text from the next thing on: behind white space, line breaks and comments. The flag says
that the text begins inside a comment. -/
def skipLines (comment : Bool) : List Char → Option (List Char)
  | [] => some []
  | '\r' :: '\n' :: text => skipLines false text
  | '\n' :: text => skipLines false text
  | c :: text =>
    if comment then if isWritable c then skipLines true text else none
    else if isGap c then skipLines false text
    else if c = '#' then skipLines true text
    else some (c :: text)

/-- The text behind something that ends its line: at the break, at a comment or at the end. -/
def lineEnd? (text : List Char) : Option (List Char) :=
  match text.dropWhile isGap with
  | [] => some []
  | '#' :: rest => some ('#' :: rest)
  | rest => afterBreak? rest

/-! ## Keys -/

/-- The character may stand in a key without quotes. -/
def isBare (c : Char) : Bool := c.isAlphanum || c == '_' || c == '-'

/-- A part of a key, and what follows. -/
def keyPart? : List Char → Option (String × List Char)
  | '"' :: text => do
    let (cs, rest) ← inDoubleQuotes text
    return (.ofList cs, rest)
  | '\'' :: text => do
    let (cs, rest) ← inSingleQuotes text
    return (.ofList cs, rest)
  | text =>
    match text.takeWhile isBare with
    | [] => none
    | cs => some (.ofList cs, text.dropWhile isBare)

/-- The parts of a dotted key before the last one, the last one, and what follows. -/
def keyParts? : Nat → List Char → Option (List String × String × List Char)
  | 0, _ => none
  | fuel + 1, text => do
    let (part, rest) ← keyPart? (text.dropWhile isGap)
    match rest.dropWhile isGap with
    | '.' :: rest =>
      let (path, key, rest) ← keyParts? fuel rest
      return (part :: path, key, rest)
    | rest => return ([], part, rest)

/-- A dotted key with white space around it. Its number of parts is limited. -/
def key? : List Char → Option (List String × String × List Char) := keyParts? maxNesting

/-! ## Values -/

mutual

/-- A value at the front of a text, and what follows. Lists and tables may still be nested as deep
as the second number says. -/
def value? : Nat → Nat → List Char → Option (Toml × List Char)
  | 0, _, _ => none
  | fuel + 1, depth, text =>
    match text, depth with
    | '[' :: rest, depth + 1 => do
      let (items, rest) ← items? fuel depth rest
      return (.list items, rest)
    | '\x7b' :: rest, depth + 1 =>
      match rest.dropWhile isGap with
      | '\x7d' :: rest => some (.table .braces [], rest)
      | rest => do
        let (entries, rest) ← entries? fuel depth [] rest
        return (.table .braces entries, rest)
    | text, _ =>
      match quotedText? text with
      | some (cs, rest) => some (.string (.ofList cs), rest)
      | none => (scalar? text).map (.scalar, ·)

/-- The items of a list from one item on, and what follows the closing bracket. A comma may stand
behind the last one. -/
def items? : Nat → Nat → List Char → Option (List Toml × List Char)
  | 0, _, _ => none
  | fuel + 1, depth, text => do
    match ← skipLines false text with
    | ']' :: rest => return ([], rest)
    | text =>
      let (item, rest) ← value? fuel depth text
      match ← skipLines false rest with
      | ',' :: rest =>
        let (items, rest) ← items? fuel depth rest
        return (item :: items, rest)
      | ']' :: rest => return ([item], rest)
      | _ => none

/-- A table in braces with the entries from one entry on, and what follows the closing brace. -/
def entries? : Nat → Nat → Table → List Char → Option (Table × List Char)
  | 0, _, _, _ => none
  | fuel + 1, depth, before, text => do
    let (path, key, rest) ← key? text
    let (value, rest) ← value? fuel depth ((← rest? ['='] rest).dropWhile isGap)
    let entries ← before.set path key value
    match rest.dropWhile isGap with
    | ',' :: rest => entries? fuel depth entries rest
    | '\x7d' :: rest => return (entries, rest)
    | _ => none

end

/-! ## Documents -/

/-- A document with the lines of a text added to it, the settings under the last header. -/
def lines? : Nat → List String → Table → List Char → Option Table
  | 0, _, _, _ => none
  | fuel + 1, header, document, text => do
    match ← skipLines false text with
    | [] => return document
    | '[' :: '[' :: rest =>
      let (path, key, rest) ← key? rest
      let rest ← lineEnd? (← rest? [']', ']'] rest)
      lines? fuel (path ++ [key]) (← document.appendTable path key) rest
    | '[' :: rest =>
      let (path, key, rest) ← key? rest
      let rest ← lineEnd? (← rest? [']'] rest)
      lines? fuel (path ++ [key]) (← document.openTable path key) rest
    | text =>
      let (path, key, rest) ← key? text
      let (value, rest) ← value? fuel maxNesting ((← rest? ['='] rest).dropWhile isGap)
      lines? fuel header (← document.setUnder header path key value) (← lineEnd? rest)

/-- A text without a byte order mark at its front. -/
def withoutMark : List Char → List Char
  | '\uFEFF' :: text => text
  | text => text

/-- The table that a document is. Every step takes a character at least, so the length of the text
bounds the recursion. -/
def parse? (text : String) : Option Toml :=
  let chars := withoutMark text.toList
  (lines? (2 * chars.length + 2) [] [] chars).map (.table .header ·)

end RdfGateway.Toml
