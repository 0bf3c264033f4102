import RdfGateway.Json.Basic
import RdfGateway.Text.Hex

/-!
# Reading JSON

`Json.parse?` reads a text that is one JSON value with white space around it. Nesting is not
limited here; what a value is wanted for sets the limit.
-/

namespace RdfGateway.Json

open RdfGateway.Text

/-- White space between the parts of a value. -/
def isSpace (c : Char) : Bool := c == ' ' || c == '\t' || c == '\n' || c == '\r'

/-- The text after white space. -/
def skipSpace (text : List Char) : List Char := text.dropWhile isSpace

/-! ## Strings -/

/-- A part of a string: a character, or the unit that an escape names by its number. -/
inductive Piece where
  | char (c : Char)
  | unit (n : Nat)

/-- The character that a one-letter escape stands for. -/
def escaped? : Char → Option Char
  | '"' => some '"'
  | '\\' => some '\\'
  | '/' => some '/'
  | 'b' => some '\x08'
  | 'f' => some '\x0c'
  | 'n' => some '\n'
  | 'r' => some '\r'
  | 't' => some '\t'
  | _ => none

/-- The parts of a string and the text after its closing quote. -/
def stringPieces : List Char → Option (List Piece × List Char)
  | [] => none
  | '"' :: text => some ([], text)
  | '\\' :: 'u' :: a :: b :: c :: d :: text => do
    let n ← hexNumber? [a, b, c, d]
    let (pieces, rest) ← stringPieces text
    return (.unit n :: pieces, rest)
  | '\\' :: c :: text => do
    let c ← escaped? c
    let (pieces, rest) ← stringPieces text
    return (.char c :: pieces, rest)
  | c :: text =>
    if c.toNat < 0x20 || c == '\\' then none
    else do
      let (pieces, rest) ← stringPieces text
      return (.char c :: pieces, rest)

/-- The first unit of a pair. -/
def isHighUnit (n : Nat) : Bool := 0xD800 ≤ n && n ≤ 0xDBFF

/-- The second unit of a pair. -/
def isLowUnit (n : Nat) : Bool := 0xDC00 ≤ n && n ≤ 0xDFFF

/-- The characters of a string. Two units of a pair are one character, and a unit of a pair alone
is none. -/
def assemble? : List Piece → Option (List Char)
  | [] => some []
  | .char c :: pieces => (c :: ·) <$> assemble? pieces
  | .unit high :: .unit low :: pieces =>
    if isHighUnit high && isLowUnit low then do
      let c ← scalar? (0x10000 + (high - 0xD800) * 0x400 + (low - 0xDC00))
      (c :: ·) <$> assemble? pieces
    else do
      let c ← scalar? high
      (c :: ·) <$> assemble? (.unit low :: pieces)
  | .unit n :: pieces => do
    let c ← scalar? n
    (c :: ·) <$> assemble? pieces

/-- The text of a string after its opening quote, and the text after its closing quote. -/
def stringValue (text : List Char) : Option (Option String × List Char) := do
  let (pieces, rest) ← stringPieces text
  return ((assemble? pieces).map String.ofList, rest)

/-! ## Numbers -/

/-- The digits at the front of a text, and the text after them. -/
def digits (text : List Char) : List Char × List Char :=
  (text.takeWhile Char.isDigit, text.dropWhile Char.isDigit)

/-- The number that decimal digits write. -/
def decimalNumber (digits : List Char) : Nat :=
  digits.foldl (fun n c => 10 * n + (c.toNat - '0'.toNat)) 0

/-- The digits before the point: a zero alone, or digits that begin with another one. -/
def wholePart? : List Char → Option (List Char × List Char)
  | '0' :: text => some (['0'], text)
  | text =>
    match digits text with
    | ([], _) => none
    | (whole, rest) => some (whole, rest)

/-- The digits after a point, none when there is no point. -/
def fractionPart? : List Char → Option (List Char × List Char)
  | '.' :: text =>
    match digits text with
    | ([], _) => none
    | (fraction, rest) => some (fraction, rest)
  | text => some ([], text)

/-- The exponent, zero when there is none. -/
def exponentPart? : List Char → Option (Int × List Char)
  | [] => some (0, [])
  | e :: text =>
    if e == 'e' || e == 'E' then
      let (negative, text) :=
        match text with
        | '-' :: text => (true, text)
        | '+' :: text => (false, text)
        | text => (false, text)
      match digits text with
      | ([], _) => none
      | (power, rest) =>
        let size : Int := decimalNumber power
        some (if negative then -size else size, rest)
    else some (0, e :: text)

/-- A number and the text after it. -/
def numberValue (text : List Char) : Option (Decimal × List Char) := do
  let (negative, text) :=
    match text with
    | '-' :: text => (true, text)
    | text => (false, text)
  let (whole, text) ← wholePart? text
  let (fraction, text) ← fractionPart? text
  let (exponent, text) ← exponentPart? text
  return (⟨negative, decimalNumber (whole ++ fraction), exponent - fraction.length⟩, text)

/-! ## Values -/

mutual

/-- A value at the front of a text, and the text after it. -/
def value : Nat → List Char → Option (Json × List Char)
  | 0, _ => none
  | fuel + 1, text =>
    match skipSpace text with
    | 'n' :: 'u' :: 'l' :: 'l' :: rest => some (.null, rest)
    | 't' :: 'r' :: 'u' :: 'e' :: rest => some (.bool true, rest)
    | 'f' :: 'a' :: 'l' :: 's' :: 'e' :: rest => some (.bool false, rest)
    | '"' :: rest => do
      let (text, rest) ← stringValue rest
      return (.string text, rest)
    | '[' :: rest =>
      match skipSpace rest with
      | ']' :: rest => some (.array [], rest)
      | rest => do
        let (items, rest) ← items fuel rest
        return (.array items, rest)
    | '\x7b' :: rest =>
      match skipSpace rest with
      | '\x7d' :: rest => some (.object [], rest)
      | rest => do
        let (members, rest) ← members fuel rest
        return (.object members, rest)
    | text => do
      let (decimal, rest) ← numberValue text
      return (.number decimal, rest)

/-- The items of an array from one item on, and the text after the closing bracket. -/
def items : Nat → List Char → Option (List Json × List Char)
  | 0, _ => none
  | fuel + 1, text => do
    let (item, rest) ← value fuel text
    match skipSpace rest with
    | ',' :: rest =>
      let (more, rest) ← items fuel rest
      return (item :: more, rest)
    | ']' :: rest => return ([item], rest)
    | _ => none

/-- The members of an object from one member on, and the text after the closing brace. -/
def members : Nat → List Char → Option (List (Option String × Json) × List Char)
  | 0, _ => none
  | fuel + 1, text =>
    match skipSpace text with
    | '"' :: rest => do
      let (key, rest) ← stringValue rest
      match skipSpace rest with
      | ':' :: rest =>
        let (value, rest) ← value fuel rest
        match skipSpace rest with
        | ',' :: rest =>
          let (more, rest) ← members fuel rest
          return ((key, value) :: more, rest)
        | '\x7d' :: rest => return ([(key, value)], rest)
        | _ => none
      | _ => none
    | _ => none

end

/-- The JSON value that a text is. A level of nesting takes a character and two calls, so the
length of the text bounds the recursion. -/
def parse? (text : String) : Option Json :=
  let chars := text.toList
  match value (2 * chars.length + 2) chars with
  | some (json, rest) => if (skipSpace rest).isEmpty then some json else none
  | none => none

end RdfGateway.Json
