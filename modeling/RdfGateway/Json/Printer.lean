import RdfGateway.Json.Basic
import RdfGateway.Text.Hex

/-!
# Writing JSON

A value is written without white space. Control characters, quotes and backslashes are escaped, and
every other character stands as it is.
-/

namespace RdfGateway

open RdfGateway.Text

/-- The digits of a number, with its exponent when it has one. -/
def Decimal.text (number : Decimal) : String :=
  (if number.negative then "-" else "") ++ toString number.significand ++
    if number.exponent = 0 then "" else "e" ++ toString number.exponent

namespace Json

/-- A character as it stands in a string. -/
def stringChar (c : Char) : List Char :=
  match c with
  | '"' => ['\\', '"']
  | '\\' => ['\\', '\\']
  | c => if c.toNat < 0x20 then '\\' :: 'u' :: hexDigits 4 c.toNat else [c]

/-- A text in quotes. A string without a text has no written form and is left empty. -/
def quote (text : Option String) : String :=
  "\"" ++ .ofList ((text.getD "").toList.flatMap stringChar) ++ "\""

mutual

/-- The text of a value. -/
def render : Json → String
  | .null => "null"
  | .bool value => if value then "true" else "false"
  | .number value => value.text
  | .string text => quote text
  | .array items => "[" ++ ",".intercalate (renderItems items) ++ "]"
  | .object members => "\x7b" ++ ",".intercalate (renderMembers members) ++ "\x7d"

/-- The texts of the items of an array. -/
def renderItems : List Json → List String
  | [] => []
  | item :: rest => item.render :: renderItems rest

/-- The texts of the members of an object. -/
def renderMembers : List (Option String × Json) → List String
  | [] => []
  | (key, value) :: rest => (quote key ++ ":" ++ value.render) :: renderMembers rest

end

end Json

end RdfGateway
