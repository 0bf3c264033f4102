/-!
# JSON values

A JSON value as it is written: the members of an object keep their order and may repeat, a number
keeps its digits, and a string whose escapes name half a character is a string without a text. A
reader that has no use for such a part can pass over it; one that wants its value cannot have it.
-/

namespace RdfGateway

/-- A decimal number: a whole number times a power of ten. -/
structure Decimal where
  negative : Bool
  significand : Nat
  exponent : Int
  deriving DecidableEq, Inhabited

/-- The number is small enough for a binary floating-point number of 64 bits. Half the last place
above the greatest one rounds away from it. -/
def Decimal.isFinite (number : Decimal) : Bool :=
  let limit := Nat.pow 2 1024 - Nat.pow 2 970
  let digits := (Nat.toDigits 10 number.significand).length
  if number.significand = 0 then true
  else if 400 < number.exponent + digits then false
  else if number.exponent + digits < 0 then true
  else if 0 ≤ number.exponent then number.significand * Nat.pow 10 number.exponent.toNat < limit
  else number.significand < limit * Nat.pow 10 (-number.exponent).toNat

/-- A JSON value. A string without a text has an escape that names half a surrogate pair. -/
inductive Json where
  | null
  | bool (value : Bool)
  | number (value : Decimal)
  | string (text : Option String)
  | array (items : List Json)
  | object (members : List (Option String × Json))
  deriving Inhabited

namespace Json

/-- A string with a text. -/
def text (text : String) : Json := .string (some text)

/-- A whole number. -/
def nat (n : Nat) : Json := .number ⟨false, n, 0⟩

/-- An object with members in order. -/
def fields (members : List (String × Json)) : Json :=
  .object (members.map fun (key, value) => (some key, value))

/-- An array of texts. -/
def texts (texts : List String) : Json := .array (texts.map text)

/-- The text of a string. -/
def asText? : Json → Option String
  | .string text => text
  | _ => none

mutual

/-- Every number and string has a value, and arrays and objects are nested at most so deep. -/
def isReadable : Nat → Json → Bool
  | _, .null | _, .bool _ => true
  | _, .number value => value.isFinite
  | _, .string text => text.isSome
  | 0, .array _ | 0, .object _ => false
  | depth + 1, .array items => areReadable depth items
  | depth + 1, .object members => membersReadable depth members

/-- Every value is readable. -/
def areReadable : Nat → List Json → Bool
  | _, [] => true
  | depth, item :: rest => isReadable depth item && areReadable depth rest

/-- Every key and every value is readable. -/
def membersReadable : Nat → List (Option String × Json) → Bool
  | _, [] => true
  | depth, (key, value) :: rest =>
    key.isSome && isReadable depth value && membersReadable depth rest

end

end Json

end RdfGateway
