import RdfGateway.Json.Basic
import RdfGateway.Text.Cut
import RdfGateway.Text.Hex
import RdfGateway.Text.Lead

/-!
# Scalars in TOML

Numbers, truth values, dates and times. No setting is one of them, so their readers check the form
and the range and give the text that follows.
-/

namespace RdfGateway.Toml

open RdfGateway.Text

/-! ## Numbers -/

/-- The digits at the front of a text, which single underscores may part, and what follows. -/
def digitRun? (isDigit : Char → Bool) (text : List Char) : Option (List Char × List Char) :=
  let run := text.takeWhile fun c => isDigit c || c == '_'
  let groups := pieces '_' run
  if groups.all (!·.isEmpty) then some (groups.flatten, text.drop run.length) else none

/-- The number that digits write in a base. -/
def numberIn (base : Nat) (digits : List Char) : Nat :=
  digits.foldl (fun n c => base * n + (hexValue? c).getD 0) 0

/-- A text without a sign at its front, and whether the sign is negative. -/
def signed : List Char → Bool × List Char
  | '-' :: text => (true, text)
  | '+' :: text => (false, text)
  | text => (false, text)

/-- Whole digits in base ten: a zero alone, or digits that begin with another one. -/
def wholeDigits? : List Char → Option (List Char × List Char)
  | '0' :: text => some (['0'], text)
  | text => digitRun? Char.isDigit text

/-- The fraction behind whole digits. -/
def fraction? : List Char → Option (List Char × List Char)
  | '.' :: text => digitRun? Char.isDigit text
  | _ => none

/-- The exponent of a number. -/
def exponent? : List Char → Option (Int × List Char)
  | c :: text => do
    if c != 'e' && c != 'E' then none
    else
      let (negative, text) := signed text
      let (power, rest) ← digitRun? Char.isDigit text
      let size : Int := numberIn 10 power
      return (if negative then -size else size, rest)
  | [] => none

/-- A number with a fraction, an exponent or both. A positive one has a greatest value. -/
def fractional? (text : List Char) : Option (List Char) := do
  let (negative, text) := signed text
  let (whole, text) ← wholeDigits? text
  let (fraction, exponent, rest) ←
    match fraction? text with
    | some (fraction, rest) =>
      match exponent? rest with
      | some (exponent, rest) => some (fraction, exponent, rest)
      | none => some (fraction, 0, rest)
    | none => (exponent? text).map fun (exponent, rest) => ([], exponent, rest)
  let value : Decimal := ⟨negative, numberIn 10 (whole ++ fraction), exponent - fraction.length⟩
  if negative || value.isFinite then some rest else none

/-- Infinity, or what is no number. -/
def special? (text : List Char) : Option (List Char) :=
  let text := (signed text).2
  rest? "inf".toList text <|> rest? "nan".toList text

/-- Digits in a base other than ten. -/
def radix? (base : Nat) (isDigit : Char → Bool) (text : List Char) : Option (List Char) := do
  let (digits, rest) ← digitRun? isDigit text
  if numberIn base digits < Nat.pow 2 63 then some rest else none

/-- A whole number of 64 bits. -/
def whole? : List Char → Option (List Char)
  | '0' :: 'x' :: text => radix? 16 (fun c => (hexValue? c).isSome) text
  | '0' :: 'o' :: text => radix? 8 (fun c => '0' ≤ c && c ≤ '7') text
  | '0' :: 'b' :: text => radix? 2 (fun c => c == '0' || c == '1') text
  | text => do
    let (negative, text) := signed text
    let (digits, rest) ← wholeDigits? text
    if numberIn 10 digits < Nat.pow 2 63 + (if negative then 1 else 0) then some rest else none

/-! ## Dates and times -/

/-- A number of exactly so many digits, and what follows. -/
def fixed? (count : Nat) (text : List Char) : Option (Nat × List Char) :=
  let digits := text.take count
  if digits.length = count && digits.all Char.isDigit then
    some (numberIn 10 digits, text.drop count)
  else none

/-- A number of two digits inside bounds, and what follows. -/
def field? (least greatest : Nat) (text : List Char) : Option (Nat × List Char) :=
  (fixed? 2 text).filter fun (n, _) => least ≤ n && n ≤ greatest

/-- The number of days in a month. -/
def daysIn (year month : Nat) : Nat :=
  match month with
  | 2 => if year % 4 = 0 && (year % 100 != 0 || year % 400 = 0) then 29 else 28
  | 4 | 6 | 9 | 11 => 30
  | _ => 31

/-- A date. -/
def date? (text : List Char) : Option (List Char) := do
  let (year, text) ← fixed? 4 text
  let (month, text) ← field? 1 12 (← rest? ['-'] text)
  let (_, text) ← field? 1 (daysIn year month) (← rest? ['-'] text)
  return text

/-- A time of day. -/
def time? (text : List Char) : Option (List Char) := do
  let (_, text) ← field? 0 23 text
  let (_, text) ← field? 0 59 (← rest? [':'] text)
  let (_, text) ← field? 0 60 (← rest? [':'] text)
  match text with
  | '.' :: fraction =>
    if (fraction.takeWhile Char.isDigit).isEmpty then return text
    else return fraction.dropWhile Char.isDigit
  | _ => return text

/-- The distance of a time from universal time. -/
def offset? : List Char → Option (List Char)
  | c :: text => do
    if c == 'Z' || c == 'z' then return text
    else if c == '+' || c == '-' then
      let (_, text) ← field? 0 23 text
      let (_, text) ← field? 0 59 (← rest? [':'] text)
      return text
    else none
  | [] => none

/-- The time behind a date, with an offset or without one. -/
def timeOfDate? : List Char → Option (List Char)
  | c :: text => do
    if c == 'T' || c == 't' || c == ' ' then
      let rest ← time? text
      return (offset? rest).getD rest
    else none
  | [] => none

/-- A date, a date with a time, or a time alone. -/
def moment? (text : List Char) : Option (List Char) :=
  match date? text with
  | some rest => some ((timeOfDate? rest).getD rest)
  | none => time? text

/-! ## Scalars -/

/-- What follows a scalar at the front of a text. -/
def scalar? (text : List Char) : Option (List Char) :=
  moment? text <|> fractional? text <|> special? text <|> whole? text <|>
    rest? "true".toList text <|> rest? "false".toList text

end RdfGateway.Toml
