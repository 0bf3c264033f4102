import RdfGateway.Iri.Character
import RdfGateway.Text.Cut

/-!
# Internet addresses

The texts of addresses. `isIPv4` and `isIPv6` are the usual written forms; an address in square
brackets of an IRI reference is read by them. `isBracketed` is the narrower set of forms that an
absolute IRI of this library may have in brackets: groups before a `::` are followed by one more
colon there, so `::1` is such a form and `2001:db8::1` is not.
-/

namespace RdfGateway.Iri

open RdfGateway.Text

/-- The number written by decimal digits. -/
def decimalValue (digits : List Char) : Nat :=
  digits.foldl (fun n c => 10 * n + (c.toNat - '0'.toNat)) 0

/-- A number up to 255 without leading zeros. -/
def isOctet (text : List Char) : Bool :=
  text.all Char.isDigit && 1 ≤ text.length && text.length ≤ 3 &&
    (text.length == 1 || text.head? != some '0') && decimalValue text ≤ 255

/-- Four octets with dots between them. -/
def isIPv4 (text : List Char) : Bool :=
  let octets := pieces '.' text
  octets.length == 4 && octets.all isOctet

/-- A group of one to four hexadecimal digits. -/
def isGroup (text : List Char) : Bool :=
  text.all isHexDigit && 1 ≤ text.length && text.length ≤ 4

/-- The last 32 bits of an address: two groups or four octets. -/
def isLast32 : List (List Char) → Bool
  | [text] => isIPv4 text
  | [a, b] => isGroup a && isGroup b
  | _ => false

/-- Some groups, then the last 32 bits. -/
def isGroupsThenLast32 (count : Nat) (groups : List (List Char)) : Bool :=
  (groups.take count).length == count && (groups.take count).all isGroup &&
    isLast32 (groups.drop count)

/-- The ways to divide a list at an empty piece. -/
def gaps : List (List Char) → List (List (List Char) × List (List Char))
  | [] => []
  | piece :: rest =>
    let later := (gaps rest).map fun (before, after) => (piece :: before, after)
    if piece = [] then ([], rest) :: later else later

/-! ## The usual written form -/

/-- Groups of which the last may be four octets, with the number of 16-bit units they fill. -/
def units? (groups : List (List Char)) : Option Nat :=
  match groups.getLast? with
  | none => some 0
  | some last =>
    if groups.all isGroup then some groups.length
    else if groups.dropLast.all isGroup && isIPv4 last then some (groups.length + 1)
    else none

/-- The pieces beside a `::`, none when nothing stands there. -/
def besideGap : List (List Char) → List (List Char)
  | [[]] => []
  | groups => groups

/-- An address in its usual form: eight units, or fewer with one `::` for the missing ones. -/
def isIPv6 (text : List Char) : Bool :=
  let groups := pieces ':' text
  units? groups == some 8 && !groups.contains [] ||
    (gaps groups).any fun (before, after) =>
      match before, after with
      | [], _ => false
      | _, [] => false
      | _, _ =>
        let before := besideGap before
        before.all isGroup &&
          match units? (besideGap after) with
          | some n => !(besideGap after).contains [] && before.length + n ≤ 7
          | none => false

/-- An address of a later version: `v`, a hexadecimal version, a dot, and its own text. -/
def isLaterAddress (version : Char → Bool) (body : Char → Bool) : List Char → Bool
  | v :: text =>
    match cut '.' text with
    | (number, some address) =>
      version v && !number.isEmpty && number.all isHexDigit && !address.isEmpty && address.all body
    | (_, none) => false
  | [] => false

/-! ## The forms in brackets of an absolute IRI -/

/-- What follows `::` when up to `n` groups and a colon may stand before it. -/
def followsGap (n : Nat) (after : List (List Char)) : Bool :=
  match n with
  | 0 => isGroupsThenLast32 4 after
  | 1 => isGroupsThenLast32 3 after
  | 2 => isGroupsThenLast32 2 after
  | 3 => isGroupsThenLast32 1 after
  | 4 => isLast32 after
  | 5 => after.length == 1 && after.all isGroup
  | 6 => after == [[]]
  | _ => false

/-- What stands before `::`: up to `n` groups, each with its colon, then a colon and a group. -/
def precedesGap (n : Nat) (before : List (List Char)) : Bool :=
  (gaps before).any fun (groups, last) =>
    groups.length ≤ n && groups.all isGroup && last.length == 1 && last.all isGroup

/-- A version 6 address as an absolute IRI may write it. -/
def isBracketedIPv6 (text : List Char) : Bool :=
  let groups := pieces ':' text
  isGroupsThenLast32 6 groups ||
    (gaps groups).any fun (before, after) =>
      before == [[]] &&
          (isGroupsThenLast32 5 after || (List.range 7).any fun n => followsGap n after) ||
        before.length == 1 && before.all isGroup && followsGap 0 after ||
        (List.range 7).any fun n => 1 ≤ n && precedesGap n before && followsGap n after

/-- The text between the brackets of an absolute IRI's host. -/
def isBracketed (text : List Char) : Bool :=
  isLaterAddress (· == 'v') (fun c => isPlain c || isSubDelimiter c || c == ':') text ||
    isBracketedIPv6 text

end RdfGateway.Iri
