/-!
# Filter expressions

The text of a filter is kept as it is and written between parentheses. It is accepted when its
brackets match outside quoted strings and it holds no control character but the tab, so that the
parenthesis written after it closes the one written before it.
-/

namespace RdfGateway.Filter

/-- A control character. -/
def isControl (c : Char) : Bool :=
  c.toNat ≤ 0x1F || (0x7F ≤ c.toNat && c.toNat ≤ 0x9F)

/-- A character that may stand in a filter. -/
def isAllowed (c : Char) : Bool := !isControl c || c == '\t'

/-- The bracket that closes an opening one. -/
def closing? : Char → Option Char
  | '(' => some ')'
  | '{' => some '}'
  | '[' => some ']'
  | _ => none

/-- A quote of either kind. -/
def isQuote (c : Char) : Bool := c == '"' || c == '\''

/-- A closing bracket. -/
def isClosing (c : Char) : Bool := c == ')' || c == '}' || c == ']'

/-- Where a reader of the expression stands. -/
inductive Place where
  /-- Outside strings. -/
  | code
  /-- In a string that ends at the quote. -/
  | string (quote : Char)
  /-- In a string, just after a backslash. -/
  | escape (quote : Char)
  deriving DecidableEq

/-- One character read, with the brackets still to be closed, innermost first. -/
def step (place : Place) (expected : List Char) (c : Char) : Option (Place × List Char) :=
  if !isAllowed c then none
  else
    match place with
    | .escape quote => some (.string quote, expected)
    | .string quote =>
      if c = '\\' then some (.escape quote, expected)
      else if c = quote then some (.code, expected)
      else some (.string quote, expected)
    | .code =>
      if isQuote c then some (.string c, expected)
      else
        match closing? c with
        | some close => some (.code, close :: expected)
        | none =>
          if isClosing c then
            match expected with
            | close :: rest => if c = close then some (.code, rest) else none
            | [] => none
          else some (.code, expected)

/-- The rest of the expression closes the brackets that are open. -/
def closes (place : Place) (expected : List Char) : List Char → Bool
  | [] => place == .code && expected.isEmpty
  | c :: text =>
    match step place expected c with
    | some (place, expected) => closes place expected text
    | none => false

/-- The expression stays inside the parentheses it is written in. -/
def isContained (expression : List Char) : Bool := closes .code [] expression

end RdfGateway.Filter
