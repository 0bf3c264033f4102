import RdfGateway.Text.Alphabetic
import RdfGateway.Text.Cut
import RdfGateway.Text.Numeric

/-!
# Names

The grammars of blank node labels, variable names, language tags and prefix labels as far as they
are checked before a request is written out. The three classes `startsName`, `isNameStart` and
`isNameChar` are also those of the Turtle and N-Triples readers.
-/

namespace RdfGateway.Name

open RdfGateway.Text

/-- A letter that may begin any name. -/
def startsName (c : Char) : Bool :=
  let n := c.toNat
  c.isAlpha || (0xC0 ≤ n && n ≤ 0xD6) || (0xD8 ≤ n && n ≤ 0xF6) || (0xF8 ≤ n && n ≤ 0x2FF) ||
    (0x370 ≤ n && n ≤ 0x37D) || (0x37F ≤ n && n ≤ 0x1FFF) || (0x200C ≤ n && n ≤ 0x200D) ||
    (0x2070 ≤ n && n ≤ 0x218F) || (0x2C00 ≤ n && n ≤ 0x2FEF) || (0x3001 ≤ n && n ≤ 0xD7FF) ||
    (0xF900 ≤ n && n ≤ 0xFDCF) || (0xFDF0 ≤ n && n ≤ 0xFFFD) || (0x10000 ≤ n && n ≤ 0xEFFFF)

/-- The first character of a label or of a variable name. -/
def isNameStart (c : Char) : Bool := startsName c || c == '_' || c.isDigit

/-- A later character of a variable name. -/
def isVariableChar (c : Char) : Bool :=
  let n := c.toNat
  isNameStart c || n == 0xB7 || (0x300 ≤ n && n ≤ 0x36F) || (0x203F ≤ n && n ≤ 0x2040)

/-- A later character of a label. -/
def isNameChar (c : Char) : Bool := isVariableChar c || c == '-'

/-- Name characters, and single dots before name characters. -/
def isLabelTail : List Char → Bool
  | [] => true
  | '.' :: c :: text => isNameChar c && isLabelTail text
  | c :: text => isNameChar c && isLabelTail text

/-- A blank node label. -/
def isBlankLabel : List Char → Bool
  | [] => false
  | c :: text => isNameStart c && isLabelTail text

/-- A variable name. -/
def isVariableName : List Char → Bool
  | [] => false
  | c :: text => isNameStart c && text.all isVariableChar

/-- A language tag: subtags of letters and digits, the first character a letter. -/
def isLanguageTag (text : List Char) : Bool :=
  (pieces '-' text).all (fun subtag => !subtag.isEmpty && subtag.all Char.isAlphanum) &&
    (text.head?.map Char.isAlpha).getD false

/-- A letter or digit of any script. -/
def isAlphanumeric (c : Char) : Bool := isAlphabetic c || isNumeric c

/-- A prefix label: empty, or a letter, then letters, digits and `_`, `-`, `.`, and no dot at the
end. -/
def isPrefixLabel : List Char → Bool
  | [] => true
  | c :: text =>
    isAlphabetic c && text.all (fun c => isAlphanumeric c || c == '_' || c == '-' || c == '.') &&
      text.getLast? != some '.'

end RdfGateway.Name
