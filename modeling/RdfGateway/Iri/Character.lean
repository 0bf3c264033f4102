/-!
# The characters of IRIs

The character classes of the IRI grammar. A percent sign stands only before two hexadecimal
digits; `encodes` reads a run of characters of one class with such triplets between them.

* `encodes_cons_of_ne`: a character that starts no triplet is read on its own.
-/

namespace RdfGateway.Iri

/-- A hexadecimal digit of either case. -/
def isHexDigit (c : Char) : Bool :=
  c.isDigit || ('a' ≤ c && c ≤ 'f') || ('A' ≤ c && c ≤ 'F')

/-- The characters outside ASCII that may stand anywhere in an IRI. -/
def isWide (c : Char) : Bool :=
  let n := c.toNat
  (0xA0 ≤ n && n ≤ 0xD7FF) || (0xF900 ≤ n && n ≤ 0xFDCF) || (0xFDF0 ≤ n && n ≤ 0xFFEF) ||
    (0x10000 ≤ n && n ≤ 0xEFFFD && n % 0x10000 ≤ 0xFFFD && !(0xE0000 ≤ n && n ≤ 0xE0FFF))

/-- The private-use characters, which may stand in a query only. -/
def isPrivate (c : Char) : Bool :=
  let n := c.toNat
  (0xE000 ≤ n && n ≤ 0xF8FF) || (0xF0000 ≤ n && n ≤ 0xFFFFD) || (0x100000 ≤ n && n ≤ 0x10FFFD)

/-- The unreserved characters of ASCII. -/
def isPlain (c : Char) : Bool :=
  c.isAlphanum || c == '-' || c == '.' || c == '_' || c == '~'

/-- The unreserved characters. -/
def isUnreserved (c : Char) : Bool := isPlain c || isWide c

/-- The characters that delimit within a component. -/
def isSubDelimiter (c : Char) : Bool := "!$&'()*+,;=".toList.contains c

/-- The characters of a path segment other than the percent sign. -/
def isSegmentChar (c : Char) : Bool :=
  isUnreserved c || isSubDelimiter c || c == ':' || c == '@'

/-- The characters of a path other than the percent sign. -/
def isPathChar (c : Char) : Bool := isSegmentChar c || c == '/'

/-- The characters of a query other than the percent sign. -/
def isQueryChar (c : Char) : Bool := isPathChar c || c == '?' || isPrivate c

/-- The characters of a fragment other than the percent sign. -/
def isFragmentChar (c : Char) : Bool := isPathChar c || c == '?'

/-- The characters of user information other than the percent sign. -/
def isUserChar (c : Char) : Bool := isUnreserved c || isSubDelimiter c || c == ':'

/-- The characters of a registered host name other than the percent sign. -/
def isHostChar (c : Char) : Bool := isUnreserved c || isSubDelimiter c

/-- A character that may follow the first one in a scheme. -/
def isSchemeChar (c : Char) : Bool := c.isAlphanum || c == '+' || c == '-' || c == '.'

/-- The text is a scheme: a letter, then letters, digits and `+`, `-`, `.`. -/
def isScheme : List Char → Bool
  | [] => false
  | c :: text => c.isAlpha && text.all isSchemeChar

/-- Every character is of the class, or belongs to a percent sign and two hexadecimal digits. -/
def encodes (ok : Char → Bool) : List Char → Bool
  | [] => true
  | '%' :: a :: b :: text => isHexDigit a && isHexDigit b && encodes ok text
  | c :: text => c != '%' && ok c && encodes ok text

theorem encodes_cons_of_ne {ok : Char → Bool} {c : Char} {text : List Char} (h : c ≠ '%') :
    encodes ok (c :: text) = (ok c && encodes ok text) := by
  have e := encodes.eq_3 ok c text (fun a b rest hc => absurd hc h)
  rw [e, bne_iff_ne.2 h, Bool.true_and]

end RdfGateway.Iri
