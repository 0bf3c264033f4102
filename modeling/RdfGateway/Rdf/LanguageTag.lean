import RdfGateway.Text.Cut

/-!
# Language tags

`isWellFormedTag` is the grammar of BCP 47 on tags of any case: language, extended language,
script, region, variants, extensions and private use, a tag of private use alone, or one of the
tags that were registered before that grammar.
-/

namespace RdfGateway.LanguageTag

open RdfGateway.Text

/-- The registered tags that do not follow the grammar. -/
def grandfathered : List String :=
  ["art-lojban", "cel-gaulish", "en-gb-oed", "i-ami", "i-bnn", "i-default", "i-enochian", "i-hak",
    "i-klingon", "i-lux", "i-mingo", "i-navajo", "i-pwn", "i-tao", "i-tay", "i-tsu", "no-bok",
    "no-nyn", "sgn-be-fr", "sgn-be-nl", "sgn-ch-de", "zh-guoyu", "zh-hakka", "zh-min",
    "zh-min-nan", "zh-xiang"]

/-- A subtag of letters and digits with a length between two bounds. -/
def isSubtag (low high : Nat) (text : List Char) : Bool :=
  low ≤ text.length && text.length ≤ high && text.all Char.isAlphanum

/-- A subtag of letters with a length between two bounds. -/
def isLetters (low high : Nat) (text : List Char) : Bool :=
  low ≤ text.length && text.length ≤ high && text.all Char.isAlpha

/-- A variant: five to eight characters, or four that begin with a digit. -/
def isVariant (text : List Char) : Bool :=
  isSubtag 5 8 text || (isSubtag 4 4 text && (text.head?.map Char.isDigit).getD false)

/-- A region: two letters or three digits. -/
def isRegion (text : List Char) : Bool :=
  isLetters 2 2 text || (text.length == 3 && text.all Char.isDigit)

/-- The subtags after one optional subtag of a kind. -/
def dropOne (kind : List Char → Bool) : List (List Char) → List (List Char)
  | [] => []
  | subtag :: rest => if kind subtag then rest else subtag :: rest

/-- The subtags after a language: up to three extended languages follow a short one. -/
def dropExtended (language : List Char) (rest : List (List Char)) : List (List Char) :=
  if language.length ≤ 3 then dropOne (isLetters 3 3) (dropOne (isLetters 3 3)
    (dropOne (isLetters 3 3) rest))
  else rest

/-- Private use: the singleton `x`, then subtags. -/
def isPrivateUse : List (List Char) → Bool
  | [] => false
  | x :: rest => (x == ['x'] || x == ['X']) && !rest.isEmpty && rest.all (isSubtag 1 8)

/-- Where a subtag after the variants stands. -/
inductive Phase where
  /-- Before any extension. -/
  | outside
  /-- After a singleton that has no subtag yet. -/
  | waiting
  /-- After a subtag of an extension. -/
  | inside
  deriving DecidableEq

/-- The subtags of extensions, each a singleton and subtags of its own, and of private use. -/
def isExtended : Phase → List (List Char) → Bool
  | phase, [] => phase != .waiting
  | phase, subtag :: rest =>
    if subtag.length = 1 then
      phase != .waiting && (isPrivateUse (subtag :: rest) ||
        (subtag != ['x'] && subtag != ['X'] && isSubtag 1 1 subtag && isExtended .waiting rest))
    else phase != .outside && isSubtag 2 8 subtag && isExtended .inside rest

/-- A tag with a language. -/
def isLanguageTag : List (List Char) → Bool
  | [] => false
  | language :: rest =>
    isLetters 2 8 language &&
      isExtended .outside
        ((dropOne isRegion (dropOne (isLetters 4 4) (dropExtended language rest))).dropWhile
          isVariant)

/-- A tag of private use alone: `x-`, then any letters, digits and hyphens. -/
def isPrivateTag : List Char → Bool
  | x :: '-' :: text =>
    (x == 'x' || x == 'X') && !text.isEmpty && text.all fun c => c.isAlphanum || c == '-'
  | _ => false

/-- The text is a language tag of BCP 47. -/
def isWellFormedTag (text : List Char) : Bool :=
  grandfathered.contains (String.ofList (text.map Char.toLower)) || isPrivateTag text ||
    isLanguageTag (pieces '-' text)

end RdfGateway.LanguageTag
