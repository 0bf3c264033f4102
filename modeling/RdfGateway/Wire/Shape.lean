import RdfGateway.Json.Basic

/-!
# The shapes of values in JSON

A value with named parts is an object or an array of its parts in order; a value of several kinds
is an object with a tag and a content, or an array of the two. Members without a meaning are
passed over, members with one may not repeat. Every reader takes the number of arrays and objects
that may still be nested.
-/

namespace RdfGateway.Wire

/-- The number of arrays and objects that may be nested in a text. -/
def maxDepth : Nat := 127

/-- The members of an object, when every key has a text. -/
def keyed? (members : List (Option String × Json)) : Option (List (String × Json)) :=
  members.mapM fun (key, value) => key.map (·, value)

/-- The value of a member: none when it is absent, and no answer when it is repeated. -/
def member? (members : List (String × Json)) (name : String) : Option (Option Json) :=
  match members.filter (·.1 = name) with
  | [] => some none
  | [(_, value)] => some (some value)
  | _ => none

/-- The named parts of an object, or of an array that holds them in order and may end early. -/
def parts? (names : List String) : Json → Option (List (Option Json))
  | .object members => do names.mapM (member? (← keyed? members))
  | .array items =>
    if items.length ≤ names.length then
      some (items.map some ++ .replicate (names.length - items.length) none)
    else none
  | _ => none

/-- The named parts of an object. -/
def objectParts? (names : List String) : Json → Option (List (Option Json))
  | .object members => do names.mapM (member? (← keyed? members))
  | _ => none

/-- The text of a tag: a string, or an object whose one member is null. -/
def tag? : Nat → Json → Option String
  | _, .string text => text
  | _ + 1, .object [(key, .null)] => key
  | _, _ => none

/-- The tag and the content of a value, the content with the nesting that it may have. A content
that stands before its tag is gone through whole before the tag gives it a meaning. -/
def tagged? (tagName contentName : String) (depth : Nat) : Json → Option (String × Option Json)
  | .object members => do
    let relevant := (← keyed? members).filter fun member =>
      member.1 = tagName || member.1 = contentName
    match relevant with
    | [(a, tag)] => if a = tagName then (·, none) <$> tag? depth tag else none
    | [(a, first), (b, second)] =>
      if a = tagName && b = contentName then (·, some second) <$> tag? depth first
      else if a = contentName && b = tagName && first.isReadable depth then
        (·, some first) <$> tag? depth second
      else none
    | _ => none
  | .array [tag, content] => (·, some content) <$> tag? depth tag
  | _ => none

/-- A list of values. -/
def list? {α : Type} (item? : Nat → Json → Option α) : Nat → Json → Option (List α)
  | depth + 1, .array items => items.mapM (item? depth)
  | _, _ => none

/-- A value, or none where null stands for it. -/
def nullable? {α : Type} (value? : Json → Option α) : Json → Option (Option α)
  | .null => some none
  | json => some <$> value? json

/-- A part that may be absent, and then has a value of its own. -/
def withDefault? {α : Type} (value? : Json → Option α) (default : α) : Option Json → Option α
  | some json => value? json
  | none => some default

/-- A list of texts. -/
def texts? : Nat → Json → Option (List String) := list? fun _ => Json.asText?

end RdfGateway.Wire
