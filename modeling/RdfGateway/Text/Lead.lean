/-!
# Texts that begin with a given text

`rest?` takes a given text off the front of another one. It is the one comparison behind
namespaces, identifier domains and the keywords of the readers.

* `rest?_eq_some_iff`: taking the front off succeeds exactly when the whole is front and rest.
-/

namespace RdfGateway.Text

/-- What follows `lead` in a text that begins with it. -/
def rest? {α : Type} [DecidableEq α] : List α → List α → Option (List α)
  | [], text => some text
  | _ :: _, [] => none
  | a :: lead, b :: text => if a = b then rest? lead text else none

theorem rest?_eq_some_iff {α : Type} [DecidableEq α] {lead text rest : List α} :
    rest? lead text = some rest ↔ text = lead ++ rest := by
  induction lead generalizing text with
  | nil => simp [rest?]
  | cons a lead ih =>
    cases text with
    | nil => simp [rest?]
    | cons b text =>
      by_cases h : a = b
      · simp [rest?, h, ih]
      · simp [rest?, h, Ne.symm h]

@[simp] theorem rest?_append {α : Type} [DecidableEq α] (lead rest : List α) :
    rest? lead (lead ++ rest) = some rest :=
  rest?_eq_some_iff.2 rfl

/-- A text begins with another one. -/
def beginsWith (text lead : String) : Bool :=
  (rest? lead.toList text.toList).isSome

theorem beginsWith_iff {text lead : String} :
    beginsWith text lead = true ↔ ∃ rest, text.toList = lead.toList ++ rest := by
  simp [beginsWith, Option.isSome_iff_exists, rest?_eq_some_iff]

end RdfGateway.Text
