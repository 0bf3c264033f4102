import RdfGateway.Policy.Basic
import RdfGateway.Wire.Shape

/-!
# Policies in JSON

A policy is an object of five lists, each written in order. A list that is absent is the one of the
policy that manages nothing; a member without a meaning is refused.
-/

namespace RdfGateway

open Wire

/-- The names of the lists of a policy. -/
def Policy.listNames : List String :=
  ["managed_namespaces", "managed_predicates", "restricted_types", "relaxable_types",
    "type_predicates"]

/-- The policy of five lists, each of which may be absent. -/
def Policy.ofLists? : List (Option (List String)) → Option Policy
  | [namespaces, predicates, restricted, relaxable, types] =>
    some {
      managedNamespaces := namespaces.elim empty.managedNamespaces .ofList
      managedPredicates := predicates.elim empty.managedPredicates .ofList
      restrictedTypes := restricted.elim empty.restrictedTypes .ofList
      relaxableTypes := relaxable.elim empty.relaxableTypes .ofList
      typePredicates := types.elim empty.typePredicates .ofList }
  | _ => none

/-- The five lists of a policy. -/
def Policy.toJson (policy : Policy) : Json :=
  .fields (listNames.zip ([policy.managedNamespaces, policy.managedPredicates,
    policy.restrictedTypes, policy.relaxableTypes, policy.typePredicates].map
      fun set => .texts set.toList))

/-- Every member of an object has one of the names. -/
def Wire.hasOnly (names : List String) : Json → Bool
  | .object members => members.all fun member => names.any (some · = member.1)
  | _ => true

/-- The policy that a value stands for. -/
def Policy.ofJson? : Nat → Json → Option Policy
  | 0, _ => none
  | depth + 1, json => do
    if !hasOnly listNames json then none
    else
      let parts ← parts? listNames json
      Policy.ofLists? (← parts.mapM (withDefault? (fun json => some <$> texts? depth json) none))

end RdfGateway
