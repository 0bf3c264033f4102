import RdfGateway.Rdf.Term
import Std.Data.ExtTreeSet.Lemmas

/-!
# Sets of statements

Statements are put in an order by their texts, and a set of them is a search tree for this order.
Two sets with the same members are equal, however their trees have grown.

* `Term.key_injective`, `Triple.key_injective`: the texts tell terms and statements apart.
-/

namespace RdfGateway

/-- The texts of a term behind the name of its kind. -/
def Term.key : Term → List (Option String)
  | .iri text => [some "iri", some text]
  | .blank label => [some "blank", some label]
  | .literal content =>
    [some "literal", some content.lexical, content.datatype, content.language]
  | .variable name => [some "variable", some name]

theorem Term.key_injective {term other : Term} (h : term.key = other.key) : term = other := by
  cases term <;> cases other <;> simp_all [key]
  case literal.literal content more =>
    cases content
    cases more
    simp_all

/-- The texts of a statement. -/
def Triple.key (triple : Triple) : List (List (Option String)) :=
  [triple.subject.key, triple.predicate.key, triple.object.key]

theorem Triple.key_injective {triple other : Triple} (h : triple.key = other.key) :
    triple = other := by
  obtain ⟨subject, predicate, object⟩ := triple
  obtain ⟨subject', predicate', object'⟩ := other
  simp only [key, List.cons.injEq, and_true] at h
  obtain ⟨hsubject, hpredicate, hobject⟩ := h
  rw [Term.key_injective hsubject, Term.key_injective hpredicate, Term.key_injective hobject]

instance : Ord Triple := ⟨compareOn Triple.key⟩

instance : Std.TransOrd Triple := inferInstanceAs (Std.TransCmp (compareOn Triple.key))

instance : Std.LawfulEqOrd Triple where
  eq_of_compare h :=
    Triple.key_injective (Std.LawfulEqOrd.eq_of_compare (α := List (List (Option String))) h)

/-- A finite set of statements. -/
abbrev StatementSet := Std.ExtTreeSet Triple

end RdfGateway
