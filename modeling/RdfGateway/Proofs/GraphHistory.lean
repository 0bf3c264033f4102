import Mathlib.Data.Finset.Card
import Mathlib.Data.Finset.Dedup
import RdfGateway.Wire.Statement

/-!
# How graphs come about

A graph begins anew, without statements, from a list or from JSON, and it goes on by insertions and
by being taken apart and collected again (`Graph.Step`). However it has come about, its list and its
index stay in step, and each of its operations tells the same of what was inserted, whichever of the
two it reads (`Graph.made_inStep`): the list for order and size, the index for membership, for the
answer of an insertion and for the comparison with another graph.

Proof. That list and index agree belongs to what a graph is, and an insertion has to show it of both
(`nodup_concat`, `mem_insert_index`). For what they hold, whatever begins a graph anew inserts into
the empty one, so that all comes down to a single insertion (`IsRecord.insert`): a statement that is
in the graph was inserted earlier and keeps its place, and any other one stands behind all that were
inserted before it.
-/

namespace RdfGateway

open Wire

namespace Graph

variable {graph : Graph} {history : List Triple} {triple other : Triple}

/-! ## Steps -/

/-- One step in the making of a graph. -/
inductive Step where
  /-- A new graph without statements. -/
  | create
  | insert (triple : Triple)
  | extend (triples : List Triple)
  /-- A new graph of the statements of a list, or of anything that yields them in this order. -/
  | collect (triples : List Triple)
  /-- A new graph from JSON. What does not stand for a graph leaves the one that there is. -/
  | read (depth : Nat) (json : Json)
  /-- The statements are taken out in their order and collected again. -/
  | recollect

/-- The graph after a step. -/
def Step.run (graph : Graph) : Step → Graph
  | .create => ∅
  | .insert triple => (graph.insert triple).1
  | .extend triples => graph.extend triples
  | .collect triples => ofList triples
  | .read depth json => (ofJson? depth json).getD graph
  | .recollect => ofList graph.triples

/-- The statements inserted after a step, in their order and with repetitions, when some were
inserted before it. -/
def Step.inserted (before : List Triple) : Step → List Triple
  | .create => []
  | .insert triple => before ++ [triple]
  | .extend triples => before ++ triples
  | .collect triples => triples
  | .read depth json => (list? Triple.ofJson? depth json).getD before
  | .recollect => before

/-- The graph that the steps make. -/
def made (steps : List Step) : Graph := steps.foldl Step.run ∅

/-- The statements that the steps insert into their graph since it was begun anew. -/
def inserted (steps : List Step) : List Triple := steps.foldl Step.inserted []

/-! ## The record of insertions -/

/-- One statement comes before another one in a list, each where it is found first. -/
def ComesBefore (history : List Triple) (triple other : Triple) : Prop :=
  history.idxOf triple < history.idxOf other

theorem ComesBefore.concat (h : ComesBefore history triple other) (ht : triple ∈ history)
    (ho : other ∈ history) (new : Triple) : ComesBefore (history ++ [new]) triple other := by
  unfold ComesBefore
  rw [List.idxOf_append_of_mem ht, List.idxOf_append_of_mem ho]
  exact h

theorem comesBefore_new (ht : triple ∈ history) (hnew : other ∉ history) :
    ComesBefore (history ++ [other]) triple other := by
  unfold ComesBefore
  rw [List.idxOf_append_of_mem ht, List.idxOf_append_of_notMem hnew]
  exact Nat.lt_add_right _ (List.idxOf_lt_length_of_mem ht)

/-- **The graph records what was inserted**: it has these statements and no others, in the order in
which each of them came first. -/
structure IsRecord (graph : Graph) (history : List Triple) : Prop where
  mem_iff : ∀ triple, triple ∈ graph ↔ triple ∈ history
  order : graph.triples.Pairwise (ComesBefore history)

theorem isRecord_empty : IsRecord ∅ [] := ⟨fun _ => Iff.rfl, .nil⟩

/-- An insertion is recorded. -/
theorem IsRecord.insert (h : graph.IsRecord history) (new : Triple) :
    (graph.insert new).1.IsRecord (history ++ [new]) := by
  have hkept : graph.triples.Pairwise (ComesBefore (history ++ [new])) :=
    h.order.imp_of_mem fun ht ho hbefore =>
      hbefore.concat ((h.mem_iff _).mp ht) ((h.mem_iff _).mp ho) new
  refine ⟨fun triple => ?_, ?_⟩
  · rw [mem_insert, h.mem_iff, List.mem_append, List.mem_singleton]
  · rw [triples_insert]
    by_cases hmem : new ∈ graph
    · rw [if_pos hmem]
      exact hkept
    · rw [if_neg hmem, List.pairwise_append]
      refine ⟨hkept, List.pairwise_singleton _ _, fun triple ht last hlast => ?_⟩
      obtain rfl := List.mem_singleton.mp hlast
      exact comesBefore_new ((h.mem_iff triple).mp ht) (mt (h.mem_iff last).mpr hmem)

theorem IsRecord.extend (h : graph.IsRecord history) (triples : List Triple) :
    (graph.extend triples).IsRecord (history ++ triples) := by
  induction triples generalizing graph history with
  | nil => rwa [List.append_nil]
  | cons triple triples ih =>
    have hrest := ih (h.insert triple)
    rwa [List.append_assoc] at hrest

theorem isRecord_ofList (triples : List Triple) : (ofList triples).IsRecord triples :=
  isRecord_empty.extend triples

/-- Every step is recorded. -/
theorem IsRecord.step (h : graph.IsRecord history) (step : Step) :
    (step.run graph).IsRecord (step.inserted history) := by
  cases step with
  | create => exact isRecord_empty
  | insert triple => exact h.insert triple
  | extend triples => exact h.extend triples
  | collect triples => exact isRecord_ofList triples
  | read depth json =>
    rw [Step.run, Step.inserted, ofJson?]
    cases list? Triple.ofJson? depth json with
    | none => exact h
    | some triples => exact isRecord_ofList triples
  | recollect =>
    rw [Step.run, ofList_triples]
    exact h

theorem IsRecord.steps (h : graph.IsRecord history) (steps : List Step) :
    (steps.foldl Step.run graph).IsRecord (steps.foldl Step.inserted history) := by
  induction steps generalizing graph history with
  | nil => exact h
  | cons step steps ih => exact ih (h.step step)

theorem isRecord_made (steps : List Step) : (made steps).IsRecord (inserted steps) :=
  isRecord_empty.steps steps

/-! ## What a record tells -/

namespace IsRecord

variable (h : graph.IsRecord history)
include h

theorem contains_iff (triple : Triple) : graph.contains triple = true ↔ triple ∈ history := by
  rw [Graph.contains_iff, h.mem_iff]

theorem size_eq : graph.size = history.toFinset.card := by
  have hset : graph.triples.toFinset = history.toFinset := by
    ext triple
    rw [List.mem_toFinset, List.mem_toFinset, ← mem_def, h.mem_iff]
  rw [← hset, List.toFinset_card_of_nodup graph.nodup, size]

theorem insert_snd_iff (triple : Triple) :
    (graph.insert triple).2 = true ↔ triple ∉ history := by
  rw [insert_snd, Bool.not_eq_true', decide_eq_false_iff_not, h.mem_iff]

theorem insert_fst_iff (triple : Triple) :
    (graph.insert triple).1 = graph ↔ triple ∈ history := by
  rw [← h.mem_iff]
  constructor
  · intro he
    rw [← he, mem_insert]
    exact .inr rfl
  · intro hmem
    rw [insert_of_mem hmem]

end IsRecord

/-- Two graphs hold the same statements when one list is a rearrangement of the other one. -/
theorem sameStatements_iff_perm {others : Graph} :
    graph.sameStatements others = true ↔ graph.triples.Perm others.triples := by
  rw [sameStatements_iff, List.perm_ext_iff_of_nodup graph.nodup others.nodup]
  exact Iff.rfl

/-- **List and index of a graph stay in step, however it has come about.** The list has no
repetition and the same members as the index; they are the statements that were inserted, in the
order of their first insertion. The size is the number of different ones, the index tells whether a
statement was inserted, and an insertion tells whether it is new and changes nothing when it is not.
Two graphs are equal exactly when one list is a rearrangement of the other one. -/
theorem made_inStep (steps : List Step) :
    (made steps).triples.Nodup ∧
    (∀ triple, triple ∈ (made steps).index ↔ triple ∈ (made steps).triples) ∧
    (made steps).IsRecord (inserted steps) ∧
    (made steps).size = (inserted steps).toFinset.card ∧
    (∀ triple, (made steps).contains triple = true ↔ triple ∈ inserted steps) ∧
    (∀ triple, ((made steps).insert triple).2 = true ↔ triple ∉ inserted steps) ∧
    (∀ triple, ((made steps).insert triple).1 = made steps ↔ triple ∈ inserted steps) ∧
    ∀ others, (made steps).sameStatements (made others) = true ↔
      (made steps).triples.Perm (made others).triples := by
  have h := isRecord_made steps
  exact ⟨(made steps).nodup, (made steps).mem_index, h, h.size_eq, h.contains_iff,
    h.insert_snd_iff, h.insert_fst_iff, fun _ => sameStatements_iff_perm⟩

end Graph

end RdfGateway
