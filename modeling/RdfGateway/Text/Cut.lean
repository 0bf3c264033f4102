/-!
# Cutting at a mark

`cut` divides a text at the first occurrence of a mark, `pieces` at every occurrence.

* `cut_eq_none_iff`, `cut_eq_some_iff`: the first part holds no mark, and the parts around the mark
  make up the text.
-/

namespace RdfGateway.Text

/-- The text before the first mark, and the text after it when there is a mark. -/
def cut {α : Type} [DecidableEq α] (mark : α) : List α → List α × Option (List α)
  | [] => ([], none)
  | c :: text =>
    if c = mark then ([], some text)
    else
      let (before, after) := cut mark text
      (c :: before, after)

/-- The texts between the marks: one more than there are marks. -/
def pieces {α : Type} [DecidableEq α] (mark : α) : List α → List (List α)
  | [] => [[]]
  | c :: text =>
    if c = mark then [] :: pieces mark text
    else
      match pieces mark text with
      | [] => [[c]]
      | piece :: rest => (c :: piece) :: rest

variable {α : Type} [DecidableEq α] {mark : α}

theorem cut_eq_none_iff {text before : List α} :
    cut mark text = (before, none) ↔ before = text ∧ mark ∉ text := by
  induction text generalizing before with
  | nil => simp [cut, eq_comm]
  | cons c text ih =>
    by_cases h : c = mark
    · simp [cut, h]
    · obtain ⟨b, a, hc⟩ : ∃ b a, cut mark text = (b, a) := ⟨_, _, rfl⟩
      have ih' := @ih b
      rw [hc] at ih'
      simp only [cut, if_neg h, hc, Prod.mk.injEq, List.mem_cons, not_or]
      constructor
      · rintro ⟨rfl, rfl⟩
        obtain ⟨rfl, hm⟩ := ih'.1 rfl
        exact ⟨rfl, fun e => h e.symm, hm⟩
      · rintro ⟨rfl, -, hm⟩
        cases a with
        | none => exact ⟨congrArg (c :: ·) (ih'.1 rfl).1, rfl⟩
        | some a =>
          have := (@ih text).2 ⟨rfl, hm⟩
          rw [hc] at this
          simp at this

theorem cut_eq_some_iff {text before after : List α} :
    cut mark text = (before, some after) ↔ text = before ++ mark :: after ∧ mark ∉ before := by
  induction text generalizing before with
  | nil => simp [cut]
  | cons c text ih =>
    by_cases h : c = mark
    · subst h
      cases before with
      | nil => simp [cut, eq_comm]
      | cons b before => simp [cut]; rintro rfl _; simp
    · cases before with
      | nil => simp [cut, h]
      | cons b before =>
        have ih' := @ih before
        simp only [cut, if_neg h, Prod.mk.injEq, List.cons.injEq, List.cons_append, List.mem_cons,
          not_or]
        rw [Prod.ext_iff] at ih'
        constructor
        · rintro ⟨⟨rfl, hb⟩, ha⟩
          obtain ⟨ht, hm⟩ := ih'.1 ⟨hb, ha⟩
          exact ⟨⟨rfl, ht⟩, fun e => h e.symm, hm⟩
        · rintro ⟨⟨rfl, ht⟩, -, hm⟩
          obtain ⟨hb, ha⟩ := ih'.2 ⟨ht, hm⟩
          exact ⟨⟨rfl, hb⟩, ha⟩

end RdfGateway.Text
