import RdfGateway.Proofs.UpdateLexemes
import RdfGateway.Sparql.Printer

/-!
# What keeps a filter between its parentheses

The check of a filter knows brackets and short strings. A reader of the update also knows IRIs,
long strings and comments, so an accepted filter may close the parenthesis it is written in, or
take what is written after it along. `staysInside_iff` says when an accepted filter stays inside:
it ends outside strings and comments, and the check still accepts what remains when IRIs and long
strings are emptied.

Proof. The checker and the reader are run side by side, one lexeme at a time. On a short string
and on a single character both do the same (`run_emptied`), so on emptied lexemes the stack of the
checker is the stack of the reader (`isContained_flatMap`). When the last lexeme of the filter has
its end, what is written after the filter is read as it stands (`staysInside_of_endsOutside`).
-/

namespace RdfGateway.Filter

open Sparql Text

/-! ## Runs of the checker -/

/-- Where the checker stands after a text, with the brackets still to be closed. -/
def run (place : Place) (expected : List Char) : List Char → Option (Place × List Char)
  | [] => some (place, expected)
  | c :: text => (step place expected c).bind fun (place, expected) => run place expected text

theorem run_cons {place next : Place} {expected left : List Char} {c : Char}
    (h : step place expected c = some (next, left)) (text : List Char) :
    run place expected (c :: text) = run next left text := by
  rw [run, h]
  rfl

theorem run_append (front back : List Char) :
    ∀ (place : Place) (expected : List Char), run place expected (front ++ back) =
      (run place expected front).bind fun (place, expected) => run place expected back := by
  induction front with
  | nil => exact fun _ _ => rfl
  | cons c front ih =>
    intro place expected
    rw [List.cons_append, run, run]
    cases step place expected c with
    | none => rfl
    | some next => exact ih next.1 next.2

theorem closes_iff (text : List Char) :
    ∀ (place : Place) (expected : List Char),
      closes place expected text = true ↔ run place expected text = some (.code, []) := by
  induction text with
  | nil =>
    intro place expected
    simp [closes, run]
  | cons c text ih =>
    intro place expected
    rw [closes, run]
    cases step place expected c with
    | none => simp
    | some next => exact ih next.1 next.2

theorem isContained_iff {text : List Char} :
    isContained text = true ↔ run .code [] text = some (.code, []) :=
  closes_iff text .code []

theorem isAllowed_of_run (text : List Char) :
    ∀ (place : Place) (expected : List Char), (run place expected text).isSome = true →
      ∀ c ∈ text, isAllowed c = true := by
  induction text with
  | nil => exact fun _ _ _ _ hc => absurd hc List.not_mem_nil
  | cons c text ih =>
    intro place expected h
    rw [run] at h
    cases hs : step place expected c with
    | none =>
      rw [hs] at h
      cases h
    | some next =>
      rw [hs] at h
      have hc : isAllowed c = true := by
        by_contra hc
        rw [step.eq_def, if_pos (by simpa using hc)] at hs
        cases hs
      exact List.forall_mem_cons.mpr ⟨hc, ih next.1 next.2 h⟩

theorem isAllowed_of_isContained {text : List Char} (h : isContained text = true) :
    ∀ c ∈ text, isAllowed c = true :=
  isAllowed_of_run text .code [] (by rw [isContained_iff.mp h]; rfl)

section steps
variable {expected : List Char} {c quote : Char}

theorem isQuote_cases (h : isQuote quote = true) : quote = '"' ∨ quote = '\'' := by
  simpa [isQuote] using h

theorem step_code_quote (h : isQuote quote = true) :
    step .code expected quote = some (.string quote, expected) := by
  rcases isQuote_cases h with rfl | rfl <;> rfl

theorem step_string_quote (h : isQuote quote = true) :
    step (.string quote) expected quote = some (.code, expected) := by
  rcases isQuote_cases h with rfl | rfl <;> rfl

theorem step_string_other (ha : isAllowed c = true) (hs : c ≠ '\\') (hq : c ≠ quote) :
    step (.string quote) expected c = some (.string quote, expected) := by
  simp [step, ha, hs, hq]

theorem step_string_backslash :
    step (.string quote) expected '\\' = some (.escape quote, expected) := rfl

theorem step_escape (ha : isAllowed c = true) :
    step (.escape quote) expected c = some (.string quote, expected) := by
  simp [step, ha]

theorem step_code_mark (ha : isAllowed c = true) (hq : isQuote c = false) :
    step .code expected c = (Lexeme.step expected (.mark c)).map (Prod.mk .code) := by
  simp only [step, ha, hq, Lexeme.step, Bool.not_true, Bool.false_eq_true, if_false]
  cases closing? c with
  | some close => rfl
  | none =>
    cases isClosing c with
    | false => rfl
    | true =>
      cases expected with
      | nil => rfl
      | cons close outer => by_cases he : c = close <;> simp [he]

end steps

/-- The checker leaves a short string where a reader does. -/
theorem run_string {quote : Char} {text body rest : List Char} (hq : isQuote quote = true)
    (h : (shortEnclosure quote).body? text = some (body, rest))
    (ha : ∀ c ∈ body, isAllowed c = true) (expected : List Char) :
    run (.string quote) expected (body ++ [quote]) = some (.code, expected) := by
  fun_induction (shortEnclosure quote).body? text generalizing body with
  | case1 => cases h
  | case2 c text _ hr =>
    cases h
    exact run_cons (step_string_quote hq) []
  | case3 => cases h
  | case4 c hs e text hr ih =>
    obtain ⟨⟨tail, _⟩, ht, he⟩ := Option.map_eq_some_iff.mp h
    cases he
    obtain ⟨-, rfl⟩ : _ ∧ c = '\\' := by simpa using hs
    rw [List.forall_mem_cons, List.forall_mem_cons] at ha
    rw [List.cons_append, List.cons_append, run_cons step_string_backslash,
      run_cons (step_escape ha.2.1)]
    exact ih ht ha.2.2
  | case5 c text hr hs hb ih =>
    obtain ⟨⟨tail, _⟩, ht, he⟩ := Option.map_eq_some_iff.mp h
    cases he
    have hbackslash : c ≠ '\\' := by simpa [shortEnclosure] using hs
    have hquote : c ≠ quote := by
      rintro rfl
      simp [shortEnclosure, rest?] at hr
    rw [List.forall_mem_cons] at ha
    rw [List.cons_append, run_cons (step_string_other ha.1 hbackslash hquote)]
    exact ih ht ha.2
  | case6 => cases h

/-- What was open before the checker began stays open below what it opens. -/
theorem step_below {place next : Place} {expected left : List Char} {c : Char}
    (h : step place expected c = some (next, left)) (outer : List Char) :
    step place (expected ++ outer) c = some (next, left ++ outer) := by
  by_cases ha : isAllowed c = true
  · cases place with
    | escape quote =>
      rw [step_escape ha] at h ⊢
      cases h
      rfl
    | string quote =>
      simp only [step, ha, Bool.not_true, Bool.false_eq_true, if_false] at h ⊢
      split_ifs at h ⊢ <;> cases h <;> rfl
    | code =>
      cases hq : isQuote c with
      | true =>
        rw [step_code_quote hq] at h ⊢
        cases h
        rfl
      | false =>
        rw [step_code_mark ha hq, Option.map_eq_some_iff] at h
        obtain ⟨_, hstep, hnext⟩ := h
        cases hnext
        rw [step_code_mark ha hq, Lexeme.step_below hstep]
        rfl
  · rw [step.eq_def, if_pos (by simpa using ha)] at h
    cases h

theorem run_below (text : List Char) :
    ∀ {place next : Place} {expected left : List Char},
      run place expected text = some (next, left) →
        ∀ outer, run place (expected ++ outer) text = some (next, left ++ outer) := by
  induction text with
  | nil =>
    rintro place next expected left ⟨⟩ outer
    rfl
  | cons c text ih =>
    intro place next expected left h outer
    obtain ⟨⟨between, middle⟩, hstep, hrest⟩ := Option.bind_eq_some_iff.mp h
    rw [run_cons (step_below hstep outer)]
    exact ih hrest outer

/-! ## The lexemes of an accepted filter -/

/-- The lexemes that a text without line breaks can have: no comment ends, and quotes only stand
around strings. -/
def Formed : Lexeme → Prop
  | .iri _ | .unended _ => True
  | .string quote body => isQuote quote = true ∧ (∀ c ∈ body, isAllowed c = true) ∧
      ∃ text rest, (shortEnclosure quote).body? text = some (body, rest)
  | .longString quote _ => isQuote quote = true
  | .comment _ => False
  | .mark c => isAllowed c = true ∧ isQuote c = false

theorem staysInLine_of_isAllowed {c : Char} (h : isAllowed c = true) : staysInLine c = true := by
  by_contra hc
  obtain rfl | rfl : c = '\n' ∨ c = '\r' := by
    simpa [staysInLine, or_iff_not_imp_left] using hc
  all_goals exact absurd h (by decide)

theorem formed_first {c : Char} {text : List Char} (h : ∀ d ∈ c :: text, isAllowed d = true) :
    Formed (first c text).1 := by
  obtain ⟨hallowed, htext⟩ := List.forall_mem_cons.mp h
  rcases first_cases c text with ⟨_, _, -, -, hf⟩ | ⟨_, _, _, hq, -, -, hf⟩ |
    ⟨body, rest, hq, hb, hf⟩ | ⟨-, hbreak, hf⟩ | ⟨hq, hf⟩ | hf
  all_goals rw [hf]
  · trivial
  · exact hq
  · refine ⟨hq, fun d hd => htext d ?_, text, rest, hb⟩
    rw [Enclosure.body?_source hb, List.append_assoc]
    exact List.mem_append_left _ hd
  · have hline : text.all staysInLine = true :=
      List.all_eq_true.mpr fun d hd => staysInLine_of_isAllowed (htext d hd)
    rw [hline] at hbreak
    cases hbreak
  · exact ⟨hallowed, hq⟩
  · trivial

theorem formed_of_mem_lex {text : List Char} (h : ∀ c ∈ text, isAllowed c = true) :
    ∀ lexeme ∈ lex text, Formed lexeme := by
  fun_induction lex text with
  | case1 => exact fun _ hl => absurd hl List.not_mem_nil
  | case2 c text ih =>
    refine List.forall_mem_cons.mpr ⟨formed_first h, ih fun d hd => h d ?_⟩
    rw [← source_first c text]
    exact List.mem_append_right _ hd

/-- A lexeme with what only the reader knows left out: the inside of IRIs and of long strings. -/
def emptied : Lexeme → List Char
  | .iri _ => ['<', '>']
  | .longString quote _ => [quote, quote]
  | lexeme => lexeme.source

/-- The checker moves over an emptied lexeme as the reader moves over the lexeme. -/
theorem run_emptied {lexeme : Lexeme} (hformed : Formed lexeme) (hended : lexeme.isEnded = true)
    (expected : List Char) :
    run .code expected (emptied lexeme) = (lexeme.step expected).map (Prod.mk .code) := by
  cases lexeme with
  | iri body => rfl
  | string quote body =>
    obtain ⟨hq, hallowed, text, rest, hb⟩ := hformed
    exact (run_cons (step_code_quote hq) _).trans (run_string hq hb hallowed expected)
  | longString quote body =>
    exact (run_cons (step_code_quote hformed) _).trans (run_cons (step_string_quote hformed) [])
  | comment body => exact hformed.elim
  | unended text => cases hended
  | mark c =>
    change run .code expected [c] = _
    rw [run, step_code_mark hformed.1 hformed.2]
    cases Lexeme.step expected (.mark c) <;> rfl

/-- The checker moves over a lexeme that it accepts by itself as the reader does. -/
theorem run_source {lexeme : Lexeme} (hformed : Formed lexeme) (hended : lexeme.isEnded = true)
    (halone : emptied lexeme ≠ lexeme.source → isContained lexeme.source = true)
    (expected : List Char) :
    run .code expected lexeme.source = (lexeme.step expected).map (Prod.mk .code) := by
  by_cases hsource : emptied lexeme = lexeme.source
  · rw [← hsource, run_emptied hformed hended]
  · have hrun := run_below _ (isContained_iff.mp (halone hsource)) expected
    rw [List.nil_append] at hrun
    rw [hrun]
    cases lexeme with
    | iri | longString => rfl
    | string | comment | unended | mark => exact absurd rfl hsource

/-- A text of which the checker moves over each piece as the reader moves over the lexeme it is
written for is accepted when the brackets of the lexemes match. -/
theorem isContained_flatMap {lexemes : List Lexeme} {write : Lexeme → List Char}
    (h : ∀ lexeme ∈ lexemes, ∀ expected,
      run .code expected (write lexeme) = (lexeme.step expected).map (Prod.mk .code)) :
    isContained (lexemes.flatMap write) = true ↔ openAfter [] lexemes = some [] := by
  have hrun : ∀ expected,
      run .code expected (lexemes.flatMap write) =
        (openAfter expected lexemes).map (Prod.mk .code) := by
    induction lexemes with
    | nil => exact fun _ => rfl
    | cons lexeme lexemes ih =>
      intro expected
      obtain ⟨hfirst, hrest⟩ := List.forall_mem_cons.mp h
      rw [List.flatMap_cons, run_append, hfirst, openAfter, List.foldlM_cons]
      cases lexeme.step expected with
      | none => rfl
      | some next => exact ih hrest next
  rw [isContained_iff, hrun]
  simp

/-! ## Staying inside -/

/-- **The parenthesis written after a filter closes the one it is written in.** -/
structure StaysInside (expression : String) : Prop where
  /-- No part of the filter closes a bracket that the filter did not open. -/
  inside : ∀ front, front <+: lex expression.toList → (openAfter [] front).isSome = true
  /-- All brackets of the filter are closed at its end. -/
  closed : openAfter [] (lex expression.toList) = some []
  /-- The filter ends outside strings and comments. -/
  ended : EndsOutside expression.toList
  /-- What is written around the filter is read as if the filter were not there. -/
  kept : ∀ rest, Sealed rest → lex ((Pattern.filter expression).text.toList ++ rest) =
    "FILTER(".toList.map .mark ++ lex expression.toList ++ .mark ')' :: lex rest

/-- The filter with the inside of IRIs and of long strings left out. -/
def skeleton (expression : String) : List Char := (lex expression.toList).flatMap emptied

theorem staysInside_of_endsOutside {expression : String} (hended : EndsOutside expression.toList)
    (hclosed : openAfter [] (lex expression.toList) = some []) : StaysInside expression where
  inside front hfront := openAfter_isSome_of_prefix hfront (by rw [hclosed]; rfl)
  closed := hclosed
  ended := hended
  kept rest hrest := by
    have htext : (Pattern.filter expression).text.toList ++ rest =
        "FILTER(".toList ++ (expression.toList ++ ')' :: rest) := by
      simp [Pattern.text, String.toList_append]
    rw [htext, lex_marks rfl, lex_append_of_endsOutside hrest hended, List.append_assoc]

/-- **An accepted filter stays inside its parentheses exactly when it ends outside strings and
comments and the check still accepts it with its IRIs and long strings emptied.** When the check
accepts each of its IRIs and long strings by itself, only the end counts. -/
theorem staysInside_iff (expression : String) (haccepted : isContained expression.toList = true) :
    (StaysInside expression ↔
      EndsOutside expression.toList ∧ isContained (skeleton expression) = true) ∧
    ((∀ lexeme ∈ lex expression.toList,
        emptied lexeme ≠ lexeme.source → isContained lexeme.source = true) →
      (StaysInside expression ↔ EndsOutside expression.toList)) := by
  have hformed := formed_of_mem_lex (isAllowed_of_isContained haccepted)
  have hskeleton : EndsOutside expression.toList →
      (isContained (skeleton expression) = true ↔
        openAfter [] (lex expression.toList) = some []) := fun hended =>
    isContained_flatMap fun lexeme hl =>
      run_emptied (hformed lexeme hl) (endsOutside_iff.mp hended lexeme hl)
  refine ⟨⟨fun h => ⟨h.ended, (hskeleton h.ended).mpr h.closed⟩, fun ⟨hended, h⟩ =>
    staysInside_of_endsOutside hended ((hskeleton hended).mp h)⟩, fun halone =>
    ⟨fun h => h.ended, fun hended => staysInside_of_endsOutside hended ?_⟩⟩
  -- The filter is made of its lexemes, so its own check is the check of their texts.
  rw [← flatMap_source_lex expression.toList] at haccepted
  refine (isContained_flatMap fun lexeme hl => ?_).mp haccepted
  exact run_source (hformed lexeme hl) (endsOutside_iff.mp hended lexeme hl) (halone lexeme hl)

/-- A filter with brackets in a string and an IRI without any. -/
def closedFilter : String := "regex(?t, \"^a)\") && ?o = <http://ext/1>"

theorem staysInside_closedFilter :
    isContained closedFilter.toList = true ∧ StaysInside closedFilter := by
  have haccepted : isContained closedFilter.toList = true := by decide +kernel
  have hended : EndsOutside closedFilter.toList := by
    unfold EndsOutside
    decide +kernel
  have hskeleton : isContained (skeleton closedFilter) = true := by decide +kernel
  exact ⟨haccepted, (staysInside_iff closedFilter haccepted).1.mpr ⟨hended, hskeleton⟩⟩

theorem not_staysInside {expression : String}
    (h : openAfter [] (lex expression.toList) = some [] →
      ¬ ∀ lexeme ∈ (lex expression.toList).getLast?, lexeme.isEnded = true) :
    ¬ StaysInside expression :=
  fun hstays => h hstays.closed hstays.ended

/-- **The check accepts filters that leave their parentheses**: by a quote or a bracket in an IRI,
by a quote in a long string, and by a comment. -/
theorem escaping_filters :
    (isContained "?o = <http://ext/'>) \x7d ; DROP ALL #'".toList = true ∧
      ¬ StaysInside "?o = <http://ext/'>) \x7d ; DROP ALL #'") ∧
    (isContained "?o = <http://ext/(>) ".toList = true ∧ ¬ StaysInside "?o = <http://ext/(>) ") ∧
    (isContained "?t = \"\"\"a\"b\"\"\") \x7d ; DROP ALL #\"".toList = true ∧
      ¬ StaysInside "?t = \"\"\"a\"b\"\"\") \x7d ; DROP ALL #\"") ∧
    (isContained "true #".toList = true ∧ ¬ StaysInside "true #") := by
  refine ⟨⟨?_, not_staysInside ?_⟩, ⟨?_, not_staysInside ?_⟩, ⟨?_, not_staysInside ?_⟩,
    ⟨?_, not_staysInside ?_⟩⟩
  all_goals decide +kernel

/-- The brackets of the filter match and each of its lexemes has its end. -/
def isInside (expression : String) : Bool :=
  (lex expression.toList).all Lexeme.isEnded && openAfter [] (lex expression.toList) == some []

theorem isInside_iff {expression : String} :
    isInside expression = true ↔ StaysInside expression := by
  rw [isInside, Bool.and_eq_true, List.all_eq_true, ← endsOutside_iff, beq_iff_eq]
  exact ⟨fun ⟨hended, hclosed⟩ => staysInside_of_endsOutside hended hclosed,
    fun h => ⟨h.ended, h.closed⟩⟩

end RdfGateway.Filter
