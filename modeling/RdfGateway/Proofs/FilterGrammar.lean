import RdfGateway.Gateway.Fault
import RdfGateway.Proofs.FilterContainment

/-!
# The grammar of filters

The check of a filter is one pass with a stack. What it accepts is a grammar: plain characters,
quoted strings, and filters in brackets of the three kinds, one after the other (`IsExpression`).
`accepted_iff_isExpression` says that the check accepts exactly these texts, and that its fault
carries any other text as it is.

Proof. `Asks` is what the checker still asks of a text, given where it stands and the brackets that
are open: an expression up to each closing bracket, and one at the end (`Closes`). One step leads
from what is asked after it to what was asked before it (`asks_cons`), so what the checker accepts
from its start is an expression. In the other direction an expression takes the checker back to
where it was, whatever is open around it (`run_of_isExpression`).
-/

namespace RdfGateway.Filter

/-! ## The grammar -/

/-- The quotes. -/
def quotes : List Char := ['"', '\'']

/-- The brackets, each opening one with the closing one that belongs to it. -/
def brackets : List (Char × Char) := [('(', ')'), ('{', '}'), ('[', ']')]

/-- A character that stands for itself: no control character but the tab, no quote, no bracket. -/
def IsPlain (c : Char) : Prop :=
  isAllowed c = true ∧ c ∉ quotes ∧ ∀ pair ∈ brackets, c ≠ pair.1 ∧ c ≠ pair.2

/-- What stands between the quotes of a string: characters other than the quote and the backslash,
and backslashes with one character each. -/
inductive IsStringBody (quote : Char) : List Char → Prop
  | nil : IsStringBody quote []
  | char {c : Char} {body : List Char} : isAllowed c = true → c ≠ quote → c ≠ '\\' →
      IsStringBody quote body → IsStringBody quote (c :: body)
  | escape {c : Char} {body : List Char} : isAllowed c = true →
      IsStringBody quote body → IsStringBody quote ('\\' :: c :: body)

/-- **The grammar of filters**: plain characters, strings and bracketed filters, in any number. -/
inductive IsExpression : List Char → Prop
  | nil : IsExpression []
  | plain {c : Char} {text : List Char} : IsPlain c → IsExpression text → IsExpression (c :: text)
  | string {quote : Char} {body text : List Char} : quote ∈ quotes → IsStringBody quote body →
      IsExpression text → IsExpression (quote :: body ++ quote :: text)
  | bracketed {opening close : Char} {inner text : List Char} : (opening, close) ∈ brackets →
      IsExpression inner → IsExpression text → IsExpression (opening :: inner ++ close :: text)

/-! ## One step of the checker -/

section steps
variable {c opening close : Char} {expected left : List Char} {next : Place}

theorem mem_quotes_iff : c ∈ quotes ↔ isQuote c = true := by
  simp [quotes, isQuote]

theorem mem_brackets_iff : (opening, close) ∈ brackets ↔ closing? opening = some close := by
  simp only [brackets, List.mem_cons, List.not_mem_nil, or_false, Prod.mk.injEq]
  constructor
  · rintro (⟨rfl, rfl⟩ | ⟨rfl, rfl⟩ | ⟨rfl, rfl⟩) <;> rfl
  · intro h
    unfold closing? at h
    split at h <;> cases h <;> simp

theorem isClosing_iff : isClosing close = true ↔ ∃ opening, (opening, close) ∈ brackets := by
  simp [isClosing, brackets, or_assoc, exists_or]

theorem isPlain_iff : IsPlain c ↔
    isAllowed c = true ∧ isQuote c = false ∧ closing? c = none ∧ isClosing c = false := by
  have hopening : closing? c = none ↔ ∀ pair ∈ brackets, c ≠ pair.1 := by
    rw [Option.eq_none_iff_forall_ne_some, Prod.forall]
    simp only [Ne, ← mem_brackets_iff]
    exact ⟨fun h _ close hpair he => h close (he ▸ hpair), fun h close hpair => h c close hpair rfl⟩
  have hclosing : isClosing c = false ↔ ∀ pair ∈ brackets, c ≠ pair.2 := by
    rw [← Bool.not_eq_true, isClosing_iff, Prod.forall]
    exact ⟨fun h opening _ hpair he => h ⟨opening, he ▸ hpair⟩,
      fun h ⟨opening, hpair⟩ => h opening c hpair rfl⟩
  rw [hopening, hclosing, ← Bool.not_eq_true, ← mem_quotes_iff, IsPlain]
  simp only [imp_and, forall_and]

theorem step_code_opening (h : (opening, close) ∈ brackets) :
    step .code expected opening = some (.code, close :: expected) := by
  simp only [brackets, List.mem_cons, List.not_mem_nil, or_false, Prod.mk.injEq] at h
  rcases h with ⟨rfl, rfl⟩ | ⟨rfl, rfl⟩ | ⟨rfl, rfl⟩ <;> rfl

theorem step_code_closing (h : (opening, close) ∈ brackets) :
    step .code (close :: expected) close = some (.code, expected) := by
  simp only [brackets, List.mem_cons, List.not_mem_nil, or_false, Prod.mk.injEq] at h
  rcases h with ⟨rfl, rfl⟩ | ⟨rfl, rfl⟩ | ⟨rfl, rfl⟩ <;> rfl

theorem step_code_plain (h : IsPlain c) : step .code expected c = some (.code, expected) := by
  obtain ⟨hallowed, hquote, hopening, hclosing⟩ := isPlain_iff.mp h
  simp [step, hallowed, hquote, hopening, hclosing]

/-- Outside strings the checker reads a quote, a bracket of its grammar, or a plain character. -/
theorem step_code_cases (h : step .code expected c = some (next, left)) :
    (c ∈ quotes ∧ next = .string c ∧ left = expected) ∨
      (∃ close, (c, close) ∈ brackets ∧ next = .code ∧ left = close :: expected) ∨
      (next = .code ∧ expected = c :: left) ∨
      (IsPlain c ∧ next = .code ∧ left = expected) := by
  cases hallowed : isAllowed c with
  | false => simp [step, hallowed] at h
  | true =>
    cases hquote : isQuote c with
    | true =>
      rw [step_code_quote hquote] at h
      cases h
      exact .inl ⟨mem_quotes_iff.mpr hquote, rfl, rfl⟩
    | false =>
      cases hopening : closing? c with
      | some close =>
        have hpair := mem_brackets_iff.mpr hopening
        rw [step_code_opening hpair] at h
        cases h
        exact .inr (.inl ⟨close, hpair, rfl, rfl⟩)
      | none =>
        cases hclosing : isClosing c with
        | true =>
          simp only [step, hallowed, hquote, hopening, hclosing] at h
          cases expected with
          | nil => cases h
          | cons close rest =>
            by_cases he : c = close
            · simp_all
            · simp [he] at h
        | false =>
          have hplain := isPlain_iff.mpr ⟨hallowed, hquote, hopening, hclosing⟩
          rw [step_code_plain hplain] at h
          cases h
          exact .inr (.inr (.inr ⟨hplain, rfl, rfl⟩))

/-- In a string the checker reads a backslash, the closing quote, or a character of the string. -/
theorem step_string_cases {quote : Char}
    (h : step (.string quote) expected c = some (next, left)) :
    (c = '\\' ∧ next = .escape quote ∧ left = expected) ∨
      (c = quote ∧ next = .code ∧ left = expected) ∨
      (isAllowed c = true ∧ c ≠ quote ∧ c ≠ '\\' ∧ next = .string quote ∧ left = expected) := by
  cases hallowed : isAllowed c with
  | false => simp [step, hallowed] at h
  | true =>
    by_cases hbackslash : c = '\\'
    · subst hbackslash
      rw [step_string_backslash] at h
      cases h
      exact .inl ⟨rfl, rfl, rfl⟩
    · by_cases hquote : c = quote
      · simp only [step, hallowed, if_neg hbackslash, if_pos hquote] at h
        cases h
        exact .inr (.inl ⟨hquote, rfl, rfl⟩)
      · rw [step_string_other hallowed hbackslash hquote] at h
        cases h
        exact .inr (.inr ⟨rfl, hquote, hbackslash, rfl, rfl⟩)

theorem step_escape_cases {quote : Char}
    (h : step (.escape quote) expected c = some (next, left)) :
    isAllowed c = true ∧ next = .string quote ∧ left = expected := by
  cases hallowed : isAllowed c with
  | false => simp [step, hallowed] at h
  | true =>
    rw [step_escape hallowed] at h
    cases h
    exact ⟨rfl, rfl, rfl⟩

end steps

/-! ## What the checker still asks of a text -/

/-- An expression up to each of the closing brackets, and one after the last. -/
inductive Closes : List Char → List Char → Prop
  | done {text : List Char} : IsExpression text → Closes [] text
  | close {close : Char} {expected inner text : List Char} : IsExpression inner →
      Closes expected text → Closes (close :: expected) (inner ++ close :: text)

/-- What follows the place: the rest of the string first, when the place is in one. -/
def Asks : Place → List Char → List Char → Prop
  | .code, expected, text => Closes expected text
  | .string quote, expected, text => ∃ body rest,
      text = body ++ quote :: rest ∧ IsStringBody quote body ∧ Closes expected rest
  | .escape quote, expected, text => ∃ c body rest,
      text = c :: body ++ quote :: rest ∧ isAllowed c = true ∧ IsStringBody quote body ∧
        Closes expected rest

/-- What may be put in front of an expression may be put in front of the first one. -/
theorem Closes.append {expected text : List Char} (h : Closes expected text) (front : List Char)
    (hfront : ∀ rest, IsExpression rest → IsExpression (front ++ rest)) :
    Closes expected (front ++ text) := by
  cases h with
  | done htext => exact .done (hfront _ htext)
  | close hinner hrest =>
    rw [← List.append_assoc]
    exact .close (hfront _ hinner) hrest

variable {place next : Place} {expected left text : List Char} {c : Char}

/-- One step leads from what is asked after it to what is asked before it. -/
theorem asks_cons (hstep : step place expected c = some (next, left)) (h : Asks next left text) :
    Asks place expected (c :: text) := by
  cases place with
  | code =>
    rcases step_code_cases hstep with
      ⟨hquote, rfl, rfl⟩ | ⟨close, hpair, rfl, rfl⟩ | ⟨rfl, rfl⟩ | ⟨hplain, rfl, rfl⟩
    · obtain ⟨body, rest, rfl, hbody, hrest⟩ := h
      have hstring : Closes left ((c :: body ++ [c]) ++ rest) :=
        hrest.append _ fun rest hrest => by simpa using IsExpression.string hquote hbody hrest
      simpa [Asks] using hstring
    · cases h with
      | @close _ _ inner rest hinner hrest =>
        have hbracketed : Closes expected ((c :: inner ++ [close]) ++ rest) :=
          hrest.append _ fun rest hrest => by simpa using IsExpression.bracketed hpair hinner hrest
        simpa [Asks] using hbracketed
    · exact .close .nil h
    · exact h.append [c] fun rest hrest => .plain hplain hrest
  | string quote =>
    rcases step_string_cases hstep with
      ⟨rfl, rfl, rfl⟩ | ⟨rfl, rfl, rfl⟩ | ⟨hallowed, hquote, hbackslash, rfl, rfl⟩
    · obtain ⟨d, body, rest, rfl, hallowed, hbody, hrest⟩ := h
      exact ⟨'\\' :: d :: body, rest, rfl, .escape hallowed hbody, hrest⟩
    · exact ⟨[], text, rfl, .nil, h⟩
    · obtain ⟨body, rest, rfl, hbody, hrest⟩ := h
      exact ⟨c :: body, rest, rfl, .char hallowed hquote hbackslash hbody, hrest⟩
  | escape quote =>
    obtain ⟨hallowed, rfl, rfl⟩ := step_escape_cases hstep
    obtain ⟨body, rest, rfl, hbody, hrest⟩ := h
    exact ⟨c, body, rest, rfl, hallowed, hbody, hrest⟩

/-- What the checker accepts is what it asks for. -/
theorem asks_of_closes (text : List Char) :
    ∀ (place : Place) (expected : List Char), closes place expected text = true →
      Asks place expected text := by
  induction text with
  | nil =>
    intro place expected h
    obtain ⟨rfl, rfl⟩ : place = .code ∧ expected = [] := by simpa [closes] using h
    exact .done .nil
  | cons c text ih =>
    intro place expected h
    rw [closes] at h
    cases hstep : step place expected c with
    | none =>
      rw [hstep] at h
      cases h
    | some after =>
      rw [hstep] at h
      exact asks_cons hstep (ih after.1 after.2 h)

/-! ## Expressions take the checker back -/

theorem run_of_isStringBody {quote : Char} {body : List Char} (hquote : isQuote quote = true)
    (h : IsStringBody quote body) (expected : List Char) :
    run (.string quote) expected (body ++ [quote]) = some (.code, expected) := by
  induction h with
  | nil => exact run_cons (step_string_quote hquote) []
  | char hallowed hne hbackslash _ ih =>
    rw [List.cons_append, run_cons (step_string_other hallowed hbackslash hne)]
    exact ih
  | escape hallowed _ ih =>
    rw [List.cons_append, List.cons_append, run_cons step_string_backslash,
      run_cons (step_escape hallowed)]
    exact ih

theorem run_of_isExpression (h : IsExpression text) :
    ∀ expected, run .code expected text = some (.code, expected) := by
  induction h with
  | nil => exact fun _ => rfl
  | plain hplain _ ih =>
    intro expected
    rw [run_cons (step_code_plain hplain)]
    exact ih expected
  | @string quote body text hquote hbody _ ih =>
    intro expected
    have hmark := mem_quotes_iff.mp hquote
    have hsplit : quote :: body ++ quote :: text = quote :: ((body ++ [quote]) ++ text) := by simp
    rw [hsplit, run_cons (step_code_quote hmark), run_append,
      run_of_isStringBody hmark hbody expected]
    exact ih expected
  | bracketed hpair _ _ ihInner ih =>
    intro expected
    rw [List.cons_append, run_cons (step_code_opening hpair), run_append, ihInner]
    exact (run_cons (step_code_closing hpair) _).trans (ih expected)

/-- The checker accepts the expressions. -/
theorem isContained_iff_isExpression : isContained text = true ↔ IsExpression text := by
  constructor
  · intro h
    cases asks_of_closes text .code [] h with
    | done htext => exact htext
  · intro h
    exact isContained_iff.mpr (run_of_isExpression h [])

instance (text : List Char) : Decidable (IsExpression text) :=
  decidable_of_iff _ isContained_iff_isExpression

/-- **The check of a filter accepts exactly its grammar**, and its fault carries any other text as
it is. -/
theorem accepted_iff_isExpression (expression : String) :
    (filterFault? expression = none ↔ IsExpression expression.toList) ∧
      (filterFault? expression = some (.filter expression) ↔
        ¬ IsExpression expression.toList) := by
  rw [← isContained_iff_isExpression, filterFault?, faultUnless]
  cases isContained expression.toList <;> simp

/-- A bracket in a string is not closed, an escaped quote does not end it, and brackets do not
cross. -/
example : IsExpression "f(?x, \"(\\\"\") \\ [\t]".toList ∧ ¬ IsExpression "([)]".toList := by
  decide +kernel

end RdfGateway.Filter
