import RdfGateway.Proofs.TermTexts

/-!
# The symbols of an update text

An update text is put together from three kinds of symbols: words, terms and filters. Spaces and
line breaks stand between them, as many as there happen to be. `Spells text symbols` says that a
text is written from the symbols, and `Spells.unique` that it is written from no others: what a
symbol ends with can be told from what follows it.

* `Filter.closes_append_inj`: a contained filter is known again before its closing parenthesis.
* `Symbol.text_append_inj`: a symbol is known again before a break.

Proof. The first character tells a term from the other symbols, and the parenthesis after `FILTER`
tells a filter from a word. A filter reaches up to the first closing parenthesis that its checker
does not take, because the checker stands outside strings and brackets there.
-/

namespace RdfGateway

/-! ## Filters -/

namespace Filter

theorem not_closes_closing (text : List Char) : closes .code [] (')' :: text) = false := by
  rfl

theorem closes_nil {place : Place} {expected : List Char} (h : closes place expected [] = true) :
    place = .code ∧ expected = [] := by
  rw [closes, Bool.and_eq_true, beq_iff_eq, List.isEmpty_iff] at h
  exact h

/-- Two texts that close the same brackets are the same when each is followed by a parenthesis and
they make up the same text with what follows. -/
theorem closes_append_inj {place : Place} {expected text other rest more : List Char}
    (htext : closes place expected text = true) (hother : closes place expected other = true)
    (h : text ++ ')' :: rest = other ++ ')' :: more) : text = other ∧ rest = more := by
  induction text generalizing place expected other with
  | nil =>
    cases other with
    | nil => exact ⟨rfl, (List.cons.inj h).2⟩
    | cons d other =>
      -- the checker of the other text would have to take the parenthesis that ends this one
      obtain ⟨rfl, rfl⟩ := closes_nil htext
      obtain ⟨rfl, -⟩ := List.cons.inj h
      rw [not_closes_closing] at hother
      cases hother
  | cons c text ih =>
    cases other with
    | nil =>
      obtain ⟨rfl, rfl⟩ := closes_nil hother
      obtain ⟨rfl, -⟩ := List.cons.inj h
      rw [not_closes_closing] at htext
      cases htext
    | cons d other =>
      obtain ⟨rfl, htail⟩ := List.cons.inj h
      rw [closes] at htext hother
      cases hstep : step place expected c with
      | none =>
        rw [hstep] at htext
        cases htext
      | some next =>
        rw [hstep] at htext hother
        obtain ⟨he, hr⟩ := ih htext hother htail
        exact ⟨by rw [he], hr⟩

end Filter

namespace Sparql

/-! ## Symbols -/

/-- A unit that an update text is put together from. -/
inductive Symbol where
  /-- A keyword, a brace, a dot, a semicolon, or a prefix label with its colon. -/
  | word (text : String)
  | term (term : Term)
  | filter (expression : String)
  deriving DecidableEq

/-- The character begins a term. -/
def isTermMark (c : Char) : Bool := c == '<' || c == '_' || c == '"' || c == '?'

def isWordChar (c : Char) : Bool := !isBreak c && c != '('

/-- A text that is not empty, does not begin like a term and holds no break and no opening
parenthesis. -/
def isWord : List Char → Bool
  | [] => false
  | c :: text => !isTermMark c && (c :: text).all isWordChar

namespace Symbol

def text : Symbol → List Char
  | .word text => text.toList
  | .term content => content.text.toList
  | .filter expression =>
    ['F', 'I', 'L', 'T', 'E', 'R'] ++ '(' :: (expression.toList ++ [')'])

/-- The symbol as its text shows it. -/
def shown : Symbol → Symbol
  | .term content => .term content.shown
  | symbol => symbol

/-- The texts of the symbol have the form of their places. -/
def IsSound : Symbol → Prop
  | .word text => isWord text.toList = true
  | .term content => ∀ text ∈ content.texts, text.fault? = none
  | .filter expression => filterFault? expression = none

end Symbol

variable {rest more : List Char}

theorem exists_word_eq_cons {text : List Char} (h : isWord text = true) :
    ∃ c tail, text = c :: tail ∧ isTermMark c = false ∧ ∀ d ∈ text, isWordChar d = true := by
  cases text with
  | nil => cases h
  | cons c tail =>
    rw [isWord, Bool.and_eq_true, Bool.not_eq_true'] at h
    exact ⟨c, tail, rfl, h.1, List.all_eq_true.mp h.2⟩

theorem isBreak_of_isWord {text : List Char} (h : isWord text = true) :
    ∀ c ∈ text, isBreak c = false := by
  obtain ⟨-, -, -, -, hchars⟩ := exists_word_eq_cons h
  intro c hc
  have hword := hchars c hc
  rw [isWordChar, Bool.and_eq_true, Bool.not_eq_true'] at hword
  exact hword.1

theorem exists_term_eq_cons (term : Term) :
    ∃ c tail, term.text.toList = c :: tail ∧ isTermMark c = true := by
  obtain ⟨c, tail, htext, hmark⟩ := term.exists_text_eq_cons
  refine ⟨c, tail, htext, ?_⟩
  rcases hmark with rfl | rfl | rfl | rfl
  all_goals rfl

/-- A word that stands where another text without breaks begins holds the mark after that text. -/
theorem mem_of_append_eq {word front : List Char} {mark : Char}
    (hfront : ∀ c ∈ front, isBreak c = false) (hmark : isBreak mark = false)
    (hrest : Breaks rest) (h : word ++ rest = front ++ mark :: more) : mark ∈ word := by
  induction front generalizing word with
  | nil =>
    cases word with
    | nil => exact absurd hrest (not_breaks hmark h)
    | cons d word =>
      obtain ⟨rfl, -⟩ := List.cons.inj h
      exact List.mem_cons_self
  | cons c front ih =>
    cases word with
    | nil => exact absurd hrest (not_breaks (hfront c List.mem_cons_self) h)
    | cons d word =>
      have hmem := ih (fun e he => hfront e (List.mem_cons_of_mem c he)) (List.cons.inj h).2
      exact List.mem_cons_of_mem d hmem

namespace Symbol

theorem not_word_term {word : String} {term : Term} (hword : isWord word.toList = true)
    (h : word.toList ++ rest = term.text.toList ++ more) : False := by
  obtain ⟨c, tail, hc, hmark, -⟩ := exists_word_eq_cons hword
  obtain ⟨d, tail', hd, hmark'⟩ := exists_term_eq_cons term
  rw [hc, hd] at h
  obtain ⟨rfl, -⟩ := List.cons.inj h
  rw [hmark] at hmark'
  cases hmark'

theorem not_filter_term {expression : String} {term : Term}
    (h : (filter expression).text ++ rest = term.text.toList ++ more) : False := by
  obtain ⟨d, tail, hd, hmark⟩ := exists_term_eq_cons term
  rw [hd] at h
  obtain rfl : 'F' = d := (List.cons.inj h).1
  cases hmark

theorem not_word_filter {word expression : String} (hword : isWord word.toList = true)
    (hrest : Breaks rest) (h : word.toList ++ rest = (filter expression).text ++ more) :
    False := by
  obtain ⟨-, -, -, -, hchars⟩ := exists_word_eq_cons hword
  rw [text, List.append_assoc] at h
  have hmem := mem_of_append_eq (by simp [isBreak]) (by decide) hrest h
  exact absurd (hchars '(' hmem) (by decide)

/-- **The text of a symbol is known again** before a break. -/
theorem text_append_inj {symbol other : Symbol} (hs : symbol.IsSound) (ho : other.IsSound)
    (hrest : Breaks rest) (hmore : Breaks more)
    (h : symbol.text ++ rest = other.text ++ more) :
    symbol.shown = other.shown ∧ rest = more := by
  cases symbol with
  | word text =>
    cases other with
    | word text' =>
      obtain ⟨he, hr⟩ :=
        append_inj_of_stops (isBreak_of_isWord hs) (isBreak_of_isWord ho) hrest hmore h
      exact ⟨congrArg word (String.toList_inj.mp he), hr⟩
    | term term' => exact (not_word_term hs h).elim
    | filter expression' => exact (not_word_filter hs hrest h).elim
  | term term =>
    cases other with
    | word text' => exact (not_word_term ho h.symm).elim
    | term term' =>
      obtain ⟨he, hr⟩ := Term.text_append_inj hs ho hrest hmore h
      exact ⟨congrArg Symbol.term he, hr⟩
    | filter expression' => exact (not_filter_term h.symm).elim
  | filter expression =>
    cases other with
    | word text' => exact (not_word_filter ho hmore h.symm).elim
    | term term' => exact (not_filter_term h).elim
    | filter expression' =>
      simp only [text, List.append_assoc, List.cons_append, List.nil_append, List.cons.injEq,
        true_and] at h
      obtain ⟨he, hr⟩ := Filter.closes_append_inj (of_faultUnless_eq_none hs)
        (of_faultUnless_eq_none ho) h
      exact ⟨congrArg filter (String.toList_inj.mp he), hr⟩

theorem exists_text_eq_cons {symbol : Symbol} (h : symbol.IsSound) :
    ∃ c tail, symbol.text = c :: tail ∧ isBreak c = false := by
  cases symbol with
  | word text =>
    obtain ⟨c, tail, htext, -⟩ := exists_word_eq_cons h
    have hbreak := isBreak_of_isWord h c
    rw [htext] at hbreak
    exact ⟨c, tail, htext, hbreak List.mem_cons_self⟩
  | term term =>
    obtain ⟨c, tail, htext, hmark⟩ := term.exists_text_eq_cons
    refine ⟨c, tail, htext, ?_⟩
    rcases hmark with rfl | rfl | rfl | rfl
    all_goals rfl
  | filter expression => exact ⟨'F', _, rfl, rfl⟩

end Symbol

/-! ## Spelling -/

/-- The text consists of the symbols, with breaks before, between and after them. Between two
symbols there is at least one. -/
inductive Spells : List Char → List Symbol → Prop where
  | nil : Spells [] []
  | space {c : Char} {text : List Char} {symbols : List Symbol} (hc : isBreak c = true)
      (h : Spells text symbols) : Spells (c :: text) symbols
  | symbol {symbol : Symbol} {text : List Char} {symbols : List Symbol} (hs : symbol.IsSound)
      (hbreaks : Breaks text) (h : Spells text symbols) :
      Spells (symbol.text ++ text) (symbol.shown :: symbols)

namespace Spells

variable {text : List Char} {symbols others : List Symbol}

theorem of_space {c : Char} (hc : isBreak c = true) (h : Spells (c :: text) symbols) :
    Spells text symbols := by
  generalize hwhole : c :: text = whole at h
  cases h with
  | nil => cases hwhole
  | space hd h =>
    cases hwhole
    exact h
  | symbol hs hbreaks h =>
    obtain ⟨d, tail, hd, hbreak⟩ := Symbol.exists_text_eq_cons hs
    rw [hd] at hwhole
    cases hwhole
    rw [hbreak] at hc
    cases hc

theorem of_symbol {symbol : Symbol} (hs : symbol.IsSound) (hbreaks : Breaks text)
    (h : Spells (symbol.text ++ text) symbols) :
    ∃ later, symbols = symbol.shown :: later ∧ Spells text later := by
  obtain ⟨c, tail, hc, hbreak⟩ := Symbol.exists_text_eq_cons hs
  generalize hwhole : symbol.text ++ text = whole at h
  cases h with
  | nil =>
    rw [hc] at hwhole
    cases hwhole
  | space hd h =>
    rw [hc] at hwhole
    cases hwhole
    rw [hbreak] at hd
    cases hd
  | symbol hs' hbreaks' h =>
    obtain ⟨hshown, rfl⟩ := Symbol.text_append_inj hs hs' hbreaks hbreaks' hwhole
    exact ⟨_, by rw [hshown], h⟩

/-- **A text spells one list of symbols only.** -/
theorem unique (h : Spells text symbols) (ho : Spells text others) : symbols = others := by
  -- the second spelling follows the first one, break by break and symbol by symbol
  induction h generalizing others with
  | nil =>
    generalize hwhole : ([] : List Char) = whole at ho
    cases ho with
    | nil => rfl
    | space hc h => cases hwhole
    | symbol hs hbreaks h =>
      obtain ⟨d, tail, hd, -⟩ := Symbol.exists_text_eq_cons hs
      rw [hd] at hwhole
      cases hwhole
  | space hc h ih => exact ih (of_space hc ho)
  | symbol hs hbreaks h ih =>
    obtain ⟨later, rfl, hlater⟩ := of_symbol hs hbreaks ho
    rw [ih hlater]

end Spells

end Sparql

end RdfGateway
