import Mathlib.Data.List.TakeWhile
import RdfGateway.Sparql.Filter
import RdfGateway.Text.Lead

/-!
# The lexemes of an update text

How a reader of SPARQL divides a text, as far as brackets are concerned: an IRI between angle
brackets, a short or a long quoted string and a comment up to the end of its line are one lexeme
each, and every other character stands for itself. A string or a comment that nothing ends takes
the rest of the text.

* `flatMap_source_lex`: the lexemes of a text, put together, are the text.
* `endsOutside_iff`: only the last lexeme can be without its end.
* `lex_append_of_endsOutside`: a text that ends outside strings and comments is read in the same way
  when a closing parenthesis and a blank follow it.
-/

namespace RdfGateway.Sparql

open RdfGateway.Filter RdfGateway.Text

/-- A unit of an update text. -/
inductive Lexeme where
  /-- An IRI, without its angle brackets. -/
  | iri (body : List Char)
  /-- A string between single quotes of one kind. -/
  | string (quote : Char) (body : List Char)
  /-- A string between triple quotes of one kind. -/
  | longString (quote : Char) (body : List Char)
  /-- A comment that a line break ends, without its sign and the line break. -/
  | comment (body : List Char)
  /-- A string or a comment that the text ends in. -/
  | unended (text : List Char)
  /-- Any other character. -/
  | mark (c : Char)
  deriving DecidableEq

/-- The text of a lexeme. -/
def Lexeme.source : Lexeme → List Char
  | .iri body => '<' :: (body ++ ['>'])
  | .string quote body => quote :: (body ++ [quote])
  | .longString quote body => quote :: quote :: quote :: (body ++ [quote, quote, quote])
  | .comment body => '#' :: body
  | .unended text => text
  | .mark c => [c]

/-! ## Enclosed texts -/

/-- How an enclosed text is read: what ends it, what may stand in it, and whether a backslash takes
the next character along. -/
structure Enclosure where
  close : List Char
  admits : Char → Bool
  escapes : Bool

/-- The text up to its end, and what follows the end. -/
def Enclosure.body? (enclosure : Enclosure) : List Char → Option (List Char × List Char)
  | [] => none
  | c :: text =>
    match rest? enclosure.close (c :: text) with
    | some rest => some ([], rest)
    | none =>
      if enclosure.escapes && c == '\\' then
        match text with
        | [] => none
        | e :: text => (body? enclosure text).map fun (body, rest) => (c :: e :: body, rest)
      else if enclosure.admits c then
        (body? enclosure text).map fun (body, rest) => (c :: body, rest)
      else none

/-- The inside of an IRI: no blank, no control character and none of `<>"{}|^`, the backslash and
the grave accent. -/
def iriEnclosure : Enclosure where
  close := ['>']
  admits c := 0x20 < c.toNat && !"<>\"\x7b\x7d|^`\\".toList.contains c
  escapes := false

/-- The inside of a short string: no line break. -/
def shortEnclosure (quote : Char) : Enclosure where
  close := [quote]
  admits c := c != '\n' && c != '\r'
  escapes := true

/-- The inside of a long string. -/
def longEnclosure (quote : Char) : Enclosure where
  close := [quote, quote, quote]
  admits _ := true
  escapes := true

namespace Enclosure

variable {enclosure : Enclosure} {text body rest : List Char}

theorem body?_of_close (h : rest? enclosure.close text = some rest) (hne : text ≠ []) :
    enclosure.body? text = some ([], rest) := by
  cases text with
  | nil => exact absurd rfl hne
  | cons c text =>
    rw [body?.eq_def]
    simp only [h]

theorem body?_of_escape {c e : Char} (h : rest? enclosure.close (c :: e :: text) = none)
    (hs : (enclosure.escapes && c == '\\') = true) :
    enclosure.body? (c :: e :: text) =
      (enclosure.body? text).map fun (body, rest) => (c :: e :: body, rest) := by
  simp only [body?, h, hs, if_true]

theorem body?_of_admits {c : Char} (h : rest? enclosure.close (c :: text) = none)
    (hs : (enclosure.escapes && c == '\\') = false) (ha : enclosure.admits c = true) :
    enclosure.body? (c :: text) =
      (enclosure.body? text).map fun (body, rest) => (c :: body, rest) := by
  rw [body?.eq_def]
  simp only [h, hs, ha, if_true, if_false, Bool.false_eq_true]

theorem body?_of_refuses {c : Char} (h : rest? enclosure.close (c :: text) = none)
    (hs : (enclosure.escapes && c == '\\') = false) (ha : enclosure.admits c = false) :
    enclosure.body? (c :: text) = none := by
  rw [body?.eq_def]
  simp only [h, hs, ha, if_false, Bool.false_eq_true]

theorem body?_source (h : enclosure.body? text = some (body, rest)) :
    text = body ++ enclosure.close ++ rest := by
  fun_induction enclosure.body? text generalizing body with
  | case1 => cases h
  | case2 c text _ hr =>
    cases h
    exact rest?_eq_some_iff.mp hr
  | case3 => cases h
  | case4 c hs e text hr ih | case5 c text hr hs ha ih =>
    obtain ⟨⟨tail, _⟩, ht, he⟩ := Option.map_eq_some_iff.mp h
    cases he
    rw [ih ht]
    rfl
  | case6 => cases h

theorem close_length_le (h : enclosure.body? text = some (body, rest)) :
    enclosure.close.length ≤ text.length := by
  rw [body?_source h, List.length_append, List.length_append]
  omega

end Enclosure

/-- An end that does not stand before a text that has room for it does not stand there either when
more is written after the text. -/
theorem rest?_append_eq_none {close text : List Char} (h : rest? close text = none)
    (hroom : close.length ≤ text.length) (more : List Char) :
    rest? close (text ++ more) = none := by
  rw [Option.eq_none_iff_forall_ne_some] at h ⊢
  intro other ho
  have hlong : close <+: text ++ more := ⟨other, (rest?_eq_some_iff.mp ho).symm⟩
  obtain ⟨rest, hrest⟩ :=
    List.prefix_of_prefix_length_le hlong (List.prefix_append text more) hroom
  exact h rest (rest?_eq_some_iff.mpr hrest.symm)

/-- What is written after an enclosed text does not move its end. -/
theorem Enclosure.body?_append {enclosure : Enclosure} {text body rest : List Char}
    (h : enclosure.body? text = some (body, rest)) (more : List Char) :
    enclosure.body? (text ++ more) = some (body, rest ++ more) := by
  fun_induction enclosure.body? text generalizing body with
  | case1 => cases h
  | case2 c text _ hr =>
    cases h
    refine body?_of_close ?_ (List.cons_ne_nil c _)
    rw [rest?_eq_some_iff.mp hr, List.append_assoc, rest?_append]
  | case3 => cases h
  | case4 c hs e text hr ih =>
    have hmore := rest?_append_eq_none hr (close_length_le (h ▸ body?_of_escape hr hs)) more
    obtain ⟨⟨tail, _⟩, ht, he⟩ := Option.map_eq_some_iff.mp h
    cases he
    rw [List.cons_append, List.cons_append] at hmore ⊢
    rw [body?_of_escape hmore hs, ih ht]
    rfl
  | case5 c text hr hs ha ih =>
    have hs : (enclosure.escapes && c == '\\') = false := Bool.eq_false_iff.mpr hs
    have hmore := rest?_append_eq_none hr (close_length_le (h ▸ body?_of_admits hr hs ha)) more
    obtain ⟨⟨tail, _⟩, ht, he⟩ := Option.map_eq_some_iff.mp h
    cases he
    rw [List.cons_append] at hmore ⊢
    rw [body?_of_admits hmore hs ha, ih ht]
    rfl
  | case6 => cases h

/-! ## Reading -/

/-- A character that ends no line. -/
def staysInLine (c : Char) : Bool := c != '\n' && c != '\r'

/-- A lexeme with its end, or all of the text when nothing ends it. -/
def endedOr (whole : List Char) (lexeme : List Char → Lexeme) :
    Option (List Char × List Char) → Lexeme × List Char
  | some (body, rest) => (lexeme body, rest)
  | none => (.unended whole, [])

/-- The first lexeme of a text and what follows it. An angle bracket that begins no IRI stands for
itself, and three quotes begin a long string. -/
def first (c : Char) (text : List Char) : Lexeme × List Char :=
  if c = '<' then
    match iriEnclosure.body? text with
    | some (body, rest) => (.iri body, rest)
    | none => (.mark c, text)
  else if isQuote c then
    match rest? [c, c] text with
    | some long => endedOr (c :: text) (.longString c) ((longEnclosure c).body? long)
    | none => endedOr (c :: text) (.string c) ((shortEnclosure c).body? text)
  else if c = '#' then
    if text.all staysInLine then (.unended (c :: text), [])
    else (.comment (text.takeWhile staysInLine), text.dropWhile staysInLine)
  else (.mark c, text)

/-- The lexeme has its end in the text. -/
def Lexeme.isEnded : Lexeme → Bool
  | .unended _ => false
  | _ => true

/-- What the first lexeme of a text can be. -/
theorem first_cases (c : Char) (text : List Char) :
    (∃ body rest, c = '<' ∧ iriEnclosure.body? text = some (body, rest) ∧
        first c text = (.iri body, rest)) ∨
      (∃ long body rest, isQuote c = true ∧ text = [c, c] ++ long ∧
        (longEnclosure c).body? long = some (body, rest) ∧
        first c text = (.longString c body, rest)) ∨
      (∃ body rest, isQuote c = true ∧ (shortEnclosure c).body? text = some (body, rest) ∧
        first c text = (.string c body, rest)) ∨
      (c = '#' ∧ text.all staysInLine = false ∧
        first c text = (.comment (text.takeWhile staysInLine), text.dropWhile staysInLine)) ∨
      (isQuote c = false ∧ first c text = (.mark c, text)) ∨
      first c text = (.unended (c :: text), []) := by
  fun_cases first c text with
  | case1 hc body rest hb => exact .inl ⟨body, rest, hc, hb, rfl⟩
  | case2 hc => exact .inr (.inr (.inr (.inr (.inl ⟨by rw [hc]; rfl, rfl⟩))))
  | case3 _ hq long hl =>
    cases hb : (longEnclosure c).body? long with
    | none => exact .inr (.inr (.inr (.inr (.inr rfl))))
    | some answer =>
      exact .inr (.inl ⟨long, answer.1, answer.2, hq, rest?_eq_some_iff.mp hl, hb, rfl⟩)
  | case4 _ hq =>
    cases hb : (shortEnclosure c).body? text with
    | none => exact .inr (.inr (.inr (.inr (.inr rfl))))
    | some answer => exact .inr (.inr (.inl ⟨answer.1, answer.2, hq, rfl, rfl⟩))
  | case5 => exact .inr (.inr (.inr (.inr (.inr rfl))))
  | case6 _ _ hc hbreak =>
    exact .inr (.inr (.inr (.inl ⟨hc, Bool.eq_false_iff.mpr hbreak, rfl⟩)))
  | case7 _ hq => exact .inr (.inr (.inr (.inr (.inl ⟨Bool.eq_false_iff.mpr hq, rfl⟩))))

theorem source_first (c : Char) (text : List Char) :
    (first c text).1.source ++ (first c text).2 = c :: text := by
  rcases first_cases c text with ⟨body, rest, hc, hb, h⟩ | ⟨long, body, rest, -, hl, hb, h⟩ |
    ⟨body, rest, -, hb, h⟩ | ⟨hc, -, h⟩ | ⟨-, h⟩ | h
  · rw [h, Enclosure.body?_source hb, hc]
    simp [Lexeme.source, iriEnclosure]
  · rw [h, hl, Enclosure.body?_source hb]
    simp [Lexeme.source, longEnclosure]
  · rw [h, Enclosure.body?_source hb]
    simp [Lexeme.source, shortEnclosure]
  · rw [h, hc, Lexeme.source, List.cons_append, List.takeWhile_append_dropWhile]
  · rw [h]
    rfl
  · rw [h, Lexeme.source, List.append_nil]

theorem length_first_le (c : Char) (text : List Char) :
    (first c text).2.length ≤ text.length := by
  have hsource := congrArg List.length (source_first c text)
  have hpos : 0 < (first c text).1.source.length := by
    rcases first_cases c text with ⟨_, _, -, -, h⟩ | ⟨_, _, _, -, -, -, h⟩ | ⟨_, _, -, -, h⟩ |
      ⟨-, -, h⟩ | ⟨-, h⟩ | h
    all_goals simp [h, Lexeme.source]
  rw [List.length_append, List.length_cons] at hsource
  omega

/-- A lexeme without its end takes all of the text. -/
theorem isEnded_first_or (c : Char) (text : List Char) :
    (first c text).1.isEnded = true ∨ (first c text).2 = [] := by
  rcases first_cases c text with ⟨_, _, -, -, h⟩ | ⟨_, _, _, -, -, -, h⟩ | ⟨_, _, -, -, h⟩ |
    ⟨-, -, h⟩ | ⟨-, h⟩ | h
  all_goals simp [h, Lexeme.isEnded]

/-- The lexemes of a text. -/
def lex : List Char → List Lexeme
  | [] => []
  | c :: text => (first c text).1 :: lex (first c text).2
termination_by text => text.length
decreasing_by exact Nat.lt_succ_of_le (length_first_le c text)

/-- The lexemes of a text, put together, are the text. -/
theorem flatMap_source_lex (text : List Char) : (lex text).flatMap Lexeme.source = text := by
  fun_induction lex text with
  | case1 => rfl
  | case2 c text ih => rw [List.flatMap_cons, ih, source_first]

example : lex "?a<3 <a:'> \"\"\"b\"\"\"#".toList =
    [.mark '?', .mark 'a', .mark '<', .mark '3', .mark ' ', .iri "a:'".toList, .mark ' ',
      .longString '"' ['b'], .unended ['#']] := by
  decide +kernel

/-- The text ends outside strings and comments. -/
def EndsOutside (text : List Char) : Prop :=
  ∀ lexeme ∈ (lex text).getLast?, lexeme.isEnded = true

/-- Only the last lexeme of a text can be without its end. -/
theorem endsOutside_iff {text : List Char} :
    EndsOutside text ↔ ∀ lexeme ∈ lex text, lexeme.isEnded = true := by
  refine ⟨fun h => ?_, fun h lexeme hl => h lexeme (List.mem_of_getLast? hl)⟩
  unfold EndsOutside at h
  fun_induction lex text with
  | case1 => exact fun _ hl => absurd hl List.not_mem_nil
  | case2 c text ih =>
    rcases isEnded_first_or c text with hended | hrest
    · refine List.forall_mem_cons.mpr ⟨hended, ih fun lexeme hl => h lexeme ?_⟩
      rw [List.getLast?_cons, Option.mem_def.mp hl]
      rfl
    · rw [hrest, lex] at h ⊢
      exact List.forall_mem_singleton.mpr (h _ rfl)

/-! ## Brackets -/

/-- The brackets still to be closed after a lexeme, innermost first; none when it closes a bracket
that is not the innermost open one. -/
def Lexeme.step (expected : List Char) : Lexeme → Option (List Char)
  | .mark c =>
    match closing? c with
    | some close => some (close :: expected)
    | none =>
      if isClosing c then
        match expected with
        | close :: outer => if c = close then some outer else none
        | [] => none
      else some expected
  | _ => some expected

/-- The brackets still to be closed after lexemes. -/
def openAfter (expected : List Char) (lexemes : List Lexeme) : Option (List Char) :=
  lexemes.foldlM Lexeme.step expected

theorem Lexeme.step_below {lexeme : Lexeme} {expected left : List Char}
    (h : lexeme.step expected = some left) (outer : List Char) :
    lexeme.step (expected ++ outer) = some (left ++ outer) := by
  revert h
  fun_cases lexeme.step expected with
  | case1 expected c close hc =>
    rintro ⟨⟩
    simp only [Lexeme.step, hc, List.cons_append]
  | case2 c _ hc hclosing =>
    rintro ⟨⟩
    simp only [Lexeme.step, hc, hclosing, List.cons_append, if_true]
  | case3 | case4 =>
    intro h
    cases h
  | case5 expected c hc hclosing =>
    rintro ⟨⟩
    simp only [Lexeme.step, hc, hclosing, if_false, Bool.false_eq_true]
  | case6 expected lexeme hmark =>
    rintro ⟨⟩
    simp only [Lexeme.step]

/-- Where the brackets of some lexemes match, those of the first of them do. -/
theorem openAfter_isSome_of_prefix {expected : List Char} {front lexemes : List Lexeme}
    (hfront : front <+: lexemes) (h : (openAfter expected lexemes).isSome = true) :
    (openAfter expected front).isSome = true := by
  obtain ⟨back, rfl⟩ := hfront
  rw [openAfter, List.foldlM_append] at h
  exact Option.isSome_of_isSome_bind h

/-! ## A closing parenthesis after a text -/

/-- Nothing, or a text that begins with a blank or a control character. -/
def Sealed (rest : List Char) : Prop := ∀ c ∈ rest.head?, c.toNat ≤ 0x20

/-- No IRI reaches over a closing parenthesis and a blank. -/
theorem iriEnclosure_append_eq_none {text rest : List Char} (hrest : Sealed rest)
    (h : iriEnclosure.body? text = none) : iriEnclosure.body? (text ++ ')' :: rest) = none := by
  have hblank : iriEnclosure.body? rest = none := by
    cases rest with
    | nil => rfl
    | cons b rest =>
      have hb : b.toNat ≤ 0x20 := hrest b rfl
      have hne : '>' ≠ b := by
        rintro rfl
        exact absurd hb (by decide)
      have hclose : rest? iriEnclosure.close (b :: rest) = none := by
        simp [iriEnclosure, rest?, hne]
      have ha : iriEnclosure.admits b = false := by
        simp [iriEnclosure, Nat.not_lt.mpr hb]
      exact Enclosure.body?_of_refuses hclose rfl ha
  induction text with
  | nil =>
    have hclose : rest? iriEnclosure.close (')' :: rest) = none := by
      simp [iriEnclosure, rest?]
    rw [List.nil_append, Enclosure.body?_of_admits hclose rfl (by decide), hblank]
    rfl
  | cons c text ih =>
    have hclose : rest? iriEnclosure.close (c :: text) = none := by
      rw [Option.eq_none_iff_forall_ne_some]
      intro other ho
      rw [Enclosure.body?_of_close ho (List.cons_ne_nil c text)] at h
      cases h
    have hmore : rest? iriEnclosure.close (c :: (text ++ ')' :: rest)) = none :=
      rest?_append_eq_none hclose (by simp [iriEnclosure]) _
    cases ha : iriEnclosure.admits c with
    | true =>
      rw [Enclosure.body?_of_admits hclose rfl ha, Option.map_eq_none_iff] at h
      rw [List.cons_append, Enclosure.body?_of_admits hmore rfl ha, ih h]
      rfl
    | false =>
      exact Enclosure.body?_of_refuses hmore rfl ha

/-- A closing parenthesis does not turn a short string into a long one. -/
theorem rest?_quotes_append {quote : Char} {text : List Char} (hquote : isQuote quote = true)
    (hne : text ≠ []) (h : rest? [quote, quote] text = none) (rest : List Char) :
    rest? [quote, quote] (text ++ ')' :: rest) = none := by
  rcases text with _ | ⟨c, _ | ⟨d, text⟩⟩
  · exact absurd rfl hne
  · have hparenthesis : quote ≠ ')' := by
      rintro rfl
      exact absurd hquote (by decide)
    simp [rest?, hparenthesis]
  · exact rest?_append_eq_none h (by simp) _

section comment
variable {text : List Char} (h : text.all staysInLine = false) (more : List Char)
include h

theorem all_staysInLine_append : (text ++ more).all staysInLine = false := by
  rw [List.all_append, h, Bool.false_and]

theorem takeWhile_staysInLine_append :
    (text ++ more).takeWhile staysInLine = text.takeWhile staysInLine := by
  rw [List.takeWhile_append, if_neg]
  intro hlength
  have hself := (List.takeWhile_prefix staysInLine).eq_of_length hlength
  rw [List.all_eq_true.mpr (List.takeWhile_eq_self_iff.mp hself)] at h
  cases h

theorem dropWhile_staysInLine_append :
    (text ++ more).dropWhile staysInLine = text.dropWhile staysInLine ++ more := by
  rw [List.dropWhile_append, if_neg]
  intro hempty
  rw [List.isEmpty_iff, List.dropWhile_eq_nil_iff, ← List.all_eq_true, h] at hempty
  cases hempty

end comment

/-- A lexeme that ends is read alike when a closing parenthesis and a blank follow the text. -/
theorem first_append {c : Char} {text rest : List Char} (hrest : Sealed rest)
    (h : (first c text).1.isEnded = true) :
    first c (text ++ ')' :: rest) =
      ((first c text).1, (first c text).2 ++ ')' :: rest) := by
  revert h
  fun_cases first c text with
  | case1 hc body tail hb =>
    intro
    simp only [first, hc, if_true, Enclosure.body?_append hb]
  | case2 hc hb =>
    intro
    simp only [first, hc, if_true, iriEnclosure_append_eq_none hrest hb]
  | case3 hc hq long hl =>
    intro h
    have hmore : rest? [c, c] (text ++ ')' :: rest) = some (long ++ ')' :: rest) := by
      rw [rest?_eq_some_iff.mp hl, List.append_assoc, rest?_append]
    cases hb : (longEnclosure c).body? long with
    | none =>
      rw [hb] at h
      cases h
    | some answer =>
      simp only [first, hc, hq, if_true, if_false, hmore, Enclosure.body?_append hb, endedOr]
  | case4 hc hq hl =>
    intro h
    cases hb : (shortEnclosure c).body? text with
    | none =>
      rw [hb] at h
      cases h
    | some answer =>
      have hne : text ≠ [] := by
        rintro rfl
        cases hb
      simp only [first, hc, hq, if_true, if_false, rest?_quotes_append hq hne hl,
        Enclosure.body?_append hb, endedOr]
  | case5 =>
    intro h
    cases h
  | case6 hc hq hs hl =>
    intro
    subst hs
    have hbreak : text.all staysInLine = false := Bool.eq_false_iff.mpr hl
    simp only [first, hc, hq, if_true, if_false, Bool.false_eq_true, all_staysInLine_append hbreak,
      takeWhile_staysInLine_append hbreak, dropWhile_staysInLine_append hbreak]
  | case7 hc hq hs =>
    intro
    simp only [first, hc, hq, hs, if_false, Bool.false_eq_true]

/-- A text that ends outside strings and comments is read alike when a closing parenthesis and a
blank follow it, and they are read as they stand. -/
theorem lex_append_of_endsOutside {text rest : List Char} (hrest : Sealed rest)
    (h : EndsOutside text) :
    lex (text ++ ')' :: rest) = lex text ++ .mark ')' :: lex rest := by
  rw [endsOutside_iff] at h
  fun_induction lex text with
  | case1 =>
    rw [List.nil_append, lex]
    rfl
  | case2 c text ih =>
    have hfirst := first_append hrest (h _ List.mem_cons_self)
    rw [List.cons_append, lex, hfirst, ih fun lexeme hl => h lexeme (List.mem_cons_of_mem _ hl)]
    rfl

/-- A character that begins no IRI, no string and no comment. -/
def standsAlone (c : Char) : Bool := c != '<' && !isQuote c && c != '#'

/-- Characters that stand alone are read one at a time. -/
theorem lex_marks {front : List Char} (h : front.all standsAlone = true) (text : List Char) :
    lex (front ++ text) = front.map .mark ++ lex text := by
  induction front with
  | nil => rfl
  | cons c front ih =>
    rw [List.all_cons, Bool.and_eq_true] at h
    obtain ⟨⟨hiri, hquote⟩, hcomment⟩ : (c ≠ '<' ∧ isQuote c = false) ∧ c ≠ '#' := by
      simpa [standsAlone] using h.1
    have hfirst : first c (front ++ text) = (.mark c, front ++ text) := by
      simp only [first, hiri, hquote, hcomment, if_false, Bool.false_eq_true]
    rw [List.cons_append, lex, hfirst, ih h.2]
    rfl

end RdfGateway.Sparql
