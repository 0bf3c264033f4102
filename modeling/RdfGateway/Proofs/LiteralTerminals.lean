import Mathlib.Order.CompletePartialOrder
import RdfGateway.Proofs.AcceptedTerminals

/-!
# The terminals of literals

Strings and the literals made with them, as languages over characters. A literal is a string in
double quotes with nothing, a language tag or a datatype right behind it. What escapes a string may
have, and how the IRI of a datatype is written, is left open (`quotedLiteral`), because SPARQL and
N-Triples differ in this.

* `Literal.mem_quotedLiteral`: the text of a literal is one, when its language tag begins with letters.
* `stringBody_append_inj`: a string ends at one place only.

Proof. Every character of a string is written as it stands or as an escape that both formats have
(`escapeChar_mem`), so the text between the quotes is a run of these. A reader of short strings
passes over each of them (`PassedOver`) and stops at the closing quote.
-/

namespace RdfGateway

open Text Sparql
open scoped Computability

namespace Sparql

/-- A character that stands for itself between double quotes. -/
def isStringChar (c : Char) : Bool := !(['"', '\\', '\n', '\r'].contains c)

/-- `ECHAR`. -/
def escapedChar : Language Char := exactly ['\\'] * oneOf "tbnrf\\\"'".toList.contains

/-- What stands between the quotes of a string. -/
def stringBody (escapes : Language Char) : Language Char := (oneOf isStringChar + escapes)∗

/-- A string in double quotes. -/
def quoted (escapes : Language Char) : Language Char :=
  exactly ['"'] * (stringBody escapes * exactly ['"'])

/-- What may stand behind the string of a literal. -/
def literalEnd (iri : Language Char) : Language Char :=
  1 + (Terminal.langTag.language + exactly ['^', '^'] * iri)

/-- A literal: a string with a language tag, a datatype or nothing right behind it. -/
def quotedLiteral (escapes iri : Language Char) : Language Char := quoted escapes * literalEnd iri

/-- `RDFLiteral` with a string in double quotes and an IRI in full. -/
def rdfLiteral : Language Char := quotedLiteral escapedChar Terminal.iriRef.language

variable {escapes iri : Language Char}

theorem escapeChar_mem (hescapes : escapedChar ≤ escapes) (c : Char) :
    NTriples.escapeChar c ∈ oneOf isStringChar + escapes := by
  have hescaped {e : Char} (he : "tbnrf\\\"'".toList.contains e = true) :
      ['\\', e] ∈ oneOf isStringChar + escapes := by
    have hmem : ['\\'] ++ [e] ∈ escapedChar := append_mem_exactly_mul.mpr ⟨e, rfl, he⟩
    exact .inr (hescapes hmem)
  unfold NTriples.escapeChar
  split
  case h_6 hbackslash hquote hline hreturn _ =>
    have hc : isStringChar c = true := by
      simpa [isStringChar] using ⟨hquote, hbackslash, hline, hreturn⟩
    exact .inl ⟨c, rfl, hc⟩
  all_goals exact hescaped (by decide)

theorem escape_mem_stringBody (hescapes : escapedChar ≤ escapes) (text : List Char) :
    text.flatMap NTriples.escapeChar ∈ stringBody escapes := by
  refine Language.mem_kstar.mpr ⟨text.map NTriples.escapeChar, List.flatMap_def, ?_⟩
  rw [List.forall_mem_map]
  exact fun c _ => escapeChar_mem hescapes c

/-! ### Where a string ends -/

/-- A reader of a short string passes over the texts of the language. -/
def PassedOver (language : Language Char) : Prop :=
  ∀ part ∈ language, ∀ {text body rest : List Char},
    (shortEnclosure '"').body? text = some (body, rest) →
      (shortEnclosure '"').body? (part ++ text) = some (part ++ body, rest)

namespace PassedOver

variable {first second : Language Char}

theorem oneOf {ok : Char → Bool} (h : ∀ c, ok c = true → isStringChar c = true) :
    PassedOver (oneOf ok) := by
  rintro _ ⟨c, rfl, hc⟩ text body rest hbody
  obtain ⟨hquote, hbackslash, hline, hreturn⟩ :
      c ≠ '"' ∧ c ≠ '\\' ∧ c ≠ '\n' ∧ c ≠ '\r' := by
    simpa [isStringChar] using h c hc
  have hclose : rest? (shortEnclosure '"').close (c :: text) = none := by
    simp [shortEnclosure, rest?, Ne.symm hquote]
  rw [List.singleton_append, Enclosure.body?_of_admits hclose (by simp [hbackslash])
    (by simp [shortEnclosure, hline, hreturn]), hbody]
  rfl

/-- A backslash takes the next character along. -/
theorem escape (language : Language Char) (h : ∀ part ∈ language, ∃ e, part = ['\\', e]) :
    PassedOver language := by
  intro part hpart text body rest hbody
  obtain ⟨e, rfl⟩ := h part hpart
  have hclose : rest? (shortEnclosure '"').close ('\\' :: e :: text) = none := by
    simp [shortEnclosure, rest?]
  rw [List.cons_append, List.singleton_append, Enclosure.body?_of_escape hclose rfl, hbody]
  rfl

theorem one : PassedOver 1 := by
  rintro _ rfl text body rest hbody
  exact hbody

theorem add (hfirst : PassedOver first) (hsecond : PassedOver second) :
    PassedOver (first + second) := by
  rintro part (h | h)
  · exact hfirst part h
  · exact hsecond part h

theorem mul (hfirst : PassedOver first) (hsecond : PassedOver second) :
    PassedOver (first * second) := by
  rintro _ ⟨front, hfront, back, hback, rfl⟩ text body rest hbody
  rw [List.append_assoc, List.append_assoc]
  exact hfirst front hfront (hsecond back hback hbody)

theorem pow (h : PassedOver first) (n : Nat) : PassedOver (first ^ n) := by
  induction n with
  | zero => exact pow_zero first ▸ one
  | succ n ih => exact pow_succ first n ▸ ih.mul h

theorem kstar (h : PassedOver first) : PassedOver first∗ := by
  rintro _ ⟨parts, rfl, hparts⟩
  induction parts with
  | nil => exact fun hbody => hbody
  | cons part parts ih =>
    obtain ⟨hpart, hparts⟩ := List.forall_mem_cons.mp hparts
    intro text body rest hbody
    rw [List.flatten_cons, List.append_assoc, List.append_assoc]
    exact h part hpart (ih hparts hbody)

theorem escapedChar : PassedOver escapedChar := by
  refine escape _ fun part hpart => ?_
  obtain ⟨_, rfl, _, ⟨e, rfl, -⟩, rfl⟩ := hpart
  exact ⟨e, rfl⟩

end PassedOver

/-- **A string ends at one place only.** -/
theorem stringBody_append_inj (hescapes : PassedOver escapes) {body other rest more : List Char}
    (hbody : body ∈ stringBody escapes) (hother : other ∈ stringBody escapes)
    (h : body ++ '"' :: rest = other ++ '"' :: more) : body = other ∧ rest = more := by
  have hpassed : PassedOver (stringBody escapes) :=
    ((PassedOver.oneOf fun _ hc => hc).add hescapes).kstar
  have hclose (rest : List Char) : (shortEnclosure '"').body? ('"' :: rest) = some ([], rest) :=
    Enclosure.body?_of_close (by simp [shortEnclosure, rest?]) (List.cons_ne_nil _ _)
  have hread := hpassed body hbody (hclose rest)
  rw [h, hpassed other hother (hclose more), List.append_nil, List.append_nil] at hread
  obtain ⟨rfl, rfl⟩ := Prod.mk.inj (Option.some.inj hread)
  exact ⟨rfl, rfl⟩

end Sparql

/-- The tag begins with a subtag of letters, when the text is a language tag. -/
def PlacedText.hasPlainTag : PlacedText → Bool
  | .languageTag tag => Name.beginsWithLetters tag.toList
  | _ => true

variable {escapes iri : Language Char}

theorem Literal.suffix_mem_literalEnd {literal : Literal} (hiri : Terminal.iriRef.language ≤ iri)
    (hsound : ∀ text ∈ literal.texts, text.fault? = none)
    (htag : ∀ text ∈ literal.texts, text.hasPlainTag = true) :
    literal.suffix.toList ∈ literalEnd iri := by
  obtain ⟨lexical, datatype, language⟩ := literal
  cases language with
  | some tag =>
    have hmem : PlacedText.languageTag tag ∈ (Literal.mk lexical datatype (some tag)).texts :=
      List.mem_append_right _ List.mem_cons_self
    have htext : (Literal.mk lexical datatype (some tag)).suffix.toList = '@' :: tag.toList := by
      simp [suffix]
    rw [htext]
    exact .inr (.inl ((Name.langTag_iff (of_faultUnless_eq_none (hsound _ hmem))).mpr
      (htag _ hmem)))
  | none =>
    cases datatype with
    | some text =>
      have htext : (Literal.mk lexical (some text) none).suffix.toList =
          ['^', '^'] ++ '<' :: (text.toList ++ ['>']) := by
        simp [suffix]
      have hadmits := admits_of_iriFault? (hsound (.iri text) List.mem_cons_self)
      rw [htext]
      exact .inr (.inr (append_mem_exactly_mul.mpr (hiri (mem_iriRef_iff.mpr hadmits))))
    | none => exact .inl rfl

/-- **The text of a literal is a literal** when its language tag begins with letters. -/
theorem Literal.mem_quotedLiteral {literal : Literal} (hescapes : escapedChar ≤ escapes)
    (hiri : Terminal.iriRef.language ≤ iri) (hsound : ∀ text ∈ literal.texts, text.fault? = none)
    (htag : ∀ text ∈ literal.texts, text.hasPlainTag = true) :
    literal.text.toList ∈ quotedLiteral escapes iri := by
  have hquoted : ['"'] ++ (literal.lexical.toList.flatMap NTriples.escapeChar ++ ['"']) ∈
      quoted escapes :=
    append_mem_exactly_mul.mpr
      (append_mem_mul_exactly.mpr (escape_mem_stringBody hescapes _))
  have hmem := Language.append_mem_mul hquoted (literal.suffix_mem_literalEnd hiri hsound htag)
  simpa [quotedLiteral, literal.toList_text] using hmem

end RdfGateway
