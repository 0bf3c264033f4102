import Mathlib.Computability.Language
import RdfGateway.Proofs.TermTexts

/-!
# The terminals of names

The terminals of SPARQL that IRIs and names are written in, each as a language over characters. A
reader that takes the longest terminal from the front of a text reads one token (`Terminal.Reads`).
No terminal has a space or a line break in it (`Terminal.unbroken`), so before one of these a
token is read as a terminal exactly when it belongs to its language (`Terminal.reads_iff`). Before
anything else it may be read only in part: of a language tag the letters at its front are taken when
neither a letter nor a hyphen follows them (`Terminal.reads_letters`).

* `mem_kstar_oneOf`: a run of characters of a class.
* `mem_nameEnd_iff`: what may follow the first character of a label, dots inside but not at the end.
* `mem_pnameNs_iff`, `mem_langTag_iff`: prefixes with their colon, and language tags with their sign.
-/

namespace RdfGateway

open scoped Computability

/-! ## Classes of characters -/

namespace Text.CharRanges

variable {ranges others : CharRanges} {c : Char}

theorem has_append : CharRanges.has (ranges ++ others) c = (ranges.has c || others.has c) :=
  List.any_append

/-- Every range lies in one of the others. -/
def within (ranges others : CharRanges) : Bool :=
  ranges.all fun range => others.any fun other => other.1 ≤ range.1 && range.2 ≤ other.2

/-- No range meets one of the others. -/
def apart (ranges others : CharRanges) : Bool :=
  ranges.all fun range => others.all fun other => range.2 < other.1 || other.2 < range.1

theorem has_of_within (h : ranges.within others = true) (hc : ranges.has c = true) :
    others.has c = true := by
  obtain ⟨range, hrange, hlow, hhigh⟩ := has_iff.mp hc
  obtain ⟨other, hother, hwithin⟩ := List.any_eq_true.mp (List.all_eq_true.mp h range hrange)
  simp only [Bool.and_eq_true, decide_eq_true_eq] at hwithin
  exact has_iff.mpr ⟨other, hother, by omega, by omega⟩

theorem not_has_of_apart (h : ranges.apart others = true) (hc : ranges.has c = true) :
    others.has c = false := by
  rw [Bool.eq_false_iff]
  intro hothers
  obtain ⟨range, hrange, hlow, hhigh⟩ := has_iff.mp hc
  obtain ⟨other, hother, hlow', hhigh'⟩ := has_iff.mp hothers
  have hapart := List.all_eq_true.mp (List.all_eq_true.mp h range hrange) other hother
  simp only [Bool.or_eq_true, decide_eq_true_eq] at hapart
  omega

end Text.CharRanges

namespace Sparql

open Text

/-- `PN_CHARS_BASE`. -/
def pnCharsBase : CharRanges :=
  [(0x41, 0x5A), (0x61, 0x7A), (0xC0, 0xD6), (0xD8, 0xF6), (0xF8, 0x2FF), (0x370, 0x37D),
    (0x37F, 0x1FFF), (0x200C, 0x200D), (0x2070, 0x218F), (0x2C00, 0x2FEF), (0x3001, 0xD7FF),
    (0xF900, 0xFDCF), (0xFDF0, 0xFFFD), (0x10000, 0xEFFFF)]

/-- `PN_CHARS_U` and the digits: what may begin a label or a variable name. -/
def nameStarts : CharRanges := pnCharsBase ++ [(0x5F, 0x5F), (0x30, 0x39)]

/-- What may follow in a variable name. -/
def varChars : CharRanges := nameStarts ++ [(0xB7, 0xB7), (0x300, 0x36F), (0x203F, 0x2040)]

/-- `PN_CHARS`. -/
def pnChars : CharRanges := varChars ++ [(0x2D, 0x2D)]

/-! ## Languages -/

/-- The texts of one character of a class. -/
def oneOf (ok : Char → Bool) : Language Char := {text | ∃ c, text = [c] ∧ ok c = true}

/-- One text alone. -/
def exactly (text : List Char) : Language Char := {text}

/-- One or more characters of a class. -/
def someOf (ok : Char → Bool) : Language Char := oneOf ok * (oneOf ok)∗

/-- `VARNAME`. -/
def varName : Language Char := oneOf nameStarts.has * (oneOf varChars.has)∗

/-- What may follow the first character of a label: nothing, or name characters and dots and then a
name character. -/
def nameEnd : Language Char := 1 + (oneOf pnChars.has + exactly ['.'])∗ * oneOf pnChars.has

/-- `PN_PREFIX`. -/
def pnPrefix : Language Char := oneOf pnCharsBase.has * nameEnd

/-- `PLX`: a percent sign and two hexadecimal digits, or a backslash and a mark. -/
def plx : Language Char :=
  exactly ['%'] * (oneOf Iri.isHexDigit * oneOf Iri.isHexDigit) +
    exactly ['\\'] * oneOf "_~.-!$&'()*+,;=/?#@%".toList.contains

/-- `PN_LOCAL`. -/
def pnLocal : Language Char :=
  (oneOf nameStarts.has + exactly [':'] + plx) *
    (1 + (oneOf pnChars.has + exactly ['.'] + exactly [':'] + plx)∗ *
      (oneOf pnChars.has + exactly [':'] + plx))

/-- The subtags of a language tag behind the first one, each behind a hyphen. -/
def laterSubtags : Language Char := (exactly ['-'] * someOf Char.isAlphanum)∗

/-- The terminals that hold IRIs and names. -/
inductive Terminal where
  | iriRef
  | pnameNs
  | pnameLn
  | blankNodeLabel
  | var1
  | var2
  | langTag

/-- The texts of a terminal. -/
def Terminal.language : Terminal → Language Char
  | .iriRef => exactly ['<'] * ((oneOf iriEnclosure.admits)∗ * exactly ['>'])
  | .pnameNs => (1 + pnPrefix) * exactly [':']
  | .pnameLn => (1 + pnPrefix) * exactly [':'] * pnLocal
  | .blankNodeLabel => exactly ['_', ':'] * (oneOf nameStarts.has * nameEnd)
  | .var1 => exactly ['?'] * varName
  | .var2 => exactly ['$'] * varName
  | .langTag => exactly ['@'] * (someOf Char.isAlpha * laterSubtags)

/-! ### Membership -/

section

variable {ok : Char → Bool} {language : Language Char} {c : Char} {text rest : List Char}

theorem cons_mem_oneOf_mul : c :: text ∈ oneOf ok * language ↔ ok c = true ∧ text ∈ language := by
  rw [Language.mem_mul]
  constructor
  · rintro ⟨_, ⟨d, rfl, hd⟩, rest, hrest, he⟩
    obtain ⟨rfl, rfl⟩ := List.cons.inj he
    exact ⟨hd, hrest⟩
  · rintro ⟨hc, htext⟩
    exact ⟨[c], ⟨c, rfl, hc⟩, text, htext, rfl⟩

theorem append_mem_exactly_mul : text ++ rest ∈ exactly text * language ↔ rest ∈ language := by
  rw [Language.mem_mul]
  constructor
  · rintro ⟨_, rfl, more, hmore, he⟩
    exact List.append_cancel_left he ▸ hmore
  · exact fun hrest => ⟨text, rfl, rest, hrest, rfl⟩

theorem append_mem_mul_exactly : rest ++ text ∈ language * exactly text ↔ rest ∈ language := by
  rw [Language.mem_mul]
  constructor
  · rintro ⟨more, hmore, _, rfl, he⟩
    exact List.append_cancel_right he ▸ hmore
  · exact fun hrest => ⟨rest, hrest, text, rfl, rfl⟩

/-- A run of characters of a class. -/
theorem mem_kstar_oneOf : text ∈ (oneOf ok)∗ ↔ ∀ c ∈ text, ok c = true := by
  rw [Language.mem_kstar]
  constructor
  · rintro ⟨parts, rfl, hparts⟩ c hc
    obtain ⟨part, hpart, hmem⟩ := List.mem_flatten.mp hc
    obtain ⟨d, rfl, hd⟩ := hparts part hpart
    exact List.mem_singleton.mp hmem ▸ hd
  · intro h
    refine ⟨text.map fun c => [c], ?_, ?_⟩
    · induction text with
      | nil => rfl
      | cons c text ih => simp [← ih fun d hd => h d (List.mem_cons_of_mem c hd)]
    · intro part hpart
      obtain ⟨c, hc, rfl⟩ := List.mem_map.mp hpart
      exact ⟨c, rfl, h c hc⟩

theorem mem_someOf_iff : text ∈ someOf ok ↔ text ≠ [] ∧ ∀ c ∈ text, ok c = true := by
  cases text with
  | nil => exact ⟨fun ⟨_, ⟨_, rfl, _⟩, _, _, he⟩ => (by cases he), fun h => absurd rfl h.1⟩
  | cons c text =>
    rw [someOf, cons_mem_oneOf_mul, mem_kstar_oneOf, List.forall_mem_cons]
    exact ⟨fun h => ⟨List.cons_ne_nil c text, h⟩, And.right⟩

theorem oneOf_add_exactly (ok : Char → Bool) (mark : Char) :
    oneOf ok + exactly [mark] = oneOf fun c => ok c || c == mark := by
  ext text
  rw [Language.mem_add]
  constructor
  · rintro (⟨c, rfl, hc⟩ | rfl)
    · exact ⟨c, rfl, by simp [hc]⟩
    · exact ⟨mark, rfl, by simp⟩
  · rintro ⟨c, rfl, hc⟩
    rw [Bool.or_eq_true, beq_iff_eq] at hc
    rcases hc with hc | rfl
    · exact .inl ⟨c, rfl, hc⟩
    · exact .inr rfl

/-- Name characters and dots, no dot at the end. -/
theorem mem_nameEnd_iff : text ∈ nameEnd ↔
    (∀ c ∈ text, pnChars.has c = true ∨ c = '.') ∧ text.getLast? ≠ some '.' := by
  rw [nameEnd, oneOf_add_exactly, Language.mem_add, Language.mem_one, Language.mem_mul]
  rcases List.eq_nil_or_concat text with rfl | ⟨front, c, rfl⟩
  · simp
  · have hdot : pnChars.has '.' = false := by decide
    rw [List.concat_eq_append]
    constructor
    · rintro (he | ⟨init, hinit, _, ⟨d, rfl, hd⟩, he⟩)
      · simp at he
      · obtain ⟨rfl, hlast⟩ := List.append_inj' he rfl
        obtain rfl := List.singleton_inj.mp hlast
        rw [mem_kstar_oneOf] at hinit
        refine ⟨List.forall_mem_append.mpr ⟨fun c hc => by simpa using hinit c hc,
          List.forall_mem_singleton.mpr (.inl hd)⟩, ?_⟩
        rw [List.getLast?_concat]
        rintro ⟨⟩
        rw [hdot] at hd
        cases hd
    · rintro ⟨hall, hlast⟩
      obtain ⟨hfront, hc⟩ := List.forall_mem_append.mp hall
      rw [List.getLast?_concat] at hlast
      refine .inr ⟨front, mem_kstar_oneOf.mpr fun d hd => by simpa using hfront d hd, [c],
        ⟨c, rfl, ?_⟩, rfl⟩
      exact (hc c List.mem_cons_self).resolve_right fun he => hlast (congrArg some he)

theorem mem_iriRef_iff :
    '<' :: (text ++ ['>']) ∈ Terminal.iriRef.language ↔ ∀ c ∈ text, iriEnclosure.admits c = true := by
  rw [← mem_kstar_oneOf]
  exact append_mem_exactly_mul.trans append_mem_mul_exactly

theorem mem_pnameNs_iff :
    text ++ [':'] ∈ Terminal.pnameNs.language ↔ text = [] ∨ text ∈ pnPrefix := by
  rw [← Language.mem_one, ← Language.mem_add]
  exact append_mem_mul_exactly

/-- A language tag: a first subtag of letters, then nothing or a hyphen and what follows it. -/
theorem mem_langTag_iff : '@' :: text ∈ Terminal.langTag.language ↔
    ∃ first later, text = first ++ later ∧ first ≠ [] ∧ (∀ c ∈ first, c.isAlpha = true) ∧
      later ∈ laterSubtags := by
  refine append_mem_exactly_mul.trans ?_
  rw [Language.mem_mul]
  constructor
  · rintro ⟨first, hfirst, later, hlater, rfl⟩
    obtain ⟨hne, hletters⟩ := mem_someOf_iff.mp hfirst
    exact ⟨first, later, rfl, hne, hletters, hlater⟩
  · rintro ⟨first, later, rfl, hne, hletters, hlater⟩
    exact ⟨first, mem_someOf_iff.mpr ⟨hne, hletters⟩, later, hlater, rfl⟩

/-- Behind the first subtag the text ends or goes on with a hyphen. -/
theorem head?_of_mem_laterSubtags (h : text ∈ laterSubtags) : ∀ c ∈ text.head?, c = '-' := by
  obtain ⟨parts, rfl, hparts⟩ := Language.mem_kstar.mp h
  cases parts with
  | nil => simp
  | cons part parts =>
    obtain ⟨_, rfl, subtag, -, rfl⟩ := hparts part List.mem_cons_self
    simp

/-- A character of a class is none of the marks when no mark is of the class. -/
theorem not_mem_of_class {marks : List Char} (h : marks.all (!ok ·) = true) (hc : ok c = true) :
    c ∉ marks := by
  intro hmark
  have hfree := List.all_eq_true.mp h c hmark
  rw [hc] at hfree
  cases hfree

theorem takeWhile_append_of_stop (htext : ∀ c ∈ text, ok c = true)
    (hrest : ∀ c ∈ rest.head?, ok c = false) : (text ++ rest).takeWhile ok = text := by
  rw [List.takeWhile_append_of_pos htext]
  cases rest with
  | nil => simp
  | cons c rest => simp [hrest c rfl]

end

/-! ## Reading -/

/-- None of the characters stands in a text of the language. -/
def Avoids (marks : List Char) (language : Language Char) : Prop :=
  ∀ text ∈ language, ∀ c ∈ text, c ∉ marks

/-- No text of the language has a space or a line break. -/
abbrev Unbroken (language : Language Char) : Prop := Avoids [' ', '\n'] language

namespace Avoids

variable {marks : List Char} {first second : Language Char}

theorem exactly {text : List Char} (h : marks.all (!text.contains ·) = true) :
    Avoids marks (exactly text) := by
  rintro _ rfl c hc hmark
  have hfree := List.all_eq_true.mp h c hmark
  rw [Bool.not_eq_true', Bool.eq_false_iff] at hfree
  exact hfree (List.contains_iff_mem.mpr hc)

theorem oneOf {ok : Char → Bool} (h : marks.all (!ok ·) = true) : Avoids marks (oneOf ok) := by
  rintro _ ⟨c, rfl, hc⟩
  exact List.forall_mem_singleton.mpr (not_mem_of_class h hc)

theorem one : Avoids marks 1 := by
  rintro _ rfl c hc
  cases hc

theorem add (hfirst : Avoids marks first) (hsecond : Avoids marks second) :
    Avoids marks (first + second) := by
  rintro text (h | h)
  · exact hfirst text h
  · exact hsecond text h

theorem mul (hfirst : Avoids marks first) (hsecond : Avoids marks second) :
    Avoids marks (first * second) := by
  rintro _ ⟨front, hfront, back, hback, rfl⟩
  exact List.forall_mem_append.mpr ⟨hfirst front hfront, hsecond back hback⟩

theorem kstar (h : Avoids marks first) : Avoids marks first∗ := by
  rintro _ ⟨parts, rfl, hparts⟩ c hc
  obtain ⟨part, hpart, hmem⟩ := List.mem_flatten.mp hc
  exact h part (hparts part hpart) c hmem

theorem pow (h : Avoids marks first) (n : Nat) : Avoids marks (first ^ n) := by
  induction n with
  | zero => exact pow_zero first ▸ one
  | succ n ih => exact pow_succ first n ▸ ih.mul h

theorem someOf {ok : Char → Bool} (h : marks.all (!ok ·) = true) : Avoids marks (someOf ok) :=
  (oneOf h).mul (oneOf h).kstar

theorem pnChars : Unbroken (Sparql.oneOf Sparql.pnChars.has) := oneOf rfl

theorem nameStarts : Unbroken (Sparql.oneOf Sparql.nameStarts.has) := oneOf rfl

theorem nameEnd : Unbroken nameEnd := one.add ((pnChars.add (exactly rfl)).kstar.mul pnChars)

theorem pnPrefix : Unbroken pnPrefix := (oneOf rfl).mul nameEnd

theorem varName : Unbroken varName := nameStarts.mul (oneOf rfl).kstar

theorem plx : Unbroken plx :=
  ((exactly rfl).mul ((oneOf rfl).mul (oneOf rfl))).add ((exactly rfl).mul (oneOf rfl))

theorem pnLocal : Unbroken pnLocal :=
  ((nameStarts.add (exactly rfl)).add plx).mul
    (one.add ((((pnChars.add (exactly rfl)).add (exactly rfl)).add plx).kstar.mul
      ((pnChars.add (exactly rfl)).add plx)))

end Avoids

namespace Terminal

variable {terminal : Terminal} {token rest : List Char}

/-- **No terminal has a space or a line break in it.** -/
theorem unbroken (terminal : Terminal) : Unbroken terminal.language := by
  cases terminal with
  | iriRef => exact (Avoids.exactly rfl).mul ((Avoids.oneOf rfl).kstar.mul (.exactly rfl))
  | pnameNs => exact (Avoids.one.add .pnPrefix).mul (.exactly rfl)
  | pnameLn => exact ((Avoids.one.add .pnPrefix).mul (.exactly rfl)).mul .pnLocal
  | blankNodeLabel => exact (Avoids.exactly rfl).mul (Avoids.nameStarts.mul .nameEnd)
  | var1 | var2 => exact (Avoids.exactly rfl).mul .varName
  | langTag =>
    exact (Avoids.exactly rfl).mul ((Avoids.someOf rfl).mul
      ((Avoids.exactly rfl).mul (.someOf rfl)).kstar)

/-- In front of the rest the token is read: it is a text of the terminal, and no terminal takes more
from the front of the text. -/
def Reads (terminal : Terminal) (token rest : List Char) : Prop :=
  token ∈ terminal.language ∧
    ∀ (other : Terminal), ∀ front ∈ other.language, front <+: token ++ rest →
      front.length ≤ token.length

/-- **Before a break a terminal is read as it stands.** -/
theorem reads_iff (hrest : Breaks rest) :
    terminal.Reads token rest ↔ token ∈ terminal.language := by
  refine ⟨And.left, fun htoken => ⟨htoken, fun other front hfront hstart => ?_⟩⟩
  rcases List.prefix_or_prefix_of_prefix hstart (List.prefix_append token rest) with h | h
  · exact h.length_le
  · obtain ⟨more, rfl⟩ := h
    cases more with
    | nil => simp
    | cons c more =>
      -- the terminal would go on with the break behind the token
      obtain ⟨back, hback⟩ := (List.prefix_append_right_inj token).mp hstart
      have hbreak : isBreak c = true := hrest c (by rw [← hback]; rfl)
      rw [isBreak, Bool.or_eq_true, beq_iff_eq, beq_iff_eq] at hbreak
      exact absurd (by simpa using hbreak) (other.unbroken _ hfront c (by simp))

/-- A prefix begins with a name character or is its colon. -/
theorem head?_of_mem_prefixed {language : Language Char} {text : List Char}
    (h : text ∈ (1 + pnPrefix) * exactly [':'] * language) :
    ∀ c ∈ text.head?, c = ':' ∨ pnCharsBase.has c = true := by
  obtain ⟨_, ⟨label, hlabel, _, rfl, rfl⟩, back, -, rfl⟩ := h
  rcases hlabel with rfl | ⟨_, ⟨c, rfl, hc⟩, more, -, rfl⟩
  · simp
  · simp [hc]

/-- The sign of language tags begins no other terminal. -/
theorem eq_langTag_of_mem {text : List Char} (h : '@' :: text ∈ terminal.language) :
    terminal = .langTag := by
  have hat : ¬ ('@' = ':' ∨ pnCharsBase.has '@' = true) := by decide
  cases terminal with
  | iriRef | blankNodeLabel | var1 | var2 =>
    obtain ⟨_, rfl, _, -, he⟩ := Language.mem_mul.mp h
    cases he
  | pnameNs =>
    rw [language, ← mul_one ((1 + pnPrefix) * exactly [':'])] at h
    exact absurd (head?_of_mem_prefixed h '@' rfl) hat
  | pnameLn => exact absurd (head?_of_mem_prefixed h '@' rfl) hat
  | langTag => rfl

/-- **Letters behind the sign are read as a language tag** when neither a letter nor a hyphen
follows. -/
theorem reads_letters {letters : List Char} (hne : letters ≠ [])
    (hletters : ∀ c ∈ letters, c.isAlpha = true)
    (hrest : ∀ c ∈ rest.head?, c.isAlpha = false ∧ c ≠ '-') :
    Terminal.langTag.Reads ('@' :: letters) rest := by
  refine ⟨mem_langTag_iff.mpr ⟨letters, [], by simp, hne, hletters,
    Language.nil_mem_kstar _⟩, fun other front hfront hstart => ?_⟩
  cases front with
  | nil => simp
  | cons c text =>
    rw [List.cons_append] at hstart
    obtain ⟨rfl, htext⟩ := List.cons_prefix_cons.mp hstart
    obtain rfl := eq_langTag_of_mem hfront
    rw [List.length_cons, List.length_cons, Nat.add_le_add_iff_right]
    rcases List.prefix_or_prefix_of_prefix htext (List.prefix_append letters rest) with h | h
    · exact h.length_le
    · obtain ⟨more, rfl⟩ := h
      cases more with
      | nil => simp
      | cons c more =>
        -- the first subtag would end where the letters do, and no hyphen stands there
        obtain ⟨back, rfl⟩ := (List.prefix_append_right_inj letters).mp htext
        obtain ⟨hletter, hhyphen⟩ := hrest c rfl
        obtain ⟨first, later, hparts, -, hfirst, hlater⟩ := mem_langTag_iff.mp hfront
        have hstop : ∀ d ∈ (c :: more).head?, d.isAlpha = false := by
          rintro _ ⟨⟩
          exact hletter
        have hbehind : ∀ d ∈ later.head?, d.isAlpha = false := fun d hd =>
          head?_of_mem_laterSubtags hlater d hd ▸ rfl
        have hsame : letters = first := by
          rw [← takeWhile_append_of_stop hletters hstop, hparts,
            takeWhile_append_of_stop hfirst hbehind]
        rw [hsame, List.append_cancel_left_eq] at hparts
        exact absurd (head?_of_mem_laterSubtags hlater c (hparts ▸ rfl)) hhyphen

end Terminal

end Sparql

end RdfGateway
