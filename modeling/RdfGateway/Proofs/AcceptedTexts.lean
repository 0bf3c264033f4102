import RdfGateway.Proofs.UpdateLexemes
import RdfGateway.Rdf.Name
import RdfGateway.Iri.Absolute

/-!
# The characters of accepted texts

A text is written out as it stands only after it has been checked. Here is what the checks say of
the characters of the text, and so where the text ends for a reader.

* `Iri.admits_of_isAbsolute`: an absolute IRI has only characters that may stand between angle
  brackets.
* `Name.forall_of_isBlankLabel`, `Name.forall_of_isVariableName`, `Name.forall_of_isLanguageTag`,
  `Name.forall_of_isPrefixLabel`: the characters of names.

Proof. Below 128 each inclusion of classes is a finite check (`implies_of_ascii`), above it the
larger class holds everything. The texts themselves are taken apart as their checks do.
-/

namespace RdfGateway

open Text

/-- A class holds another one when it does so in ASCII and holds everything else. -/
theorem implies_of_ascii {p q : Char → Bool}
    (hascii : ∀ n < 128, p (.ofNat n) = true → q (.ofNat n) = true)
    (hwide : ∀ c : Char, 128 ≤ c.toNat → q c = true) (c : Char) (h : p c = true) :
    q c = true := by
  by_cases hc : c.toNat < 128
  · have hself : Char.ofNat c.toNat = c := Char.ofNat_toNat c
    rw [← hself] at h ⊢
    exact hascii c.toNat hc h
  · exact hwide c (by omega)

namespace Text

theorem mem_of_mem_pieces {α : Type} [DecidableEq α] (mark : α) {text : List α} {c : α}
    (h : c ∈ text) : c = mark ∨ ∃ piece ∈ pieces mark text, c ∈ piece := by
  induction text with
  | nil => cases h
  | cons d text ih =>
    by_cases hd : d = mark
    · rcases List.mem_cons.mp h with rfl | h
      · exact .inl hd
      · rcases ih h with hc | ⟨piece, hp, hc⟩
        · exact .inl hc
        · exact .inr ⟨piece, by rw [pieces, if_pos hd]; exact List.mem_cons_of_mem _ hp, hc⟩
    · rw [pieces, if_neg hd]
      cases hpieces : pieces mark text with
      | nil =>
        rcases List.mem_cons.mp h with rfl | h
        · exact .inr ⟨[c], by simp, by simp⟩
        · rw [hpieces] at ih
          rcases ih h with hc | ⟨piece, hp, -⟩
          · exact .inl hc
          · cases hp
      | cons first rest =>
        rcases List.mem_cons.mp h with rfl | h
        · exact .inr ⟨c :: first, by simp, by simp⟩
        · rw [hpieces] at ih
          rcases ih h with hc | ⟨piece, hp, hc⟩
          · exact .inl hc
          · rcases List.mem_cons.mp hp with rfl | hp
            · exact .inr ⟨d :: piece, by simp, List.mem_cons_of_mem d hc⟩
            · exact .inr ⟨piece, List.mem_cons_of_mem _ hp, hc⟩

end Text

/-! ## Absolute IRIs -/

namespace Iri

open Sparql

theorem admits_of_wide (c : Char) (h : 128 ≤ c.toNat) : iriEnclosure.admits c = true := by
  have hlisted : "<>\"\x7b\x7d|^`\\".toList.contains c = false := by
    rw [Bool.eq_false_iff]
    intro hmem
    have hsmall : ("<>\"\x7b\x7d|^`\\".toList.all fun d => d.toNat < 128) = true := by decide
    have := of_decide_eq_true (List.all_eq_true.mp hsmall c (List.contains_iff_mem.mp hmem))
    omega
  have hlarge : 0x20 < c.toNat := by omega
  simp only [iriEnclosure, hlisted, hlarge, decide_true, Bool.not_false, Bool.and_true]

theorem admits_of_isQueryChar (c : Char) (h : isQueryChar c = true) :
    iriEnclosure.admits c = true :=
  implies_of_ascii (by decide +kernel) admits_of_wide c h

theorem admits_of_isPathChar (c : Char) (h : isPathChar c = true) :
    iriEnclosure.admits c = true := by
  refine admits_of_isQueryChar c ?_
  simp [isQueryChar, h]

theorem admits_of_isFragmentChar (c : Char) (h : isFragmentChar c = true) :
    iriEnclosure.admits c = true :=
  implies_of_ascii (by decide +kernel) admits_of_wide c h

theorem admits_of_isUserChar (c : Char) (h : isUserChar c = true) :
    iriEnclosure.admits c = true :=
  implies_of_ascii (by decide +kernel) admits_of_wide c h

theorem admits_of_isSchemeChar (c : Char) (h : isSchemeChar c = true) :
    iriEnclosure.admits c = true :=
  implies_of_ascii (by decide +kernel) admits_of_wide c h

theorem admits_of_isHexDigit (c : Char) (h : isHexDigit c = true) :
    iriEnclosure.admits c = true :=
  implies_of_ascii (by decide +kernel) admits_of_wide c h

theorem admits_of_isDigit (c : Char) (h : c.isDigit = true) : iriEnclosure.admits c = true := by
  refine admits_of_isHexDigit c ?_
  simp [isHexDigit, h]

/-- A text all of whose characters may stand between angle brackets. -/
def Admitted (text : List Char) : Prop := ∀ c ∈ text, iriEnclosure.admits c = true

theorem admitted_append {front back : List Char} (hfront : Admitted front)
    (hback : Admitted back) : Admitted (front ++ back) :=
  List.forall_mem_append.mpr ⟨hfront, hback⟩

theorem admitted_cons {c : Char} {text : List Char} (hc : iriEnclosure.admits c = true)
    (htext : Admitted text) : Admitted (c :: text) :=
  List.forall_mem_cons.mpr ⟨hc, htext⟩

theorem admitted_of_all {ok : Char → Bool} (hok : ∀ c, ok c = true → iriEnclosure.admits c = true)
    {text : List Char} (h : text.all ok = true) : Admitted text :=
  fun c hc => hok c (List.all_eq_true.mp h c hc)

theorem admitted_of_encodes {ok : Char → Bool}
    (hok : ∀ c, ok c = true → iriEnclosure.admits c = true) {text : List Char}
    (h : encodes ok text = true) : Admitted text := by
  fun_induction encodes ok text with
  | case1 => exact fun _ hc => absurd hc List.not_mem_nil
  | case2 a b text ih =>
    rw [Bool.and_eq_true, Bool.and_eq_true] at h
    obtain ⟨⟨ha, hb⟩, htext⟩ := h
    exact admitted_cons (by decide) (admitted_cons (admits_of_isHexDigit a ha)
      (admitted_cons (admits_of_isHexDigit b hb) (ih htext)))
  | case3 c text hc ih =>
    rw [Bool.and_eq_true, Bool.and_eq_true] at h
    exact admitted_cons (hok c h.1.2) (ih h.2)

/-! ### Addresses -/

/-- The pieces of an address hold hexadecimal digits and dots only. -/
def isAddressChar (c : Char) : Bool := isHexDigit c || c == '.'

/-- Pieces of an address. -/
def AddressPieces (groups : List (List Char)) : Prop :=
  ∀ group ∈ groups, group.all isAddressChar = true

theorem all_isAddressChar_of_isGroup {group : List Char} (h : isGroup group = true) :
    group.all isAddressChar = true := by
  simp only [isGroup, Bool.and_eq_true] at h
  rw [List.all_eq_true]
  intro c hc
  simp [isAddressChar, List.all_eq_true.mp h.1.1 c hc]

theorem all_isAddressChar_of_isIPv4 {text : List Char} (h : isIPv4 text = true) :
    text.all isAddressChar = true := by
  simp only [isIPv4, Bool.and_eq_true] at h
  rw [List.all_eq_true]
  intro c hc
  rcases mem_of_mem_pieces '.' hc with rfl | ⟨octet, ho, hc⟩
  · rfl
  · have hoctet := List.all_eq_true.mp h.2 octet ho
    simp only [isOctet, Bool.and_eq_true] at hoctet
    have hdigit := List.all_eq_true.mp hoctet.1.1.1.1 c hc
    simp [isAddressChar, isHexDigit, hdigit]

theorem addressPieces_of_all {groups : List (List Char)} (h : groups.all isGroup = true) :
    AddressPieces groups :=
  fun group hg => all_isAddressChar_of_isGroup (List.all_eq_true.mp h group hg)

theorem addressPieces_of_isLast32 {groups : List (List Char)} (h : isLast32 groups = true) :
    AddressPieces groups := by
  unfold isLast32 at h
  split at h
  · exact List.forall_mem_singleton.mpr (all_isAddressChar_of_isIPv4 h)
  · rw [Bool.and_eq_true] at h
    exact List.forall_mem_cons.mpr ⟨all_isAddressChar_of_isGroup h.1,
      List.forall_mem_singleton.mpr (all_isAddressChar_of_isGroup h.2)⟩
  · cases h

theorem addressPieces_append {front back : List (List Char)} (hfront : AddressPieces front)
    (hback : AddressPieces back) : AddressPieces (front ++ back) :=
  List.forall_mem_append.mpr ⟨hfront, hback⟩

theorem addressPieces_of_isGroupsThenLast32 {count : Nat} {groups : List (List Char)}
    (h : isGroupsThenLast32 count groups = true) : AddressPieces groups := by
  simp only [isGroupsThenLast32, Bool.and_eq_true] at h
  rw [← List.take_append_drop count groups]
  exact addressPieces_append (addressPieces_of_all h.1.2) (addressPieces_of_isLast32 h.2)

theorem eq_append_of_mem_gaps {groups before after : List (List Char)}
    (h : (before, after) ∈ gaps groups) : groups = before ++ [] :: after := by
  induction groups generalizing before with
  | nil => cases h
  | cons piece rest ih =>
    have hlater : (before, after) ∈ (gaps rest).map (fun gap => (piece :: gap.1, gap.2)) →
        piece :: rest = before ++ [] :: after := by
      intro hmem
      obtain ⟨⟨b, a⟩, hba, he⟩ := List.mem_map.mp hmem
      cases he
      rw [ih hba]
      rfl
    unfold gaps at h
    by_cases hpiece : piece = []
    · rw [if_pos hpiece] at h
      rcases List.mem_cons.mp h with he | h
      · cases he
        rw [hpiece]
        rfl
      · exact hlater h
    · rw [if_neg hpiece] at h
      exact hlater h

theorem addressPieces_gap {before after : List (List Char)} (hbefore : AddressPieces before)
    (hafter : AddressPieces after) : AddressPieces (before ++ [] :: after) :=
  addressPieces_append hbefore (List.forall_mem_cons.mpr ⟨rfl, hafter⟩)

theorem addressPieces_of_followsGap {n : Nat} {after : List (List Char)}
    (h : followsGap n after = true) : AddressPieces after := by
  unfold followsGap at h
  split at h
  · exact addressPieces_of_isGroupsThenLast32 h
  · exact addressPieces_of_isGroupsThenLast32 h
  · exact addressPieces_of_isGroupsThenLast32 h
  · exact addressPieces_of_isGroupsThenLast32 h
  · exact addressPieces_of_isLast32 h
  · rw [Bool.and_eq_true] at h
    exact addressPieces_of_all h.2
  · rw [beq_iff_eq.mp h]
    exact List.forall_mem_singleton.mpr rfl
  · cases h

theorem addressPieces_of_precedesGap {n : Nat} {before : List (List Char)}
    (h : precedesGap n before = true) : AddressPieces before := by
  unfold precedesGap at h
  obtain ⟨⟨groups, last⟩, hmem, hgap⟩ := List.any_eq_true.mp h
  simp only [Bool.and_eq_true] at hgap
  obtain ⟨⟨⟨-, hgroups⟩, -⟩, hlast⟩ := hgap
  rw [eq_append_of_mem_gaps hmem]
  exact addressPieces_gap (addressPieces_of_all hgroups) (addressPieces_of_all hlast)

theorem addressPieces_of_isBracketedIPv6 {text : List Char} (h : isBracketedIPv6 text = true) :
    AddressPieces (pieces ':' text) := by
  simp only [isBracketedIPv6, Bool.or_eq_true] at h
  rcases h with h | h
  · exact addressPieces_of_isGroupsThenLast32 h
  · obtain ⟨⟨before, after⟩, hmem, hgap⟩ := List.any_eq_true.mp h
    rw [eq_append_of_mem_gaps hmem]
    simp only [Bool.or_eq_true, Bool.and_eq_true] at hgap
    rcases hgap with (⟨hbefore, hafter⟩ | ⟨⟨-, hbefore⟩, hafter⟩) | hgap
    · rw [beq_iff_eq.mp hbefore]
      refine addressPieces_gap (List.forall_mem_singleton.mpr rfl) ?_
      rcases hafter with hafter | hafter
      · exact addressPieces_of_isGroupsThenLast32 hafter
      · obtain ⟨n, -, hn⟩ := List.any_eq_true.mp hafter
        exact addressPieces_of_followsGap hn
    · exact addressPieces_gap (addressPieces_of_all hbefore) (addressPieces_of_followsGap hafter)
    · obtain ⟨n, -, hn⟩ := List.any_eq_true.mp hgap
      simp only [Bool.and_eq_true] at hn
      exact addressPieces_gap (addressPieces_of_precedesGap hn.1.2)
        (addressPieces_of_followsGap hn.2)

theorem isAlphanum_of_isHexDigit {c : Char} (h : isHexDigit c = true) : c.isAlphanum = true := by
  simp only [isHexDigit, Bool.or_eq_true, Bool.and_eq_true, decide_eq_true_eq, Char.le_def] at h
  show (decide (c.val ≥ 'A'.val ∧ c.val ≤ 'Z'.val) ||
    decide (c.val ≥ 'a'.val) && decide (c.val ≤ 'z'.val) || c.isDigit) = true
  simp only [Bool.or_eq_true, Bool.and_eq_true, decide_eq_true_eq]
  rcases h with (h | ⟨hlow, hhigh⟩) | ⟨hlow, hhigh⟩
  · exact .inr h
  · exact .inl (.inr ⟨hlow, UInt32.le_trans hhigh (by decide)⟩)
  · exact .inl (.inl ⟨hlow, UInt32.le_trans hhigh (by decide)⟩)

theorem isUserChar_of_isHexDigit {c : Char} (h : isHexDigit c = true) : isUserChar c = true := by
  simp [isUserChar, isUnreserved, isPlain, isAlphanum_of_isHexDigit h]

/-- The characters of an address in brackets may all stand in user information. -/
theorem isUserChar_of_isBracketed {text : List Char} (h : isBracketed text = true) :
    ∀ c ∈ text, isUserChar c = true := by
  rw [isBracketed, Bool.or_eq_true] at h
  rcases h with h | h
  · cases text with
    | nil => cases h
    | cons v text =>
      simp only [isLaterAddress] at h
      split at h
      · rename_i number address hcut
        simp only [Bool.and_eq_true] at h
        obtain ⟨⟨⟨⟨hv, -⟩, hnumber⟩, -⟩, haddress⟩ := h
        have hbody : ∀ c ∈ address, isUserChar c = true := by
          intro c hc
          have hclass := List.all_eq_true.mp haddress c hc
          simp only [Bool.or_eq_true] at hclass
          rcases hclass with (hplain | hdelimiter) | hcolon
          · simp [isUserChar, isUnreserved, hplain]
          · simp [isUserChar, hdelimiter]
          · simp [isUserChar, hcolon]
        rw [(cut_eq_some_iff.mp hcut).1, beq_iff_eq.mp hv]
        intro c hc
        simp only [List.mem_cons, List.mem_append] at hc
        rcases hc with rfl | hc | rfl | hc
        · decide
        · exact isUserChar_of_isHexDigit (List.all_eq_true.mp hnumber c hc)
        · decide
        · exact hbody c hc
      · cases h
  · intro c hc
    rcases mem_of_mem_pieces ':' hc with rfl | ⟨group, hg, hc⟩
    · decide
    · have haddress := List.all_eq_true.mp (addressPieces_of_isBracketedIPv6 h group hg) c hc
      rw [isAddressChar, Bool.or_eq_true, beq_iff_eq] at haddress
      rcases haddress with hhex | rfl
      · exact isUserChar_of_isHexDigit hhex
      · decide

theorem admitted_of_isBracketed {text : List Char} (h : isBracketed text = true) :
    Admitted text :=
  fun c hc => admits_of_isUserChar c (isUserChar_of_isBracketed h c hc)

/-! ### The whole -/

theorem admitted_of_isOptionalUser {text : List Char} (h : isOptionalUser text = true) :
    Admitted text := by
  unfold isOptionalUser at h
  cases hreverse : text.reverse with
  | nil =>
    rw [List.reverse_eq_nil_iff.mp hreverse]
    exact fun _ hc => absurd hc List.not_mem_nil
  | cons c user =>
    rw [hreverse] at h
    simp only [Bool.and_eq_true] at h
    have htext : text = user.reverse ++ [c] := by
      rw [← List.reverse_reverse text, hreverse, List.reverse_cons]
    rw [htext, beq_iff_eq.mp h.1]
    exact admitted_append (admitted_of_encodes admits_of_isUserChar h.2)
      (List.forall_mem_singleton.mpr (by decide))

theorem admitted_of_isOptionalNumber {text : List Char} (h : isOptionalNumber text = true) :
    Admitted text := by
  cases text with
  | nil => exact fun _ hc => absurd hc List.not_mem_nil
  | cons c text =>
    rw [isOptionalNumber, Bool.and_eq_true] at h
    rw [beq_iff_eq.mp h.1]
    exact admitted_cons (by decide) (admitted_of_all admits_of_isDigit h.2)

theorem admitted_of_isBracketHost {text : List Char} (h : isBracketHost text = true) :
    Admitted text := by
  unfold isBracketHost at h
  split at h
  · rename_i user host hhost
    split at h
    · rename_i address rest haddress
      simp only [Bool.and_eq_true] at h
      obtain ⟨⟨⟨huser, hbracketed⟩, hnumber⟩, hpath⟩ := h
      have hrest : Admitted rest := by
        rw [← List.takeWhile_append_dropWhile (p := (· != '/')) (l := rest)]
        exact admitted_append (admitted_of_isOptionalNumber hnumber)
          (admitted_of_encodes admits_of_isPathChar hpath)
      rw [(cut_eq_some_iff.mp hhost).1, (cut_eq_some_iff.mp haddress).1]
      exact admitted_append (admitted_of_isOptionalUser huser) (admitted_cons (by decide)
        (admitted_append (admitted_of_isBracketed hbracketed) (admitted_cons (by decide) hrest)))
    · cases h
  · cases h

theorem admitted_of_isHierarchy {text : List Char} (h : isHierarchy text = true) :
    Admitted text := by
  rw [isHierarchy, Bool.or_eq_true] at h
  rcases h with h | h
  · exact admitted_of_encodes admits_of_isPathChar h
  · cases hhost : rest? ['/', '/'] text with
    | none => rw [hhost] at h; cases h
    | some host =>
      rw [hhost] at h
      have hslashes : Admitted ['/', '/'] :=
        admitted_cons (by decide) (admitted_cons (by decide) fun _ hc => absurd hc (by simp))
      rw [rest?_eq_some_iff.mp hhost]
      exact admitted_append hslashes (admitted_of_isBracketHost h)

/-- A text that is cut at an admitted mark is admitted when its parts are. -/
theorem admitted_of_cut {mark : Char} {text before : List Char} {after : Option (List Char)}
    (hcut : cut mark text = (before, after)) (hmark : iriEnclosure.admits mark = true)
    (hbefore : Admitted before) (hafter : ∀ rest ∈ after, Admitted rest) : Admitted text := by
  cases after with
  | none =>
    rw [← (cut_eq_none_iff.mp hcut).1]
    exact hbefore
  | some rest =>
    rw [(cut_eq_some_iff.mp hcut).1]
    exact admitted_append hbefore (admitted_cons hmark (hafter rest rfl))

theorem admitted_of_isSchemeSpecific {text : List Char} (h : isSchemeSpecific text = true) :
    Admitted text := by
  simp only [isSchemeSpecific, Bool.and_eq_true] at h
  obtain ⟨⟨hhierarchy, hquery⟩, hfragment⟩ := h
  refine admitted_of_cut rfl (by decide) (admitted_of_cut rfl (by decide)
    (admitted_of_isHierarchy hhierarchy) fun query hq => ?_) fun fragment hf => ?_
  · rw [hq] at hquery
    exact admitted_of_encodes admits_of_isQueryChar hquery
  · rw [hf] at hfragment
    exact admitted_of_encodes admits_of_isFragmentChar hfragment

/-- **The characters of an absolute IRI may all stand between angle brackets.** -/
theorem admits_of_isAbsolute {iri : String} (h : isAbsolute iri = true) :
    ∀ c ∈ iri.toList, iriEnclosure.admits c = true := by
  unfold isAbsolute isAbsoluteText at h
  split at h
  · rename_i scheme rest hcut
    rw [Bool.and_eq_true] at h
    obtain ⟨hscheme, hrest⟩ := h
    refine admitted_of_cut hcut (by decide) ?_ fun other ho => ?_
    · cases scheme with
      | nil => cases hscheme
      | cons c scheme =>
        rw [isScheme, Bool.and_eq_true] at hscheme
        refine admitted_cons (admits_of_isSchemeChar c ?_)
          (admitted_of_all admits_of_isSchemeChar hscheme.2)
        simp [isSchemeChar, Char.isAlphanum, hscheme.1]
    · cases ho
      exact admitted_of_isSchemeSpecific hrest
  · cases h

end Iri

/-! ## Names -/

namespace Name

theorem isNameChar_of_isNameStart {c : Char} (h : isNameStart c = true) : isNameChar c = true := by
  simp [isNameChar, isVariableChar, h]

theorem forall_of_isLabelTail {text : List Char} (h : isLabelTail text = true) :
    ∀ c ∈ text, isNameChar c = true ∨ c = '.' := by
  fun_induction isLabelTail text with
  | case1 => exact fun _ hc => absurd hc List.not_mem_nil
  | case2 c text ih =>
    rw [Bool.and_eq_true] at h
    exact List.forall_mem_cons.mpr ⟨.inr rfl, List.forall_mem_cons.mpr ⟨.inl h.1, ih h.2⟩⟩
  | case3 c text hc ih =>
    rw [Bool.and_eq_true] at h
    exact List.forall_mem_cons.mpr ⟨.inl h.1, ih h.2⟩

/-- A label has name characters and dots only. -/
theorem forall_of_isBlankLabel {label : List Char} (h : isBlankLabel label = true) :
    ∀ c ∈ label, isNameChar c = true ∨ c = '.' := by
  cases label with
  | nil => cases h
  | cons c text =>
    rw [isBlankLabel, Bool.and_eq_true] at h
    exact List.forall_mem_cons.mpr
      ⟨.inl (isNameChar_of_isNameStart h.1), forall_of_isLabelTail h.2⟩

/-- A variable name has name characters only. -/
theorem forall_of_isVariableName {name : List Char} (h : isVariableName name = true) :
    ∀ c ∈ name, isNameChar c = true := by
  cases name with
  | nil => cases h
  | cons c text =>
    rw [isVariableName, Bool.and_eq_true] at h
    refine List.forall_mem_cons.mpr ⟨isNameChar_of_isNameStart h.1, fun d hd => ?_⟩
    have hvariable := List.all_eq_true.mp h.2 d hd
    simp [isNameChar, hvariable]

/-- A character of a language tag. -/
def isTagChar (c : Char) : Bool := c.isAlphanum || c == '-'

/-- A language tag has letters, digits and hyphens only. -/
theorem forall_of_isLanguageTag {tag : List Char} (h : isLanguageTag tag = true) :
    ∀ c ∈ tag, isTagChar c = true := by
  rw [isLanguageTag, Bool.and_eq_true] at h
  intro c hc
  rcases mem_of_mem_pieces '-' hc with rfl | ⟨subtag, hs, hc⟩
  · rfl
  · have hsubtag := List.all_eq_true.mp h.1 subtag hs
    rw [Bool.and_eq_true] at hsubtag
    have halphanum := List.all_eq_true.mp hsubtag.2 c hc
    simp [isTagChar, halphanum]

/-- A later character of a prefix label. -/
def isPrefixChar (c : Char) : Bool := isAlphanumeric c || c == '_' || c == '-' || c == '.'

/-- A prefix label is empty or begins with a letter, and has letters, digits and three marks. -/
theorem forall_of_isPrefixLabel {label : List Char} (h : isPrefixLabel label = true) :
    (∀ c ∈ label.head?, isAlphabetic c = true) ∧ ∀ c ∈ label, isPrefixChar c = true := by
  cases label with
  | nil => exact ⟨fun _ hc => absurd hc (by simp), fun _ hc => absurd hc List.not_mem_nil⟩
  | cons c text =>
    simp only [isPrefixLabel, Bool.and_eq_true] at h
    obtain ⟨⟨hfirst, hrest⟩, -⟩ := h
    refine ⟨?_, List.forall_mem_cons.mpr ⟨?_, List.all_eq_true.mp hrest⟩⟩
    · intro d hd
      cases hd
      exact hfirst
    · simp [isPrefixChar, isAlphanumeric, hfirst]

end Name

end RdfGateway
