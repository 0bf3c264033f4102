import RdfGateway.Proofs.AcceptedTexts

/-!
# Marks and paths in an IRI

An absolute IRI is divided at marks: the colon behind its scheme, the slashes, the brackets of an
address, `?` and `#`. None of them is a digit of a percent triplet, so a text in which triplets and
characters of a class follow each other is divided there too (`encodes_append_cons`). An address in
brackets, with what stands around it, is taken apart into the parts that are checked
(`isBracketHost_iff`). Neither the address nor a user name has a slash, so a slash behind one belongs
to the path (`encodes_of_isBracketHost`).
-/

namespace RdfGateway

open Text

/-! ## Marks in a text -/

namespace Text

theorem cut_append_of_not_mem {α : Type} [DecidableEq α] {mark : α} {front : List α}
    (h : mark ∉ front) (text : List α) :
    cut mark (front ++ text) = (front ++ (cut mark text).1, (cut mark text).2) := by
  induction front with
  | nil => rfl
  | cons c front ih =>
    rw [List.mem_cons, not_or] at h
    rw [List.cons_append, cut, if_neg (Ne.symm h.1), ih h.2]
    rfl

theorem cut_append_cons {α : Type} [DecidableEq α] {mark : α} {before : List α}
    (h : mark ∉ before) (after : List α) : cut mark (before ++ mark :: after) = (before, some after) :=
  cut_eq_some_iff.mpr ⟨rfl, h⟩

/-- A mark behind a front that has none stands in what follows the front. -/
theorem eq_append_of_not_mem {α : Type} {mark : α} {front back before after : List α}
    (h : mark ∉ front) (he : before ++ mark :: after = front ++ back) :
    ∃ more, before = front ++ more ∧ back = more ++ mark :: after := by
  rcases List.append_eq_append_iff.mp he with ⟨rest, hfront, hback⟩ | ⟨more, hbefore, hback⟩
  · cases rest with
    | nil => exact ⟨[], by simpa using hfront.symm, hback.symm⟩
    | cons c rest =>
      obtain ⟨rfl, -⟩ := List.cons.inj hback
      exact absurd (hfront ▸ List.mem_append_right before List.mem_cons_self) h
  · exact ⟨more, hbefore, hback⟩

end Text

namespace Iri

variable {ok : Char → Bool} {c : Char} {before text path : List Char}

/-! ## Percent triplets -/

theorem encodes_append_cons (hc : c ≠ '%') (hhex : isHexDigit c = false) :
    encodes ok (before ++ c :: text) = (encodes ok before && (ok c && encodes ok text)) := by
  fun_induction encodes ok before with
  | case1 => exact encodes_cons_of_ne hc
  | case2 a b rest ih =>
    show encodes ok ('%' :: a :: b :: (rest ++ c :: text)) = _
    simp only [encodes, ih, Bool.and_assoc]
  | case3 d rest hrest ih =>
    by_cases hd : d = '%'
    · -- the triplet is cut short by a character that is no digit of it
      subst hd
      cases rest with
      | nil => cases text <;> simp [encodes, hhex]
      | cons a rest =>
        cases rest with
        | nil => simp [encodes, hhex]
        | cons b rest => exact absurd rfl (hrest a b rest rfl)
    · rw [List.cons_append, encodes_cons_of_ne hd, ih, Bool.and_assoc, bne_iff_ne.mpr hd,
        Bool.true_and]

theorem encodes_append_slash :
    encodes ok (before ++ '/' :: text) = (encodes ok before && (ok '/' && encodes ok text)) :=
  encodes_append_cons (by decide) (by decide)

theorem forall_of_encodes (h : encodes ok text = true) :
    ∀ c ∈ text, ok c = true ∨ c = '%' ∨ isHexDigit c = true := by
  fun_induction encodes ok text with
  | case1 => exact fun _ hc => absurd hc List.not_mem_nil
  | case2 a b rest ih =>
    rw [Bool.and_eq_true, Bool.and_eq_true] at h
    obtain ⟨⟨ha, hb⟩, hrest⟩ := h
    exact List.forall_mem_cons.mpr ⟨.inr (.inl rfl), List.forall_mem_cons.mpr
      ⟨.inr (.inr ha), List.forall_mem_cons.mpr ⟨.inr (.inr hb), ih hrest⟩⟩⟩
  | case3 d rest hd ih =>
    rw [Bool.and_eq_true, Bool.and_eq_true] at h
    exact List.forall_mem_cons.mpr ⟨.inl h.1.2, ih h.2⟩

/-! ## Behind the authority -/

theorem slash_not_mem_of_isOptionalUser (h : isOptionalUser text = true) : '/' ∉ text := by
  unfold isOptionalUser at h
  cases hreverse : text.reverse with
  | nil => simp [List.reverse_eq_nil_iff.mp hreverse]
  | cons c user =>
    rw [hreverse] at h
    simp only [Bool.and_eq_true] at h
    have hc : c ≠ '/' := by
      rw [beq_iff_eq.mp h.1]
      decide
    have huser : '/' ∉ user := by
      intro hmem
      have hclass := forall_of_encodes h.2 '/' (List.mem_reverse.mpr hmem)
      revert hclass
      decide
    rw [← List.mem_reverse, hreverse, List.mem_cons, not_or]
    exact ⟨Ne.symm hc, huser⟩

theorem slash_not_mem_of_isBracketed (h : isBracketed text = true) : '/' ∉ text := by
  intro hmem
  have hclass := isUserChar_of_isBracketed h '/' hmem
  revert hclass
  decide

/-- What may follow `//` when the host is an address in brackets, part by part. -/
structure BracketHost where
  user : List Char
  address : List Char
  number : List Char
  path : List Char
  user_ok : isOptionalUser user = true
  address_ok : isBracketed address = true
  number_ok : isOptionalNumber number = true
  path_ok : encodes isPathChar path = true
  open_not_mem : '[' ∉ user
  close_not_mem : ']' ∉ address
  slash_not_mem : '/' ∉ number
  path_head : ∀ c ∈ path.head?, c = '/'

namespace BracketHost

/-- What stands before the path. -/
def authority (host : BracketHost) : List Char :=
  host.user ++ '[' :: (host.address ++ ']' :: host.number)

def toText (host : BracketHost) : List Char := host.authority ++ host.path

theorem slash_not_mem_authority (host : BracketHost) : '/' ∉ host.authority := by
  simp [authority, slash_not_mem_of_isOptionalUser host.user_ok,
    slash_not_mem_of_isBracketed host.address_ok, host.slash_not_mem]

theorem isBracketHost_toText (host : BracketHost) : isBracketHost host.toText = true := by
  have htext : host.toText =
      host.user ++ '[' :: (host.address ++ ']' :: (host.number ++ host.path)) := by
    simp [toText, authority]
  have hgoes : ∀ c ∈ host.number, (c != '/') = true := fun c hc =>
    bne_iff_ne.mpr fun he => host.slash_not_mem (he ▸ hc)
  have hnumber : (host.number ++ host.path).takeWhile (· != '/') = host.number := by
    rw [List.takeWhile_append_of_pos hgoes]
    cases hpath : host.path with
    | nil => simp
    | cons c rest =>
      obtain rfl := host.path_head c (by rw [hpath]; rfl)
      simp
  have hpath : (host.number ++ host.path).dropWhile (· != '/') = host.path := by
    rw [List.dropWhile_append_of_pos hgoes]
    cases hpath : host.path with
    | nil => rfl
    | cons c rest =>
      obtain rfl := host.path_head c (by rw [hpath]; rfl)
      simp
  simp only [isBracketHost, htext, cut_append_cons host.open_not_mem,
    cut_append_cons host.close_not_mem, hnumber, hpath, host.user_ok, host.address_ok,
    host.number_ok, host.path_ok, Bool.and_self]

end BracketHost

theorem isBracketHost_iff :
    isBracketHost text = true ↔ ∃ host : BracketHost, host.toText = text := by
  constructor
  · intro h
    unfold isBracketHost at h
    split at h
    · rename_i user host hhost
      split at h
      · rename_i address rest haddress
        simp only [Bool.and_eq_true] at h
        obtain ⟨⟨⟨huser, hbracketed⟩, hnumber⟩, hpath⟩ := h
        obtain ⟨htext, hopen⟩ := cut_eq_some_iff.mp hhost
        obtain ⟨hrest, hclose⟩ := cut_eq_some_iff.mp haddress
        refine ⟨⟨user, address, rest.takeWhile (· != '/'), rest.dropWhile (· != '/'), huser,
          hbracketed, hnumber, hpath, hopen, hclose, ?_, ?_⟩, ?_⟩
        · intro hmem
          simpa using List.all_eq_true.mp List.all_takeWhile '/' hmem
        · intro c hc
          have hstop := List.head?_dropWhile_not (· != '/') rest
          rw [Option.mem_def.mp hc] at hstop
          simpa using hstop
        · simp [BracketHost.toText, BracketHost.authority, htext, hrest]
      · cases h
    · cases h
  · rintro ⟨host, rfl⟩
    exact host.isBracketHost_toText

/-- A slash behind a host in brackets belongs to its path. -/
theorem BracketHost.exists_path_eq (host : BracketHost) (h : host.toText = before ++ '/' :: path) :
    ∃ more, before = host.authority ++ more ∧ host.path = more ++ '/' :: path :=
  eq_append_of_not_mem host.slash_not_mem_authority h.symm

theorem encodes_of_isBracketHost (h : isBracketHost (before ++ '/' :: path) = true) :
    encodes isPathChar path = true := by
  obtain ⟨host, htext⟩ := isBracketHost_iff.mp h
  obtain ⟨more, -, hmore⟩ := host.exists_path_eq htext
  have hpath := host.path_ok
  rw [hmore, encodes_append_slash, Bool.and_eq_true, Bool.and_eq_true] at hpath
  exact hpath.2.2

/-! ## Behind the scheme -/

theorem forall_of_isScheme {scheme : List Char} (h : isScheme scheme = true) :
    ∀ c ∈ scheme, isSchemeChar c = true := by
  cases scheme with
  | nil => exact fun _ hc => absurd hc List.not_mem_nil
  | cons c scheme =>
    rw [isScheme, Bool.and_eq_true] at h
    have hc : isSchemeChar c = true := by simp [isSchemeChar, Char.isAlphanum, h.1]
    exact List.forall_mem_cons.mpr ⟨hc, List.all_eq_true.mp h.2⟩

theorem colon_not_mem_of_isScheme {scheme : List Char} (h : isScheme scheme = true) :
    ':' ∉ scheme :=
  fun hmem => absurd (forall_of_isScheme h ':' hmem) (by decide)

theorem slash_not_mem_of_isScheme {scheme : List Char} (h : isScheme scheme = true) :
    '/' ∉ scheme :=
  fun hmem => absurd (forall_of_isScheme h '/' hmem) (by decide)

theorem isAbsoluteText_append {scheme rest : List Char} (h : isScheme scheme = true) :
    isAbsoluteText (scheme ++ ':' :: rest) = isSchemeSpecific rest := by
  have hcut : cut ':' (scheme ++ ':' :: rest) = (scheme, some rest) :=
    cut_eq_some_iff.mpr ⟨rfl, colon_not_mem_of_isScheme h⟩
  simp only [isAbsoluteText, hcut, h, Bool.true_and]

end Iri

end RdfGateway
