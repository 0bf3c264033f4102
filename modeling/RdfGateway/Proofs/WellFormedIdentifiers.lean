import RdfGateway.Proofs.Idempotence
import RdfGateway.Proofs.IdentifierRoundTrip
import RdfGateway.Proofs.IriSlashes

/-!
# Identifiers that are IRIs

The identifier of an IRI below the external base is the root, a slash and the path of the IRI, and
it is not checked again. It is an absolute IRI exactly when the path may follow a slash behind the
root (`isAbsolute_below_root`). All identifiers are absolute IRIs exactly when the slash at the end
of the base and the slash behind the root stand in parts of an IRI that fit
(`identifiers_wellFormed_iff`): a base with a path is at odds with a root that has a fragment, a base
with a query asks for a root with a query, and a base that ends in `//` behind its scheme fits no
root.

Proof. Whatever the texts that the domains are made of, base and root are absolute IRIs, and so are
the base and the root with a slash (`Domains.IsNormal`). What may stand below them is then a
matter of the place of that slash alone (`isAbsoluteText_append_slash`).
-/

namespace RdfGateway

open Iri

namespace Domains

variable {domains : Domains} {base root iri id path : String}

/-! ## Accepted domains -/

/-- Base and root are absolute IRIs, the base ends in a slash and the root does not. -/
structure IsNormal (domains : Domains) : Prop where
  base_absolute : isAbsolute domains.externalBase = true
  base_slash : domains.externalBase.toList.getLast? = some '/'
  root_absolute : isAbsolute domains.internalRoot = true
  root_slash : domains.internalRoot.toList.getLast? ≠ some '/'

theorem isAbsolute_withSlash (h : isAbsolute base = true) : isAbsolute (withSlash base) = true := by
  unfold withSlash
  split
  · exact h
  · rw [isAbsolute, String.toList_append]
    exact isAbsoluteText_slash h

theorem getLast?_withSlash (base : String) : (withSlash base).toList.getLast? = some '/' := by
  unfold withSlash
  split
  · rename_i h
    exact h
  · simp [String.toList_append]

theorem getLast?_withoutSlashes (root : String) :
    (withoutSlashes root).toList.getLast? ≠ some '/' := by
  intro h
  rw [withoutSlashes, String.toList_ofList, List.getLast?_reverse] at h
  have hstop := List.head?_dropWhile_not (· == '/') root.toList.reverse
  rw [h] at hstop
  simp at hstop

theorem isNormal_of_ofTexts (h : ofTexts base root = .ok domains) : domains.IsNormal := by
  obtain ⟨hbase, hroot, rfl⟩ := ofTexts_eq_ok_iff.mp h
  exact ⟨isAbsolute_withSlash hbase, getLast?_withSlash base, hroot, getLast?_withoutSlashes root⟩

/-! ## Below the base and below the root -/

/-- The place of the slash at the end of the base. -/
def basePlace (domains : Domains) : SlashPlace := placeBehind domains.externalBase.toList.dropLast

/-- The place of a slash behind the root. -/
def rootPlace (domains : Domains) : SlashPlace := placeBehind domains.internalRoot.toList

section
variable (h : domains.IsNormal)
include h

theorem IsNormal.toList_base :
    domains.externalBase.toList = domains.externalBase.toList.dropLast ++ ['/'] := by
  obtain ⟨front, hfront⟩ := List.getLast?_eq_some_iff.mp h.base_slash
  rw [hfront, List.dropLast_concat]

theorem isAbsolute_below_base (path : String) :
    isAbsolute (domains.externalBase ++ path) = domains.basePlace.follows path.toList := by
  have hbase := h.base_absolute
  rw [isAbsolute, h.toList_base] at hbase
  rw [isAbsolute, String.toList_append, h.toList_base, List.append_assoc, List.singleton_append,
    isAbsoluteText_append_slash, hbase, Bool.true_and]
  rfl

theorem isAbsolute_below_root (path : String) :
    isAbsolute (domains.internalRoot ++ "/" ++ path) = domains.rootPlace.follows path.toList := by
  have hlist : (domains.internalRoot ++ "/" ++ path).toList =
      domains.internalRoot.toList ++ '/' :: path.toList := by
    simp [String.toList_append]
  rw [isAbsolute, hlist, isAbsoluteText_append_slash, isAbsoluteText_slash h.root_absolute,
    Bool.true_and]
  rfl

/-- **The identifiers of IRIs are IRIs exactly when the places fit.** -/
theorem isSound_iff : domains.IsSound ↔ domains.basePlace.fits domains.rootPlace = true := by
  simp only [IsSound, iriFault?_eq_none_iff]
  rw [SlashPlace.fits_iff]
  constructor
  · intro hsound text htext
    by_cases hempty : text = []
    · subst hempty
      have hroot := isAbsoluteText_slash h.root_absolute
      rw [isAbsoluteText_append_slash, Bool.and_eq_true] at hroot
      exact hroot.2
    · have hpath : String.ofList text ≠ "" := by simpa using hempty
      have hiri : isAbsolute (domains.externalBase ++ .ofList text) = true := by
        rw [isAbsolute_below_base h, String.toList_ofList, htext]
      have hid := hsound _ hiri
      rwa [inward_append, if_neg hpath, isAbsolute_below_root h, String.toList_ofList] at hid
  · intro hfits iri hiri
    by_cases hexternal : domains.isExternal iri = true
    · obtain ⟨path, rfl⟩ := isExternal_iff.mp hexternal
      rw [inward_append]
      split
      · exact h.root_absolute
      · rw [isAbsolute_below_root h]
        rw [isAbsolute_below_base h] at hiri
        exact hfits _ hiri
    · rw [inward_of_isExternal_eq_false (Bool.not_eq_true _ ▸ hexternal)]
      exact hiri

end

theorem internalize_eq_ok_iff :
    domains.internalize iri = .ok id ↔ isAbsolute iri = true ∧ domains.inward iri = id := by
  cases habsolute : isAbsolute iri with
  | true => simp [internalize_of_isAbsolute habsolute]
  | false => simp [internalize_of_not_isAbsolute habsolute]

end Domains

namespace Gateway

open Domains

/-- **The identifiers of IRIs are IRIs exactly when the places fit**: the identifier of one IRI below
the base is an IRI when its path may follow a slash behind the root, and this is so for every IRI
when what may follow the slash at the end of the base may follow one behind the root. Then all that
is written of the outcome of a graph or of an update is well-formed. -/
theorem identifiers_wellFormed_iff {base root : String} {domains : Domains}
    (h : Domains.ofTexts base root = .ok domains) :
    (∀ path, path ≠ "" → isAbsolute (domains.externalBase ++ path) = true →
      ∃ id, domains.internalize (domains.externalBase ++ path) = .ok id ∧
        (isAbsolute id = true ↔ domains.rootPlace.follows path.toList = true)) ∧
    ((∀ iri id, domains.internalize iri = .ok id → isAbsolute id = true) ↔
      domains.basePlace.fits domains.rootPlace = true) ∧
    (domains.basePlace.fits domains.rootPlace = true → ∀ policy mode,
      (∀ graph image, internalizeGraph ⟨policy, domains, mode⟩ graph = .ok image →
        ∀ triple ∈ image.triples, triple.fault? = none) ∧
      (∀ request result, internalizeRequest ⟨policy, domains, mode⟩ request = .ok result →
        ∀ triple ∈ result.statements, triple.fault? = none)) := by
  have hnormal := isNormal_of_ofTexts h
  have hsound := isSound_iff hnormal
  refine ⟨fun path hpath habsolute => ?_, ?_, fun hfits policy mode => ?_⟩
  · refine ⟨_, internalize_of_isAbsolute habsolute, ?_⟩
    rw [inward_append, if_neg hpath, isAbsolute_below_root hnormal]
  · rw [← hsound]
    simp only [IsSound, iriFault?_eq_none_iff, internalize_eq_ok_iff]
    exact ⟨fun hid iri hiri => hid iri _ ⟨hiri, rfl⟩,
      fun hid iri id hiri => hiri.2 ▸ hid iri hiri.1⟩
  · have hgateway : (Gateway.mk policy domains mode).domains.IsSound := hsound.mpr hfits
    constructor
    · intro graph image himage triple ht
      rw [Triple.fault?_eq]
      exact firstFault?_texts_of_mem_image hgateway himage ht
    · intro request result hresult triple ht
      rw [Triple.fault?_eq, firstFault?_eq_none_iff]
      intro text htext
      exact firstFault?_eq_none_iff.mp (firstFault?_texts_result hgateway hresult) text
        (Request.texts_subset ht htext)

/-- Domains with a query in the base and in the root. -/
def searchDomains : Domains := ⟨"http://ext/search?of=/", "info:fedora?in"⟩

/-- An IRI below the base with a character that only a query may have. -/
def searchIri : String := "http://ext/search?of=/\uE000"

set_option maxRecDepth 10000 in
theorem searchDomains_wellFormed :
    Domains.ofTexts "http://ext/search?of=" "info:fedora?in/" = .ok searchDomains ∧
      searchDomains.basePlace.fits searchDomains.rootPlace = true ∧
      searchDomains.internalize searchIri = .ok "info:fedora?in/\uE000" ∧
      isAbsolute "info:fedora?in/\uE000" = true := by
  have hdomains : Domains.ofTexts "http://ext/search?of=" "info:fedora?in/" =
      .ok searchDomains := by decide +kernel
  have hfits : searchDomains.basePlace.fits searchDomains.rootPlace = true := by decide +kernel
  have hid : searchDomains.internalize searchIri = .ok "info:fedora?in/\uE000" := by decide +kernel
  obtain ⟨-, hiff, -⟩ := identifiers_wellFormed_iff hdomains
  exact ⟨hdomains, hfits, hid, hiff.mpr hfits searchIri _ hid⟩

set_option maxRecDepth 10000 in
/-- **Identifiers that are no IRIs**: below a root with a fragment, of an IRI whose path has one; below
a base that ends where an authority may begin, of an IRI with an address in brackets; and below a base
with a query, of an IRI with a character that only a query may have. -/
theorem malformed_identifiers :
    (Domains.ofTexts "http://ext/" "info:fedora#in" = .ok ⟨"http://ext/", "info:fedora#in"⟩ ∧
      Domains.internalize ⟨"http://ext/", "info:fedora#in"⟩ "http://ext/1#a" =
        .ok "info:fedora#in/1#a" ∧
      isAbsolute "info:fedora#in/1#a" = false) ∧
    (Domains.ofTexts "http:" "info:fedora" = .ok ⟨"http:/", "info:fedora"⟩ ∧
      Domains.internalize ⟨"http:/", "info:fedora"⟩ "http://[::1]/" = .ok "info:fedora//[::1]/" ∧
      isAbsolute "info:fedora//[::1]/" = false) ∧
    (Domains.ofTexts "http://ext/search?of=" "info:fedora" =
        .ok ⟨"http://ext/search?of=/", "info:fedora"⟩ ∧
      Domains.internalize ⟨"http://ext/search?of=/", "info:fedora"⟩ searchIri =
        .ok "info:fedora/\uE000" ∧
      isAbsolute "info:fedora/\uE000" = false) := by
  decide +kernel

end Gateway

end RdfGateway
