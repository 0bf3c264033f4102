import RdfGateway.Proofs.WellFormedIdentifiers

/-!
# The normal form of the domains

However the base and the root are written, what is kept of them is in normal form (`IsNormal`): two
absolute IRIs, of which the base ends in a slash and the root does not. Domains in normal form are
just those that their own base and root give again (`ofTexts_self_iff`). Slashes at the end of a
text make no difference (`ofTexts_slashes`): a base may lack the one that it gets, and a root may
have any number of them.

Proof. The base is checked before it gets its slash, and a slash may stand behind every absolute IRI,
whichever of its parts that IRI ends in (`isAbsoluteText_slash`). The root is checked when its
slashes are gone.
-/

namespace RdfGateway

open Iri

namespace Domains

variable {domains : Domains} {base root : String}

/-! ## Slashes at the end -/

/-- So many slashes. -/
def slashes (count : Nat) : String := .ofList (.replicate count '/')

theorem withSlash_of_slash (h : base.toList.getLast? = some '/') : withSlash base = base := if_pos h

theorem withSlash_append_slash (h : base.toList.getLast? ≠ some '/') :
    withSlash (base ++ "/") = withSlash base := by
  have hslash : (base ++ "/").toList.getLast? = some '/' := by simp [String.toList_append]
  rw [withSlash_of_slash hslash, withSlash, if_neg h]

theorem withoutSlashes_of_ne (h : root.toList.getLast? ≠ some '/') : withoutSlashes root = root := by
  have hkept : root.toList.reverse.dropWhile (· == '/') = root.toList.reverse := by
    rw [← List.head?_reverse] at h
    cases hlist : root.toList.reverse with
    | nil => rfl
    | cons c rest =>
      have hc : c ≠ '/' := by simpa [hlist] using h
      rw [List.dropWhile_cons_of_neg (by simpa using hc)]
  rw [withoutSlashes, hkept, List.reverse_reverse, String.ofList_toList]

theorem withoutSlashes_append_slashes (root : String) (count : Nat) :
    withoutSlashes (root ++ slashes count) = withoutSlashes root := by
  have hslashes : ∀ c ∈ List.replicate count '/', (c == '/') = true := by
    intro c hc
    rw [List.eq_of_mem_replicate hc]
    rfl
  rw [withoutSlashes, withoutSlashes, String.toList_append, slashes, String.toList_ofList,
    List.reverse_append, List.reverse_replicate, List.dropWhile_append_of_pos hslashes]

/-! ## Texts that give the same domains -/

/-- Slashes behind the root change neither the domains nor the fault that there is instead. -/
theorem ofTexts_append_slashes (base root : String) (count : Nat) :
    ofTexts base (root ++ slashes count) = ofTexts base root := by
  rw [ofTexts, withoutSlashes_append_slashes, ofTexts]

theorem ofTexts_append_slash (h : ofTexts base root = .ok domains)
    (hbase : base.toList.getLast? ≠ some '/') : ofTexts (base ++ "/") root = .ok domains := by
  obtain ⟨habsolute, hroot, rfl⟩ := ofTexts_eq_ok_iff.mp h
  rw [ofTexts_eq_ok_iff, withSlash_append_slash hbase]
  refine ⟨?_, hroot, rfl⟩
  rw [isAbsolute, String.toList_append]
  exact isAbsoluteText_slash habsolute

/-- **Domains are in normal form exactly when their own base and root give them again.** -/
theorem ofTexts_self_iff :
    ofTexts domains.externalBase domains.internalRoot = .ok domains ↔ domains.IsNormal := by
  constructor
  · exact isNormal_of_ofTexts
  · intro h
    rw [ofTexts_eq_ok_iff, withSlash_of_slash h.base_slash, withoutSlashes_of_ne h.root_slash]
    exact ⟨h.base_absolute, h.root_absolute, rfl⟩

/-- **Accepted domains are in normal form, and stay what they are**: their own base and root give
them again, and so do the texts that they come from with the slash added that the base may lack and
with any number of slashes behind the root. -/
theorem ofTexts_slashes (h : ofTexts base root = .ok domains) :
    domains.IsNormal ∧
    ofTexts domains.externalBase domains.internalRoot = .ok domains ∧
    ∀ count, ofTexts base (root ++ slashes count) = .ok domains ∧
      (base.toList.getLast? ≠ some '/' →
        ofTexts (base ++ "/") (root ++ slashes count) = .ok domains) := by
  have hnormal := isNormal_of_ofTexts h
  refine ⟨hnormal, ofTexts_self_iff.mpr hnormal, fun count => ?_⟩
  rw [ofTexts_append_slashes, ofTexts_append_slashes]
  exact ⟨h, ofTexts_append_slash h⟩

/-- Domains whose base has an address in brackets and a number behind it, and whose root has a
fragment. -/
def bracketDomains : Domains := ⟨"http://[::1]:80/", "info:fedora#in"⟩

set_option maxRecDepth 10000 in
theorem bracketDomains_slashes :
    ofTexts "http://[::1]:80" "info:fedora#in//" = .ok bracketDomains ∧
      bracketDomains.IsNormal ∧
      ofTexts "http://[::1]:80/" "info:fedora#in" = .ok bracketDomains ∧
      ofTexts "http://[::1]:80/" "info:fedora#in/////" = .ok bracketDomains := by
  have hdomains : ofTexts "http://[::1]:80" "info:fedora#in//" = .ok bracketDomains := by
    decide +kernel
  obtain ⟨hnormal, hself, hslashes⟩ := ofTexts_slashes hdomains
  have hmore : "info:fedora#in//" ++ slashes 3 = "info:fedora#in/////" := by decide +kernel
  exact ⟨hdomains, hnormal, hself, hmore ▸ (hslashes 3).2 (by decide +kernel)⟩

end Domains

end RdfGateway
