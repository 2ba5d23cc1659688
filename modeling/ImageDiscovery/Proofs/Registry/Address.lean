import ImageDiscovery.Registry.Repository
import ImageDiscovery.Proofs.Text.Edges
import ImageDiscovery.Proofs.Unicode.Uppercase

/-!
# Repositories by their addresses

What a text is read as is a repository in a normal form: its host is one by its looks and no name of
the central registry, and its path is not empty, has no `@`, no upper case and no tag, and does not
end with a slash. Such a repository has an address, its scheme, host and path one after another,
which may be read in its turn.

White space around a text is dropped before the slashes at its end. So where it stands in front of
these slashes it stays, as the end of the path. A repository is read again from its address with a
slash behind it, but from the address itself only if its path does not end with white space.

## Main definitions

* `Repository.IsPath`, `Repository.IsHost`, `Repository.IsNormal` — the normal form.
* `Repository.address` — scheme, host and path.

## Main results

* `Repository.ofChars_eq_ok_iff` — which texts name a repository, and which one.
* `Repository.isNormal_of_ofChars` — what is read is in normal form.
* `Repository.ofString_address_iff` — which repositories are read, and which from their addresses.
-/

namespace ImageDiscovery.Repository

open Text

/-! ### Normal form -/

/-- A path in its normal form. -/
structure IsPath (path : List Char) : Prop where
  ne_nil : path ≠ []
  at_not_mem : '@' ∉ path
  isUppercase : ∀ c ∈ path, Unicode.isUppercase c = false
  slash_not_last : '/' ∉ path.getLast?
  colon_not_mem : ':' ∉ lastSegment path

/-- A host in its normal form. -/
structure IsHost (host : List Char) : Prop where
  looksLikeHost : looksLikeHost host = true
  slash_not_mem : '/' ∉ host
  at_not_mem : '@' ∉ host
  not_alias : isCentralAlias host = false

/-- A repository in its normal form. -/
structure IsNormal (r : Repository) : Prop where
  scheme : r.scheme = "https" ∨ r.scheme = "http"
  host : IsHost r.host.toList
  path : IsPath r.path.toList

/-- The scheme, the host and the path of a repository. -/
def address (r : Repository) : String := r.baseUrl ++ "/" ++ r.path

variable {r : Repository} {s host path : List Char}

theorem isHost_centralHost : IsHost centralHost.toList where
  looksLikeHost := by decide
  slash_not_mem := by decide
  at_not_mem := by decide
  not_alias := by decide

/-- A text of ASCII without capital letters has no upper case. -/
theorem isUppercase_of_all_ascii
    (h : s.all (fun c => c.toNat < 0x41 || 0x5A < c.toNat && c.toNat < 0x80) = true) :
    ∀ c ∈ s, Unicode.isUppercase c = false := by
  intro c hc
  have hascii := List.all_eq_true.1 h c hc
  simp only [Bool.or_eq_true, Bool.and_eq_true, decide_eq_true_eq] at hascii
  refine Bool.eq_false_iff.2 fun hupper => ?_
  have hcapital := Unicode.isUppercase_of_ascii hupper (by omega)
  omega

/-- The last segment of a path is settled by what stands behind a slash. -/
theorem lastSegment_append_cons (s path : List Char) :
    lastSegment (s ++ '/' :: path) = lastSegment path :=
  rtakeWhile_append_cons rfl s path

/-- A path of one segment may be put under `library`. -/
theorem IsPath.library (h : IsPath path) :
    IsPath ("library/".toList ++ path) where
  ne_nil := List.cons_ne_nil _ _
  at_not_mem := List.not_mem_append (by decide) h.at_not_mem
  isUppercase := List.forall_mem_append.2
    ⟨isUppercase_of_all_ascii (by decide), h.isUppercase⟩
  slash_not_last := by
    rw [List.getLast?_append_of_ne_nil _ h.ne_nil]
    exact h.slash_not_last
  colon_not_mem := by
    have hlast := lastSegment_append_cons "library".toList path
    exact hlast ▸ h.colon_not_mem

/-! ### What is read -/

/-- The repository with a host and a path: on the central registry a path of one segment is put
under `library`. -/
def settle (scheme : String) (host path : List Char) : Repository :=
  if isCentralAlias host then
    ⟨scheme, centralHost,
      String.ofList (if path.contains '/' then path else "library/".toList ++ path)⟩
  else ⟨scheme, String.ofList host, String.ofList path⟩

theorem settle_of_not_alias (scheme : String) (h : isCentralAlias host = false) (path : List Char) :
    settle scheme host path = ⟨scheme, String.ofList host, String.ofList path⟩ :=
  if_neg (Bool.eq_false_iff.1 h)

/-- On the central registry a path of one segment is put under `library`. -/
theorem settle_central (scheme : String) (h : '/' ∉ path) :
    settle scheme "docker.io".toList path =
      ⟨scheme, centralHost, String.ofList ("library/".toList ++ path)⟩ := by
  have hslash : path.contains '/' = false := by simpa using h
  rw [settle, if_pos (by decide), hslash]
  rfl

/-- A text without white space around it names a repository by what is left of it without the scheme
and the slashes at its end. -/
theorem ofChars_eq_ok_iff : ofChars s = .ok r ↔
    let rest := dropSlashesAtEnd (cutScheme s).2
    rest ≠ [] ∧ '@' ∉ rest ∧ (cutHost rest).2 ≠ [] ∧ ':' ∉ lastSegment (cutHost rest).2 ∧
      (∀ c ∈ (cutHost rest).2, Unicode.isUppercase c = false) ∧
      settle (cutScheme s).1 (cutHost rest).1 (cutHost rest).2 = r := by
  have hguard {p : Prop} [Decidable p] {e : Fault} {x : Except Fault Repository} :
      (if p then .error e else x) = .ok r ↔ ¬ p ∧ x = .ok r := by
    split <;> simp_all
  have hsettle (scheme : String) (host path : List Char) :
      (if isCentralAlias host then (.ok ⟨scheme, centralHost,
          String.ofList (if path.contains '/' then path else "library/".toList ++ path)⟩ :
            Except Fault Repository)
        else .ok ⟨scheme, String.ofList host, String.ofList path⟩) = .ok r ↔
          settle scheme host path = r := by
    rw [← apply_ite, Except.ok.injEq, settle]
  unfold ofChars
  dsimp only
  simp only [hguard, hsettle]
  simp only [List.isEmpty_iff, List.contains_iff_mem, List.any_eq_true, not_exists, not_and,
    Bool.not_eq_true, ne_eq]

/-! ### Cutting a text -/

theorem cutScheme_eq (s : List Char) : (cutScheme s).1 = "https" ∨ (cutScheme s).1 = "http" := by
  unfold cutScheme
  split
  · exact .inl rfl
  · split
    · exact .inr rfl
    · exact .inl rfl

theorem suffix_cutScheme (s : List Char) : (cutScheme s).2 <:+ s := by
  unfold cutScheme
  split
  · next rest hrest => exact ⟨_, (dropPrefix?_eq_some_iff.1 hrest).symm⟩
  · split
    · next rest hrest => exact ⟨_, (dropPrefix?_eq_some_iff.1 hrest).symm⟩
    · exact List.suffix_rfl

/-- A host in front of a slash is cut off, and where there is none the text is a path on the central
registry. -/
theorem cutHost_cases (s : List Char) :
    (∃ host path, '/' ∉ host ∧ looksLikeHost host = true ∧ s = host ++ '/' :: path ∧
      cutHost s = (host, path)) ∨ cutHost s = ("docker.io".toList, s) := by
  unfold cutHost
  split
  · next first rest hcut =>
    obtain ⟨hslash, hs⟩ := cut_eq_some_iff.1 hcut
    split
    · next hhost => exact .inl ⟨first, rest, hslash, hhost, hs, rfl⟩
    · exact .inr rfl
  · exact .inr rfl

theorem cutHost_append (h : IsHost host) (path : List Char) :
    cutHost (host ++ '/' :: path) = (host, path) := by
  rw [cutHost, cut_eq_some_iff.2 ⟨h.slash_not_mem, rfl⟩]
  exact if_pos h.looksLikeHost

theorem cutHost_of_not_mem (h : '/' ∉ s) : cutHost s = ("docker.io".toList, s) := by
  rw [cutHost, cut_eq_none_iff.2 h]

theorem path_suffix_cutHost (s : List Char) : (cutHost s).2 <:+ s := by
  rcases cutHost_cases s with ⟨host, path, -, -, rfl, hcut⟩ | hcut
  · rw [hcut]
    exact (List.suffix_cons '/' path).trans (List.suffix_append host _)
  · exact hcut ▸ List.suffix_rfl

/-- The path is in its normal form. -/
theorem isPath_cutHost (hslash : '/' ∉ s.getLast?) (hat : '@' ∉ s) (hne : (cutHost s).2 ≠ [])
    (hcolon : ':' ∉ lastSegment (cutHost s).2)
    (hupper : ∀ c ∈ (cutHost s).2, Unicode.isUppercase c = false) : IsPath (cutHost s).2 where
  ne_nil := hne
  at_not_mem h := hat ((path_suffix_cutHost s).subset h)
  isUppercase := hupper
  slash_not_last h := by
    obtain ⟨t, ht⟩ := path_suffix_cutHost s
    refine hslash ?_
    rw [← ht, List.getLast?_append, Option.mem_def.1 h]
    rfl
  colon_not_mem := hcolon

/-- What is settled is in normal form. -/
theorem isNormal_settle {scheme : String} (hscheme : scheme = "https" ∨ scheme = "http")
    (hhost : isCentralAlias host = false → IsHost host) (hpath : IsPath path) :
    IsNormal (settle scheme host path) := by
  unfold settle
  split
  · refine ⟨hscheme, isHost_centralHost, ?_⟩
    rw [String.toList_ofList]
    split
    · exact hpath
    · exact hpath.library
  · next halias =>
    refine ⟨hscheme, ?_, ?_⟩
    · rw [String.toList_ofList]
      exact hhost (Bool.eq_false_iff.2 halias)
    · rwa [String.toList_ofList]

/-- What a text is read as is in normal form. -/
theorem isNormal_of_ofChars (h : ofChars s = .ok r) : r.IsNormal := by
  obtain ⟨hne, hat, hpath, hcolon, hupper, rfl⟩ := ofChars_eq_ok_iff.1 h
  generalize hrest : dropSlashesAtEnd (cutScheme s).2 = rest at *
  have hslash : '/' ∉ rest.getLast? := by
    intro hlast
    rw [← hrest] at hlast
    exact absurd (of_mem_getLast?_rdropWhile hlast) (by decide)
  refine isNormal_settle (cutScheme_eq s) (fun halias => ?_)
    (isPath_cutHost hslash hat hpath hcolon hupper)
  rcases cutHost_cases rest with ⟨host, path, hhost, hlooks, hsplit, hcut⟩ | hcut
  · rw [hcut] at halias ⊢
    refine ⟨hlooks, hhost, fun hmem => hat ?_, halias⟩
    rw [hsplit]
    exact List.mem_append_left _ hmem
  · rw [hcut] at halias
    cases halias

/-! ### Slashes at the end -/

theorem dropSlashesAtEnd_concat_slash (s : List Char) :
    dropSlashesAtEnd (s ++ ['/']) = dropSlashesAtEnd s :=
  List.rdropWhile_concat_pos _ _ _ rfl

theorem dropSlashesAtEnd_eq_self (h : '/' ∉ s.getLast?) : dropSlashesAtEnd s = s := by
  refine List.rdropWhile_eq_self_iff.2 fun hne hlast => h ?_
  rw [List.getLast?_eq_some_getLast hne, beq_iff_eq.1 hlast]
  rfl

/-- From a host and a path, slashes are dropped at the end of the path, and where nothing is left of
it also the one that joins the two. -/
theorem dropSlashesAtEnd_append_cons (h : '/' ∉ host) (path : List Char) :
    dropSlashesAtEnd (host ++ '/' :: path) = host ∨
      dropSlashesAtEnd (host ++ '/' :: path) = host ++ '/' :: dropSlashesAtEnd path := by
  by_cases hpath : path.rdropWhile (· == '/') = []
  · left
    have hslashes : ∀ c ∈ '/' :: path, (c == '/') = true :=
      List.forall_mem_cons.2 ⟨rfl, List.rdropWhile_eq_nil_iff.1 hpath⟩
    have hhost : dropSlashesAtEnd host = host :=
      dropSlashesAtEnd_eq_self fun hlast => h (List.mem_of_mem_getLast? hlast)
    exact (rdropWhile_append_of_pos hslashes host).trans hhost
  · right
    rw [List.append_cons host '/' path, List.append_cons host '/' (dropSlashesAtEnd path)]
    exact rdropWhile_append_of_ne_nil hpath _

theorem getLast?_path_settle (scheme : String) (host : List Char) (h : path ≠ []) :
    (settle scheme host path).path.toList.getLast? = path.getLast? := by
  unfold settle
  split
  · rw [String.toList_ofList]
    split
    · rfl
    · exact List.getLast?_append_of_ne_nil _ h
  · rw [String.toList_ofList]

/-- The path that is read ends as the text does in front of the slashes at its end. -/
theorem getLast?_path_of_ofChars (h : ofChars s = .ok r) :
    r.path.toList.getLast? = (dropSlashesAtEnd s).getLast? := by
  obtain ⟨hne, -, hpath, -, -, rfl⟩ := ofChars_eq_ok_iff.1 h
  obtain ⟨u, hu⟩ := suffix_cutScheme s
  have hs : dropSlashesAtEnd s = u ++ dropSlashesAtEnd (cutScheme s).2 := by
    conv_lhs => rw [← hu]
    exact rdropWhile_append_of_ne_nil hne u
  obtain ⟨v, hv⟩ := path_suffix_cutHost (dropSlashesAtEnd (cutScheme s).2)
  rw [getLast?_path_settle _ _ hpath, hs, List.getLast?_append_of_ne_nil _ hne]
  conv_rhs => rw [← hv]
  exact (List.getLast?_append_of_ne_nil _ hpath).symm

/-! ### Reading an address -/

/-- The text of a scheme, a host and a path. -/
def addressOf (scheme : String) (host path : List Char) : List Char :=
  scheme.toList ++ "://".toList ++ (host ++ '/' :: path)

theorem toList_address (r : Repository) :
    r.address.toList = addressOf r.scheme r.host.toList r.path.toList := by
  simp [address, baseUrl, addressOf]

section

variable {scheme : String} (hscheme : scheme = "https" ∨ scheme = "http")

include hscheme

/-- A scheme in front of a text is cut off. -/
theorem cutScheme_addressOf (host path : List Char) :
    cutScheme (addressOf scheme host path) = (scheme, host ++ '/' :: path) := by
  rcases hscheme with rfl | rfl
  · rfl
  · rfl

/-- White space is only dropped at the end of the path. -/
theorem trim_addressOf (host path : List Char) :
    trim (addressOf scheme host path) = addressOf scheme host (trimEnd path) := by
  have hstart : trimStart (scheme.toList ++ "://".toList ++ host) =
      scheme.toList ++ "://".toList ++ host := by
    rcases hscheme with rfl | rfl
    · rfl
    · rfl
  rw [addressOf, addressOf, ← List.append_assoc, ← List.append_assoc, trim_append_cons (by decide),
    hstart]

/-- What is read from an address has a path that is not longer, or the host has become its path on
the central registry. -/
theorem of_ofChars_addressOf (hhost : IsHost host)
    (h : ofChars (addressOf scheme host path) = .ok r) :
    r.path.toList.length ≤ path.length ∨
      r.host = centralHost ∧ r.path.toList = "library/".toList ++ host := by
  obtain ⟨-, -, -, -, -, rfl⟩ := ofChars_eq_ok_iff.1 h
  rw [cutScheme_addressOf hscheme]
  dsimp only
  rcases dropSlashesAtEnd_append_cons hhost.slash_not_mem path with hrest | hrest
  · right
    rw [hrest, cutHost_of_not_mem hhost.slash_not_mem, settle_central scheme hhost.slash_not_mem]
    exact ⟨rfl, String.toList_ofList⟩
  · left
    rw [hrest, cutHost_append hhost, settle_of_not_alias scheme hhost.not_alias,
      String.toList_ofList]
    exact (List.rdropWhile_prefix _ path).length_le

end

namespace IsNormal

/-- A repository in normal form is read from a scheme, its host and a text that leaves its path. -/
theorem ofChars_addressOf (h : r.IsNormal)
    (hpath : dropSlashesAtEnd (r.host.toList ++ '/' :: path) =
      r.host.toList ++ '/' :: r.path.toList) :
    ofChars (addressOf r.scheme r.host.toList path) = .ok r := by
  refine ofChars_eq_ok_iff.2 ?_
  dsimp only
  rw [cutScheme_addressOf h.scheme, hpath, cutHost_append h.host]
  refine ⟨by simp, ?_, h.path.ne_nil, h.path.colon_not_mem, h.path.isUppercase, ?_⟩
  · exact List.not_mem_append h.host.at_not_mem
      (List.not_mem_cons_of_ne_of_not_mem (by decide) h.path.at_not_mem)
  · rw [settle_of_not_alias r.scheme h.host.not_alias, String.ofList_toList, String.ofList_toList]

theorem dropSlashesAtEnd_eq (h : r.IsNormal) :
    dropSlashesAtEnd (r.host.toList ++ '/' :: r.path.toList) =
      r.host.toList ++ '/' :: r.path.toList := by
  refine dropSlashesAtEnd_eq_self ?_
  rw [List.append_cons, List.getLast?_append_of_ne_nil _ h.path.ne_nil]
  exact h.path.slash_not_last

/-- A repository in normal form is read from its address if its path does not end with white
space. -/
theorem ofString_address (h : r.IsNormal)
    (hlast : ∀ c ∈ r.path.toList.getLast?, isBlank c = false) : ofString r.address = .ok r := by
  rw [ofString, toList_address, trim_addressOf h.scheme, trimEnd_eq_self hlast]
  exact h.ofChars_addressOf h.dropSlashesAtEnd_eq

/-- A repository in normal form is read from its address with a slash behind it. -/
theorem ofString_address_slash (h : r.IsNormal) : ofString (r.address ++ "/") = .ok r := by
  have hslash : (r.address ++ "/").toList =
      addressOf r.scheme r.host.toList (r.path.toList ++ ['/']) := by
    simp [toList_address, addressOf]
  have hlast : ∀ c ∈ (r.path.toList ++ ['/']).getLast?, isBlank c = false := by
    simp
    decide
  rw [ofString, hslash, trim_addressOf h.scheme, trimEnd_eq_self hlast]
  refine h.ofChars_addressOf ?_
  rw [← List.cons_append, ← List.append_assoc, dropSlashesAtEnd_concat_slash]
  exact h.dropSlashesAtEnd_eq

/-- A repository in normal form is not read from its address if its path ends with white space. -/
theorem ofString_address_ne (h : r.IsNormal) {c : Char} (hlast : c ∈ r.path.toList.getLast?)
    (hc : isBlank c = true) : ofString r.address ≠ .ok r := by
  intro hread
  rw [ofString, toList_address, trim_addressOf h.scheme] at hread
  rcases of_ofChars_addressOf h.scheme h.host hread with hlength | ⟨hhost, hpath⟩
  · exact absurd (length_trimEnd_lt hlast hc) (not_lt.2 hlength)
  · -- The name of the central registry does not end with white space.
    rw [hpath, hhost] at hlast
    cases (show some 'o' = some c from hlast)
    cases hc

end IsNormal

/-- **Repositories from their addresses.** The repositories that are read are those in normal form.
One that is read has a path that ends as the text does in front of the slashes at its end. It is
read from its address if and only if its path does not end with white space, and always if there is
a slash behind the address. -/
theorem ofString_address_iff (r : Repository) :
    ((∃ s, ofString s = .ok r) ↔ r.IsNormal) ∧
    ∀ s, ofString s = .ok r →
      r.path.toList.getLast? = (dropSlashesAtEnd (trim s.toList)).getLast? ∧
      (ofString r.address = .ok r ↔ ∀ c ∈ r.path.toList.getLast?, isBlank c = false) ∧
      ofString (r.address ++ "/") = .ok r := by
  refine ⟨⟨?_, fun h => ⟨_, h.ofString_address_slash⟩⟩, fun s h => ?_⟩
  · rintro ⟨s, h⟩
    exact isNormal_of_ofChars h
  · have hnormal := isNormal_of_ofChars h
    refine ⟨getLast?_path_of_ofChars h, ⟨fun hread c hlast => ?_, hnormal.ofString_address⟩,
      hnormal.ofString_address_slash⟩
    exact Bool.eq_false_iff.2 fun hc => hnormal.ofString_address_ne hlast hc hread

/-- A repository of one name on the central registry is read again from its address. -/
theorem ofString_address_iff_nginx :
    let r : Repository := ⟨"https", "registry-1.docker.io", "library/nginx"⟩
    ofString " docker.io/nginx/ " = .ok r ∧ r.IsNormal ∧ ofString r.address = .ok r := by
  intro r
  have hread : ofString " docker.io/nginx/ " = .ok r := ofChars_eq_ok_iff.2
    ⟨by decide, by decide, by decide, by decide, isUppercase_of_all_ascii (by decide), by decide⟩
  obtain ⟨hnormal, hagain⟩ := ofString_address_iff r
  obtain ⟨-, haddress, -⟩ := hagain _ hread
  exact ⟨hread, hnormal.1 ⟨_, hread⟩, haddress.2 (by simp [r, isBlank])⟩

/-- A space in front of the slash at the end stays in the path, and is lost when the address is
read. -/
theorem exists_ofString_address_ne :
    ∃ r : Repository, ofString "ghcr.io/foo /" = .ok r ∧
      ofString r.address = .ok { r with path := "foo" } ∧ ofString r.address ≠ .ok r := by
  let r : Repository := ⟨"https", "ghcr.io", "foo "⟩
  have hread : ofString "ghcr.io/foo /" = .ok r := ofChars_eq_ok_iff.2
    ⟨by decide, by decide, by decide, by decide, isUppercase_of_all_ascii (by decide), by decide⟩
  have hagain : ofString r.address = .ok { r with path := "foo" } := ofChars_eq_ok_iff.2
    ⟨by decide, by decide, by decide, by decide, isUppercase_of_all_ascii (by decide), by decide⟩
  refine ⟨r, hread, hagain, ?_⟩
  rw [hagain]
  decide

end ImageDiscovery.Repository
