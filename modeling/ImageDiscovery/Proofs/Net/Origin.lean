import ImageDiscovery.Net.Url.Reader
import ImageDiscovery.Proofs.Text.Edges

/-!
# Origins of URLs

The origin of a URL is the server that it names: its scheme, its host and its port. A text that is
read as a URL names its server before the first slash after the scheme. What comes later has no say
in it, as long as it does not stand where the host is looked for.

## Main definitions

* `Net.Url.Origin`, `Net.Url.origin` — the server that a URL names.
* `Net.Url.below` — a text below the address of a registry.

## Main results

* `Net.Url.map_origin_ofAuthority?` — the origin is read from the authority alone.
* `Net.Url.map_origin_ofString?` — what lies below the address of a registry has its origin.
-/

namespace ImageDiscovery.Net.Url

open Text

/-- A server: how it is reached, and where. -/
structure Origin where
  scheme : String
  host : Option Host
  port : Option Nat
  deriving DecidableEq

/-- The server that a URL names. -/
def origin (u : Url) : Origin := ⟨u.scheme, u.host, u.port⟩

/-! ### The parts before a slash -/

/-- What the text `t` names below the address `s` of a registry, at the root of its API. -/
def below (s t : List Char) : List Char := s ++ '/' :: 'v' :: '2' :: '/' :: t

/-- An address is cleaned in the same way, whatever is named below it. -/
theorem exists_clean_below (s : List Char) : ∃ s', ∀ t, ∃ t', clean (below s t) = below s' t' := by
  let isEdge (c : Char) : Bool := c.toNat ≤ 0x20
  let isKept (c : Char) : Bool := !(c == '\t' || c == '\n' || c == '\r')
  have hedge : isEdge '/' = false := by decide
  refine ⟨(s.dropWhile isEdge).filter isKept, fun t =>
    ⟨((t.reverse.dropWhile isEdge).reverse).filter isKept, ?_⟩⟩
  have hfront : (below s t).dropWhile isEdge = below (s.dropWhile isEdge) t :=
    dropWhile_append_cons hedge _ _
  have hback (z : List Char) : (below z t).reverse.dropWhile isEdge =
      t.reverse.dropWhile isEdge ++ '/' :: '2' :: 'v' :: '/' :: z.reverse := by
    rw [← dropWhile_append_cons hedge]
    simp [below]
  have hkept : isKept '/' = true ∧ isKept 'v' = true ∧ isKept '2' = true := by decide
  change ((((below s t).dropWhile isEdge).reverse.dropWhile isEdge).reverse).filter isKept = _
  rw [hfront, hback]
  simp [below, hkept]

/-- Where a text is cut behind a character, that character stands in the first part. -/
theorem mem_of_cut_append {sep c : Char} {s t a b : List Char} (hne : c ≠ sep) (hs : sep ∉ s)
    (h : cut sep (s ++ c :: t) = some (a, b)) : c ∈ a := by
  rcases List.append_eq_append_iff.1 (cut_eq_some_iff.1 h).2 with ⟨l, rfl, hl⟩ | ⟨l, rfl, hl⟩
  · cases l with
    | nil => exact absurd (List.cons.inj hl).1 hne
    | cons d l =>
      obtain ⟨rfl, -⟩ := List.cons.inj hl
      exact List.mem_append_right _ List.mem_cons_self
  · cases l with
    | nil => exact absurd (List.cons.inj hl).1.symm hne
    | cons d l =>
      obtain ⟨rfl, -⟩ := List.cons.inj hl
      exact absurd (List.mem_append_right _ List.mem_cons_self) hs

/-- No scheme goes on behind a slash. -/
theorem cutScheme_append (s t : List Char) :
    cutScheme (s ++ '/' :: t) = (cutScheme s).map fun p => (p.1, p.2 ++ '/' :: t) := by
  cases s with
  | nil => rfl
  | cons c s =>
    simp only [cutScheme, List.cons_append]
    split
    · rfl
    rw [← List.cons_append]
    cases hcut : cut ':' (c :: s) with
    | some q =>
      obtain ⟨name, rest⟩ := q
      obtain ⟨hname, hs⟩ := cut_eq_some_iff.1 hcut
      have hcut' : cut ':' (c :: s ++ '/' :: t) = some (name, rest ++ '/' :: t) :=
        cut_eq_some_iff.2 ⟨hname, by rw [hs, List.append_assoc, List.cons_append]⟩
      rw [hcut']
      dsimp only
      split <;> rfl
    | none =>
      cases hcut' : cut ':' (c :: s ++ '/' :: t) with
      | none => rfl
      | some q =>
        obtain ⟨name, rest⟩ := q
        have hslash := mem_of_cut_append (by decide) (cut_eq_none_iff.1 hcut) hcut'
        have hall : ¬ (name.all fun c =>
            isLetterOrDigit c || c == '+' || c == '-' || c == '.') = true :=
          fun h => absurd (List.all_eq_true.1 h '/' hslash) (by decide)
        dsimp only
        rw [if_neg hall]
        rfl

theorem cutScheme_below (s t : List Char) :
    cutScheme (below s t) = (cutScheme s).map fun p => (p.1, below p.2 t) :=
  cutScheme_append s _

/-! ### The authority -/

theorem cutAuthority_append (special : Bool) (s t : List Char) :
    (cutAuthority special (s ++ '/' :: t)).1 = (cutAuthority special s).1 :=
  takeWhile_append_cons rfl s t

/-- The origin is read from the authority alone. -/
theorem map_origin_ofAuthority? (scheme : String) {s s' : List Char}
    (h : (cutAuthority (isSpecialScheme scheme) s).1 =
      (cutAuthority (isSpecialScheme scheme) s').1) :
    (ofAuthority? scheme s).map origin = (ofAuthority? scheme s').map origin := by
  unfold ofAuthority?
  dsimp only
  rw [← h]
  generalize cutUser (cutAuthority (isSpecialScheme scheme) s).1 = userAndServer
  generalize cutPort false userAndServer.2 = hostAndPort
  by_cases huser : (userAndServer.1.isSome && userAndServer.2.isEmpty) = true
  · rw [if_pos huser, if_pos huser]
    rfl
  rw [if_neg huser, if_neg huser]
  by_cases hempty : (hostAndPort.1.isEmpty &&
      (isSpecialScheme scheme || hostAndPort.2.isSome || userAndServer.1.isSome)) = true
  · rw [if_pos hempty, if_pos hempty]
    rfl
  rw [if_neg hempty, if_neg hempty]
  by_cases hhost : hostAndPort.1.isEmpty = true
  · rw [if_pos hhost, if_pos hhost]
    cases port? scheme (hostAndPort.2.getD []) <;> rfl
  · rw [if_neg hhost, if_neg hhost]
    cases Host.ofChars? (isSpecialScheme scheme) hostAndPort.1 with
    | none => rfl
    | some host => cases port? scheme (hostAndPort.2.getD []) <;> rfl

/-! ### Whole texts -/

/-- The authority of a URL of the scheme for files, after the scheme. -/
def fileAuthority : List Char → List Char
  | a :: b :: t => if isSlash true a && isSlash true b then (cutAuthority true t).1 else []
  | _ => []

theorem map_origin_ofFile? (s : List Char) :
    (ofFile? s).map origin =
      (if (fileAuthority s).isEmpty then some (Host.named "")
        else Host.ofChars? true (fileAuthority s)).map fun host =>
          ⟨"file", some (if host = .domain "localhost" then .named "" else host), none⟩ := by
  unfold ofFile?
  split
  next authority rest hs =>
    have hauthority : fileAuthority s = authority := by
      rcases s with _ | ⟨a, _ | ⟨b, t⟩⟩
      · exact congrArg Prod.fst hs
      · exact congrArg Prod.fst hs
      · exact (apply_ite Prod.fst _ _ _).symm.trans (congrArg Prod.fst hs)
    rw [hauthority]
    split
    · rfl
    · cases Host.ofChars? true authority <;> rfl

theorem fileAuthority_below (s t t' : List Char) :
    fileAuthority (below s t) = fileAuthority (below s t') := by
  match s with
  | [] => rfl
  | [a] => rfl
  | a :: b :: s => simp only [below, List.cons_append, fileAuthority, cutAuthority_append]

theorem exists_dropSlashes_below (s : List Char) :
    ∃ r, ∀ t, dropSlashes (below s t) = r ++ '/' :: t := by
  refine ⟨dropSlashes (s ++ ['/']) ++ ['v', '2'], fun t => ?_⟩
  rw [below, List.append_cons, dropSlashes, dropWhile_append_cons (by decide), List.append_assoc]
  rfl

/-- Whether two slashes follow the scheme is settled by the address. -/
theorem exists_below_eq_or_ne (s : List Char) :
    (∃ r, ∀ t, below s t = '/' :: '/' :: (r ++ '/' :: t)) ∨ ∀ t r, below s t ≠ '/' :: '/' :: r := by
  match s with
  | [] => exact .inr fun t r h => absurd (List.cons.inj (List.cons.inj h).2).1 (by decide)
  | [a] =>
    by_cases ha : a = '/'
    · exact .inl ⟨['v', '2'], fun t => by rw [below, ha]; rfl⟩
    · exact .inr fun t r h => ha (List.cons.inj h).1
  | a :: b :: s =>
    by_cases hab : a = '/' ∧ b = '/'
    · refine .inl ⟨s ++ ['/', 'v', '2'], fun t => ?_⟩
      rw [below, hab.1, hab.2, List.append_assoc]
      rfl
    · exact .inr fun t r h => hab ⟨(List.cons.inj h).1, (List.cons.inj (List.cons.inj h).2).1⟩

/-- Where no two slashes follow the scheme, no server is named. -/
theorem map_origin_ofScheme?_of_ne {scheme : String} (hfile : ¬ (scheme == "file") = true)
    (hspecial : ¬ isSpecialScheme scheme = true) {s : List Char} (hs : ∀ t, s ≠ '/' :: '/' :: t) :
    (ofScheme? scheme s).map origin = some ⟨scheme, none, none⟩ := by
  rw [ofScheme?.eq_def, if_neg hfile, if_neg hspecial]
  split
  · next t => exact absurd rfl (hs t)
  · rfl

/-- The origin of a URL below an address is settled by the address. -/
theorem map_origin_ofScheme? (scheme : String) (s t t' : List Char) :
    (ofScheme? scheme (below s t)).map origin = (ofScheme? scheme (below s t')).map origin := by
  by_cases hfile : (scheme == "file") = true
  · rw [ofScheme?.eq_def, ofScheme?.eq_def, if_pos hfile, if_pos hfile, map_origin_ofFile?,
      map_origin_ofFile?, fileAuthority_below s t t']
  have hauthority (r : List Char) : (ofAuthority? scheme (r ++ '/' :: t)).map origin =
      (ofAuthority? scheme (r ++ '/' :: t')).map origin :=
    map_origin_ofAuthority? scheme (by rw [cutAuthority_append, cutAuthority_append])
  by_cases hspecial : isSpecialScheme scheme = true
  · obtain ⟨r, hr⟩ := exists_dropSlashes_below s
    rw [ofScheme?.eq_def, ofScheme?.eq_def, if_neg hfile, if_neg hfile, if_pos hspecial,
      if_pos hspecial, hr, hr]
    exact hauthority r
  rcases exists_below_eq_or_ne s with ⟨r, hr⟩ | hne
  · rw [ofScheme?.eq_def, ofScheme?.eq_def, if_neg hfile, if_neg hfile, if_neg hspecial,
      if_neg hspecial, hr, hr]
    exact hauthority r
  · rw [map_origin_ofScheme?_of_ne hfile hspecial (hne t),
      map_origin_ofScheme?_of_ne hfile hspecial (hne t')]

/-- What lies below the address of a registry has the origin of the registry. -/
theorem map_origin_ofString? (base path path' : String) :
    (ofString? (base ++ "/v2/" ++ path)).map origin =
      (ofString? (base ++ "/v2/" ++ path')).map origin := by
  have htext (path : String) : (base ++ "/v2/" ++ path).toList = below base.toList path.toList := by
    simp [below]
  obtain ⟨s, hs⟩ := exists_clean_below base.toList
  obtain ⟨t, ht⟩ := hs path.toList
  obtain ⟨t', ht'⟩ := hs path'.toList
  unfold ofString?
  rw [htext, htext, ht, ht', cutScheme_below, cutScheme_below]
  cases cutScheme s with
  | none => rfl
  | some p => exact map_origin_ofScheme? (String.ofList p.1) p.2 t t'

end ImageDiscovery.Net.Url
