import ClusterSubmission.Proofs.Console
import ClusterSubmission.ResourceManager
import Mathlib.Data.Bool.AllAny
import Mathlib.Data.List.TakeWhile

/-!
# Addresses of services

A session with a resource manager begins by resolving the path of the services against the address
that it was given. What comes out has a scheme, a host and that path, whatever was given. The paths
of the single services are then put behind it as they are.
-/
namespace ClusterSubmission

namespace Url

/-- The path of the services, character by character. -/
def root : List Char := ResourceManager.root.toList

/-- A scheme and a host that an address of services can have. -/
structure IsFront (scheme host : List Char) : Prop where
  relative : isIn scheme relativeSchemes = true
  checked : checkHost host = .ok ()
  plain : ∀ c ∈ host, c ∉ "/?#\t\n\r".toList

/-- What stands before the path in an address. -/
def front (scheme host : List Char) : List Char :=
  if scheme = [] then if host = [] then [] else '/' :: '/' :: host
  else scheme ++ ':' :: '/' :: '/' :: host

theorem span_append_stop {p : Char → Bool} {as bs : List Char} {b : Char}
    (ha : ∀ c ∈ as, p c = true) (hb : p b = false) : (as ++ b :: bs).span p = (as, b :: bs) := by
  rw [List.span_eq_takeWhile_dropWhile, List.takeWhile_append_of_pos ha,
    List.dropWhile_append_of_pos ha]
  simp [hb]

theorem cut?_append {sep : Char} {as bs : List Char} (h : sep ∉ as) :
    cut? sep (as ++ sep :: bs) = some (as, bs) := by
  have hall : ∀ c ∈ as, (c != sep) = true := by
    intro c hc
    exact bne_iff_ne.mpr fun heq => h (heq ▸ hc)
  unfold cut?
  rw [span_append_stop hall (by simp)]

theorem cut?_none {sep : Char} {cs : List Char} (h : sep ∉ cs) : cut? sep cs = none := by
  have hall : ∀ c ∈ cs, (c != sep) = true := by
    intro c hc
    exact bne_iff_ne.mpr fun heq => h (heq ▸ hc)
  have hdrop : cs.dropWhile (· != sep) = [] := List.dropWhile_eq_nil_iff.mpr hall
  unfold cut?
  rw [List.span_eq_takeWhile_dropWhile, hdrop]

/-- Every scheme whose references are relative is one that an address can begin with, in small
letters, and names a host. -/
theorem relativeSchemes_spec : ∀ s ∈ relativeSchemes, isIn s.toList hostSchemes = true ∧
    s.toList.map Char.toLower = s.toList ∧ s.toList.all isSchemeChar = true ∧
    ':' ∉ s.toList ∧ (s.toList.head?.map Char.isAlpha).getD true = true ∧
    (s.toList.all fun c => decide (0x20 < c.toNat)) = true ∧ '[' ∉ s.toList := by
  decide +kernel

theorem exists_of_isIn {scheme : List Char} (h : isIn scheme relativeSchemes = true) :
    ∃ s ∈ relativeSchemes, s.toList = scheme := by
  refine ⟨String.ofList scheme, ?_, String.toList_ofList⟩
  exact List.contains_iff_mem.mp h

theorem takeScheme?_scheme {scheme rest : List Char} (h : isIn scheme relativeSchemes = true)
    (hne : scheme ≠ []) : takeScheme? (scheme ++ ':' :: rest) = some (scheme, rest) := by
  obtain ⟨s, hs, rfl⟩ := exists_of_isIn h
  obtain ⟨-, hlower, hall, hcolon, hhead, -, -⟩ := relativeSchemes_spec s hs
  obtain ⟨c, cs, hcs⟩ := List.exists_cons_of_ne_nil hne
  rw [hcs] at hlower hall hcolon hhead ⊢
  have hcut : cut? ':' (c :: cs ++ ':' :: rest) = some (c :: cs, rest) := cut?_append hcolon
  unfold takeScheme?
  rw [hcut]
  simp [hall, show c.isAlpha = true from hhead, hlower]

theorem takeScheme?_slash (rest : List Char) : takeScheme? ('/' :: rest) = none := by
  unfold takeScheme?
  split
  · rename_i c cs scheme after hc hcut
    rw [← (List.cons.inj hc).1]
    simp [show '/'.isAlpha = false from rfl]
  · rfl

theorem takeScheme?_none {cs : List Char} (h : ':' ∉ cs) : takeScheme? cs = none := by
  unfold takeScheme?
  rw [cut?_none h]
  cases cs <;> rfl

/-- Blanks and line breaks that are left out of an address. -/
def stripped (cs : List Char) : List Char :=
  (cs.dropWhile fun c => c.toNat ≤ 0x20).filter fun c => c != '\t' && c != '\n' && c != '\r'

theorem front_append_ne_nil (scheme host : List Char) :
    ∃ c rest, front scheme host ++ root = c :: rest ∧ (c ∈ scheme ∨ c = '/') := by
  cases scheme with
  | cons c cs => exact ⟨c, _, rfl, Or.inl (List.mem_cons_self ..)⟩
  | nil => cases host <;> exact ⟨'/', _, rfl, Or.inr rfl⟩

theorem notMem_stripped {cs : List Char} {c : Char} (h : c ∈ stripped cs) :
    c ∉ "\t\n\r".toList := by
  have hkept := (List.mem_filter.mp h).2
  simp at hkept ⊢
  tauto

/-- The host that an address begins with after its scheme, and the text after it. -/
def takeHost : List Char → List Char × List Char
  | '/' :: '/' :: rest => rest.span fun c => c != '/' && c != '?' && c != '#'
  | rest => ([], rest)

theorem mem_takeHost {cs : List Char} {c : Char} (h : c ∈ (takeHost cs).1) :
    c ∈ cs ∧ c ∉ "/?#".toList := by
  unfold takeHost at h
  split at h
  · rename_i rest
    rw [List.span_eq_takeWhile_dropWhile] at h
    have hstop := List.mem_takeWhile_imp h
    have hin := (List.takeWhile_sublist _).subset h
    simp at hstop ⊢
    tauto
  · cases h

/-- A text is taken apart from its beginning: the scheme, the host, then the path with what
follows it. -/
theorem split_eq (text scheme : List Char) :
    split text scheme =
      (let s := (takeScheme? (stripped text)).getD (scheme, stripped text)
       let h := takeHost s.2
       let f := (cut? '#' h.2).getD (h.2, [])
       let q := (cut? '?' f.1).getD (f.1, [])
       let p := if isIn s.1 parameterSchemes then splitParameters q.1 else (q.1, [])
       (do checkHost h.1; return ⟨s.1, h.1, p.1, p.2, q.2, f.2⟩)) := rfl

theorem stripped_front {scheme host : List Char} (h : IsFront scheme host) :
    stripped (front scheme host ++ root) = front scheme host ++ root := by
  obtain ⟨s, hs, rfl⟩ := exists_of_isIn h.relative
  obtain ⟨-, -, -, -, -, hall, -⟩ := relativeSchemes_spec s hs
  have hvisible : ∀ c ∈ s.toList, 0x20 < c.toNat := List.all_iff_forall_prop.mp hall
  have hdrop : ((front s.toList host ++ root).dropWhile fun c => c.toNat ≤ 0x20) =
      front s.toList host ++ root := by
    obtain ⟨c, rest, heq, hc⟩ := front_append_ne_nil s.toList host
    have hlarge : ¬ c.toNat ≤ 0x20 := by
      rcases hc with hc | rfl
      · exact Nat.not_le.mpr (hvisible c hc)
      · decide
    rw [heq, List.dropWhile_cons_of_neg (by simpa using hlarge)]
  have hscheme : ∀ c ∈ s.toList, c ∉ "\t\n\r".toList := by
    intro c hc hmem
    have hsmall : ∀ d ∈ "\t\n\r".toList, ¬ 0x20 < d.toNat :=
      List.all_iff_forall_prop.mp (by decide)
    exact hsmall c hmem (hvisible c hc)
  have hmem : ∀ c ∈ front s.toList host ++ root, c ∉ "\t\n\r".toList := by
    intro c hc
    have hcases : c ∈ s.toList ∨ c ∈ host ∨ c ∈ ":/".toList ++ root := by
      unfold front at hc
      split at hc <;> [split at hc; skip] <;> simp at hc ⊢ <;> tauto
    rcases hcases with hc | hc | hc
    · exact hscheme c hc
    · intro hbad
      exact h.plain c hc (List.mem_append_right "/?#".toList hbad)
    · have hroot : ∀ d ∈ ":/".toList ++ root, d ∉ "\t\n\r".toList :=
        List.all_iff_forall_prop.mp (by decide)
      exact hroot c hc
  unfold stripped
  rw [hdrop, List.filter_eq_self]
  intro c hc
  have hout := hmem c hc
  simp at hout
  simp [hout]

theorem takeHost_front {host : List Char} (h : ∀ c ∈ host, c ∉ "/?#\t\n\r".toList) :
    takeHost ('/' :: '/' :: (host ++ root)) = (host, root) := by
  have hstop : ∀ c ∈ host, (c != '/' && c != '?' && c != '#') = true := by
    intro c hc
    have hout := h c hc
    simp at hout
    simp [hout]
  exact span_append_stop hstop (by decide)

theorem root_parts : cut? '#' root = none ∧ cut? '?' root = none ∧
    splitParameters root = (root, []) :=
  ⟨cut?_none (by decide), cut?_none (by decide), by decide⟩

theorem split_front {scheme host : List Char} (h : IsFront scheme host) :
    split (front scheme host ++ root) [] = .ok ⟨scheme, host, root, [], [], []⟩ := by
  obtain ⟨hhash, hquery, hparameters⟩ := root_parts
  have hhost := takeHost_front h.plain
  rw [split_eq, stripped_front h]
  by_cases hs : scheme = []
  · subst hs
    by_cases hh : host = []
    · subst hh
      rfl
    · have hfront : front [] host ++ root = '/' :: '/' :: (host ++ root) := by
        simp [front, hh]
      rw [hfront, takeScheme?_slash]
      simp only [Option.getD_none, hhost, hhash, hquery, h.checked, hparameters, ite_self]
      rfl
  · have hfront : front scheme host ++ root = scheme ++ ':' :: '/' :: '/' :: (host ++ root) := by
      simp [front, hs]
    rw [hfront, takeScheme?_scheme h.relative hs]
    simp only [Option.getD_some, Option.getD_none, hhost, hhash, hquery, h.checked, hparameters,
      ite_self]
    rfl

theorem cut?_eq {sep : Char} {cs as bs : List Char} (h : cut? sep cs = some (as, bs)) :
    ∃ c, cs = as ++ c :: bs := by
  have happ := List.takeWhile_append_dropWhile (p := (· != sep)) (l := cs)
  unfold cut? at h
  rw [List.span_eq_takeWhile_dropWhile] at h
  split at h
  · rename_i before c after hspan
    obtain ⟨rfl, rfl⟩ := Prod.mk.inj (Option.some.inj h)
    rw [(Prod.mk.inj hspan).1, (Prod.mk.inj hspan).2] at happ
    exact ⟨c, happ.symm⟩
  · cases h

theorem mem_of_mem_takeScheme? {cs scheme rest : List Char} {c : Char}
    (h : takeScheme? cs = some (scheme, rest)) (hc : c ∈ rest) : c ∈ cs := by
  unfold takeScheme? at h
  split at h
  · rename_i d ds before after hcut
    split at h
    · obtain ⟨-, rfl⟩ := Prod.mk.inj (Option.some.inj h)
      obtain ⟨sep, heq⟩ := cut?_eq hcut
      rw [heq]
      exact List.mem_append_right _ (List.mem_cons_of_mem _ hc)
    · cases h
  · cases h

/-- The host of any address that can be taken apart is fit for an address of services. -/
theorem split_host {text base : List Char} {u : Url} (h : split text base = .ok u) :
    checkHost u.host = .ok () ∧ ∀ c ∈ u.host, c ∉ "/?#\t\n\r".toList := by
  rw [split_eq] at h
  simp only at h
  generalize hs : (takeScheme? (stripped text)).getD (base, stripped text) = s at h
  have hmem : ∀ c ∈ s.2, c ∈ stripped text := by
    intro c hc
    rw [← hs] at hc
    cases htake : takeScheme? (stripped text) with
    | none => simpa [htake] using hc
    | some p => exact mem_of_mem_takeScheme? htake (by simpa [htake] using hc)
  rcases hcheck : checkHost (takeHost s.2).1 with e | ⟨⟩
  · rw [hcheck] at h
    cases h
  · rw [hcheck] at h
    cases h
    refine ⟨hcheck, fun c hc => ?_⟩
    obtain ⟨hin, hstop⟩ := mem_takeHost hc
    have hout := notMem_stripped (hmem c hin)
    simp at hstop hout ⊢
    tauto

theorem unsplit_front {scheme : List Char} (h : isIn scheme relativeSchemes = true)
    (host cs : List Char) {c : Char} (hc : c ≠ '/') :
    unsplit ⟨scheme, host, '/' :: c :: cs, [], [], []⟩ = front scheme host ++ '/' :: c :: cs := by
  obtain ⟨s, hs, rfl⟩ := exists_of_isIn h
  obtain ⟨hnames, -⟩ := relativeSchemes_spec s hs
  unfold unsplit front behind
  by_cases hscheme : s.toList = []
  · by_cases hhost : host = []
    · simp [hscheme, hhost, hc]
    · simp [hscheme, hhost]
  · simp [hscheme, hnames]

theorem split_root (scheme : List Char) :
    split root scheme = .ok ⟨scheme, [], root, [], [], []⟩ := by
  obtain ⟨hhash, hquery, hparameters⟩ := root_parts
  have hstrip : stripped root = root := by decide
  have hscheme : takeScheme? root = none := takeScheme?_slash _
  have hhost : takeHost root = ([], root) := rfl
  rw [split_eq, hstrip, hscheme]
  simp only [Option.getD_none, hhost, hhash, hquery, hparameters, ite_self]
  rfl

theorem isIn_hostSchemes {scheme : List Char} (h : isIn scheme relativeSchemes = true) :
    isIn scheme hostSchemes = true := by
  obtain ⟨s, hs, rfl⟩ := exists_of_isIn h
  exact (relativeSchemes_spec s hs).1

theorem join_eq {base reference path : List Char} {b : Url} (hbase : base ≠ [])
    (hreference : reference ≠ []) (hb : split base [] = .ok b)
    (hr : split reference b.scheme = .ok ⟨b.scheme, [], path, [], [], []⟩)
    (hrelative : isIn b.scheme relativeSchemes = true) (hpath : path ≠ []) :
    join base reference =
      .ok (unsplit ⟨b.scheme, b.host, resolvePath b.path path, [], [], []⟩) := by
  simp [join, hbase, hreference, hb, hr, hrelative, isIn_hostSchemes hrelative, hpath, bind,
    Except.bind, pure, Except.pure]

/-- Whatever the services are resolved against, their address has a front and their path. -/
theorem join_root {base cs : List Char} (hne : base ≠ []) (h : join base root = .ok cs) :
    ∃ scheme host, IsFront scheme host ∧ cs = front scheme host ++ root := by
  have hroot : root ≠ [] := by decide
  have hresolve : ∀ p, resolvePath p root = root := fun p => rfl
  rcases hb : split base [] with e | b
  · simp [join, hne, hroot, hb, bind, Except.bind] at h
  · by_cases hrelative : isIn b.scheme relativeSchemes = true
    · obtain ⟨hchecked, hplain⟩ := split_host hb
      refine ⟨b.scheme, b.host, ⟨hrelative, hchecked, hplain⟩, ?_⟩
      rw [join_eq hne hroot hb (split_root b.scheme) hrelative hroot, hresolve] at h
      exact (Except.ok.inj h).symm.trans (unsplit_front hrelative b.host _ (by decide))
    · refine ⟨[], [], ⟨by decide, rfl, by simp⟩, ?_⟩
      simp only [join, hb, split_root, hrelative, bind, Except.bind, pure, Except.pure] at h
      simpa [hne, hroot, front] using h.symm

/-- A path below the services that stands in an address as it is, apart from blanks. -/
structure IsPlainPath (path : List Char) : Prop where
  nonempty : path ≠ []
  head : ∀ cs, stripped path ≠ '/' :: cs
  plain : ∀ c ∈ stripped path, c ∉ ":?#;[]".toList
  resolves : ∃ c cs, root ++ stripped path = '/' :: c :: cs ∧ c ≠ '/' ∧
    resolvePath root (stripped path) = root ++ stripped path
  visible : stripped path ≠ []

theorem splitParameters_none {path : List Char} (h : ';' ∉ path) :
    splitParameters path = (path, []) := by
  have hlast : ';' ∉ (path.reverse.takeWhile (· != '/')).reverse := by
    intro hmem
    exact h (List.mem_reverse.mp ((List.takeWhile_sublist _).subset (List.mem_reverse.mp hmem)))
  unfold splitParameters
  simp only [cut?_none hlast]

theorem split_path {path : List Char} (h : IsPlainPath path) (scheme : List Char) :
    split path scheme = .ok ⟨scheme, [], stripped path, [], [], []⟩ := by
  have hout : ∀ c ∈ ":?#;[]".toList, c ∉ stripped path := fun c hc hmem => h.plain c hmem hc
  have hscheme := takeScheme?_none (hout ':' (by decide))
  have hhash := cut?_none (hout '#' (by decide))
  have hquery := cut?_none (hout '?' (by decide))
  have hparameters := splitParameters_none (hout ';' (by decide))
  have hhost : takeHost (stripped path) = ([], stripped path) := by
    unfold takeHost
    split
    · rename_i rest heq
      exact absurd heq (h.head _)
    · rfl
  rw [split_eq, hscheme]
  simp only [Option.getD_none, hhost, hhash, hquery, hparameters, ite_self]
  rfl

theorem join_path {scheme host path : List Char} (hf : IsFront scheme host)
    (hp : IsPlainPath path) :
    join (front scheme host ++ root) path =
      .ok (front scheme host ++ root ++ stripped path) := by
  obtain ⟨d, ds, heq, hd, hresolve⟩ := hp.resolves
  have hbase : front scheme host ++ root ≠ [] := by simp [root, ResourceManager.root]
  rw [join_eq hbase hp.nonempty (split_front hf) (split_path hp scheme) hf.relative hp.visible]
  rw [hresolve, List.append_assoc, heq]
  exact congrArg Except.ok (unsplit_front hf.relative host ds hd)

end Url

namespace ApplicationId

/-- An application id is the leading word, two numbers and perhaps a line break. -/
theorem isValid_eq {s : String} (h : isValid s = true) : ∃ ds es tail,
    s.toList = leading ++ ds ++ '_' :: es ++ tail ∧ (tail = [] ∨ tail = ['\n']) ∧
      ∀ c ∈ ds ++ es, Text.isDigit c = true := by
  obtain ⟨runs, hruns⟩ := Option.isSome_iff_exists.mp h
  have hspan := fun cs : List Char =>
    List.span_eq_takeWhile_dropWhile (p := Text.isDigit) (l := cs)
  have happ := fun cs : List Char => List.takeWhile_append_dropWhile (p := Text.isDigit) (l := cs)
  unfold split? at hruns
  split at hruns
  · rename_i hleading
    have hstart := List.prefix_iff_eq_append.mp (List.isPrefixOf_iff_prefix.mp hleading)
    split at hruns
    · rename_i ds rest hds
      rw [hspan] at hds
      split at hruns
      · rename_i es tail hes
        rw [hspan] at hes
        split at hruns
        · rename_i hcond
          simp at hcond
          refine ⟨ds, es, tail, ?_, hcond.2, ?_⟩
          · have h1 := happ (s.toList.drop leading.length)
            have h2 := happ rest
            rw [(Prod.mk.inj hds).1, (Prod.mk.inj hds).2] at h1
            rw [(Prod.mk.inj hes).1, (Prod.mk.inj hes).2] at h2
            rw [← hstart, ← h1, ← h2]
            simp
          · intro c hc
            rcases List.mem_append.mp hc with hc | hc
            · rw [← (Prod.mk.inj hds).1] at hc
              exact List.mem_takeWhile_imp hc
            · rw [← (Prod.mk.inj hes).1] at hc
              exact List.mem_takeWhile_imp hc
        · cases hruns
    · cases hruns
  · cases hruns

theorem isValid_name {s : String} (h : isValid s = true) : ∃ name,
    (s.toList = 'a' :: name ∨ s.toList = 'a' :: name ++ ['\n']) ∧
      ∀ c ∈ 'a' :: name, c ∉ "[]/:?#;.\t\n\r".toList := by
  obtain ⟨ds, es, tail, hs, htail, hdigits⟩ := isValid_eq h
  obtain ⟨word, hword⟩ : ∃ word, leading = 'a' :: word := ⟨"pplication_".toList, by decide +kernel⟩
  have hletters : ∀ d ∈ "[]/:?#;.\t\n\r".toList,
      d ∉ leading ++ ['_'] ∧ Text.isDigit d = false :=
    List.all_iff_forall_prop.mp (by decide +kernel)
  refine ⟨word ++ ds ++ '_' :: es, ?_, ?_⟩
  · rcases htail with rfl | rfl
    · exact Or.inl (by rw [hs, hword, List.append_nil]; rfl)
    · exact Or.inr (by rw [hs, hword]; rfl)
  · intro c hc hbad
    obtain ⟨hout, hdigit⟩ := hletters c hbad
    have hcases : c ∈ leading ++ ['_'] ∨ c ∈ ds ++ es := by
      rw [hword]
      simp only [List.mem_append, List.mem_cons] at hc ⊢
      rcases hc with hc | (hc | hc) | hc | hc <;> simp [hc]
    rcases hcases with hc | hc
    · exact hout hc
    · rw [hdigits c hc] at hdigit
      cases hdigit

end ApplicationId

/-- An address of services, as sessions are opened with. -/
def IsServiceAddress (address : String) : Prop :=
  ∃ scheme host, Url.IsFront scheme host ∧ address.toList = Url.front scheme host ++ Url.root

/-- The services that a submission asks. -/
inductive Service where
  | newApplication
  | info
  | apps
  | application (id : String)
  | delegationToken
  deriving DecidableEq, Repr

namespace Service

/-- The path of a service. -/
def path : Service → String
  | .newApplication => "apps/new-application"
  | .info => "info"
  | .apps => "apps"
  | .application id => "apps/" ++ id
  | .delegationToken => "delegation-token"

/-- The address of a service. A line break after an application id does not get into it. -/
def url (address : String) (s : Service) : String :=
  address ++ String.ofList (Url.stripped s.path.toList)

/-- Applications are only asked for by their ids. -/
def IsNamed : Service → Prop
  | .application id => ApplicationId.isValid id = true
  | _ => True

end Service

namespace Url

theorem splitOnChar_of_notMem {sep : Char} {cs : List Char} (h : sep ∉ cs) :
    Text.splitOnChar sep cs = [cs] := by
  induction cs with
  | nil => rfl
  | cons c cs ih =>
    have hne : c ≠ sep := fun heq => h (heq ▸ List.mem_cons_self ..)
    have hrest : sep ∉ cs := fun hmem => h (List.mem_cons_of_mem _ hmem)
    unfold Text.splitOnChar
    rw [if_neg hne, ih hrest]

theorem stripped_application {id : String} {name : List Char}
    (hid : id.toList = 'a' :: name ∨ id.toList = 'a' :: name ++ ['\n'])
    (hname : ∀ c ∈ 'a' :: name, c ∉ "[]/:?#;.\t\n\r".toList) :
    stripped ("apps/" ++ id).toList = "apps/".toList ++ 'a' :: name := by
  have hkeep : ∀ c ∈ 'a' :: name, (c != '\t' && c != '\n' && c != '\r') = true := by
    intro c hc
    have hout := hname c hc
    simp at hout
    simp [hout]
  have hfilter : id.toList.filter (fun c => c != '\t' && c != '\n' && c != '\r') = 'a' :: name := by
    rcases hid with hid | hid
    · rw [hid, List.filter_eq_self.mpr hkeep]
    · rw [hid, List.filter_append, List.filter_eq_self.mpr hkeep]
      exact List.append_nil _
  have hword : "apps/".toList.filter (fun c => c != '\t' && c != '\n' && c != '\r') =
      "apps/".toList := by decide
  have hdrop : (("apps/".toList ++ id.toList).dropWhile fun c => c.toNat ≤ 0x20) =
      "apps/".toList ++ id.toList := rfl
  rw [String.toList_append]
  unfold stripped
  rw [hdrop, List.filter_append, hword, hfilter]

theorem resolvePath_application {name : List Char} (h : '/' ∉ 'a' :: name) :
    resolvePath root ("apps/".toList ++ 'a' :: name) =
      root ++ ("apps/".toList ++ 'a' :: name) := by
  have hroot : Text.splitOnChar '/' root =
      [[], "ws".toList, "v1".toList, "cluster".toList, []] := by decide
  have hsplit : Text.splitOnChar '/' ("apps/".toList ++ 'a' :: name) =
      ["apps".toList, 'a' :: name] := by
    have htail := splitOnChar_of_notMem h
    simp [Text.splitOnChar] at htail ⊢
    rw [htail]
  unfold resolvePath
  rw [hroot, hsplit]
  simp [dropInnerEmpty, walk, List.intercalate, root, ResourceManager.root]

theorem isPlainPath_application {id : String} (h : ApplicationId.isValid id = true) :
    IsPlainPath ("apps/" ++ id).toList := by
  obtain ⟨name, hid, hname⟩ := ApplicationId.isValid_name h
  have hstrip := stripped_application hid hname
  have hslash : '/' ∉ 'a' :: name := fun hmem => hname _ hmem (by decide)
  refine ⟨by simp [String.toList_append], ?_, ?_, ?_, ?_⟩
  · intro cs hcs
    rw [hstrip] at hcs
    cases hcs
  · intro c hc hbad
    rw [hstrip] at hc
    rcases List.mem_append.mp hc with hc | hc
    · have hword : ∀ d ∈ "apps/".toList, d ∉ ":?#;[]".toList :=
        List.all_iff_forall_prop.mp (by decide)
      exact hword c hc hbad
    · have hsub : ∀ d ∈ ":?#;[]".toList, d ∈ "[]/:?#;.\t\n\r".toList :=
        List.all_iff_forall_prop.mp (by decide)
      exact hname c hc (hsub c hbad)
  · refine ⟨'w', _, by rw [hstrip]; rfl, by decide, ?_⟩
    rw [hstrip]
    exact resolvePath_application hslash
  · rw [hstrip]
    simp

end Url

theorem Service.isPlainPath {s : Service} (h : s.IsNamed) : Url.IsPlainPath s.path.toList := by
  have hfixed : ∀ s ∈ [newApplication, info, apps, delegationToken],
      (s.path.toList ≠ [] ∧ Url.stripped s.path.toList ≠ []) ∧
      (Url.stripped s.path.toList).head? ≠ some '/' ∧
      ((Url.stripped s.path.toList).all fun c => decide (c ∉ ":?#;[]".toList)) = true ∧
      Url.resolvePath Url.root (Url.stripped s.path.toList) =
        Url.root ++ Url.stripped s.path.toList := by
    decide +kernel
  have hplain : ∀ s ∈ [newApplication, info, apps, delegationToken],
      Url.IsPlainPath s.path.toList := by
    intro s hs
    obtain ⟨⟨hne, hvisible⟩, hhead, hplain, hresolves⟩ := hfixed s hs
    refine ⟨hne, ?_, List.all_iff_forall_prop.mp hplain, ⟨'w', _, rfl, by decide, hresolves⟩,
      hvisible⟩
    intro cs hcs
    exact hhead (by rw [hcs]; rfl)
  cases s with
  | application id => exact Url.isPlainPath_application h
  | newApplication | info | apps | delegationToken => exact hplain _ (by decide)

/-- A service is asked for below the address of the session. -/
theorem Service.joinValues_path {address : String} {s : Service} (ha : IsServiceAddress address)
    (h : s.IsNamed) :
    Url.joinValues (.text address) (.text s.path) = .ok (.text (s.url address)) := by
  obtain ⟨scheme, host, hfront, haddress⟩ := ha
  have hplain := s.isPlainPath h
  have hset : (Value.text address).isSet = true := by
    have hne : address.toList ≠ [] := by rw [haddress]; simp [Url.root, ResourceManager.root]
    simpa [Value.isSet] using hne
  have hpath : (Value.text s.path).isSet = true := by
    simpa [Value.isSet] using hplain.nonempty
  have hurl : s.url address =
      String.ofList (Url.front scheme host ++ Url.root ++ Url.stripped s.path.toList) := by
    unfold Service.url
    rw [String.ofList_append, ← haddress, String.ofList_toList]
  have hjoin := Url.join_path hfront hplain
  rw [← haddress] at hjoin
  unfold Url.joinValues
  simp only [hset, hpath, hurl, hjoin]
  rw [haddress]
  rfl

/-- Sessions are opened with addresses of services. -/
theorem joinValues_root {address base : Value}
    (h : Url.joinValues address (.text ResourceManager.root) = .ok base) :
    ∃ a, base = .text a ∧ IsServiceAddress a := by
  have hset : (Value.text ResourceManager.root).isSet = true := by decide
  unfold Url.joinValues at h
  by_cases ha : address.isSet = true
  · rw [ha, hset] at h
    cases address with
    | text b =>
      have hne : b.toList ≠ [] := by simpa [Value.isSet] using ha
      rcases hj : Url.join b.toList ResourceManager.root.toList with e | cs
      · simp [hj, bind, Except.bind] at h
      · obtain ⟨scheme, host, hfront, hcs⟩ := Url.join_root hne hj
        simp [hj, bind, Except.bind, pure, Except.pure] at h
        exact ⟨String.ofList cs, h.symm, scheme, host, hfront, by rw [String.toList_ofList, hcs]⟩
    | _ => cases h
  · have hfalse : address.isSet = false := by simpa using ha
    rw [hfalse] at h
    refine ⟨ResourceManager.root, (Except.ok.inj h).symm, [], [], ⟨by decide, rfl, by simp⟩, ?_⟩
    rfl

theorem hostOf_service {address : String} (h : IsServiceAddress address) :
    ∃ host, Url.hostOf address = .ok host := by
  obtain ⟨scheme, host, hfront, haddress⟩ := h
  refine ⟨String.ofList host, ?_⟩
  unfold Url.hostOf
  rw [haddress, Url.split_front hfront]
  rfl

theorem Url.front_eq {scheme : List Char} (h : isIn scheme relativeSchemes = true)
    (host : List Char) : ∃ before, front scheme host = before ++ host ∧ '[' ∉ before := by
  obtain ⟨s, hs, rfl⟩ := exists_of_isIn h
  obtain ⟨-, -, -, -, -, -, hout⟩ := relativeSchemes_spec s hs
  unfold front
  by_cases hscheme : s.toList = []
  · by_cases hhost : host = []
    · exact ⟨[], by simp [hscheme, hhost], by simp⟩
    · exact ⟨['/', '/'], by simp [hscheme, hhost], by decide⟩
  · exact ⟨s.toList ++ [':', '/', '/'], by simp [hscheme], by simp [hout]⟩

/-- A line with an address of services in it, and no other brackets, is always shown. -/
theorem closesNothing_address {address before after : String} (h : IsServiceAddress address)
    (hbefore : '[' ∉ before.toList) (hafter : '[' ∉ after.toList ∧ ']' ∉ after.toList) :
    Log.ClosesNothing (before ++ address ++ after).toList := by
  obtain ⟨scheme, host, hfront, haddress⟩ := h
  obtain ⟨start, hstart, hout⟩ := Url.front_eq hfront.relative host
  have hroot : '[' ∉ Url.root ∧ ']' ∉ Url.root := by decide
  have hline : (before ++ address ++ after).toList =
      (before.toList ++ start) ++ (host ++ (Url.root ++ after.toList)) := by
    simp [String.toList_append, haddress, hstart]
  have hslash : '/' ∉ host := fun hmem => hfront.plain _ hmem (by decide)
  rw [hline]
  exact Log.closesNothing_append (by simp [hbefore, hout]) hslash (by simp [hroot, hafter])

theorem closesNothing_handle {id before after : String} (h : ApplicationId.isValid id = true)
    (hbefore : '[' ∉ before.toList) (hafter : '[' ∉ after.toList) :
    Log.ClosesNothing (before ++ id ++ after).toList := by
  obtain ⟨name, hname, hclean⟩ := ApplicationId.isValid_name h
  have hid : '[' ∉ id.toList := by
    intro hmem
    have hin : '[' ∈ 'a' :: name := by
      rcases hname with hname | hname <;> rw [hname] at hmem <;> simpa using hmem
    exact hclean '[' hin (by decide)
  refine Log.closesNothing_of_notMem ?_
  simp [String.toList_append, hbefore, hid, hafter]

theorem closesNothing_url {address before after : String} {s : Service}
    (h : IsServiceAddress address) (hs : s.IsNamed) (hbefore : '[' ∉ before.toList)
    (hafter : '[' ∉ after.toList ∧ ']' ∉ after.toList) :
    Log.ClosesNothing (before ++ s.url address ++ after).toList := by
  have hplain := (s.isPlainPath hs).plain
  have hopen : '[' ∉ Url.stripped s.path.toList := fun hmem => hplain _ hmem (by decide)
  have hclose : ']' ∉ Url.stripped s.path.toList := fun hmem => hplain _ hmem (by decide)
  have hline : before ++ s.url address ++ after =
      before ++ address ++ (String.ofList (Url.stripped s.path.toList) ++ after) := by
    simp [Service.url, String.append_assoc]
  rw [hline]
  refine closesNothing_address h hbefore ?_
  rw [String.toList_append, String.toList_ofList]
  simp [hopen, hclose, hafter]

end ClusterSubmission
