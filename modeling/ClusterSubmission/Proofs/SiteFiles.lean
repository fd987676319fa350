import ClusterSubmission.Proofs.Run
import ClusterSubmission.Site.Configuration

/-!
# How site files are read

Reading site files changes which of them are kept, and nothing else. While what is kept of a file is
what the file holds, a property is looked up as if every file were read again.
-/
namespace ClusterSubmission

/-- What is kept of a site file that has not changed since is what the file holds. -/
def World.KeepsSites (w : World) : Prop :=
  ∀ e ∈ w.siteCache, ∀ content stamp, w.files.read e.path = .ok (content, stamp) →
    Site.sameStamp e.stamp stamp = true → Site.read? content = some e.properties

/-- What reading site files may change: which of them are kept, but not as what. -/
structure World.OnlyReads (w w' : World) : Prop where
  same : w' = { w with siteCache := w'.siteCache }
  keeps : w.KeepsSites → w'.KeepsSites

variable {w w₁ w' : World}

namespace World.OnlyReads

theorem refl (w : World) : w.OnlyReads w := ⟨rfl, id⟩

theorem trans (h : w.OnlyReads w₁) (h' : w₁.OnlyReads w') : w.OnlyReads w' := by
  refine ⟨?_, fun hw => h'.keeps (h.keeps hw)⟩
  have hsame := h'.same
  rw [h.same] at hsame
  exact hsame

theorem files (h : w.OnlyReads w') : w'.files = w.files := by
  rw [h.same]

theorem isLogged (h : w.OnlyReads w') (name : String) (level : Int) :
    w'.isLogged name level = w.isLogged name level := by
  apply isLogged_congr
  rw [h.same]

end World.OnlyReads

namespace Site

theorem read_of_propertiesAt? {files : FileTree} {path : String} {ps : Properties}
    (h : propertiesAt? files path = some ps) :
    ∃ content stamp, files.read path = .ok (content, stamp) ∧ read? content = some ps := by
  unfold propertiesAt? at h
  rcases hread : files.read path with r | ⟨content, stamp⟩
  · rw [hread] at h
    cases h
  · rw [hread] at h
    exact ⟨content, stamp, rfl, h⟩

theorem root_of_read? {content : List UInt8} {ps : Properties} (h : read? content = some ps) :
    ∃ root, Xml.read content = .ok root ∧ propertiesOf root = ps := by
  unfold read? at h
  rcases hroot : Xml.read content with r | root
  · rw [hroot] at h
    cases h
  · rw [hroot] at h
    exact ⟨root, rfl, Option.some.inj h⟩

/-- A file that is kept in front, in place of what was kept of it. -/
theorem onlyReads_keep {path : String} {content : List UInt8} {stamp : Stamp} {ps : Properties}
    (isIt : SiteEntry → Bool) (hread : w.files.read path = .ok (content, stamp))
    (hps : read? content = some ps) : w.OnlyReads { w with
      siteCache := ((⟨path, stamp, ps⟩ : SiteEntry) ::
        w.siteCache.filter fun e => !isIt e).take keptFiles } := by
  refine ⟨rfl, fun hkeeps e he content' stamp' hread' hstamp => ?_⟩
  rcases List.mem_cons.mp (List.mem_of_mem_take he) with rfl | he
  · have hsame : w.files.read path = .ok (content', stamp') := hread'
    rw [hread] at hsame
    cases hsame
    exact hps
  · exact hkeeps e (List.mem_filter.mp he).1 content' stamp' hread' hstamp

/-- The site files of a directory are its children with a name of a site file, in the order of their
names. -/
theorem exists_names (files : FileTree) (directory : String) :
    ∃ names : List String, filesIn files directory = names.map (Text.pathBelow directory) ∧
      names.Pairwise (· ≤ ·) ∧
      ∀ name, name ∈ names ↔ name ∈ files.children directory ∧ isFileName name = true := by
  refine ⟨((files.children directory).filter isFileName).mergeSort fun a b => !decide (b < a), rfl,
    ?_, fun name => ?_⟩
  · have hle : ∀ a b : String, (!decide (b < a)) = true ↔ a ≤ b := by
      intro a b
      rw [Bool.not_eq_true', decide_eq_false_iff_not]
      exact String.not_lt
    refine (List.pairwise_mergeSort (fun a b c => ?_) (fun a b => ?_) _).imp (hle _ _).mp
    · simp only [hle]
      exact String.le_trans
    · rw [Bool.or_eq_true, hle, hle]
      exact String.le_total a b
  · rw [List.mem_mergeSort, List.mem_filter]

/-- A well-formed file is read as what it holds, whether it is kept or not. -/
theorem readFile_of_propertiesAt? {path : String} {ps : Properties} (hkeeps : w.KeepsSites)
    (h : propertiesAt? w.files path = some ps) :
    ∃ w', readFile path w = (.ok ps, w') ∧ w.OnlyReads w' := by
  obtain ⟨content, stamp, hread, hps⟩ := read_of_propertiesAt? h
  refine ⟨_, ?_, onlyReads_keep (fun e => e.path == path && sameStamp e.stamp stamp) hread hps⟩
  unfold readFile
  rw [Run.get_bind, hread, Run.ofExcept_ok_bind]
  dsimp only
  cases hfind : w.siteCache.find? fun e => e.path == path && sameStamp e.stamp stamp with
  | some e =>
    have hmatch := List.find?_some hfind
    obtain ⟨hpath, hstamp⟩ := Bool.and_eq_true_iff.mp hmatch
    rw [← eq_of_beq hpath] at hread
    have hkept := hkeeps e (List.mem_of_find?_eq_some hfind) content stamp hread hstamp
    rw [hps] at hkept
    cases hkept
    rfl
  | none =>
    obtain ⟨root, hroot, rfl⟩ := root_of_read? hps
    rw [hroot]
    rfl

end Site

namespace SiteConfiguration

/-- What the first of some site files that has a property says about it. -/
def definition? (sites : List Site.Properties) (key : String) : Option (Option String) :=
  sites.findSome? (·.find? (some key))

/-- The definition of a property was found, and the console that shows the record of it reads the
record as faulty markup. -/
def RecordFails (sites : List Site.Properties) (w : World) (key : String) (f : Failure) : Prop :=
  w.isLogged libraryName debugLevel = true ∧ ∃ value path r, definition? sites key = some value ∧
    Log.renderMarkup ("[bold]" ++ libraryName ++ "[/] - " ++ ("Got key '" ++ key ++ "' with value '"
      ++ value.getD "None" ++ "' from '" ++ path ++ "'")) = .error r ∧ f = r.failure

/-- Looking a property up finds its definition, unless the record about it fails. -/
theorem findIn_eq (key : String) {paths : List String} {sites : List Site.Properties}
    (hkeeps : w.KeepsSites) (h : paths.map (Site.propertiesAt? w.files) = sites.map some) :
    ∃ w', w.OnlyReads w' ∧ (findIn (some key) paths w = (.ok (definition? sites key), w') ∨
      ∃ f, findIn (some key) paths w = (.error f, w') ∧ RecordFails sites w key f) := by
  induction paths generalizing w sites with
  | nil =>
    cases sites with
    | nil => exact ⟨w, .refl w, Or.inl rfl⟩
    | cons ps sites => cases h
  | cons path paths ih =>
    cases sites with
    | nil => cases h
    | cons ps sites =>
      obtain ⟨hps, hrest⟩ := List.cons.inj h
      obtain ⟨w₁, hread, honly⟩ := Site.readFile_of_propertiesAt? hkeeps hps
      unfold findIn RecordFails definition?
      rw [Run.bind_of_ok hread, List.findSome?_cons]
      cases hfind : ps.find? (some key) with
      | some value =>
        dsimp only
        refine ⟨w₁, honly, ?_⟩
        rcases Run.log_cases debugLevel ("Got key '" ++ key ++ "' with value '"
          ++ value.getD "None" ++ "' from '" ++ path ++ "'") w₁ with hd | ⟨r, hd, hr, hlogged⟩
        · exact Or.inl (Run.bind_of_ok hd)
        · rw [honly.isLogged] at hlogged
          exact Or.inr ⟨_, Run.bind_of_error hd, hlogged, value, path, r, rfl, hr, rfl⟩
      | none =>
        rw [← honly.files] at hrest
        obtain ⟨w₂, hfound, hends⟩ := ih (honly.keeps hkeeps) hrest
        refine ⟨w₂, honly.trans hfound, hends.imp id ?_⟩
        rintro ⟨f, hf, hlogged, hfails⟩
        rw [honly.isLogged] at hlogged
        exact ⟨f, hf, hlogged, hfails⟩

/-- The configuration finds site files with some properties, in the order of their paths. -/
structure Holds (c : SiteConfiguration) (w : World) (sites : List Site.Properties) : Prop where
  files : ∃ directory, c.directory w = (.ok directory, w) ∧ w.files.isDirectory directory = true ∧
    (Site.filesIn w.files directory).map (Site.propertiesAt? w.files) = sites.map some
  nonempty : sites ≠ []
  keeps : w.KeepsSites

/-- Where the directory is depends on the environment only. -/
theorem directory_eq (c : SiteConfiguration) (environment : List (String × String)) :
    ∃ r, ∀ w : World, w.environment = environment → c.directory w = (r, w) := by
  have hvariable : ∀ name (w : World), Run.variableOrEmpty name w =
      (.ok (((w.environment.find? (·.1 == name)).map (·.2)).getD ""), w) := fun _ _ => rfl
  have hends : ∀ w : World, w.environment = environment → c.directory w =
      ((c.directory { environment }).1, w) := by
    rintro w rfl
    unfold directory
    rw [Run.bind_of_ok (hvariable "HADOOP_CONF_DIR" w),
      Run.bind_of_ok (hvariable "YARN_CONF_DIR" w),
      Run.bind_of_ok (hvariable "HADOOP_CONF_DIR" _), Run.bind_of_ok (hvariable "YARN_CONF_DIR" _)]
    dsimp only
    generalize firstSet _ _ = v
    cases v <;> rfl
  exact ⟨_, hends⟩

theorem Holds.of_onlyReads {c : SiteConfiguration} {sites : List Site.Properties}
    (h : c.Holds w sites) (honly : w.OnlyReads w') : c.Holds w' sites := by
  obtain ⟨directory, hdirectory, his, hsites⟩ := h.files
  obtain ⟨r, hr⟩ := c.directory_eq w.environment
  refine ⟨⟨directory, ?_, ?_, ?_⟩, h.nonempty, honly.keeps h.keeps⟩
  · have hbefore := hr w rfl
    rw [hdirectory] at hbefore
    cases hbefore
    apply hr
    rw [honly.same]
  · rw [honly.files]
    exact his
  · rw [honly.files]
    exact hsites

/-- Where the site files are, and that there are some. -/
theorem Holds.exists_directory {c : SiteConfiguration} {sites : List Site.Properties}
    (h : c.Holds w sites) : ∃ directory, c.directory w = (.ok directory, w) ∧
      c.isAvailable w = (.ok true, w) ∧
      (Site.filesIn w.files directory).map (Site.propertiesAt? w.files) = sites.map some := by
  obtain ⟨directory, hdirectory, his, hsites⟩ := h.files
  have hfiles : (Site.filesIn w.files directory).isEmpty = false := by
    rw [List.isEmpty_eq_false_iff]
    intro hnone
    rw [hnone] at hsites
    exact h.nonempty (List.map_eq_nil_iff.mp hsites.symm)
  refine ⟨directory, hdirectory, ?_, hsites⟩
  unfold isAvailable
  rw [Run.bind_of_ok hdirectory, Run.get_bind, his, hfiles]
  rfl

end SiteConfiguration
end ClusterSubmission
