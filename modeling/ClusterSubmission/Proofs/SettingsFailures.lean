import ClusterSubmission.Proofs.DocumentFaults
import ClusterSubmission.Proofs.TypedReading

/-!
# How loading settings fails

Loading settings ends with settings of the declared types or with a failure, and a failure is meant
to be one of the configuration. It is, where the file is malformed or holds no mapping, and where
what is said about a field does not fit it. Everything else that can stop loading is a failure of
another kind: a file that cannot be opened or holds a scalar without a value, a variable file that
is no text or gives a variable that cannot be set, a number that is too long to be recorded, a
record that fails on the console, and a level that no logger can have.
-/
namespace ClusterSubmission.Settings

open Message VariableFile

/-- A call that names a settings file, and under other names what is given outright. -/
structure IsCall (path : Value) (given : List (String × Value)) (p : String) : Prop where
  names : (given.any fun g => g.1 == "path" || g.1 == "cls") = false
  path : filePath path = .ok p

/-- How a settings file fails that is neither malformed nor holds something else than a mapping. -/
inductive FileStrays (p : String) (w : World) : Failure → Prop
  | record {q f} (hread : w.files.read p = .error (.notFound q))
    (hline : Run.debug ("No settings file at " ++ p) w = (.error f, w)) : FileStrays p w f
  | unreadable {r} (hread : w.files.read p = .error r) (hfound : ∀ q, r ≠ .notFound q) :
    FileStrays p w r.failure
  | scalar {bs stamp r} (hread : w.files.read p = .ok (bs, stamp))
    (hcontent : Yaml.content bs = .error r) (hscalar : Yaml.IsScalarFault r) :
    FileStrays p w r.failure

/-- A file whose bytes are no text. -/
def HoldsNoText (q : String) (w : World) : Prop :=
  ∃ bs stamp, w.files.read q = .ok (bs, stamp) ∧ Text.ofUtf8? bs = none

/-- What loading settles: the entries of all layers, in the world with the variables of the variable
files. -/
inductive Gathers (path : Value) (given : List (String × Value)) (w : World) :
    List (Value × Value) → World → Prop
  | intro {p entries first second} (hcall : IsCall path given p)
    (hfile : readFile p w = (.ok entries, w)) (hadded : HasVariables w first second)
    (hsettable : (additions w.environment (joined first second)).find? (!isSettable ·) = none) :
    Gathers path given w
      (merged given (withVariables w (joined first second)).environment entries)
      (withVariables w (joined first second))

/-- Why loading fails without a failure of the configuration. -/
inductive Strays (path : Value) (given : List (String × Value)) (w : World) : Failure → Prop
  | call (h : ∀ p, ¬ IsCall path given p) : Strays path given w Reason.wrongType.failure
  | file {p f} (hcall : IsCall path given p) (hfile : FileStrays p w f) : Strays path given w f
  | textless {p entries q} (hcall : IsCall path given p)
    (hfile : readFile p w = (.ok entries, w)) (hq : q ∈ variableFiles) (htext : HoldsNoText q w) :
    Strays path given w Reason.illFormedText.failure
  | unsettable {p entries first second v} (hcall : IsCall path given p)
    (hfile : readFile p w = (.ok entries, w)) (hadded : HasVariables w first second)
    (hv : (additions w.environment (joined first second)).find? (!isSettable ·) = some v) :
    Strays path given w (variableFault v).failure
  | number {es u} (h : Gathers path given w es u)
      (hlong : Value.entriesBelow textBound es = false) :
    Strays path given w Reason.integerTextTooLong.failure
  | record {es u f} (h : Gathers path given w es u)
    (hshort : Value.entriesBelow textBound es = true)
    (hline : Run.debug ("Loaded settings: " ++ (Value.mapping es).literal) u = (.error f, u)) :
    Strays path given w f
  | level {es u part level} (h : Gathers path given w es u)
    (hrecorded : recordEntries es u = (.ok (), u))
    (hread : readValue .lenient .settings (.mapping es) = .ok part)
    (hlevel : (ofPart part).logLevel = .text level) (hset : level ≠ "")
    (hunknown : Text.upper level ∉ Log.levelNames.map Prod.fst) :
    Strays path given w (Reason.levelUnknown (Text.upper level)).failure

section Stages

variable {path : Value} {given : List (String × Value)} {p q : String} {w u : World} {f : Failure}
  {es entries : List (Value × Value)}

theorem filePath_error {r : Reason} (h : filePath path = .error r) : r = .wrongType := by
  unfold filePath at h
  split at h <;> cases h
  rfl

/-- Without a proper call nothing is loaded. -/
theorem load_of_not_isCall (h : ∀ p, ¬ IsCall path given p) :
    load path given w = (.error Reason.wrongType.failure, w) := by
  unfold load
  rcases hnames : given.any fun g => g.1 == "path" || g.1 == "cls" with _ | _
  · rw [if_neg Bool.false_ne_true]
    rcases hpath : filePath path with r | p
    · obtain rfl := filePath_error hpath
      rfl
    · exact absurd ⟨hnames, hpath⟩ (h p)
  · rfl

theorem load_of_file_error (hcall : IsCall path given p) (h : readFile p w = (.error f, w)) :
    load path given w = (.error f, w) := by
  unfold load
  rw [hcall.names, hcall.path, if_neg Bool.false_ne_true]
  exact (Run.bind_of_error h).trans rfl

theorem FileStrays.readFile_eq (h : FileStrays p w f) : readFile p w = (.error f, w) := by
  rw [Settings.readFile_eq]
  cases h with
  | record hread hline =>
    rw [hread]
    exact Run.bind_of_error hline
  | @unreadable r hread hfound =>
    rw [hread]
    cases r with
    | notFound q => exact absurd rfl (hfound q)
    | _ => rfl
  | scalar hread hcontent hscalar =>
    rw [hread, fileEntries, hcontent]
    cases hscalar <;> rfl

theorem Run.debug_error {m : String} (h : Run.debug m w = (.error f, u)) : f.kind = .markup := by
  rcases Run.debug_cases m w with hline | ⟨g, hline, hg⟩
  · cases hline.symm.trans h
  · obtain ⟨hf, -⟩ := Prod.mk.inj (hline.symm.trans h)
    cases hf
    exact hg.1

theorem FileStrays.isSubmission (h : FileStrays p w f) : f.kind.isSubmission = false := by
  cases h with
  | record hread hline =>
    rw [Run.debug_error hline]
    rfl
  | unreadable hread hfound => cases FileTree.read_fails _ hread <;> rfl
  | scalar hread hcontent hscalar => exact hscalar.isSubmission

/-- A settings file gives entries, or fails as a matter of the configuration, or strays. -/
theorem readFile_cases (p : String) (w : World) : (∃ es, readFile p w = (.ok es, w)) ∨
    ∃ f, readFile p w = (.error f, w) ∧ (f.kind = .configuration ∨ FileStrays p w f) := by
  have hstray : ∀ {f}, FileStrays p w f →
      ∃ f, readFile p w = (.error f, w) ∧ (f.kind = .configuration ∨ FileStrays p w f) :=
    fun h => ⟨_, h.readFile_eq, Or.inr h⟩
  rcases hread : w.files.read p with r | ⟨bs, stamp⟩
  · by_cases hfound : ∃ q, r = .notFound q
    · obtain ⟨q, rfl⟩ := hfound
      rcases Run.debug_cases ("No settings file at " ++ p) w with hline | ⟨f, hline, -⟩
      · refine Or.inl ⟨[], ?_⟩
        rw [readFile_eq, hread]
        exact Run.bind_of_ok hline
      · exact Or.inr (hstray (.record hread hline))
    · exact Or.inr (hstray (.unreadable hread fun q hq => hfound ⟨q, hq⟩))
  · rcases hcontent : Yaml.content bs with r | v
    · rcases Yaml.content_fails bs r hcontent with rfl | hscalar
      · refine Or.inr ⟨(Reason.settingsUnreadable p Reason.malformedDocument.message).failure.causedBy
          Reason.malformedDocument.failure, ?_, Or.inl rfl⟩
        rw [readFile_eq, hread, fileEntries, hcontent]
        rfl
      · exact Or.inr (hstray (.scalar hread hcontent hscalar))
    · rw [readFile_eq, hread, fileEntries, hcontent]
      dsimp only
      split
      · exact Or.inl ⟨[], rfl⟩
      · split
        · exact Or.inl ⟨_, rfl⟩
        · exact Or.inr ⟨_, rfl, Or.inl rfl⟩

theorem readVariables_of_noText (h : HoldsNoText q w) :
    readVariables q w = (.error Reason.illFormedText.failure, w) := by
  obtain ⟨bs, stamp, hread, htext⟩ := h
  unfold readVariables
  rw [Run.get_bind, hread]
  dsimp only
  rw [htext]
  rfl

theorem readVariables_cases (q : String) (w : World) :
    (∃ vs, readVariables q w = (.ok vs, w)) ∨ HoldsNoText q w := by
  unfold readVariables
  rw [Run.get_bind]
  rcases hread : w.files.read q with r | ⟨bs, stamp⟩
  · exact Or.inl ⟨[], rfl⟩
  · dsimp only
    rcases htext : Text.ofUtf8? bs with _ | text
    · exact Or.inr ⟨bs, stamp, hread, htext⟩
    · exact Or.inl ⟨_, rfl⟩

theorem hasVariables_or (w : World) :
    (∃ first second, HasVariables w first second) ∨ ∃ q ∈ variableFiles, HoldsNoText q w := by
  rcases readVariables_cases (Text.pathBelow configurationDirectory ".env") w with
    ⟨first, hfirst⟩ | hnone
  · rcases readVariables_cases ".env" w with ⟨second, hsecond⟩ | hnone
    · exact Or.inl ⟨first, second, hfirst, hsecond⟩
    · exact Or.inr ⟨_, List.mem_cons_of_mem _ (List.mem_cons_self ..), hnone⟩
  · exact Or.inr ⟨_, List.mem_cons_self .., hnone⟩

theorem loadVariables_of_noText (hq : q ∈ variableFiles) (h : HoldsNoText q w) :
    loadVariables w = (.error Reason.illFormedText.failure, w) := by
  have hline : Log.ClosesNothing "Loading environment variables from .env files...".toList :=
    Log.closesNothing_of_notMem (by decide)
  have hfiles : variableFiles.mapM readVariables w = (.error Reason.illFormedText.failure, w) := by
    unfold variableFiles at hq ⊢
    rw [List.mapM_cons]
    -- The first file may be the one, or one like it, which fails in the same way.
    rcases readVariables_cases (Text.pathBelow configurationDirectory ".env") w with
      ⟨first, hfirst⟩ | hfirst
    · rcases List.mem_cons.mp hq with rfl | hq
      · cases hfirst.symm.trans (readVariables_of_noText h)
      · obtain rfl := List.mem_singleton.mp hq
        rw [Run.bind_of_ok hfirst, List.mapM_cons, bind_assoc,
          Run.bind_of_error (readVariables_of_noText h)]
    · exact Run.bind_of_error (readVariables_of_noText hfirst)
  unfold loadVariables
  rw [Run.bind_of_ok (Run.debug_of_closesNothing hline w), Run.bind_of_error hfiles]

theorem Gathers.load_eq (h : Gathers path given w es u) : load path given w = settle es u := by
  obtain ⟨hcall, hfile, hadded, hsettable⟩ := h
  rw [Settings.load_eq hcall.names hcall.path hfile hadded, hsettable]

theorem Gathers.distinct (h : Gathers path given w es u) : HasDistinctTexts es := by
  obtain ⟨-, hfile, -, -⟩ := h
  exact merged_distinct (readFile_distinct hfile)

/-- A proper call fails before it comes to settling, or settles what it gathers. -/
theorem gathers_or (hcall : IsCall path given p) (w : World) :
    (∃ es u, Gathers path given w es u) ∨
      ∃ f, (load path given w).1 = .error f ∧
        (f.kind = .configuration ∨ Strays path given w f) := by
  -- In the order of loading: the settings file, the variable files, and their variables.
  rcases readFile_cases p w with ⟨entries, hfile⟩ | ⟨f, hfile, hf⟩
  · rcases hasVariables_or w with ⟨first, second, hadded⟩ | ⟨q, hq, htext⟩
    · rcases hfault : (additions w.environment (joined first second)).find? (!isSettable ·)
        with _ | v
      · exact Or.inl ⟨_, _, .intro hcall hfile hadded hfault⟩
      · refine Or.inr ⟨_, ?_, Or.inr (.unsettable hcall hfile hadded hfault)⟩
        rw [load_eq hcall.names hcall.path hfile hadded, hfault]
    · refine Or.inr ⟨_, ?_, Or.inr (.textless hcall hfile hq htext)⟩
      rw [load_opened hcall.names hcall.path hfile,
        Run.bind_of_error (loadVariables_of_noText hq htext)]
  · refine Or.inr ⟨f, ?_, hf.imp id fun hf => .file hcall hf⟩
    rw [load_of_file_error hcall hfile]

end Stages

section Types

theorem flat_settings : ∀ f ∈ Model.settings.fields,
    f.shape.recordModel? = none ∧ ∀ item, f.shape ≠ .list item := by
  simp [Model.fields, plainField, Shape.recordModel?]

theorem defaults_typed : ∀ f ∈ Model.settings.fields, f.shape.Takes f.default.part.value := by
  have hproxies : Shape.textMap.Takes (.mapping []) := Or.inr ⟨[], rfl, List.nodup_nil, rfl⟩
  simp only [Model.fields, plainField, List.forall_mem_cons]
  exact ⟨Or.inl .noText, Or.inl (.noChoice _), Or.inl .noText, Or.inl (.integer (by simp)),
    Or.inl (.booleanOfText _), hproxies, Or.inl (.anyText _), Or.inl (.boolean _), Or.inl .noText,
    by simp⟩

variable {s : Settings}

/-- Settings that were read have the declared types, whatever was said about them. -/
theorem Follows.takes {said : String → Option Value} (h : s.Follows said) :
    ∀ e ∈ Model.settings.fields.zip s.values, e.1.shape.Takes e.2 := by
  obtain ⟨value, rfl, hvalue⟩ := h
  have hvalues : (ofLookup fun name _ => value name).values =
    Model.settings.fields.map fun f => value f.name := rfl
  intro e he
  rw [hvalues, List.zip_map_right] at he
  -- Each value is the one of the field at its side, since the values are told by the fields.
  obtain ⟨⟨f, g⟩, hfg, rfl⟩ := List.mem_map.mp he
  obtain ⟨i, hi, heq⟩ := List.mem_iff_getElem.mp hfg
  rw [List.getElem_zip] at heq
  obtain ⟨hf, hg⟩ := Prod.mk.inj heq
  obtain rfl : f = g := hf.symm.trans hg
  have hmem : f ∈ Model.settings.fields := (List.of_mem_zip hfg).1
  have hsetting := hvalue f hmem
  unfold IsSetting at hsetting
  split at hsetting
  · obtain ⟨p, hread, hv⟩ := hsetting
    obtain ⟨hrecord, hlist⟩ := flat_settings f hmem
    have htakes := read_takes hrecord hlist hread
    rw [← hv] at htakes
    exact htakes
  · have htakes := defaults_typed f hmem
    rw [← hsetting] at htakes
    exact htakes

theorem checkLevel_text {level : String} (hlevel : s.logLevel = .text level) (hset : level ≠ "") :
    checkLevel s = (Log.levelOf (.text (Text.upper level)) >>= fun _ => .ok ()) := by
  rw [checkLevel, hlevel]
  exact if_pos (bne_iff_ne.mpr hset)

theorem checkLevel_of_unknown {level : String} (hlevel : s.logLevel = .text level)
    (hset : level ≠ "") (hunknown : Text.upper level ∉ Log.levelNames.map Prod.fst) :
    checkLevel s = .error (.levelUnknown (Text.upper level)) := by
  rw [checkLevel_text hlevel hset, levelOf_of_unknown hunknown]
  rfl

/-- Unless the level of settings is a name that is not known, a logger can have it. -/
theorem checkLevel_cases (s : Settings) :
    (checkLevel s = .ok () ∧ ∀ level, s.logLevel = .text level →
      level = "" ∨ Text.upper level ∈ Log.levelNames.map Prod.fst) ∨
    ∃ level, s.logLevel = .text level ∧ level ≠ "" ∧
      Text.upper level ∉ Log.levelNames.map Prod.fst := by
  by_cases htext : ∃ level, s.logLevel = .text level ∧ level ≠ ""
  · obtain ⟨level, hlevel, hset⟩ := htext
    by_cases hknown : Text.upper level ∈ Log.levelNames.map Prod.fst
    · obtain ⟨n, hn⟩ := levelOf_of_known hknown
      refine Or.inl ⟨?_, fun other hother => Or.inr ?_⟩
      · rw [checkLevel_text hlevel hset, hn]
        rfl
      · obtain rfl : level = other := Value.text.inj (hlevel.symm.trans hother)
        exact hknown
    · exact Or.inr ⟨level, hlevel, hset, hknown⟩
  · have hunset : ∀ level, s.logLevel = .text level → level = "" := fun level hlevel =>
      by_contra fun hset => htext ⟨level, hlevel, hset⟩
    refine Or.inl ⟨?_, fun level hlevel => Or.inl (hunset level hlevel)⟩
    unfold checkLevel
    split
    · rename_i level hlevel
      obtain rfl := hunset level hlevel
      rfl
    · rfl

end Types

section Ends

variable {path : Value} {given : List (String × Value)} {p : String} {w w' u : World} {f : Failure}
  {es : List (Value × Value)}

theorem recordEntries_eq (h : Value.entriesBelow textBound es = true) (w : World) :
    recordEntries es w = Run.debug ("Loaded settings: " ++ (Value.mapping es).literal) w := by
  unfold recordEntries
  rw [h]
  rfl

theorem ofEntries_of_read {part : Part}
    (h : readValue .lenient .settings (.mapping es) = .ok part) :
    ofEntries es = ((checkLevel (ofPart part)).mapError Reason.failure >>= fun _ =>
      .ok (ofPart part)) := by
  unfold ofEntries
  rw [h]

/-- Entries are settings of the declared types, do not fit, or give a level that is not known. -/
theorem ofEntries_cases (hdistinct : HasDistinctTexts es) :
    (∃ s, ofEntries es = .ok s ∧ s.IsTyped) ∨
    (∃ f, ofEntries es = .error f ∧ f.kind = .configuration) ∨
    ∃ part level, readValue .lenient .settings (.mapping es) = .ok part ∧
      (ofPart part).logLevel = .text level ∧ level ≠ "" ∧
      Text.upper level ∉ Log.levelNames.map Prod.fst := by
  rcases hread : readValue .lenient .settings (.mapping es) with e | part
  · obtain ⟨m, rfl⟩ := mismatch_of_readValue hread
    refine Or.inr (Or.inl ⟨refusal (.mismatch m), ?_, rfl⟩)
    unfold ofEntries
    rw [hread]
  · rcases checkLevel_cases (ofPart part) with ⟨hcheck, hlevel⟩ | ⟨level, hlevel, hset, hunknown⟩
    · have hfollows := follows_of_read hdistinct (fun _ _ => rfl) hread
      refine Or.inl ⟨ofPart part, ?_, hfollows.takes, hlevel⟩
      rw [ofEntries_of_read hread, hcheck]
      rfl
    · exact Or.inr (Or.inr ⟨part, level, rfl, hlevel, hset, hunknown⟩)

theorem settle_of_unknown {part : Part} {level : String}
    (hrecorded : recordEntries es w = (.ok (), w))
    (hread : readValue .lenient .settings (.mapping es) = .ok part)
    (hlevel : (ofPart part).logLevel = .text level) (hset : level ≠ "")
    (hunknown : Text.upper level ∉ Log.levelNames.map Prod.fst) :
    (settle es w).1 = .error (Reason.levelUnknown (Text.upper level)).failure := by
  obtain ⟨ls, hsettle⟩ := settle_of_recorded hrecorded
  rw [hsettle, ofEntries_of_read hread, checkLevel_of_unknown hlevel hset hunknown]
  rfl

/-- What was gathered is settled with the declared types, fails as a matter of the configuration, or
strays. -/
theorem Gathers.ends (h : Gathers path given w es u) :
    (∃ s, (load path given w).1 = .ok s ∧ s.IsTyped) ∨
      ∃ f, (load path given w).1 = .error f ∧
        (f.kind = .configuration ∨ Strays path given w f) := by
  rw [h.load_eq]
  rcases hlong : Value.entriesBelow textBound es with _ | _
  · have hsettle : settle es u = (.error Reason.integerTextTooLong.failure, u) :=
      Run.bind_of_error (recordEntries_of_long hlong u)
    exact Or.inr ⟨_, congrArg Prod.fst hsettle, Or.inr (.number h hlong)⟩
  rcases recordEntries_cases hlong u with hrecorded | ⟨f, hline, -⟩
  · rcases ofEntries_cases h.distinct with hs | hf | ⟨part, level, hread, hlevel, hset, hunknown⟩
    · obtain ⟨ls, hsettle⟩ := settle_of_recorded hrecorded
      rw [hsettle]
      exact Or.inl hs
    · obtain ⟨ls, hsettle⟩ := settle_of_recorded hrecorded
      obtain ⟨f, hf, hkind⟩ := hf
      rw [hsettle]
      exact Or.inr ⟨f, hf, Or.inl hkind⟩
    · exact Or.inr ⟨_, settle_of_unknown hrecorded hread hlevel hset hunknown,
        Or.inr (.level h hrecorded hread hlevel hset hunknown)⟩
  · have hsettle : settle es u = (.error f, u) := Run.bind_of_error hline
    rw [recordEntries_eq hlong] at hline
    exact Or.inr ⟨f, congrArg Prod.fst hsettle, Or.inr (.record h hlong hline)⟩

theorem Strays.load_eq (h : Strays path given w f) : (load path given w).1 = .error f := by
  cases h with
  | call h => rw [load_of_not_isCall h]
  | file hcall hfile => rw [load_of_file_error hcall hfile.readFile_eq]
  | textless hcall hfile hq htext =>
    rw [load_opened hcall.names hcall.path hfile,
      Run.bind_of_error (loadVariables_of_noText hq htext)]
  | unsettable hcall hfile hadded hv =>
    rw [Settings.load_eq hcall.names hcall.path hfile hadded, hv]
  | number h hlong =>
    rw [h.load_eq]
    exact congrArg Prod.fst (Run.bind_of_error (recordEntries_of_long hlong _))
  | record h hshort hline =>
    rw [h.load_eq]
    exact congrArg Prod.fst (Run.bind_of_error ((recordEntries_eq hshort _).trans hline))
  | level h hrecorded hread hlevel hset hunknown =>
    rw [h.load_eq]
    exact settle_of_unknown hrecorded hread hlevel hset hunknown

/-- What strays is none of the failures of a submission. -/
theorem Strays.isSubmission (h : Strays path given w f) : f.kind.isSubmission = false := by
  cases h with
  | call | textless | number | level => rfl
  | file hcall hfile => exact hfile.isSubmission
  | unsettable =>
    unfold variableFault
    split <;> rfl
  | record h hshort hline => rw [Run.debug_error hline]; rfl

/-- Loading ends with settings of the declared types, or it fails. It fails with a failure of the
configuration unless it strays, and where it strays it fails in that very way, which is never one of
the configuration. -/
theorem load_fails_unless_strays (path : Value) (given : List (String × Value)) (w : World) :
    (∀ s, (load path given w).1 = .ok s → s.IsTyped) ∧
    (∀ f, (load path given w).1 = .error f →
      f.kind = .configuration ∨ Strays path given w f) ∧
    ∀ f, Strays path given w f →
      (load path given w).1 = .error f ∧ f.kind.isSubmission = false := by
  have hends : (∃ s, (load path given w).1 = .ok s ∧ s.IsTyped) ∨
      ∃ f, (load path given w).1 = .error f ∧
        (f.kind = .configuration ∨ Strays path given w f) := by
    by_cases hcall : ∃ p, IsCall path given p
    · obtain ⟨p, hcall⟩ := hcall
      rcases gathers_or hcall w with ⟨es, u, h⟩ | hfails
      · exact h.ends
      · exact Or.inr hfails
    · have hstrays : Strays path given w Reason.wrongType.failure :=
        .call fun p hp => hcall ⟨p, hp⟩
      exact Or.inr ⟨_, hstrays.load_eq, Or.inr hstrays⟩
  refine ⟨?_, ?_, fun f hf => ⟨hf.load_eq, hf.isSubmission⟩⟩
  · intro s hs
    rcases hends with ⟨t, ht, htyped⟩ | ⟨f, hf, -⟩
    · cases ht.symm.trans hs
      exact htyped
    · cases hf.symm.trans hs
  · intro f hf
    rcases hends with ⟨t, ht, -⟩ | ⟨g, hg, hends⟩
    · cases ht.symm.trans hf
    · cases hg.symm.trans hf
      exact hends

end Ends

/-- A world with a variable file that gives a user with a character that no variable can have. -/
def nulWorld : World where
  files := { nodes := [([".env"], .file (Text.utf8 "RESUBMIT_USER=a\x00b\n") (.change 0))] }

/-- The variable is not set, and loading fails for it. -/
theorem load_fails_unless_strays_nul :
    (load .null [] nulWorld).1 = .error Reason.variableWithNul.failure ∧
      Reason.variableWithNul.failure.kind.isSubmission = false := by
  have hcall : IsCall .null [] defaultFile := ⟨rfl, rfl⟩
  have hfile : readFile defaultFile nulWorld = (.ok [], nulWorld) := rfl
  have hread : VariableFile.read nulWorld.environment "RESUBMIT_USER=a\x00b\n" =
      [("RESUBMIT_USER", some "a\x00b")] := by decide +kernel
  have hadded : HasVariables nulWorld [] [("RESUBMIT_USER", some "a\x00b")] := by
    have hfile : nulWorld.files.read ".env" =
      .ok (Text.utf8 "RESUBMIT_USER=a\x00b\n", .change 0) := rfl
    refine ⟨rfl, ?_⟩
    rw [readVariables_eq hfile, hread]
  have hv : (additions nulWorld.environment (joined [] [("RESUBMIT_USER", some "a\x00b")])).find?
      (!isSettable ·) = some ("RESUBMIT_USER", "a\x00b") := by decide +kernel
  exact (load_fails_unless_strays .null [] nulWorld).2.2 _ (.unsettable hcall hfile hadded hv)

/-- A level that is no level is an invalid setting, but it is not told as one. -/
theorem unknown_level_strays : ∃ f, (load .null [("log_level", .text "bogus")] {}).1 = .error f ∧
    f.message = "Unknown level: 'BOGUS'" ∧ f.kind ≠ .configuration := by
  obtain ⟨f, hf, htold⟩ : ∃ f, (load .null [("log_level", .text "bogus")] {}).1 = .error f ∧
      decide (f.message = "Unknown level: 'BOGUS'" ∧ f.kind ≠ .configuration) = true :=
    exists_of_failsWith (by decide +kernel)
  exact ⟨f, hf, of_decide_eq_true htold⟩

end ClusterSubmission.Settings
