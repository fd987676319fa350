import ClusterSubmission.Proofs.LogLevel
import ClusterSubmission.Proofs.SettingsLayers

/-!
# Loading settings

Loading adds the variables of the variable files to the environment and reads the entries of all
layers. The result depends on the world only in whether a record about the entries fails on the
console; so it is the same for layers that differ in what is hidden, and when they are loaded again.
-/
namespace ClusterSubmission.Settings

open Message

theorem levelOf_of_known {level : String} (h : level ∈ Log.levelNames.map Prod.fst) :
    ∃ n, Log.levelOf (.text level) = .ok n := by
  obtain ⟨known, hmem, hname⟩ := List.mem_map.mp h
  have hfound : (Log.levelNames.find? (·.1 == level)).isSome = true :=
    List.find?_isSome.mpr ⟨known, hmem, by simp [hname]⟩
  obtain ⟨x, hx⟩ := Option.isSome_iff_exists.mp hfound
  refine ⟨x.2, ?_⟩
  rw [Log.levelOf, hx]

theorem levelOf_of_unknown {level : String} (h : level ∉ Log.levelNames.map Prod.fst) :
    Log.levelOf (.text level) = .error (.levelUnknown level) := by
  have hnone : Log.levelNames.find? (·.1 == level) = none :=
    List.find?_eq_none.mpr fun known hmem hname =>
      h (List.mem_map.mpr ⟨known, hmem, eq_of_beq hname⟩)
  rw [Log.levelOf, hnone]

/-- Asking for the library's own logger with a level changes the loggers at most. -/
theorem getLogger_level {level : String} (h : level ≠ "") (w : World) : ∃ ls,
    Log.getLogger (.text libraryName) (.text level) .null w =
      ((Log.levelOf (.text level)).mapError Reason.failure >>= fun _ => .ok libraryName,
        w.withLoggers ls) := by
  have hset : (Value.text level).isSet = true := by simpa [Value.isSet] using h
  have hname : (Value.text libraryName).orElse (.text libraryName) = .text libraryName := rfl
  have hlevel : (Value.text level).orElse (.int infoLevel) = .text level := if_pos hset
  have hlast : ∀ v : World, (∃ ls, v = w.withLoggers ls) → ∃ ls, (do
      let least ← Run.ofExcept (Log.levelOf (.text level))
      modify fun w => w.setLogger libraryName { w.logger libraryName with level := least }
      return libraryName : Run String) v =
        ((Log.levelOf (.text level)).mapError Reason.failure >>= fun _ => .ok libraryName,
          w.withLoggers ls) := by
    rintro v ⟨ls, rfl⟩
    rcases Log.levelOf (.text level) with r | n
    · exact ⟨ls, rfl⟩
    · exact ⟨_, rfl⟩
  unfold Log.getLogger Run.environmentValue?
  simp only [bind_assoc, Run.get_bind, pure_bind, hset, if_true, hname, Value.isNull, hlevel]
  rw [Run.modify_bind, Run.get_bind]
  split
  · rw [Run.modify_bind]
    exact hlast _ ⟨_, rfl⟩
  · exact hlast _ ⟨_, rfl⟩

theorem upper_ne_empty {s : String} (h : s ≠ "") : Text.upper s ≠ "" := by
  have hchar : ∀ c, Text.upperChar c ≠ [] := by
    intro c
    unfold Text.upperChar
    split
    · rename_i cs hfound
      have hall : ∀ e ∈ Text.upperExpansions, e.2 ≠ [] := by decide
      have hne := hall _ (List.mem_of_find?_eq_some hfound)
      simpa using hne
    · exact List.cons_ne_nil _ _
  have hnil : s.toList ≠ [] := by simpa using h
  obtain ⟨c, cs, hcs⟩ := List.exists_cons_of_ne_nil hnil
  obtain ⟨d, ds, hds⟩ := List.exists_cons_of_ne_nil (hchar c)
  unfold Text.upper
  rw [hcs, List.flatMap_cons, hds]
  intro hempty
  simpa using congrArg String.toList hempty

/-- What is made of a failed reading of settings. -/
def refusal (e : Reason) : Failure :=
  match e.kind with
  | .mismatch => (Reason.settingsInvalid e.message).failure.causedBy e.failure
  | _ => e.failure

/-- Whether the level of settings is one that a logger can have. -/
def checkLevel (s : Settings) : Except Reason Unit :=
  match s.logLevel with
  | .text level => if level != "" then do
      let _ ← Log.levelOf (.text (Text.upper level))
    else return ()
  | _ => return ()

/-- The settings that entries are, or why they are none. -/
def ofEntries (es : List (Value × Value)) : Except Failure Settings :=
  match readValue .lenient .settings (.mapping es) with
  | .error e => .error (refusal e)
  | .ok p => (checkLevel (ofPart p)).mapError Reason.failure >>= fun _ => .ok (ofPart p)

/-- How the record of the entries ends, before they are read. -/
def recordEntries (es : List (Value × Value)) : Run Unit := do
  if !Value.entriesBelow textBound es then Run.fail .integerTextTooLong
  Run.debug ("Loaded settings: " ++ (Value.mapping es).literal)

/-- Reading the entries of all layers, which sets the level of the logger. -/
def settle (es : List (Value × Value)) : Run Settings := do
  recordEntries es
  match readValue .lenient .settings (.mapping es) with
  | .error e =>
    match e.kind with
    | .mismatch => throw ((Reason.settingsInvalid e.message).failure.causedBy e.failure)
    | _ => Run.fail e
  | .ok part =>
    let s := ofPart part
    match s.logLevel with
    | .text level =>
      if level != "" then
        let _ ← Log.getLogger (.text libraryName) (.text (Text.upper level)) .null
      return s
    | _ => return s

section Settling

variable {es : List (Value × Value)} {w w' : World}

theorem recordEntries_cases (h : Value.entriesBelow textBound es = true) (w : World) :
    recordEntries es w = (.ok (), w) ∨
      ∃ f, recordEntries es w = (.error f, w) ∧ IsConsoleFault w f := by
  unfold recordEntries
  rw [if_neg (by simp [h])]
  exact Run.debug_cases _ w

theorem recordEntries_of_long (h : Value.entriesBelow textBound es = false) (w : World) :
    recordEntries es w = (.error Reason.integerTextTooLong.failure, w) := by
  unfold recordEntries
  rw [if_pos (by simp [h])]
  rfl

theorem recordEntries_still (es : List (Value × Value)) (w : World) :
    ∃ r, recordEntries es w = (r, w) := by
  rcases hlong : Value.entriesBelow textBound es with _ | _
  · exact ⟨_, recordEntries_of_long hlong w⟩
  · rcases recordEntries_cases hlong w with h | ⟨f, h, -⟩
    · exact ⟨_, h⟩
    · exact ⟨_, h⟩

/-- Entries that can be recorded somewhere can be recorded wherever the console is not at fault. -/
theorem recordEntries_elsewhere (h : recordEntries es w = (.ok (), w)) (u : World) :
    recordEntries es u = (.ok (), u) ∨ ∃ f, recordEntries es u = (.error f, u) ∧
      IsConsoleFault u f := by
  rcases hlong : Value.entriesBelow textBound es with _ | _
  · cases (recordEntries_of_long hlong w).symm.trans h
  · exact recordEntries_cases hlong u

/-- Entries that were recorded are settings or not, whatever the world is, and change the loggers at
most. -/
theorem settle_of_recorded (h : recordEntries es w = (.ok (), w)) :
    ∃ ls, settle es w = (ofEntries es, w.withLoggers ls) := by
  unfold settle ofEntries
  rw [Run.bind_of_ok h]
  rcases readValue .lenient .settings (.mapping es) with e | p
  · refine ⟨w.loggers, ?_⟩
    unfold refusal
    dsimp only
    cases e.kind <;> rfl
  have hkeep : ∀ (s : Settings), checkLevel s = .ok () → ∃ ls, ((pure s : Run Settings) w) =
      ((checkLevel s).mapError Reason.failure >>= fun _ => .ok s, w.withLoggers ls) := by
    intro s hs
    rw [hs]
    exact ⟨w.loggers, rfl⟩
  dsimp only
  rcases hlevel : (ofPart p).logLevel with _ | _ | _ | _ | level | _ | _ | _ | _ | _ | _ | _ | _ | _
  case text =>
    dsimp only
    by_cases hempty : level = ""
    · subst hempty
      exact hkeep _ (by rw [checkLevel, hlevel]; rfl)
    · have hset : (level != "") = true := bne_iff_ne.mpr hempty
      obtain ⟨ls, hls⟩ := getLogger_level (upper_ne_empty hempty) w
      refine ⟨ls, ?_⟩
      have hcheck : checkLevel (ofPart p) =
          (Log.levelOf (.text (Text.upper level)) >>= fun _ => .ok ()) := by
        rw [checkLevel, hlevel]
        exact if_pos hset
      rw [if_pos hset, hcheck]
      rcases hl : Log.levelOf (.text (Text.upper level)) with r | n <;> rw [hl] at hls
      · exact Run.bind_of_error hls
      · exact Run.bind_of_ok hls
  all_goals exact hkeep _ (by rw [checkLevel, hlevel]; rfl)

theorem log_congr (h : w'.loggers = w.loggers) (level : Int) (m : String) :
    (Run.log level m w').1 = (Run.log level m w).1 := by
  unfold Run.log
  rw [Run.get_bind, Run.get_bind]
  change ((if w'.shows level = true then _ else _ : Run Unit) w').1 =
    ((if w.shows level = true then _ else _ : Run Unit) w).1
  rw [World.shows_congr h]
  split
  · rcases Log.renderMarkup ("[bold]" ++ libraryName ++ "[/] - " ++ m) with r | cs <;> rfl
  · rfl

/-- A record of entries ends alike where the loggers are the same. -/
theorem recordEntries_congr (h : w'.loggers = w.loggers) :
    (recordEntries es w').1 = (recordEntries es w).1 := by
  unfold recordEntries
  split
  · rfl
  · exact log_congr h _ _

/-- So does reading them. -/
theorem settle_congr (h : w'.loggers = w.loggers) : (settle es w').1 = (settle es w).1 := by
  have hsame : (recordEntries es w').1 = (recordEntries es w).1 := recordEntries_congr h
  obtain ⟨r, hr⟩ := recordEntries_still es w
  obtain ⟨r', hr'⟩ := recordEntries_still es w'
  rw [hr, hr'] at hsame
  dsimp only at hsame
  subst hsame
  cases r' with
  | error f =>
    have hw : settle es w = (.error f, w) := Run.bind_of_error hr
    have hw' : settle es w' = (.error f, w') := Run.bind_of_error hr'
    rw [hw, hw']
  | ok =>
    obtain ⟨ls, hw⟩ := settle_of_recorded hr
    obtain ⟨ls', hw'⟩ := settle_of_recorded hr'
    rw [hw, hw']

/-- Settling once more, with the loggers as they are then, ends in the same way unless a record
fails. -/
theorem settle_again {r : Except Failure Settings} (h : settle es w = (r, w')) :
    w' = w.withLoggers w'.loggers ∧ ∀ u : World, u.loggers = w'.loggers →
      (settle es u).1 = r ∨ ∃ f, (settle es u).1 = .error f ∧ IsConsoleFault u f := by
  obtain ⟨r₁, hr⟩ := recordEntries_still es w
  cases r₁ with
  | error f =>
    have hw : settle es w = (.error f, w) := Run.bind_of_error hr
    obtain ⟨rfl, rfl⟩ := Prod.mk.inj (hw.symm.trans h)
    refine ⟨rfl, fun u hu => Or.inl ?_⟩
    rw [settle_congr hu, hw]
  | ok =>
    obtain ⟨ls, hw⟩ := settle_of_recorded hr
    obtain ⟨rfl, rfl⟩ := Prod.mk.inj (hw.symm.trans h)
    refine ⟨rfl, fun u hu => ?_⟩
    rcases recordEntries_elsewhere hr u with hu | ⟨f, hu, hf⟩
    · obtain ⟨ls', hsettle⟩ := settle_of_recorded hu
      exact Or.inl (congrArg Prod.fst hsettle)
    · have hsettle : settle es u = (.error f, u) := Run.bind_of_error hu
      exact Or.inr ⟨f, congrArg Prod.fst hsettle, hf⟩

end Settling

/-- Where settings come from: a file with some entries, and two variable files. -/
structure ComesFrom (path : Value) (entries : List (Value × Value))
    (first second : List (String × Option String)) (w : World) : Prop where
  file : ∃ p, filePath path = .ok p ∧ readFile p w = (.ok entries, w)
  added : HasVariables w first second

section Loading

variable {path : Value} {given : List (String × Value)} {entries : List (Value × Value)}
  {first second : List (String × Option String)} {w w' : World}

/-- What is made of a settings file that was read or not. -/
def fileEntries (path : String) (read : Except Reason (List UInt8 × Stamp)) :
    Run (List (Value × Value)) :=
  match read with
  | .error (.notFound _) => do
    Run.debug ("No settings file at " ++ path)
    return []
  | .error r => Run.fail r
  | .ok (bs, _) =>
    match Yaml.content bs with
    | .error .malformedDocument =>
      throw ((Reason.settingsUnreadable path Reason.malformedDocument.message).failure.causedBy
        Reason.malformedDocument.failure)
    | .error r => Run.fail r
    | .ok v =>
      if !v.isSet then return []
      else match v with
        | .mapping entries => return entries
        | _ => Run.fail (.settingsNotMapping path)

theorem readFile_eq (p : String) (w : World) : readFile p w = fileEntries p (w.files.read p) w :=
  rfl

/-- Either a record tells that there is no file, or what the file gives is the same in every
world. -/
theorem fileEntries_cases (p : String) (x : Except Reason (List UInt8 × Stamp)) :
    (fileEntries p x = do
      Run.debug ("No settings file at " ++ p)
      return []) ∨
    ∃ r, fileEntries p x = Run.ofResult r ∧ ∀ es, r = .ok es → HasDistinctTexts es := by
  unfold fileEntries
  split
  · exact Or.inl rfl
  · exact Or.inr ⟨.error _, rfl, nofun⟩
  · refine Or.inr ?_
    split
    · exact ⟨.error _, rfl, nofun⟩
    · exact ⟨.error _, rfl, nofun⟩
    · rename_i v hcontent
      split
      · exact ⟨.ok [], rfl, fun es h => by cases h; exact .nil⟩
      · split
        · exact ⟨.ok _, rfl, fun es h => by cases h; exact Yaml.content_distinct hcontent⟩
        · exact ⟨.error _, rfl, nofun⟩

theorem readFile_distinct {p : String} (h : readFile p w = (.ok entries, w')) :
    HasDistinctTexts entries := by
  rw [readFile_eq] at h
  rcases fileEntries_cases p (w.files.read p) with heq | ⟨r, heq, hr⟩ <;> rw [heq] at h
  · obtain ⟨_, _, -, h⟩ := Run.of_bind_ok h
    cases h
    exact .nil
  · rw [Run.ofResult_apply] at h
    exact hr _ (Prod.mk.inj h).1

/-- A file that did not change is read in the same way, unless the record that it is missing
fails. With the same loggers it does not fail either. -/
theorem readFile_again {p : String} (hfiles : w'.files = w.files)
    (h : readFile p w = (.ok entries, w)) :
    (readFile p w' = (.ok entries, w') ∨ ∃ f, readFile p w' = (.error f, w') ∧
      IsConsoleFault w' f) ∧
    (w'.loggers = w.loggers → readFile p w' = (.ok entries, w')) := by
  rw [readFile_eq] at h ⊢
  rw [hfiles]
  rcases fileEntries_cases p (w.files.read p) with heq | ⟨r, heq, -⟩ <;> rw [heq] at h ⊢
  · obtain ⟨_, _, hline, h⟩ := Run.of_bind_ok h
    cases h
    constructor
    · rcases Run.debug_cases ("No settings file at " ++ p) w' with hline' | ⟨f, hline', hf⟩
      · exact Or.inl (Run.bind_of_ok hline')
      · exact Or.inr ⟨f, Run.bind_of_error hline', hf⟩
    · intro hloggers
      have hsame := log_congr hloggers debugLevel ("No settings file at " ++ p)
      rcases Run.debug_cases ("No settings file at " ++ p) w' with hline' | ⟨f, hline', -⟩
      · exact Run.bind_of_ok hline'
      · have hfault : (Run.debug ("No settings file at " ++ p) w').1 =
            (Run.debug ("No settings file at " ++ p) w).1 := hsame
        rw [hline, hline'] at hfault
        cases hfault
  · rw [Run.ofResult_apply] at h ⊢
    obtain ⟨rfl, -⟩ := Prod.mk.inj h
    exact ⟨Or.inl rfl, fun _ => rfl⟩

/-- Loading goes on with the variable files once the settings file was read. -/
theorem load_opened {p : String}
    (hnames : (given.any fun g => g.1 == "path" || g.1 == "cls") = false)
    (hpath : filePath path = .ok p) (hfile : readFile p w = (.ok entries, w)) :
    load path given w = (loadVariables >>= fun _ => ofEnvironment >>= fun es =>
      settle (Value.update (Value.update entries es)
        (rawEntries (fun v => v) (given.filter fun g => !g.2.isNull)))) w := by
  unfold load
  rw [hnames, hpath, if_neg Bool.false_ne_true]
  refine (Run.bind_of_ok hfile).trans ?_
  refine congrFun (congrArg (loadVariables >>= ·) (funext fun _ =>
    congrArg (ofEnvironment >>= ·) (funext fun es => ?_))) w
  unfold settle recordEntries rawEntries
  dsimp only
  split <;> rfl

/-- Loading reads the entries of all layers in the environment that the variable files extend. -/
theorem load_eq {p : String} (hnames : (given.any fun g => g.1 == "path" || g.1 == "cls") = false)
    (hpath : filePath path = .ok p) (hfile : readFile p w = (.ok entries, w))
    (hadded : HasVariables w first second) :
    load path given w =
      match (additions w.environment (VariableFile.joined first second)).find? (!isSettable ·) with
      | none => settle
          (merged given (withVariables w (VariableFile.joined first second)).environment entries)
          (withVariables w (VariableFile.joined first second))
      | some v =>
        (.error (variableFault v).failure, withVariables w (VariableFile.joined first second)) := by
  have hvariables := hadded.loadVariables_eq
  rw [load_opened hnames hpath hfile]
  rcases hfault : (additions w.environment (VariableFile.joined first second)).find?
      (!isSettable ·) with _ | v <;> rw [hfault] at hvariables
  · rw [Run.bind_of_ok hvariables, Run.bind_of_ok (ofEnvironment_eq _)]
    rfl
  · rw [Run.bind_of_error hvariables]

/-- How loading ends once the variables are set: with settings that follow what is said about the
fields and whose level a logger can have, or with something that is wrong. -/
inductive Outcome (given : List (String × Value)) (environment : List (String × String))
    (entries : List (Value × Value)) (w : World) : Except Failure Settings → Prop
  | loaded {s} (hs : s.Follows (layered given environment entries))
      (hlevel : checkLevel s = .ok ()) :
    Outcome given environment entries w (.ok s)
  | level {s e} (hs : s.Follows (layered given environment entries))
      (hlevel : checkLevel s = .error e) : Outcome given environment entries w (.error e.failure)
  | unfit {f v e} (hf : f ∈ Model.settings.fields)
    (hsaid : layered given environment entries f.name = some v)
    (hread : Message.read .lenient [.field f.wire] f.shape (documentOf v) = .error e) :
    Outcome given environment entries w (.error (refusal e))
  | key {e} (he : e ∈ entries) (hkey : ∀ s, e.1 ≠ .text s) :
    Outcome given environment entries w (.error (refusal (.mismatch ⟨.keyKind, ⟨[], true⟩⟩)))
  | number (hlong : Value.entriesBelow textBound (merged given environment entries) = false) :
    Outcome given environment entries w (.error Reason.integerTextTooLong.failure)
  | console {f} (hf : IsConsoleFault w f) : Outcome given environment entries w (.error f)

section Ends

variable {environment : List (String × String)} {r : Except Failure Settings}

theorem outcome_ofEntries (hdistinct : (given.map Prod.fst).Nodup)
    (hfile : HasDistinctTexts entries) :
    Outcome given environment entries w (ofEntries (merged given environment entries)) := by
  have hsaid : ∀ name ∈ names, Value.lookup? (merged given environment entries) (.text name) =
      layered given environment entries name := fun _ => lookup?_merged hdistinct
  unfold ofEntries
  rcases hread : readValue .lenient .settings (.mapping (merged given environment entries))
    with e | p
  · dsimp only
    rcases refused_of_read (merged_distinct hfile) hsaid hread with ⟨x, hx, hkey, rfl⟩ |
      ⟨f, hf, v, hv, hread⟩
    · exact .key (mem_of_mem_merged hx hkey) hkey
    · exact .unfit hf hv hread
  · have hfollows := follows_of_read (merged_distinct hfile) hsaid hread
    dsimp only
    rcases hlevel : checkLevel (ofPart p) with e | _
    · exact .level hfollows hlevel
    · exact .loaded hfollows hlevel

theorem outcome_settle {u : World} (hdistinct : (given.map Prod.fst).Nodup)
    (hfile : HasDistinctTexts entries) (hloggers : w.loggers = u.loggers)
    (h : settle (merged given environment entries) w = (r, w')) :
    Outcome given environment entries u r := by
  rcases hlong : Value.entriesBelow textBound (merged given environment entries) with _ | _
  · have hsettle : settle (merged given environment entries) w =
      (.error Reason.integerTextTooLong.failure, w) :=
        Run.bind_of_error (recordEntries_of_long hlong w)
    rw [hsettle] at h
    cases h
    exact .number hlong
  · rcases recordEntries_cases hlong w with hline | ⟨f, hline, hf⟩
    · obtain ⟨ls, hsettle⟩ := settle_of_recorded hline
      rw [hsettle] at h
      obtain ⟨rfl, -⟩ := Prod.mk.inj h
      exact outcome_ofEntries hdistinct hfile
    · have hsettle : settle (merged given environment entries) w = (.error f, w) :=
        Run.bind_of_error hline
      rw [hsettle] at h
      cases h
      have htalks := World.isLogged_congr hloggers libraryName infoLevel
      exact .console ⟨hf.1, hf.2.1, htalks.symm.trans hf.2.2⟩

end Ends

section Twice

open VariableFile

variable {r : Except Failure Settings}

/-- Loading that stopped at a variable stops there again. -/
theorem load_again_of_fault {v : String × String} (hfrom : ComesFrom path entries first second w)
    (hnames : (given.any fun g => g.1 == "path" || g.1 == "cls") = false)
    (hv : (additions w.environment (joined first second)).find? (!isSettable ·) = some v)
    (hadded : HasVariables (withVariables w (joined first second)) first second) :
    (load path given (withVariables w (joined first second))).1 =
      .error (variableFault v).failure := by
  obtain ⟨p, hpath, hfile⟩ := hfrom.file
  have hfiles : (withVariables w (joined first second)).files = w.files := rfl
  have hfile' : readFile p (withVariables w (joined first second)) =
      (.ok entries, withVariables w (joined first second)) := (readFile_again hfiles hfile).2 rfl
  have hsplit := List.takeWhile_append_dropWhile
    (p := isSettable) (l := additions w.environment (joined first second))
  have hrest : additions (withVariables w (joined first second)).environment (joined first second) =
      (additions w.environment (joined first second)).dropWhile isSettable :=
    additions_rest hfrom.added.nodup hsplit.symm
  have hfound : ((additions w.environment (joined first second)).dropWhile isSettable).find?
      (!isSettable ·) = some v := by
    have hnone : ((additions w.environment (joined first second)).takeWhile isSettable).find?
        (!isSettable ·) = none := List.find?_eq_none.mpr fun x hx => by
      simp [List.mem_takeWhile_imp hx]
    rw [← hsplit, List.find?_append, hnone, Option.none_or] at hv
    exact hv
  rw [load_eq hnames hpath hfile' hadded, hrest, hfound]

/-- Loading once the variables were added, with the same files, only settles what is merged. -/
theorem load_again_of_settable (hfrom : ComesFrom path entries first second w)
    (hnames : (given.any fun g => g.1 == "path" || g.1 == "cls") = false)
    (hsettable : ∀ v ∈ additions w.environment (joined first second), isSettable v = true)
    (hfiles : w'.files = w.files)
    (he : w'.environment = (withVariables w (joined first second)).environment) :
    load path given w' = settle (merged given w'.environment entries) w' ∨
      ∃ f, load path given w' = (.error f, w') ∧ IsConsoleFault w' f := by
  obtain ⟨p, hpath, hfile⟩ := hfrom.file
  rcases (readFile_again hfiles hfile).1 with hfile' | ⟨f, hfile', hf⟩
  · obtain ⟨first', second', hadded, houtline⟩ := hfrom.added.again hfiles
    obtain ⟨hnone, hkept⟩ := withVariables_again hsettable houtline he
    have hload := load_eq hnames hpath hfile' hadded
    rw [hnone, hkept] at hload
    exact Or.inl hload
  · refine Or.inr ⟨f, ?_, hf⟩
    unfold load
    rw [hnames, hpath, if_neg Bool.false_ne_true]
    exact (Run.bind_of_error hfile').trans rfl

theorem all_settable_of_find? {vs : List (String × String)}
    (h : vs.find? (!isSettable ·) = none) : ∀ v ∈ vs, isSettable v = true := by
  intro v hv
  simpa using List.find?_eq_none.mp h v hv

end Twice

open VariableFile in
/-- Loading adds to the environment the variables of the variable files that have a value and are
new, and ends by what is said about each field: outright, else by the environment as it is then,
else by the file. It ends alike for layers that differ in what is hidden. Loading again ends alike
as well, unless a record fails on the console, which may show more since the level is set. -/
theorem settings_layered {r : Except Failure Settings}
    (hfrom : ComesFrom path entries first second w)
    (hnames : (given.any fun g => g.1 == "path" || g.1 == "cls") = false)
    (hdistinct : (given.map Prod.fst).Nodup) (h : load path given w = (r, w')) :
    w'.environment = w.environment ++
        (additions w.environment (joined first second)).takeWhile isSettable ∧
      (match (additions w.environment (joined first second)).find? (!isSettable ·) with
        | some v => r = .error (variableFault v).failure
        | none => Outcome given w'.environment entries w r) ∧
      (∀ (path' : Value) (entries' : List (Value × Value))
        (first' second' : List (String × Option String)) (u : World),
        ComesFrom path' entries' first' second' u → u.loggers = w.loggers →
        (additions u.environment (joined first' second')).find? (!isSettable ·) =
          (additions w.environment (joined first second)).find? (!isSettable ·) →
        Hides given w'.environment (withVariables u (joined first' second')).environment entries
          entries' → (load path' given u).1 = r) ∧
      ((additions w.environment (joined first second)).find? (!isSettable ·) = none ∨
          HasVariables w' first second →
        (load path given w').1 = r ∨
          ∃ f, (load path given w').1 = .error f ∧ IsConsoleFault w' f) := by
  obtain ⟨p, hpath, hfile⟩ := hfrom.file
  rw [load_eq hnames hpath hfile hfrom.added] at h
  rcases hfault : (additions w.environment (joined first second)).find? (!isSettable ·)
    with _ | v <;>
    rw [hfault] at h
  · -- Every variable was added, so the entries are settled.
    dsimp only at h
    obtain ⟨hw, hagain⟩ := settle_again h
    have he : w'.environment = (withVariables w (joined first second)).environment := by
      rw [hw]
      rfl
    have hfiles : w'.files = w.files := by
      rw [hw]
      rfl
    have hloggers : (withVariables w (joined first second)).loggers = w.loggers := rfl
    refine ⟨he, ?_, ?_, fun _ => ?_⟩
    · rw [he]
      exact outcome_settle hdistinct (readFile_distinct hfile) hloggers h
    · intro path' entries' first' second' u hfrom' hsameLoggers hsame hhides
      obtain ⟨p', hpath', hfile'⟩ := hfrom'.file
      rw [load_eq hnames hpath' hfile' hfrom'.added, hsame]
      rw [he] at hhides
      dsimp only
      rw [← hhides.merged_eq]
      have hsettle := @settle_congr
          (merged given (withVariables w (joined first second)).environment
        entries) (withVariables w (joined first second)) (withVariables u (joined first' second'))
        (hsameLoggers.trans hloggers.symm)
      rw [hsettle, h]
    · rcases load_again_of_settable hfrom hnames (all_settable_of_find? hfault) hfiles he with
        hload | ⟨f, hload, hf⟩
      · rw [hload, he]
        exact hagain w' rfl
      · exact Or.inr ⟨f, congrArg Prod.fst hload, hf⟩
  · -- A variable cannot be set, which is how loading ends wherever it is the first one.
    obtain ⟨rfl, rfl⟩ := Prod.mk.inj h
    refine ⟨rfl, rfl, ?_, ?_⟩
    · intro path' entries' first' second' u hfrom' _ hsame _
      obtain ⟨p', hpath', hfile'⟩ := hfrom'.file
      rw [load_eq hnames hpath' hfile' hfrom'.added, hsame]
    · rintro (hnone | hadded)
      · cases hnone
      · exact Or.inl (load_again_of_fault hfrom hnames hfault hadded)

theorem readVariables_eq {p text : String} {stamp : Stamp}
    (h : w.files.read p = .ok (Text.utf8 text, stamp)) :
    readVariables p w = (.ok (VariableFile.read w.environment text), w) := by
  unfold readVariables
  rw [Run.get_bind, h]
  dsimp only
  rw [Text.ofUtf8?_utf8]
  rfl

theorem readFile_of_content {p : String} {bs : List UInt8} {stamp : Stamp}
    (h : w.files.read p = .ok (bs, stamp)) (hcontent : Yaml.content bs = .ok (.mapping entries)) :
    readFile p w = (.ok entries, w) := by
  rw [readFile_eq, h]
  unfold fileEntries
  dsimp only
  rw [hcontent]
  cases entries <;> rfl

end Loading

def sampleVariables : String := "RESUBMIT_USER=ann\nRESUBMIT_AUTH=simple\n"

/-- A world with a settings file and a variable file, in which one of the variables is set. -/
def sampleWorld : World where
  environment := [("RESUBMIT_AUTH", "KERBEROS")]
  files := { nodes := [([".env"], .file (Text.utf8 sampleVariables) (.change 0)),
    ([".resubmit"], .directory),
    ([".resubmit", "submit.yaml"], .file (Text.utf8 "user: bob\nrenewer: cy\n") (.change 1))] }

def sampleEntries : List (Value × Value) :=
  [(.text "user", .text "bob"), (.text "renewer", .text "cy")]

theorem comesFrom_sample : ComesFrom .null sampleEntries []
    [("RESUBMIT_USER", some "ann"), ("RESUBMIT_AUTH", some "simple")] sampleWorld where
  file := by
    have hcontent : Yaml.content (Text.utf8 "user: bob\nrenewer: cy\n") =
        .ok (.mapping sampleEntries) :=
      @Yaml.content_texts "user: bob\nrenewer: cy\n" _ _ [("user", "bob"), ("renewer", "cy")] rfl
        (by decide) (by decide +kernel) (by decide) (by decide +kernel)
    exact ⟨defaultFile, rfl, readFile_of_content rfl hcontent⟩
  added := by
    have hread : VariableFile.read sampleWorld.environment sampleVariables =
        [("RESUBMIT_USER", some "ann"), ("RESUBMIT_AUTH", some "simple")] := by decide +kernel
    have hfile : sampleWorld.files.read ".env" = .ok (Text.utf8 sampleVariables, .change 0) := rfl
    refine ⟨rfl, ?_⟩
    rw [readVariables_eq hfile, hread]

/-- The user of the variable file counts, who is new, but not the authentication. -/
theorem settings_layered_sample :
    (load .null [("timeout", .int 5)] sampleWorld).2.environment =
        [("RESUBMIT_AUTH", "KERBEROS"), ("RESUBMIT_USER", "ann")] ∧
      Outcome [("timeout", .int 5)] [("RESUBMIT_AUTH", "KERBEROS"), ("RESUBMIT_USER", "ann")]
        sampleEntries sampleWorld (load .null [("timeout", .int 5)] sampleWorld).1 := by
  have hload : load .null [("timeout", .int 5)] sampleWorld =
    ((load .null [("timeout", .int 5)] sampleWorld).1,
      (load .null [("timeout", .int 5)] sampleWorld).2) := rfl
  obtain ⟨he, hends, -⟩ := settings_layered comesFrom_sample (by decide) (by decide) hload
  have hadded : sampleWorld.environment ++ (additions sampleWorld.environment
      (VariableFile.joined [] [("RESUBMIT_USER", some "ann"),
        ("RESUBMIT_AUTH", some "simple")])).takeWhile
        isSettable = [("RESUBMIT_AUTH", "KERBEROS"), ("RESUBMIT_USER", "ann")] := by decide +kernel
  have hsettable : (additions sampleWorld.environment (VariableFile.joined []
      [("RESUBMIT_USER", some "ann"), ("RESUBMIT_AUTH", some "simple")])).find? (!isSettable ·) =
        none := by decide +kernel
  rw [hadded] at he
  rw [hsettable, he] at hends
  exact ⟨he, hends⟩

def closingUser : List (String × Value) := [("log_level", .text "DEBUG"), ("user", .text "[/x]")]

/-- The first loading shows more records, so the second one fails in the record of the entries. -/
theorem second_load_fails : ∃ s w' f, load .null closingUser {} = (.ok s, w') ∧
    (load .null closingUser w').1 = .error f ∧ f.kind = .markup := by
  have hok : (load .null closingUser {}).1.isOk = true := by decide +kernel
  obtain ⟨f, hf, hkind⟩ : ∃ f, (load .null closingUser (load .null closingUser {}).2).1 = .error f ∧
      (f.kind == .markup) = true := exists_of_failsWith (by decide +kernel)
  rcases hfirst : load .null closingUser {} with ⟨_ | s, w'⟩
  · rw [hfirst] at hok
    cases hok
  · rw [hfirst] at hf
    exact ⟨s, w', f, rfl, hf, eq_of_beq hkind⟩

end ClusterSubmission.Settings
