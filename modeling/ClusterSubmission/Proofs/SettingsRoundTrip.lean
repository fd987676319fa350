import ClusterSubmission.Proofs.SettingsLoading
import ClusterSubmission.Proofs.StoredFiles

/-!
# Settings that are written and loaded back

What is written of settings leaves out the fields at their default. Once the document comes back as
the entries that were written, loading gives the same settings: a value of the type of its field is
read as it is, whatever its text looks like, and a field that was left out has its default.
-/
namespace ClusterSubmission

namespace Message

section Typed

variable {mode : Strictness} {way : List PlaceStep} {shape : Shape} {v : Value}

/-- The values of the type that a shape stands for, text maps included. -/
def Shape.Takes (shape : Shape) (v : Value) : Prop :=
  shape.Admits v ∨ ∃ es : List (String × String), shape = .textMap ∧ (es.map Prod.fst).Nodup ∧
    v = .mapping (rawEntries .text es)

theorem readTextEntries_eq (es done : List (String × String))
    (h : ((done ++ es).map Prod.fst).Nodup) :
    readTextEntries mode way (entryDocuments (rawEntries .text es)) (rawEntries .text done) =
      .ok (rawEntries .text (done ++ es)) := by
  induction es generalizing done with
  | nil =>
    rw [List.append_nil]
    rfl
  | cons e es ih =>
    have hfresh : e.1 ∉ done.map Prod.fst := by
      rw [List.map_append, List.nodup_append] at h
      exact fun he => h.2.2 e.1 he e.1 (List.mem_cons_self ..) rfl
    have hstep : readTextEntries mode way (entryDocuments (rawEntries .text (e :: es)))
        (rawEntries .text done) = readTextEntries mode way (entryDocuments (rawEntries .text es))
          (Value.insert (rawEntries .text done) (.text e.1) (.text e.2)) := by
      have hread : read mode (way ++ [.anyValue]) (.text .any) (documentOf (.text e.2)) =
        .ok (.leaf (.text e.2)) := rfl
      rw [rawEntries, List.map_cons, entryDocuments, readTextEntries, hread]
      rfl
    rw [hstep, insert_rawEntries, putEntry, if_neg hfresh, ih _ (by rwa [List.append_assoc]),
      List.append_assoc]
    rfl

/-- A value of the right type is read as it is, also by a lenient reader. -/
theorem Shape.Takes.read_eq (h : shape.Takes v) :
    read mode way shape (documentOf v) = .ok (.leaf v) := by
  rcases h with h | ⟨es, rfl, hnodup, rfl⟩
  · exact h.read_eq
  · have hentries := @readTextEntries_eq mode way es [] hnodup
    rw [documentOf, read]
    change (readTextEntries mode way (entryDocuments (rawEntries .text es)) (rawEntries .text []) >>=
      _) = _
    rw [hentries]
    rfl

theorem Shape.Takes.plainValue_eq (h : shape.Takes v) : plainValue v = .ok v := by
  rcases h with h | ⟨es, -, -, rfl⟩
  · exact h.plainValue_eq
  · have hentries : plainEntries (rawEntries .text es) = .ok (rawEntries .text es) := by
      induction es with
      | nil => rfl
      | cons e es ih =>
        have hstep : plainEntries (rawEntries .text (e :: es)) =
          (plainEntries (rawEntries .text es) >>= fun rest =>
            .ok ((.text e.1, .text e.2) :: rest)) := rfl
        rw [hstep, ih]
        rfl
    rw [plainValue, hentries]
    rfl

/-- A value that is left out is the default of its field. -/
theorem Shape.Takes.eq_default {d : Default} (h : shape.Takes v)
    (hdefault : (Part.leaf v).isDefault d = true) : d.part.value = v := by
  unfold Part.isDefault at hdefault
  split at hdefault
  · rename_i heq
    cases heq
    exact (eq_of_isDefaultValue hdefault).symm
  · rename_i heq
    cases heq
    rcases h with h | ⟨es, -, -, hes⟩
    · cases h
    · cases hes
  · rename_i heq
    cases heq
  · rename_i heq
    cases heq
    rfl
  · cases hdefault

end Typed
end Message

namespace Yaml

theorem scalarText?_int {isKey : Bool} {n : Int} {x : Option (Style × String)}
    (h : scalarText? isKey (.int n) = .ok x) : n.natAbs < textBound := by
  unfold scalarText? at h
  -- The bound has thousands of digits, so it must not be computed.
  generalize textBound = bound at h ⊢
  dsimp only at h
  split at h
  · cases h
  · rename_i hshort
    exact Nat.lt_of_not_le hshort

theorem writeNode_int {bound : Nat} (hbound : textBound ≤ bound) {outer : Option Nat}
    {inMapping isKey : Bool} {n : Int} {s s' : Sheet}
    (h : writeNode outer inMapping isKey s (.int n) = .ok s') :
    (Value.int n).isBelow bound = true := by
  obtain ⟨x, hx, -⟩ := bind_eq_ok h
  rw [Value.isBelow]
  exact decide_eq_true (Nat.lt_of_lt_of_le (scalarText?_int hx) hbound)

-- The bound is a variable here so that it stays as it is in the cases of the values.
mutual
/-- Nothing is written of integers that have no text. -/
theorem writeNode_below {bound : Nat} (hbound : textBound ≤ bound) : ∀ (v : Value)
    {outer : Option Nat} {inMapping isKey : Bool} {s s' : Sheet},
    writeNode outer inMapping isKey s v = .ok s' → v.isBelow bound = true
  | .int n => writeNode_int hbound
  | .list [] | .mapping [] => fun _ => rfl
  | .list (v :: vs) => by
    intro h
    unfold writeNode at h
    exact writeItems_below hbound (v :: vs) h
  | .mapping (e :: es) => by
    intro h
    unfold writeNode at h
    exact writeEntries_below hbound (e :: es) h
  | .tuple _ | .version _ | .handle _ | .resource .. => by
    intro h
    obtain ⟨x, hx, h⟩ := bind_eq_ok h
    cases hx
    cases h
  | .null | .bool _ | .float _ | .text _ | .bytes _ | .path _ | .moment .. => fun _ => rfl

theorem writeItems_below {bound : Nat} (hbound : textBound ≤ bound) : ∀ (vs : List Value)
    {column : Nat} {s s' : Sheet}, writeItems column s vs = .ok s' →
    Value.areBelow bound vs = true
  | [], _, _, _, _ => rfl
  | v :: vs, column, s, s', h => by
    rw [writeItems] at h
    obtain ⟨next, hv, h⟩ := bind_eq_ok h
    exact Bool.and_eq_true_iff.mpr ⟨writeNode_below hbound v hv, writeItems_below hbound vs h⟩

theorem writeEntries_below {bound : Nat} (hbound : textBound ≤ bound) :
    ∀ (es : List (Value × Value)) {column : Nat} {s s' : Sheet},
    writeEntries column s es = .ok s' → Value.entriesBelow bound es = true
  | [], _, _, _, _ => rfl
  | (k, v) :: es, column, s, s', h => by
    rw [writeEntries] at h
    obtain ⟨hkey, next, h⟩ : k.isBelow bound = true ∧ ∃ next,
        (writeNode (some column) true false next v >>= fun s => writeEntries column s es) =
          .ok s' := by
      split at h
      · obtain ⟨x, hk, h⟩ := bind_eq_ok h
        exact ⟨writeNode_below hbound k hk, _, h⟩
      · obtain ⟨x, hk, h⟩ := bind_eq_ok h
        exact ⟨writeNode_below hbound k hk, _, h⟩
    obtain ⟨last, hv, h⟩ := bind_eq_ok h
    exact Bool.and_eq_true_iff.mpr ⟨Bool.and_eq_true_iff.mpr ⟨hkey, writeNode_below hbound v hv⟩,
      writeEntries_below hbound es h⟩
end

theorem entriesBelow_of_write {es : List (Value × Value)} {text : String}
    (h : write (.mapping es) = .ok text) : Value.entriesBelow textBound es = true := by
  obtain ⟨s, hs, -⟩ := bind_eq_ok h
  have hbelow := writeNode_below (Nat.le_refl textBound) _ hs
  rw [Value.isBelow] at hbelow
  exact hbelow

end Yaml

namespace Settings

open Message

/-- What is written of the setting for a field: its value if it was given and is not left out as the
default. -/
def writtenValue? (given : List (String × Value)) (f : Field) : Option Value :=
  (given.find? (·.1 == f.name)).bind fun g =>
    if (Part.leaf g.2).isDefault f.default then none else some g.2

/-- The entries that are written of given settings. -/
def written (given : List (String × Value)) : List (Value × Value) :=
  rawEntries (fun v => v) (keyed Field.wire (writtenValue? given) Model.settings.fields)

/-- The value that settings have for a field by what was given. -/
def valueOf (given : List (String × Value)) (f : Field) : Value :=
  fieldOr given f.name f.default.part.value

/-- Settings in which each field has a value of its type, and the level is empty or a known name in
any case. -/
structure IsTyped (s : Settings) : Prop where
  takes : ∀ e ∈ Model.settings.fields.zip s.values, e.1.shape.Takes e.2
  level : ∀ level, s.logLevel = .text level →
    level = "" ∨ Text.upper level ∈ Log.levelNames.map Prod.fst

section Writing

variable {given : List (String × Value)} {fs : List Field} {f : Field} {s : Settings}

theorem eq_ofLookup (h : ofNamed given = .ok s) : s = ofLookup (fieldOr given) := by
  obtain ⟨_, -, h⟩ := bind_eq_ok h
  cases h
  rfl

theorem values_ofLookup : (ofLookup (fieldOr given)).values =
    Model.settings.fields.map (valueOf given) := rfl

theorem IsTyped.takes_valueOf (h : s.IsTyped) (hgiven : ofNamed given = .ok s)
    (hf : f ∈ Model.settings.fields) : f.shape.Takes (valueOf given f) := by
  obtain ⟨i, hi⟩ := List.getElem?_of_mem hf
  have hv : s.values[i]? = some (valueOf given f) := by
    rw [eq_ofLookup hgiven, values_ofLookup, List.getElem?_map, hi]
    rfl
  exact h.takes (f, valueOf given f)
    (List.mem_of_getElem? (i := i) (List.getElem?_zip_eq_some.mpr ⟨hi, hv⟩))

/-- A value is left out only if it is the default. -/
theorem writtenValue?_cases (htakes : f.shape.Takes (valueOf given f)) :
    writtenValue? given f = some (valueOf given f) ∨
      writtenValue? given f = none ∧ f.default.part.value = valueOf given f := by
  unfold writtenValue? valueOf fieldOr at *
  generalize given.find? (·.1 == f.name) = found at *
  rcases found with _ | ⟨name, v⟩
  · exact Or.inr ⟨rfl, rfl⟩
  · rw [Option.bind_some]
    rcases hdefault : (Part.leaf v).isDefault f.default with _ | _
    · exact Or.inl rfl
    · exact Or.inr ⟨rfl, htakes.eq_default hdefault⟩

theorem slotWireForms_given (h : ∀ f ∈ fs, f.shape.Takes (valueOf given f)) :
    slotWireForms true fs (fs.map fun f => (given.find? (·.1 == f.name)).map fun g => .leaf g.2) =
      .ok (rawEntries (fun v => v) (keyed Field.wire (writtenValue? given) fs)) := by
  induction fs with
  | nil => rfl
  | cons f fs ih =>
    have hrest := ih fun g hg => h g (List.mem_cons_of_mem _ hg)
    have hplain := (h f (List.mem_cons_self ..)).plainValue_eq
    rw [List.map_cons, keyed_cons]
    unfold writtenValue?
    unfold valueOf fieldOr at hplain
    rcases hfound : given.find? (·.1 == f.name) with _ | ⟨name, v⟩
    · rw [hfound, Option.map_none, slotWireForms, hrest]
      rfl
    · have hform : (Part.leaf v).wireForm = .ok v := by
        rw [hfound] at hplain
        exact hplain
      rw [hfound, Option.map_some, slotWireForms, hrest, hform, Option.bind_some]
      rcases (Part.leaf v).isDefault f.default with _ | _ <;> rfl

theorem IsTyped.wireForm_eq (h : s.IsTyped) (hgiven : ofNamed given = .ok s) :
    (toPart given).wireForm = .ok (.mapping (written given)) := by
  have hslots := @slotWireForms_given given Model.settings.fields fun f => h.takes_valueOf hgiven
  change (slotWireForms true Model.settings.fields (Model.settings.fields.map fun f =>
    (given.find? (·.1 == f.name)).map fun g => .leaf g.2) >>= fun es => .ok (Value.mapping es)) = _
  rw [hslots]
  rfl

theorem written_distinct : HasDistinctTexts (written given) :=
  hasDistinctTexts_rawEntries (keyed_sublist.nodup (wires_distinct .settings))

/-- What was written for a field is found under its name. -/
theorem lookup?_written (hf : f ∈ Model.settings.fields) :
    Value.lookup? (written given) (.text f.name) = writtenValue? given f := by
  unfold written
  rw [← wire_eq_name f hf, lookup?_rawEntries]
  exact lookup_keyed (wires_distinct .settings) hf

end Writing

section Reading

variable {given : List (String × Value)} {s : Settings}

theorem ofLookup_congr {value : String → Value}
    (h : ∀ f ∈ Model.settings.fields, value f.name = valueOf given f) :
    ofLookup (fun name _ => value name) = ofLookup (fieldOr given) := by
  have hvalues : Model.settings.fields.map (fun f => value f.name) =
    Model.settings.fields.map (valueOf given) := List.map_congr_left h
  simp only [Model.fields, plainField, List.map_cons, List.map_nil, List.cons.injEq,
    and_true] at hvalues
  obtain ⟨haddress, hauth, huser, htimeout, hverify, hproxies, hrenewer, hunmanaged, hlevel⟩ :=
    hvalues
  unfold ofLookup
  dsimp only
  rw [haddress, hauth, huser, htimeout, hverify, hproxies, hrenewer, hunmanaged, hlevel]
  rfl

theorem IsTyped.checkLevel_eq (h : s.IsTyped) : checkLevel s = .ok () := by
  unfold checkLevel
  split
  · rename_i level hlevel
    split
    · rename_i hset
      rcases h.level level hlevel with rfl | hknown
      · cases hset
      · obtain ⟨n, hn⟩ := levelOf_of_known hknown
        rw [hn]
        rfl
    · rfl
  · rfl

/-- What was written of settings is those settings. -/
theorem IsTyped.ofEntries_written (h : s.IsTyped) (hgiven : ofNamed given = .ok s) :
    ofEntries (written given) = .ok s := by
  have hsaid : ∀ name ∈ names, Value.lookup? (written given) (.text name) =
    Value.lookup? (written given) (.text name) := fun _ _ => rfl
  unfold ofEntries
  rcases hread : readValue .lenient .settings (.mapping (written given)) with e | p
  · exfalso
    rcases refused_of_read written_distinct hsaid hread with ⟨x, hx, hkey, -⟩ |
      ⟨f, hf, v, hv, hrefused⟩
    · obtain ⟨g, -, rfl⟩ := List.mem_map.mp hx
      exact hkey g.1 rfl
    · have htakes := h.takes_valueOf hgiven hf
      rw [lookup?_written hf] at hv
      rcases writtenValue?_cases htakes with hw | ⟨hw, -⟩ <;> rw [hw] at hv
      · obtain rfl := Option.some.inj hv
        rw [htakes.read_eq] at hrefused
        cases hrefused
      · cases hv
  · obtain ⟨value, hp, hvalue⟩ := follows_of_read written_distinct hsaid hread
    have hsame : ∀ f ∈ Model.settings.fields, value f.name = valueOf given f := by
      intro f hf
      have htakes := h.takes_valueOf hgiven hf
      have hsetting : IsSetting f (Value.lookup? (written given) (.text f.name)) (value f.name) :=
        hvalue f hf
      rw [lookup?_written hf] at hsetting
      rcases writtenValue?_cases htakes with hw | ⟨hw, hdefault⟩ <;> rw [hw] at hsetting
      · obtain ⟨q, hq, hv⟩ := hsetting
        rw [htakes.read_eq] at hq
        cases hq
        exact hv
      · exact Eq.trans hsetting hdefault
    have hs : ofPart p = s := by
      rw [hp, eq_ofLookup hgiven]
      exact ofLookup_congr hsame
    dsimp only
    rw [hs, h.checkLevel_eq]
    rfl

end Reading

section Files

variable {path : Value} {p text : String} {placed : FileTree} {w : World} {s : Settings}
  {given : List (String × Value)}

/-- A world in which settings can be written to a file, and nothing else says anything about them:
no variable is set for a field, and there are no variable files beside the file. -/
structure HasRoom (path : Value) (p : String) (placed : FileTree) (w : World) : Prop where
  named : filePath path = .ok p
  holds : w.files.place p [] = .ok placed
  bare : ∀ file ∈ variableFiles, ∃ r, placed.read file = .error r
  unset : ∀ name ∈ names, settingVariable? w.environment name = none

/-- Writing settings changes a file, unless the record about it fails. -/
theorem write_cases {tree : Value}
    (hroom : HasRoom path p placed w) (hform : (toPart given).wireForm = .ok tree)
    (hwrite : Yaml.write tree = .ok text) :
    (∃ files stamp, write given path w = (.ok p, { w with files }) ∧
      files.read p = .ok (Text.utf8 text, stamp) ∧
      ∀ file ∈ variableFiles, ∃ r, files.read file = .error r) ∨
    ∃ f, write given path w = (.error f, w) ∧ IsConsoleFault w f := by
  obtain ⟨t, -, hplaced⟩ := bind_eq_ok hroom.holds
  obtain ⟨files, stamp, hfiles, hread, hkept⟩ := FileTree.write_again hplaced (Text.utf8 text)
  unfold write
  rw [hroom.named, Run.ofExcept_ok_bind]
  rcases Run.debug_cases ("Writing settings to " ++ p) w with hline | ⟨f, hline, hf⟩
  · refine Or.inl ⟨files, stamp, ?_, hread, fun file hfile => ?_⟩
    · rw [Run.bind_of_ok hline, Run.get_bind, hroom.holds, Run.ofExcept_ok_bind, Run.modify_bind]
      have htext : (do Yaml.write (← (toPart given).wireForm)) = .ok text := by
        rw [hform]
        exact hwrite
      rw [htext, Run.ofExcept_ok_bind, Run.get_bind]
      dsimp only
      rw [hfiles]
      rfl
    · obtain ⟨r, hr⟩ := hroom.bare file hfile
      exact hkept file r hr
  · exact Or.inr ⟨f, Run.bind_of_error hline, hf⟩

/-- Nothing but a file that is read says anything about settings. -/
theorem load_bare {entries : List (Value × Value)} (hnormal : Text.normalPath p = p)
    (hfile : readFile p w = (.ok entries, w))
    (hbare : ∀ file ∈ variableFiles, ∃ r, w.files.read file = .error r)
    (hunset : ∀ name ∈ names, settingVariable? w.environment name = none) :
    load (.path p) [] w = settle entries w := by
  have hnone : ∀ file ∈ variableFiles, readVariables file w = (.ok [], w) := by
    intro file hmem
    obtain ⟨r, hr⟩ := hbare file hmem
    unfold readVariables
    rw [Run.get_bind, hr]
    rfl
  have hadded : HasVariables w [] [] :=
    ⟨hnone _ (List.mem_cons_self ..), hnone _ (List.mem_cons_of_mem _ (List.mem_cons_self ..))⟩
  have hpath : filePath (.path p) = .ok p := by
    change Except.ok (Text.normalPath p) = _
    rw [hnormal]
  have hsettings : environmentEntries w.environment = [] := by
    refine List.filterMap_eq_nil_iff.mpr fun name hname => ?_
    unfold environmentSetting?
    rw [hunset name hname]
    split <;> rfl
  have hmerged : merged [] w.environment entries = entries := by
    unfold merged
    rw [hsettings]
    rfl
  refine (load_eq rfl hpath hfile hadded).trans ?_
  change settle (merged [] (withVariables w []).environment entries) (withVariables w []) = _
  rw [withVariables_nil, hmerged]

theorem normalPath_of_filePath (h : filePath path = .ok p) : Text.normalPath p = p := by
  unfold filePath at h
  split at h <;> cases h
  · exact Text.normalPath_normalPath _
  · exact Text.normalPath_normalPath _

/-- Loading what was written settles the entries that were written. -/
theorem write_load_cases (htyped : s.IsTyped) (hgiven : ofNamed given = .ok s)
    (hroom : HasRoom path p placed w) (hwrite : Yaml.write (.mapping (written given)) = .ok text)
    (hread : Yaml.content (Text.utf8 text) = .ok (.mapping (written given))) :
    (∃ files, write given path w = (.ok p, { w with files }) ∧
      load (.path p) [] { w with files } = settle (written given) { w with files }) ∨
    ∃ f, write given path w = (.error f, w) ∧ IsConsoleFault w f := by
  rcases write_cases hroom (htyped.wireForm_eq hgiven) hwrite with
    ⟨files, stamp, hw, hfile, hbare⟩ | hfault
  · have hentries : readFile p { w with files } = (.ok (written given), { w with files }) :=
      readFile_of_content hfile hread
    exact Or.inl ⟨files, hw,
      load_bare (normalPath_of_filePath hroom.named) hentries hbare hroom.unset⟩
  · exact Or.inr hfault

/-- Settings that are written and loaded come back the same if their document does. Only the records
about them can fail, on a console that shows records. -/
theorem settings_round_trip (htyped : s.IsTyped) (hgiven : ofNamed given = .ok s)
    (hroom : HasRoom path p placed w) (hwrite : Yaml.write (.mapping (written given)) = .ok text)
    (hread : Yaml.content (Text.utf8 text) = .ok (.mapping (written given))) :
    (∃ w', write given path w = (.ok p, w') ∧ w'.environment = w.environment ∧
      ((load (.path p) [] w').1 = .ok s ∨
        ∃ f, (load (.path p) [] w').1 = .error f ∧ IsConsoleFault w f)) ∨
    ∃ f, write given path w = (.error f, w) ∧ IsConsoleFault w f := by
  rcases write_load_cases htyped hgiven hroom hwrite hread with ⟨files, hw, hload⟩ | hfault
  · refine Or.inl ⟨{ w with files }, hw, rfl, ?_⟩
    rw [hload]
    rcases recordEntries_cases (Yaml.entriesBelow_of_write hwrite) { w with files } with
      hline | ⟨f, hline, hf⟩
    · obtain ⟨ls, hsettle⟩ := settle_of_recorded hline
      rw [hsettle, htyped.ofEntries_written hgiven]
      exact Or.inl rfl
    · have hsettle : settle (written given) { w with files } = (.error f, { w with files }) :=
        Run.bind_of_error hline
      have htalks : World.isTalkative { w with files } = w.isTalkative :=
        World.isLogged_congr rfl libraryName infoLevel
      rw [hsettle]
      exact Or.inr ⟨f, rfl, hf.1, hf.2.1, htalks.symm.trans hf.2.2⟩
  · exact Or.inr hfault

end Files

/-- What is given for a user and a level. -/
def sampleGiven (user : String) : List (String × Value) :=
  [("user", .text user), ("log_level", .text "Debug")]

/-- Settings with a user and a level. -/
def sampleFor (user : String) : Settings := { user := .text user, logLevel := .text "Debug" }

theorem isTyped_sampleFor (user : String) : (sampleFor user).IsTyped where
  takes := by
    simp only [Model.fields, plainField, sampleFor, values, List.zip_cons_cons, List.zip_nil_right,
      List.forall_mem_cons, List.not_mem_nil, false_implies, implies_true, and_true]
    have hfree (n : Int) : ∀ bound ∈ (none : Option Int), bound ≤ n := by simp
    exact ⟨.inl .noText, .inl (.noChoice _), .inl (.optionalText _), .inl (.integer (hfree _)),
      .inl (.booleanOfText _), .inr ⟨[], rfl, List.nodup_nil, rfl⟩, .inl (.anyText _),
      .inl (.boolean _), .inl (.optionalText _)⟩
  level := by
    intro level hlevel
    cases hlevel
    exact Or.inr (by decide +kernel)

/-- Where a file is put into an empty working directory. -/
def sampleTree : FileTree := { nodes := [(["a.yaml"], .file [] (.change 0))], changes := 1 }

theorem hasRoom_sample (loggers : List (String × Logger)) :
    HasRoom (.text "a.yaml") "a.yaml" sampleTree { loggers } where
  named := rfl
  holds := rfl
  bare := by
    intro file hfile
    rcases List.mem_cons.mp hfile with rfl | hfile
    · exact ⟨_, rfl⟩
    · obtain rfl := List.mem_singleton.mp hfile
      exact ⟨_, rfl⟩
  unset := fun _ _ => rfl

theorem eq_of_isText {x : Except Reason String} {text : String}
    (h : (match x with
      | .ok s => s == text
      | .error _ => false) = true) : x = .ok text := by
  split at h
  · rw [eq_of_beq h]
  · cases h

/-- A user whose name looks like a truth value comes back as a text. -/
theorem settings_round_trip_truth : ∃ w', write (sampleGiven "true") (.text "a.yaml") {} =
    (.ok "a.yaml", w') ∧ (load (.path "a.yaml") [] w').1 = .ok (sampleFor "true") := by
  have hwrite : Yaml.write (.mapping (written (sampleGiven "true"))) =
    .ok "user: 'true'\nlog_level: Debug\n" := eq_of_isText (by decide +kernel)
  have hread : Yaml.content (Text.utf8 "user: 'true'\nlog_level: Debug\n") =
      .ok (.mapping (written (sampleGiven "true"))) :=
    @Yaml.content_texts "user: 'true'\nlog_level: Debug\n" _ _
      [("user", "true"), ("log_level", "Debug")] rfl (by decide) (by decide +kernel) (by decide)
      (by decide +kernel)
  have hquiet : World.isTalkative {} = false := by decide
  rcases settings_round_trip (isTyped_sampleFor "true") rfl (hasRoom_sample _) hwrite hread with
    ⟨w', hw, -, hload | ⟨f, -, hf⟩⟩ | ⟨f, -, hf⟩
  · exact ⟨w', hw, hload⟩
  · exact absurd hf (not_isConsoleFault hquiet f)
  · exact absurd hf (not_isConsoleFault hquiet f)

/-- A logger that shows every record of the library. -/
def shownLoggers : List (String × Logger) := [(libraryName, ⟨debugLevel, false, [.console]⟩)]

/-- Where records are shown, settings that were written are not loaded: the user's name closes a
style in the record of the entries. -/
theorem written_not_loaded : ∃ w' f,
    write (sampleGiven "[/x]") (.text "a.yaml") { loggers := shownLoggers } = (.ok "a.yaml", w') ∧
    (load (.path "a.yaml") [] w').1 = .error f ∧ f.kind = .markup := by
  have hwrite : Yaml.write (.mapping (written (sampleGiven "[/x]"))) =
    .ok "user: '[/x]'\nlog_level: Debug\n" := eq_of_isText (by decide +kernel)
  have hread : Yaml.content (Text.utf8 "user: '[/x]'\nlog_level: Debug\n") =
      .ok (.mapping (written (sampleGiven "[/x]"))) :=
    @Yaml.content_texts "user: '[/x]'\nlog_level: Debug\n" _ _
      [("user", "[/x]"), ("log_level", "Debug")] rfl (by decide) (by decide +kernel) (by decide)
      (by decide +kernel)
  have hwritten : (write (sampleGiven "[/x]") (.text "a.yaml")
    { loggers := shownLoggers }).1.isOk = true := by decide +kernel
  have hfailed : failsWith (·.kind == .markup) (recordEntries (written (sampleGiven "[/x]"))
      { loggers := shownLoggers }).1 = true := by decide +kernel
  rcases write_load_cases (isTyped_sampleFor "[/x]") rfl (hasRoom_sample shownLoggers) hwrite hread
    with ⟨files, hw, hload⟩ | ⟨f, hw, -⟩
  · have hsame : (recordEntries (written (sampleGiven "[/x]"))
        { files, loggers := shownLoggers }).1 = (recordEntries (written (sampleGiven "[/x]"))
          { loggers := shownLoggers }).1 := recordEntries_congr rfl
    rw [← hsame] at hfailed
    obtain ⟨f, hf, hkind⟩ := exists_of_failsWith hfailed
    refine ⟨_, f, hw, ?_, eq_of_beq hkind⟩
    rw [hload]
    exact congrArg Prod.fst (Run.bind_of_error (Prod.ext hf rfl))
  · rw [hw] at hwritten
    cases hwritten

end Settings
end ClusterSubmission
