import ClusterSubmission.Proofs.Entries
import ClusterSubmission.Proofs.MessageRoundTrip
import ClusterSubmission.Proofs.VariableFiles
import Mathlib.Data.List.Forall2

/-!
# The layers of settings

Settings are put together from a file, from the environment and from what is given outright. For
each field the last of these that says something counts, and what the others say is hidden: it
changes neither the settings nor the failure.
-/
namespace ClusterSubmission.Settings

open Message

/-- The setting that is given outright, if it is not null. -/
def givenSetting? (given : List (String × Value)) (name : String) : Option Value :=
  (given.filter fun g => !g.2.isNull).lookup name

/-- The variable for a field. -/
def settingVariable? (environment : List (String × String)) (name : String) : Option String :=
  (environment.find? (·.1 == "RESUBMIT_" ++ Text.upper name)).map (·.2)

/-- The setting that the text of a variable stands for. -/
def variableSetting (name s : String) : Value :=
  if name == "verify" then verifyOf s
  else if name == "auth" then .text (Text.lower s)
  else .text s

/-- The setting that an environment gives. It gives no proxies. -/
def environmentSetting? (environment : List (String × String)) (name : String) : Option Value :=
  if name == "proxies" then none
  else (settingVariable? environment name).map (variableSetting name)

/-- What is said about a field: outright, else by the environment, else by the file. -/
def layered (given : List (String × Value)) (environment : List (String × String))
    (entries : List (Value × Value)) (name : String) : Option Value :=
  (givenSetting? given name).or
    ((environmentSetting? environment name).or (Value.lookup? entries (.text name)))

def environmentEntries (environment : List (String × String)) : List (String × Value) :=
  keyed (fun name => name) (environmentSetting? environment) names

/-- The entries of all layers. -/
def merged (given : List (String × Value)) (environment : List (String × String))
    (entries : List (Value × Value)) : List (Value × Value) :=
  Value.update (Value.update entries (rawEntries (fun v => v) (environmentEntries environment)))
    (rawEntries (fun v => v) (given.filter fun g => !g.2.isNull))

section Merging

variable {given : List (String × Value)} {environment : List (String × String)}
  {entries : List (Value × Value)} {name : String}

theorem names_nodup : names.Nodup := by decide

theorem environmentEntries_nodup : ((environmentEntries environment).map Prod.fst).Nodup :=
  keyed_sublist.nodup (by rw [List.map_id']; exact names_nodup)

/-- In the entries of all layers, each field has what is said about it. -/
theorem lookup?_merged (hdistinct : (given.map Prod.fst).Nodup) (hname : name ∈ names) :
    Value.lookup? (merged given environment entries) (.text name) =
      layered given environment entries name := by
  have hgiven : ((given.filter fun g => !g.2.isNull).map Prod.fst).Nodup :=
    (List.filter_sublist.map Prod.fst).nodup hdistinct
  have henvironment : (environmentEntries environment).lookup name =
      environmentSetting? environment name :=
    @lookup_keyed _ (fun name => name) _ _ name (by rw [List.map_id']; exact names_nodup) hname
  unfold merged layered givenSetting?
  rw [lookup?_update_rawEntries hgiven, lookup?_update_rawEntries environmentEntries_nodup,
    henvironment]

theorem merged_distinct (h : HasDistinctTexts entries) :
    HasDistinctTexts (merged given environment entries) := h.update.update

theorem mem_update_of_stray {es : List (Value × Value)} {e : Value × Value}
    {gs : List (String × Value)} (he : e ∈ Value.update es (rawEntries (fun v => v) gs))
    (hkey : ∀ s, e.1 ≠ .text s) : e ∈ es := by
  induction gs generalizing es with
  | nil => exact he
  | cons g gs ih =>
    have hmem : e ∈ Value.insert es (.text g.1) g.2 := ih he
    unfold Value.insert at hmem
    split at hmem
    · obtain ⟨x, hx, heq⟩ := List.mem_map.mp hmem
      split at heq
      · rename_i htext
        exact absurd (heq ▸ Value.beq_text_iff.mp htext) (hkey g.1)
      · exact heq ▸ hx
    · rcases List.mem_append.mp hmem with hmem | hmem
      · exact hmem
      · exact absurd (congrArg Prod.fst (List.mem_singleton.mp hmem)) (hkey g.1)

/-- Only a file has entries whose key is no text. -/
theorem mem_of_mem_merged {e : Value × Value} (he : e ∈ merged given environment entries)
    (hkey : ∀ s, e.1 ≠ .text s) : e ∈ entries :=
  mem_update_of_stray (mem_update_of_stray he hkey) hkey

/-- Entries with the same keys, whose values differ under some of them at most. -/
def AgreeExcept (hidden : Value → Prop) (es es' : List (Value × Value)) : Prop :=
  List.Forall₂ (fun e e' => e.1 = e'.1 ∧ (e.2 = e'.2 ∨ hidden e.1)) es es'

section Hiding

variable {hidden still : Value → Prop} {es es' : List (Value × Value)} {v v' : Value} {k : String}

theorem AgreeExcept.mono (h : AgreeExcept hidden es es') (hs : ∀ x, hidden x → still x) :
    AgreeExcept still es es' :=
  List.Forall₂.imp (fun _ _ he => ⟨he.1, he.2.imp id (hs _)⟩) h

theorem AgreeExcept.any_eq (h : AgreeExcept hidden es es') :
    es.any (fun e => e.1 == .text k) = es'.any fun e => e.1 == .text k := by
  induction h with
  | nil => rfl
  | cons he _ ih => rw [List.any_cons, List.any_cons, he.1, ih]

/-- Where values are stored that agree, the entries agree under their key. -/
theorem AgreeExcept.insert (h : AgreeExcept hidden es es')
    (hs : ∀ x, hidden x → x ≠ .text k → still x) (hv : v = v' ∨ still (.text k)) :
    AgreeExcept still (Value.insert es (.text k) v) (Value.insert es' (.text k) v') := by
  unfold Value.insert
  rw [h.any_eq]
  split
  · refine List.forall₂_map_left_iff.mpr (List.forall₂_map_right_iff.mpr
      (List.Forall₂.imp (fun e e' he => ?_) h))
    obtain ⟨hkey, hvalue⟩ := he
    rw [← hkey]
    split
    · rename_i hk
      rw [Value.beq_text_iff.mp hk]
      exact ⟨rfl, hv⟩
    · rename_i hk
      exact ⟨hkey, hvalue.imp id fun hx => hs _ hx fun heq => hk (Value.beq_text_iff.mpr heq)⟩
  · rename_i hnone
    have hfresh : ∀ e' ∈ es', e'.1 ≠ .text k := fun e' he' heq =>
      hnone (List.any_eq_true.mpr ⟨e', he', Value.beq_text_iff.mpr heq⟩)
    refine List.rel_append ?_ (List.Forall₂.cons ⟨rfl, hv⟩ .nil)
    clear hnone
    induction h with
    | nil => exact .nil
    | cons he _ ih =>
      refine .cons ⟨he.1, he.2.imp id fun hx => hs _ hx ?_⟩
        (ih fun e' he' => hfresh e' (List.mem_cons_of_mem _ he'))
      rw [he.1]
      exact hfresh _ (List.mem_cons_self ..)

end Hiding

/-- Layers that differ in what is hidden at most: what the environment says about a field that is
given outright, and what the file says about a field that is given or in the environment. -/
structure Hides (given : List (String × Value)) (environment environment' : List (String × String))
    (entries entries' : List (Value × Value)) : Prop where
  outer : ∀ name ∈ names, (environmentSetting? environment name).isSome =
      (environmentSetting? environment' name).isSome ∧
    (environmentSetting? environment name = environmentSetting? environment' name ∨
      (givenSetting? given name).isSome = true)
  inner : AgreeExcept (fun key => ∃ name ∈ names, key = .text name ∧
    ((givenSetting? given name).isSome = true ∨
      (environmentSetting? environment name).isSome = true)) entries entries'

section Hidden

variable {environment' : List (String × String)} {entries' : List (Value × Value)}

theorem mem_given (h : (givenSetting? given name).isSome = true) :
    name ∈ (given.filter fun g => !g.2.isNull).map Prod.fst := by
  unfold givenSetting? at h
  rw [List.lookup_isSome_iff] at h
  obtain ⟨g, hg, hname⟩ := h
  exact List.mem_map.mpr ⟨g, hg, (eq_of_beq hname).symm⟩

/-- What the environment says counts on both sides, unless it is given outright. -/
theorem agree_environment {es es' : List (Value × Value)} : ∀ (ns : List String),
    (∀ name ∈ ns, (environmentSetting? environment name).isSome =
        (environmentSetting? environment' name).isSome ∧
      (environmentSetting? environment name = environmentSetting? environment' name ∨
        (givenSetting? given name).isSome = true)) →
    AgreeExcept (fun key => ∃ name, key = .text name ∧ ((givenSetting? given name).isSome = true ∨
      name ∈ ns ∧ (environmentSetting? environment name).isSome = true)) es es' →
    AgreeExcept (fun key => ∃ name, key = .text name ∧ (givenSetting? given name).isSome = true)
      (Value.update es (rawEntries (fun v => v)
        (keyed (fun name => name) (environmentSetting? environment) ns)))
      (Value.update es' (rawEntries (fun v => v)
        (keyed (fun name => name) (environmentSetting? environment') ns))) := by
  intro ns
  induction ns generalizing es es' with
  | nil =>
    intro _ h
    exact h.mono fun x ⟨name, hx, hn⟩ => ⟨name, hx, hn.resolve_right fun hmem => by simp at hmem⟩
  | cons n ns ih =>
    intro hsame h
    obtain ⟨hsome, hvalue⟩ := hsame n (List.mem_cons_self ..)
    have hsame' := fun name hn => hsame name (List.mem_cons_of_mem _ hn)
    rw [keyed_cons, keyed_cons]
    rcases hv : environmentSetting? environment n with _ | v <;>
      rcases hv' : environmentSetting? environment' n with _ | v' <;>
      rw [hv, hv'] at hsome hvalue
    · refine ih hsame' (h.mono fun x ⟨name, hx, hn⟩ => ⟨name, hx, hn.imp id fun ⟨hmem, hs⟩ => ?_⟩)
      rcases List.mem_cons.mp hmem with rfl | hmem
      · rw [hv] at hs
        cases hs
      · exact ⟨hmem, hs⟩
    · cases hsome
    · cases hsome
    · refine @ih (Value.insert es (.text n) v) (Value.insert es' (.text n) v') hsame' ?_
      refine h.insert (fun x ⟨name, hx, hn⟩ hne => ⟨name, hx, hn.imp id fun ⟨hmem, hs⟩ => ?_⟩) ?_
      · rcases List.mem_cons.mp hmem with rfl | hmem
        · exact absurd hx hne
        · exact ⟨hmem, hs⟩
      · exact hvalue.imp Option.some.inj fun hg => ⟨n, rfl, Or.inl hg⟩

/-- Nothing is hidden any more once what is given outright is stored. -/
theorem update_eq_of_agree {es es' : List (Value × Value)} : ∀ (gs : List (String × Value)),
    AgreeExcept (fun key => ∃ name ∈ gs.map Prod.fst, key = .text name) es es' →
    Value.update es (rawEntries (fun v => v) gs) =
      Value.update es' (rawEntries (fun v => v) gs) := by
  intro gs
  induction gs generalizing es es' with
  | nil =>
    intro h
    have heq : ∀ e e' : Value × Value,
        (e.1 = e'.1 ∧ (e.2 = e'.2 ∨ ∃ name ∈ [], e.1 = .text name)) → e = e' := by
      rintro e e' ⟨hk, hv | ⟨name, hn, -⟩⟩
      · exact Prod.ext hk hv
      · cases hn
    exact List.forall₂_eq_eq_eq ▸ List.Forall₂.imp heq h
  | cons g gs ih =>
    intro h
    refine @ih (Value.insert es (.text g.1) g.2) (Value.insert es' (.text g.1) g.2) ?_
    refine h.insert (fun x ⟨name, hn, hx⟩ hne => ?_) (Or.inl rfl)
    rcases List.mem_cons.mp hn with rfl | hn
    · exact absurd hx hne
    · exact ⟨name, hn, hx⟩

/-- Layers that differ in what is hidden have the same entries all together. -/
theorem Hides.merged_eq (h : Hides given environment environment' entries entries') :
    merged given environment entries = merged given environment' entries' := by
  unfold merged
  refine update_eq_of_agree _ (AgreeExcept.mono (agree_environment names h.outer
    (h.inner.mono fun x ⟨name, hn, hx, hs⟩ => ⟨name, hx, hs.imp id fun hs => ⟨hn, hs⟩⟩)) ?_)
  rintro x ⟨name, hx, hg⟩
  exact ⟨name, mem_given hg, hx⟩

end Hidden

end Merging

theorem mapM_still {α β : Type} {f : α → Run β} {g : α → β} {w : World}
    (h : ∀ a, f a w = (.ok (g a), w)) (l : List α) : l.mapM f w = (.ok (l.map g), w) := by
  induction l with
  | nil => rfl
  | cons a l ih =>
    rw [List.mapM_cons, Run.bind_of_ok (h a), Run.bind_of_ok ih]
    rfl

theorem ofEnvironment_eq (w : World) :
    ofEnvironment w = (.ok (rawEntries (fun v => v) (environmentEntries w.environment)), w) := by
  have hnames : ∀ ns : List String, ((ns.filter (· != "proxies")).map fun name =>
      (settingVariable? w.environment name).toList.map fun s =>
        (Value.text name, variableSetting name s)).flatten =
      rawEntries (fun v => v)
        (keyed (fun name => name) (environmentSetting? w.environment) ns) := by
    intro ns
    induction ns with
    | nil => rfl
    | cons n ns ih =>
      rw [List.filter_cons, keyed_cons]
      unfold environmentSetting? at ih ⊢
      by_cases hn : n = "proxies"
      · simp only [hn, bne_self_eq_false, Bool.false_eq_true, if_false, beq_self_eq_true, if_true,
          Option.map_none]
        exact ih
      · have hne : (n != "proxies") = true := bne_iff_ne.mpr hn
        have hbeq : (n == "proxies") = false := beq_eq_false_iff_ne.mpr hn
        simp only [hne, hbeq, Bool.false_eq_true, if_false, if_true, List.map_cons,
          List.flatten_cons, ih]
        rcases settingVariable? w.environment n with _ | s <;> rfl
  have hvalue : ∀ name, (do
      let value ← Run.environmentValue? ("RESUBMIT_" ++ Text.upper name)
      return value.toList.map fun s => (Value.text name, variableSetting name s)
        : Run (List (Value × Value))) w =
      (.ok ((settingVariable? w.environment name).toList.map fun s =>
        (Value.text name, variableSetting name s)), w) := fun _ => rfl
  refine (Run.bind_of_ok (mapM_still hvalue _)).trans ?_
  rw [hnames]
  rfl

mutual
theorem isWhole_documentOf : ∀ v : Value, isWhole (documentOf v) = true
  | .null | .bool _ | .int _ | .float _ | .text _ | .bytes _ | .path _ | .handle _
  | .resource .. | .moment .. => rfl
  | .list vs | .tuple vs => by simp [documentOf, isWhole, areWhole_documentsOf vs]
  | .version v => by
    have hparts : ∀ ns : List Int, areWhole (ns.map .int) = true := by
      intro ns
      induction ns with
      | nil => rfl
      | cons n ns ih => exact ih
    simp [documentOf, isWhole, hparts]
  | .mapping es => by simp [documentOf, isWhole, entriesWhole_entryDocuments es]

theorem areWhole_documentsOf : ∀ vs : List Value, areWhole (documentsOf vs) = true
  | [] => rfl
  | v :: vs => by
    simp [documentsOf, areWhole, isWhole_documentOf v, areWhole_documentsOf vs]

theorem entriesWhole_entryDocuments : ∀ es : List (Value × Value),
    entriesWhole (entryDocuments es) = true
  | [] => rfl
  | (k, v) :: es => by
    simp [entryDocuments, entriesWhole, isWhole_documentOf v, entriesWhole_entryDocuments es]
end

section Reading

variable {mode : Strictness} {way : List PlaceStep} {m : Model} {f : Field}
  {es : List (Value × Value)} {slots slots' : List (Option Part)}

theorem wire_of_field? {key : String} {index : Nat} (h : m.field? key = some (index, f)) :
    f.wire = key := by
  unfold Model.field? at h
  obtain ⟨x, hx, heq⟩ := Option.map_eq_some_iff.mp h
  obtain ⟨-, rfl⟩ := Prod.mk.inj heq
  simpa using List.find?_some hx

theorem eq_of_wire {g : Field} {i j : Nat} (hi : m.fields[i]? = some f)
    (hj : m.fields[j]? = some g) (h : f.wire = g.wire) : i = j := by
  have hwire : ∀ {i : Nat} {f : Field}, m.fields[i]? = some f →
      (m.fields.map Field.wire)[i]? = some f.wire := by
    intro i f hf
    rw [List.getElem?_map, hf]
    rfl
  have hlt : i < (m.fields.map Field.wire).length := by
    rw [List.length_map]
    exact (List.getElem?_eq_some_iff.mp hi).1
  exact (List.getElem?_inj hlt (wires_distinct m)).mp (by rw [hwire hi, hwire hj, h])

theorem ne_wire_of_field? {key : String} {i : Nat} (h : m.field? key = none)
    (hf : m.fields[i]? = some f) : key ≠ f.wire := by
  rintro rfl
  obtain ⟨before, after, hfields⟩ := List.append_of_mem (List.mem_of_getElem? hf)
  rw [field?_wire hfields] at h
  cases h

/-- An entry of no field is skipped. -/
theorem readEntries_skipped {key : String} (h : m.field? key = none) (v : Value) :
    readEntries mode way m (entryDocuments ((.text key, v) :: es)) slots =
      readEntries mode way m (entryDocuments es) slots := by
  have hfield : ((some key).bind m.field?) = none := h
  rw [entryDocuments, readEntries, hfield]
  exact if_pos (isWhole_documentOf v)

/-- An entry of a field is read into its slot. -/
theorem readEntries_entry {key : String} {index : Nat} (h : m.field? key = some (index, f))
    (v : Value) :
    readEntries mode way m (entryDocuments ((.text key, v) :: es)) slots = (do
      let p ← read mode (way ++ [.field f.wire]) f.shape (documentOf v)
      readEntries mode way m (entryDocuments es) (slots.set index (some p))) := by
  have hfield : ((some key).bind m.field?) = some (index, f) := h
  rw [entryDocuments, readEntries, hfield]

/-- Each slot holds what was read of the entry of its field, or is as before if there is none. -/
theorem readEntries_slots (hdistinct : HasDistinctTexts es)
    (hlength : slots.length = m.fields.length)
    (h : readEntries mode way m (entryDocuments es) slots = .ok slots') :
    slots'.length = m.fields.length ∧ ∀ (i : Nat) (f : Field), m.fields[i]? = some f →
      match Value.lookup? es (.text f.wire) with
      | some v => ∃ p, slots'[i]? = some (some p) ∧
          read mode (way ++ [.field f.wire]) f.shape (documentOf v) = .ok p
      | none => slots'[i]? = slots[i]? := by
  induction es generalizing slots with
  | nil =>
    cases h
    exact ⟨hlength, fun _ _ _ => rfl⟩
  | cons e es ih =>
    obtain ⟨key, v⟩ := e
    have hrest := (List.pairwise_cons.mp hdistinct).2
    cases key with
    | text key =>
      rcases hfield : m.field? key with _ | ⟨index, g⟩
      · rw [readEntries_skipped hfield] at h
        obtain ⟨hlength', hslots⟩ := ih hrest hlength h
        refine ⟨hlength', fun i f hf => ?_⟩
        rw [lookup?_cons, Value.text_beq, if_neg (by simpa using ne_wire_of_field? hfield hf)]
        exact hslots i f hf
      · rw [readEntries_entry hfield] at h
        obtain ⟨p, hp, h⟩ := bind_eq_ok h
        have hg := field?_eq hfield
        have hwire := wire_of_field? hfield
        obtain ⟨hlength', hslots⟩ := ih hrest (by rw [List.length_set, hlength]) h
        refine ⟨hlength', fun i f hf => ?_⟩
        have hfound := hslots i f hf
        rw [lookup?_cons, Value.text_beq]
        by_cases hkey : key = f.wire
        · -- No later entry is of the field of this one.
          obtain rfl : index = i := eq_of_wire hg hf (hwire.trans hkey)
          rw [hg] at hf
          cases hf
          rw [← hkey, hdistinct.lookup?_rest] at hfound
          rw [if_pos (by simp [hkey])]
          have hlt : index < slots.length := by
            rw [hlength]
            exact (List.getElem?_eq_some_iff.mp hg).1
          exact ⟨p, hfound.trans (List.getElem?_set_self hlt), hp⟩
        · rw [if_neg (by simpa using hkey)]
          have hne : index ≠ i := by
            rintro rfl
            rw [hg] at hf
            cases hf
            exact hkey hwire.symm
          rw [List.getElem?_set_ne hne] at hfound
          exact hfound
    | _ => cases h

/-- Entries are refused for a key that is no text, or for a value that does not fit its field. -/
theorem readEntries_refused {e : Reason} (hdistinct : HasDistinctTexts es)
    (h : readEntries mode way m (entryDocuments es) slots = .error e) :
    (∃ x ∈ es, (∀ s, x.1 ≠ .text s) ∧ e = .mismatch ⟨.keyKind, ⟨way, true⟩⟩) ∨
      ∃ f ∈ m.fields, ∃ v, Value.lookup? es (.text f.wire) = some v ∧
        read mode (way ++ [.field f.wire]) f.shape (documentOf v) = .error e := by
  induction es generalizing slots with
  | nil => cases h
  | cons x es ih =>
    obtain ⟨key, v⟩ := x
    -- What is wrong with the entries after the first one is wrong with all of them.
    have hlater : ∀ {slots}, readEntries mode way m (entryDocuments es) slots = .error e →
        (∃ x ∈ (key, v) :: es, (∀ s, x.1 ≠ .text s) ∧ e = .mismatch ⟨.keyKind, ⟨way, true⟩⟩) ∨
        ∃ f ∈ m.fields, ∃ y, Value.lookup? ((key, v) :: es) (.text f.wire) = some y ∧
          read mode (way ++ [.field f.wire]) f.shape (documentOf y) = .error e := by
      intro slots h
      rcases ih (List.pairwise_cons.mp hdistinct).2 h with ⟨x, hx, hstray⟩ | ⟨f, hf, y, hy, hread⟩
      · exact Or.inl ⟨x, List.mem_cons_of_mem _ hx, hstray⟩
      · exact Or.inr ⟨f, hf, y, hdistinct.lookup?_of_rest hy, hread⟩
    cases key with
    | text key =>
      rcases hfield : m.field? key with _ | ⟨index, f⟩
      · rw [readEntries_skipped hfield] at h
        exact hlater h
      · rw [readEntries_entry hfield] at h
        rcases bind_eq_error h with hread | ⟨p, -, h⟩
        · refine Or.inr ⟨f, List.mem_of_getElem? (field?_eq hfield), v, ?_, hread⟩
          rw [lookup?_cons, wire_of_field? hfield, if_pos (Value.text_beq_self key)]
        · exact hlater h
    | _ =>
      cases h
      refine Or.inl ⟨_, List.mem_cons_self .., fun s hs => ?_, rfl⟩
      cases hs

theorem missingField?_eq_none {fs : List Field} (h : ∀ f ∈ fs, f.default ≠ .required) :
    missingField? fs slots = none := by
  induction fs generalizing slots with
  | nil => cases slots <;> rfl
  | cons f fs ih =>
    have hrest := fun slots => @ih slots fun g hg => h g (List.mem_cons_of_mem _ hg)
    rcases slots with _ | ⟨_ | p, slots⟩
    · rfl
    · unfold missingField?
      split
      · rename_i hrequired
        exact absurd hrequired (h f (List.mem_cons_self ..))
      · exact hrest slots
    · exact hrest slots

theorem find?_zip {fs : List Field} {slot : Option Part} {i : Nat}
    (hdistinct : (fs.map Field.name).Nodup) (hf : fs[i]? = some f) (hslot : slots[i]? = some slot) :
    (fs.zip slots).find? (fun g => g.1.name == f.name) = some (f, slot) := by
  induction fs generalizing slots i with
  | nil => cases hf
  | cons g fs ih =>
    obtain ⟨hfresh, hrest⟩ := List.nodup_cons.mp hdistinct
    cases slots with
    | nil => cases hslot
    | cons s slots =>
      cases i with
      | zero =>
        cases hf
        cases hslot
        rw [List.zip_cons_cons, List.find?_cons_of_pos (by simp)]
      | succ i =>
        have hne : g.name ≠ f.name :=
          fun h => hfresh (h ▸ List.mem_map_of_mem (List.mem_of_getElem? hf))
        rw [List.zip_cons_cons, List.find?_cons_of_neg (by simpa using hne)]
        exact ih hrest hf hslot

end Reading

/-- What a field is: what was said about it, as it is read, or the default. -/
def IsSetting (f : Field) (said : Option Value) (v : Value) : Prop :=
  match said with
  | some x => ∃ p, Message.read .lenient [.field f.wire] f.shape (documentOf x) = .ok p ∧
      v = p.value
  | none => v = f.default.part.value

/-- Settings in which each field is what was said about it. -/
def Follows (s : Settings) (said : String → Option Value) : Prop :=
  ∃ value : String → Value, s = ofLookup (fun name _ => value name) ∧
    ∀ f ∈ Model.settings.fields, IsSetting f (said f.name) (value f.name)

theorem wire_eq_name : ∀ f ∈ Model.settings.fields, f.wire = f.name := by decide

theorem finishRecord_settings (slots : List (Option Part)) :
    finishRecord [] .settings slots = .ok (.record .settings slots) := by
  have hoptional : ∀ f ∈ Model.settings.fields, f.default ≠ .required := by
    simp [Model.fields, plainField]
  unfold finishRecord
  rw [missingField?_eq_none hoptional]

theorem follows_of_read {es : List (Value × Value)} {p : Part} {said : String → Option Value}
    (hdistinct : HasDistinctTexts es)
    (hsaid : ∀ name ∈ names, Value.lookup? es (.text name) = said name)
    (h : readValue .lenient .settings (.mapping es) = .ok p) : (ofPart p).Follows said := by
  have hread : Message.read .lenient [] (.record .settings) (.object (entryDocuments es) true) =
    .ok p := h
  unfold Message.read at hread
  simp only [Shape.recordModel?] at hread
  obtain ⟨slots, hentries, hread⟩ := bind_eq_ok hread
  obtain rfl : Part.record .settings slots = p :=
    Except.ok.inj ((finishRecord_settings slots).symm.trans hread)
  obtain ⟨hlength, hslots⟩ := readEntries_slots hdistinct (List.length_map _) hentries
  refine ⟨(Part.record .settings slots).field, rfl, fun f hf => ?_⟩
  obtain ⟨i, hi⟩ := List.getElem?_of_mem hf
  have hslot := hslots i f hi
  have hwire := wire_eq_name f hf
  rw [hwire, hsaid f.name (List.mem_map_of_mem hf)] at hslot
  have hfield : ∀ {slot}, slots[i]? = some slot →
      (Part.record .settings slots).field f.name = (slot.getD f.default.part).value := by
    intro slot hslot
    have hfound := find?_zip (by decide) hi hslot
    unfold Message.Part.field Message.Part.get
    simp only [hfound]
  unfold IsSetting
  rcases hs : said f.name with _ | x <;> rw [hs] at hslot
  · rw [List.getElem?_map, hi] at hslot
    exact hfield hslot
  · obtain ⟨q, hq, hread⟩ := hslot
    exact ⟨q, by rw [hwire]; exact hread, hfield hq⟩

/-- Entries that are no settings have a key that is no text, or something is said about a field that
does not fit it. -/
theorem refused_of_read {es : List (Value × Value)} {e : Reason} {said : String → Option Value}
    (hdistinct : HasDistinctTexts es)
    (hsaid : ∀ name ∈ names, Value.lookup? es (.text name) = said name)
    (h : readValue .lenient .settings (.mapping es) = .error e) :
    (∃ x ∈ es, (∀ s, x.1 ≠ .text s) ∧ e = .mismatch ⟨.keyKind, ⟨[], true⟩⟩) ∨
      ∃ f ∈ Model.settings.fields, ∃ v, said f.name = some v ∧
        Message.read .lenient [.field f.wire] f.shape (documentOf v) = .error e := by
  have hread : Message.read .lenient [] (.record .settings) (.object (entryDocuments es) true) =
    .error e := h
  unfold Message.read at hread
  simp only [Shape.recordModel?] at hread
  rcases bind_eq_error hread with hentries | ⟨slots, -, hread⟩
  · rcases readEntries_refused hdistinct hentries with hkey | ⟨f, hf, v, hv, hread⟩
    · exact Or.inl hkey
    · refine Or.inr ⟨f, hf, v, ?_, hread⟩
      rw [← hsaid f.name (List.mem_map_of_mem hf), ← wire_eq_name f hf]
      exact hv
  · cases (finishRecord_settings slots).symm.trans hread

end ClusterSubmission.Settings
