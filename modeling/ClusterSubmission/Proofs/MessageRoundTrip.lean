import ClusterSubmission.Message.Answer
import ClusterSubmission.Proofs.JsonText
import ClusterSubmission.Proofs.Reading

/-!
# Messages that are written and read back

A message that fits its model is read back from what is written of it. What is written leaves out
fields at their default, null and empty collections, so the message comes back with other slots
filled; it is the same message once every empty slot has its default.
-/
namespace ClusterSubmission.Message

section Fitting

/-- The values that a shape takes, text maps apart. The word for null is no choice, since a lenient
reader takes it for null. -/
inductive Shape.Admits : Shape → Value → Prop
  | anyText (s : String) : Admits (.text .any) (.text s)
  | nonEmptyText {s : String} (h : s ≠ "") : Admits (.text .nonEmpty) (.text s)
  | applicationId {s : String} (h : ApplicationId.isValid s = true) :
      Admits (.text .applicationId) (.text s)
  | optionalText (s : String) : Admits .optionalText (.text s)
  | noText : Admits .optionalText .null
  | integer {least : Option Int} {n : Int} (h : ∀ bound ∈ least, bound ≤ n) :
      Admits (.integer least) (.int n)
  | optionalInteger (n : Int) : Admits .optionalInteger (.int n)
  | noInteger : Admits .optionalInteger .null
  | boolean (b : Bool) : Admits .boolean (.bool b)
  | booleanOfText (b : Bool) : Admits .booleanOrText (.bool b)
  | textOfBoolean (s : String) : Admits .booleanOrText (.text s)
  | choice {names : List String} {s : String} (h : s ∈ names) : Admits (.choice names) (.text s)
  | optionalChoice {names : List String} {s : String} (h : s ∈ names)
      (hnull : isNullWord s = false) : Admits (.optionalChoice names) (.text s)
  | noChoice (names : List String) : Admits (.optionalChoice names) .null
  | noRecord (m : Model) : Admits (.optionalRecord m) .null
  | textOfRecord (m : Model) (s : String) : Admits (.recordOrText m) (.text s)

mutual
/-- Whether a part meets the shape that is declared for it. Only a field with a default may be left
out. -/
def Part.Fits : Shape → Part → Prop
  | shape, .leaf v => shape.Admits v
  | shape, .record m slots => shape.recordModel? = some m ∧ slotsFit m.fields slots
  | .list item, .list ps => itemsFit item ps
  | _, .list _ => False

def itemsFit (item : Shape) : List Part → Prop
  | [] => True
  | p :: ps => p.Fits item ∧ itemsFit item ps

def slotsFit : List Field → List (Option Part) → Prop
  | [], [] => True
  | f :: fs, some p :: slots => p.Fits f.shape ∧ slotsFit fs slots
  | f :: fs, none :: slots => f.default ≠ .required ∧ slotsFit fs slots
  | _, _ => False
end

/-- Whether some field is given and is not left out as the default. -/
def slotsSay : List Field → List (Option Part) → Prop
  | f :: fs, some p :: slots => p.isDefault f.default = false ∨ slotsSay fs slots
  | _ :: fs, none :: slots => slotsSay fs slots
  | _, _ => False

mutual
/-- Whether every list of a part has members, none of them null, and every record has a field to be
written, so that neither is left out as empty. -/
def Part.IsFull : Part → Prop
  | .leaf _ => True
  | .list ps => ps ≠ [] ∧ itemsAreFull ps
  | .record m slots => slotsSay m.fields slots ∧ slotsAreFull slots

def itemsAreFull : List Part → Prop
  | [] => True
  | p :: ps => p ≠ .leaf .null ∧ p.IsFull ∧ itemsAreFull ps

def slotsAreFull : List (Option Part) → Prop
  | [] => True
  | some p :: slots => p.IsFull ∧ slotsAreFull slots
  | none :: slots => slotsAreFull slots
end

mutual
/-- A message in which every empty slot has the default of its field. -/
def Part.complete : Part → Part
  | .leaf v => .leaf v
  | .list ps => .list (completeItems ps)
  | .record m slots => .record m (completeSlots m.fields slots)

def completeItems : List Part → List Part
  | [] => []
  | p :: ps => p.complete :: completeItems ps

def completeSlots : List Field → List (Option Part) → List (Option Part)
  | _ :: fs, some p :: slots => some p.complete :: completeSlots fs slots
  | f :: fs, none :: slots => some f.default.part :: completeSlots fs slots
  | _, _ => []
end

theorem complete_default (d : Default) : d.part.complete = d.part := by
  cases d <;> rfl

/-- Whether a default is one that its shape takes and that documents can hold. -/
def Default.Suits (shape : Shape) : Default → Prop
  | .value v => shape.Admits v ∧ Json.IsDocument v
  | .emptyList => ∃ item, shape = .list item
  | .required | .emptyMapping => True

/-- Every default passes the check of its own field. -/
theorem defaults_suit (m : Model) : ∀ f ∈ m.fields, f.default.Suits f.shape := by
  have hshort : ∀ n : Nat, n < 100 → Json.IsDocument (.int n) := by
    have hdigits : ∀ n < 100, (Nat.toDigits 10 n).length ≤ Json.maxDigits := by decide
    exact hdigits
  cases m <;>
    simp only [Model.fields, plainField, dashedField, List.forall_mem_cons, List.not_mem_nil,
      false_implies, implies_true, and_true, Default.Suits, true_and]
  all_goals
    repeat' apply And.intro
  all_goals
    first
    | exact ⟨_, rfl⟩
    | trivial
    | exact hshort _ (by decide)
    | constructor
  all_goals
    decide

/-- A field that can be null is null by default. -/
theorem defaults_null (m : Model) :
    ∀ f ∈ m.fields, f.shape.Admits .null → f.default = .value .null := by
  cases m <;>
    simp only [Model.fields, plainField, dashedField, List.forall_mem_cons, List.not_mem_nil,
      false_implies, implies_true, and_true]
  all_goals
    repeat' apply And.intro
  all_goals
    first
    | trivial
    | exact fun _ => rfl
    | exact fun h => nomatch h

theorem wires_distinct (m : Model) : (m.fields.map Field.wire).Nodup := by
  cases m <;> decide

/-- A field is found under the name that it is written with. -/
theorem field?_wire {m : Model} {before fs : List Field} {f : Field}
    (h : m.fields = before ++ f :: fs) : m.field? f.wire = some (before.length, f) := by
  have hdistinct := wires_distinct m
  rw [h, List.map_append, List.map_cons, List.nodup_append] at hdistinct
  have hbefore : before.zipIdx.find? (fun g => g.1.wire == f.wire) = none := by
    rw [List.find?_eq_none]
    intro g hg hsame
    have hmem : g.1 ∈ before := List.fst_mem_of_mem_zipIdx hg
    exact hdistinct.2.2 g.1.wire (List.mem_map_of_mem hmem) f.wire (List.mem_cons_self ..)
      (beq_iff_eq.mp hsame)
  unfold Model.field?
  rw [h, List.zipIdx_append, List.find?_append, hbefore, Option.none_or, List.zipIdx_cons,
    List.find?_cons_of_pos (by simp)]
  simp

end Fitting

section Leaves

variable {mode : Strictness} {way : List PlaceStep} {shape : Shape} {v : Value}

theorem Shape.Admits.read_eq (h : shape.Admits v) :
    read mode way shape (documentOf v) = .ok (.leaf v) := by
  cases h with
  | nonEmptyText h =>
    change ruledText way .nonEmpty _ = _
    unfold ruledText
    rw [if_neg (by simpa using h)]
  | applicationId h =>
    change ruledText way .applicationId _ = _
    unfold ruledText
    rw [if_pos h]
  | @integer least n h =>
    change boundedInteger way least n = _
    unfold boundedInteger
    cases least with
    | none => rfl
    | some bound =>
      have hn : ¬ n < bound := Int.not_lt.mpr (h bound rfl)
      exact if_neg hn
  | choice h =>
    change chosenText way _ _ = _
    unfold chosenText
    rw [if_pos (List.contains_iff_mem.mpr h)]
  | @optionalChoice names s h hnull =>
    have hchosen : readText? mode way (.optionalChoice names) s =
        some (chosenText way names s) := by
      simp [readText?, hnull]
    have hread : read mode way (.optionalChoice names) (.text (some s)) =
        chosenText way names s := by
      rw [read, readScalar, hchosen] <;> simp
    change read mode way (.optionalChoice names) (.text (some s)) = _
    rw [hread]
    unfold chosenText
    exact if_pos (List.contains_iff_mem.mpr h)
  | _ => rfl

theorem Shape.Admits.plainValue_eq (h : shape.Admits v) : plainValue v = .ok v := by
  cases h <;> rfl

theorem Shape.Admits.prune_eq (h : shape.Admits v) : prune v = v := by
  cases h <;> rfl

theorem eq_of_isDefaultValue {v d : Value} (h : Part.isDefaultValue v d = true) : v = d := by
  unfold Part.isDefaultValue at h
  split at h <;> simp_all

/-- Only what equals the default is left out for it. -/
theorem eq_of_isDefault {p : Part} {d : Default} (hfit : p.Fits shape) (h : p.isDefault d = true) :
    d ≠ .required ∧ p = d.part := by
  unfold Part.isDefault at h
  split at h
  · rw [eq_of_isDefaultValue h]
    exact ⟨nofun, rfl⟩
  · have hlist : shape.Admits (.list []) := hfit
    cases hlist
  · exact ⟨nofun, rfl⟩
  · exact ⟨nofun, rfl⟩
  · cases h

theorem slotWireForms_ne_nil {sparse : Bool} {fs : List Field} {slots : List (Option Part)}
    {es : List (Value × Value)} (hsay : slotsSay fs slots)
    (hes : slotWireForms sparse fs slots = .ok es) : es ≠ [] := by
  induction fs generalizing slots es with
  | nil => cases hsay
  | cons f fs ih =>
    match slots, hsay with
    | some p :: slots, hsay =>
      rw [slotWireForms] at hes
      split at hes
      · rename_i homitted
        rcases hsay with hgiven | hsay
        · rw [hgiven, Bool.and_false] at homitted
          cases homitted
        · exact ih hsay hes
      · obtain ⟨v, -, hes⟩ := bind_eq_ok hes
        obtain ⟨es', -, hes⟩ := bind_eq_ok hes
        cases hes
        exact List.cons_ne_nil _ _
    | none :: slots, hsay =>
      rw [slotWireForms] at hes
      split at hes
      · exact ih hsay hes
      · obtain ⟨es', -, hes⟩ := bind_eq_ok hes
        cases hes
        exact List.cons_ne_nil _ _

variable {p : Part}

/-- What is written of a part says something, unless the part is null. -/
theorem Part.Fits.isKept (hfit : p.Fits shape) (hfull : p.IsFull) (hnull : p ≠ .leaf .null)
    (hv : p.wireForm = .ok v) : isKept v = true := by
  cases p with
  | leaf w =>
    have hadmits : shape.Admits w := hfit
    have hplain : plainValue w = .ok v := hv
    rw [hadmits.plainValue_eq] at hplain
    cases hplain
    cases hadmits <;> first | rfl | exact absurd rfl hnull
  | list ps =>
    obtain ⟨vs, hvs, hv⟩ := bind_eq_ok hv
    cases hv
    obtain ⟨q, qs, rfl⟩ := List.exists_cons_of_ne_nil hfull.1
    obtain ⟨w, -, hvs⟩ := bind_eq_ok hvs
    obtain ⟨ws, -, hvs⟩ := bind_eq_ok hvs
    cases hvs
    rfl
  | record m slots =>
    obtain ⟨es, hes, hv⟩ := bind_eq_ok hv
    cases hv
    have hne := slotWireForms_ne_nil hfull.1 hes
    cases es with
    | nil => exact absurd rfl hne
    | cons e es => rfl

end Leaves

section Records

variable {mode : Strictness} {way : List PlaceStep} {m : Model} {f : Field} {fs : List Field}
  {v : Value} {es : List (Value × Value)} {p q : Part} {slot : Option Part}
  {slots : List (Option Part)}

/-- The entries of some fields of a record are read back, whatever fields stand before them. -/
def ReadsSlots (mode : Strictness) (way : List PlaceStep) (m : Model) (fs : List Field)
    (es : List (Value × Value)) (slots : List (Option Part)) : Prop :=
  ∀ (before : List Field) (done : List (Option Part)), m.fields = before ++ fs →
    done.length = before.length → ∃ found,
      readEntries mode way m (entryDocuments (pruneEntries es)) (done ++ fs.map fun _ => none) =
        .ok (done ++ found) ∧
      completeSlots fs found = completeSlots fs slots ∧ missingField? fs found = none

theorem mem_fields {before : List Field} (h : m.fields = before ++ f :: fs) : f ∈ m.fields := by
  rw [h]
  exact List.mem_append_right _ (List.mem_cons_self ..)

theorem ReadsSlots.nil : ReadsSlots mode way m [] [] [] :=
  fun _ _ _ _ => ⟨[], rfl, rfl, rfl⟩

theorem completeSlots_cons : completeSlots (f :: fs) (slot :: slots) =
    completeSlots [f] [slot] ++ completeSlots fs slots := by
  cases slot <;> rfl

theorem ReadsSlots.entry (hkept : isKept v = true)
    (hread : read mode (way ++ [.field f.wire]) f.shape (documentOf (prune v)) = .ok q)
    (hcomplete : completeSlots [f] [some q] = completeSlots [f] [slot])
    (h : ReadsSlots mode way m fs es slots) :
    ReadsSlots mode way m (f :: fs) ((.text f.wire, v) :: es) (slot :: slots) := by
  intro before done hfields hlength
  obtain ⟨found, hentries, hfound, hmissing⟩ := h (before ++ [f]) (done ++ [some q])
    (by rw [hfields, List.append_assoc]; rfl) (by simp [hlength])
  refine ⟨some q :: found, ?_, ?_, hmissing⟩
  · have hset : (done ++ none :: fs.map fun _ => none).set before.length (some q) =
        done ++ [some q] ++ fs.map fun _ => none := by
      rw [← hlength, List.set_append_right _ _ (Nat.le_refl _), Nat.sub_self, List.set_cons_zero,
        List.append_assoc]
      rfl
    have hfind : (some f.wire).bind m.field? = some (before.length, f) := field?_wire hfields
    rw [pruneEntries, if_pos hkept, entryDocuments, readEntries, hfind]
    simp only [hread, List.map_cons]
    change readEntries mode way m _ (List.set _ _ _) = _
    rw [hset, hentries, List.append_assoc]
    rfl
  · rw [completeSlots_cons, hcomplete, hfound, ← completeSlots_cons]

theorem ReadsSlots.omitted (hdefault : f.default ≠ .required)
    (hcomplete : completeSlots [f] [none] = completeSlots [f] [slot])
    (h : ReadsSlots mode way m fs es slots) :
    ReadsSlots mode way m (f :: fs) es (slot :: slots) := by
  intro before done hfields hlength
  obtain ⟨found, hentries, hfound, hmissing⟩ := h (before ++ [f]) (done ++ [none])
    (by rw [hfields, List.append_assoc]; rfl) (by simp [hlength])
  refine ⟨none :: found, ?_, ?_, ?_⟩
  · rw [List.append_assoc, List.append_assoc] at hentries
    exact hentries
  · rw [completeSlots_cons, hcomplete, hfound, ← completeSlots_cons]
  · unfold missingField?
    split
    · rename_i hrequired
      exact absurd hrequired hdefault
    · exact hmissing

/-- An entry that says nothing leaves its field at the default. -/
theorem ReadsSlots.unsaid {k : Value} (hkept : isKept v = false) (hdefault : f.default ≠ .required)
    (hcomplete : completeSlots [f] [none] = completeSlots [f] [slot])
    (h : ReadsSlots mode way m fs es slots) :
    ReadsSlots mode way m (f :: fs) ((k, v) :: es) (slot :: slots) := by
  have hentries : pruneEntries ((k, v) :: es) = pruneEntries es := by
    rw [pruneEntries, hkept]
    rfl
  intro before done hfields hlength
  rw [hentries]
  exact h.omitted hdefault hcomplete before done hfields hlength

/-- A default that is written though it was not given. -/
theorem ReadsSlots.default {entry : Value × Value} (hdefault : f.default ≠ .required)
    (hsuits : f.default.Suits f.shape) (hentry : entry = (.text f.wire, match f.default with
      | .value v => v
      | .emptyList => .list []
      | .emptyMapping => .mapping []
      | .required => .null))
    (h : ReadsSlots mode way m fs es slots) :
    ReadsSlots mode way m (f :: fs) (entry :: es) (none :: slots) := by
  subst hentry
  cases hd : f.default with
  | required => exact absurd hd hdefault
  | emptyList | emptyMapping => exact h.unsaid rfl hdefault rfl
  | value v =>
    cases hkept : isKept v with
    | false => exact h.unsaid hkept hdefault rfl
    | true =>
      rw [hd] at hsuits
      obtain ⟨hadmits, -⟩ := hsuits
      have hpart : f.default.part = .leaf v := by
        rw [hd]
        rfl
      refine h.entry (q := .leaf v) hkept (by rw [hadmits.prune_eq, hadmits.read_eq]) ?_
      rw [completeSlots, completeSlots, hpart]
      rfl

end Records

section RoundTrip

variable (mode : Strictness)

-- One theorem for each of the three writers, which call each other on the parts of a message.
mutual
theorem read_part : ∀ (p : Part) (way : List PlaceStep) {shape : Shape} {v : Value},
    p.Fits shape → p.IsFull → p.wireForm = .ok v → ∃ q,
      read mode way shape (documentOf (prune v)) = .ok q ∧ q.complete = p.complete
  | .leaf v, way, shape, w, hfit, _, hw => by
    have hadmits : shape.Admits v := hfit
    have hplain : plainValue v = .ok w := hw
    rw [hadmits.plainValue_eq] at hplain
    cases hplain
    exact ⟨.leaf v, by rw [hadmits.prune_eq, hadmits.read_eq], rfl⟩
  | .list ps, way, shape, w, hfit, hfull, hw => by
    cases shape with
    | list item =>
      obtain ⟨vs, hvs, hw⟩ := bind_eq_ok hw
      cases hw
      obtain ⟨qs, hread, hcomplete⟩ := read_parts ps way 0 hfit hfull.2 hvs
      refine ⟨.list qs, ?_, by rw [Part.complete, Part.complete, hcomplete]⟩
      change (readItems mode way item 0 (documentsOf (pruneItems vs)) >>= _) = _
      rw [hread]
      rfl
    | _ => cases hfit
  | .record m slots, way, shape, w, hfit, hfull, hw => by
    obtain ⟨es, hes, hw⟩ := bind_eq_ok hw
    cases hw
    obtain ⟨hmodel, hslots⟩ := hfit
    obtain ⟨found, hread, hcomplete, hmissing⟩ :=
      read_slots slots way hslots hfull.2 hes [] [] rfl rfl
    rw [List.nil_append, List.nil_append] at hread
    refine ⟨.record m found, ?_, by rw [Part.complete, Part.complete, hcomplete]⟩
    rw [prune, documentOf]
    unfold read
    simp only [hmodel, hread]
    change finishRecord way m found = _
    rw [finishRecord, hmissing]

theorem read_parts : ∀ (ps : List Part) (way : List PlaceStep) {item : Shape} {vs : List Value}
    (index : Nat), itemsFit item ps → itemsAreFull ps → itemWireForms ps = .ok vs → ∃ qs,
      readItems mode way item index (documentsOf (pruneItems vs)) = .ok qs ∧
        completeItems qs = completeItems ps
  | [], _, _, _, _, _, _, hvs => by
    cases hvs
    exact ⟨[], rfl, rfl⟩
  | p :: ps, way, item, _, index, hfit, hfull, hvs => by
    obtain ⟨v, hv, hvs⟩ := bind_eq_ok hvs
    obtain ⟨vs, hvs', hvs⟩ := bind_eq_ok hvs
    cases hvs
    obtain ⟨q, hq, hcomplete⟩ := read_part p (way ++ [.item index]) hfit.1 hfull.2.1 hv
    obtain ⟨qs, hqs, hcompletes⟩ := read_parts ps way (index + 1) hfit.2 hfull.2.2 hvs'
    refine ⟨q :: qs, ?_, by rw [completeItems, completeItems, hcomplete, hcompletes]⟩
    rw [pruneItems, if_pos (hfit.1.isKept hfull.2.1 hfull.1 hv), documentsOf, readItems, hq]
    change (readItems mode way item (index + 1) _ >>= _) = _
    rw [hqs]
    rfl

theorem read_slots : ∀ (slots : List (Option Part)) (way : List PlaceStep) {m : Model}
    {fs : List Field} {es : List (Value × Value)}, slotsFit fs slots → slotsAreFull slots →
    slotWireForms m.omitsDefaults fs slots = .ok es → ReadsSlots mode way m fs es slots
  | [], way, m, fs, es, hfit, _, hes => by
    cases fs with
    | nil =>
      cases hes
      exact .nil
    | cons f fs => cases hfit
  | some p :: slots, way, m, fs, es, hfit, hfull, hes => by
    cases fs with
    | nil => cases hfit
    | cons f fs =>
      obtain ⟨hp, hslots⟩ := hfit
      obtain ⟨hpfull, hfull⟩ := hfull
      rw [slotWireForms] at hes
      by_cases homitted : (m.omitsDefaults && p.isDefault f.default) = true
      · rw [if_pos homitted] at hes
        obtain ⟨hdefault, rfl⟩ := eq_of_isDefault hp (Bool.and_eq_true _ _ ▸ homitted).2
        exact (read_slots slots way hslots hfull hes).omitted hdefault
          (by rw [completeSlots, completeSlots, complete_default])
      · rw [if_neg homitted] at hes
        obtain ⟨v, hv, hes⟩ := bind_eq_ok hes
        obtain ⟨es', hes', hes⟩ := bind_eq_ok hes
        cases hes
        have hrest := read_slots slots way hslots hfull hes'
        cases hkept : isKept v with
        | true =>
          obtain ⟨q, hread, hcomplete⟩ := read_part p (way ++ [.field f.wire]) hp hpfull hv
          exact hrest.entry hkept hread (by rw [completeSlots, completeSlots, hcomplete])
        | false =>
          -- Of what fits and is full, only null says nothing, and where it fits it is the default.
          obtain rfl : p = .leaf .null := by
            by_contra hnull
            rw [hp.isKept hpfull hnull hv] at hkept
            cases hkept
          intro before done hfields hlength
          have hdefault := defaults_null m f (mem_fields hfields) hp
          refine hrest.unsaid hkept (by rw [hdefault]; nofun) ?_ before done hfields hlength
          rw [completeSlots, completeSlots, hdefault]
          rfl
  | none :: slots, way, m, fs, es, hfit, hfull, hes => by
    cases fs with
    | nil => cases hfit
    | cons f fs =>
      obtain ⟨hdefault, hslots⟩ := hfit
      rw [slotWireForms] at hes
      cases hsparse : m.omitsDefaults with
      | true =>
        rw [hsparse, if_pos rfl] at hes
        exact (read_slots slots way hslots hfull (hsparse ▸ hes)).omitted hdefault rfl
      | false =>
        rw [if_neg (by rw [hsparse]; exact Bool.false_ne_true)] at hes
        obtain ⟨es', hes', hes⟩ := bind_eq_ok hes
        cases hes
        have hrest := read_slots slots way hslots hfull hes'
        intro before done hfields hlength
        have hsuits := defaults_suit m f (mem_fields hfields)
        exact ReadsSlots.default hdefault hsuits (by cases f.default <;> rfl) hrest before done
          hfields hlength
end

end RoundTrip

section Documents

mutual
/-- Whether every integer of a part is short enough to be read from text. -/
def Part.IsInRange : Part → Prop
  | .leaf v => ∀ n, v = .int n → (Nat.toDigits 10 n.natAbs).length ≤ Json.maxDigits
  | .list ps => itemsInRange ps
  | .record _ slots => slotsInRange slots

def itemsInRange : List Part → Prop
  | [] => True
  | p :: ps => p.IsInRange ∧ itemsInRange ps

def slotsInRange : List (Option Part) → Prop
  | [] => True
  | some p :: slots => p.IsInRange ∧ slotsInRange slots
  | none :: slots => slotsInRange slots
end

variable {shape : Shape} {v : Value} {f : Field} {es : List (Value × Value)} {sparse : Bool}

theorem Shape.Admits.isDocument (h : shape.Admits v) (hrange : Part.IsInRange (.leaf v)) :
    Json.IsDocument v := by
  cases h with
  | integer => exact hrange _ rfl
  | optionalInteger => exact hrange _ rfl
  | _ => trivial

theorem areEntries_cons (hv : isKept v = true → Json.IsDocument (prune v))
    (h : Json.AreEntries (pruneEntries es)) (name : String) :
    Json.AreEntries (pruneEntries ((.text name, v) :: es)) := by
  rw [pruneEntries]
  by_cases hkept : isKept v = true
  · rw [if_pos hkept]
    exact ⟨⟨name, rfl⟩, hv hkept, h⟩
  · rw [if_neg hkept]
    exact h

mutual
/-- A part that meets its shape has a written form. -/
theorem Part.Fits.wireForm_ok : ∀ {p : Part} {shape : Shape}, p.Fits shape →
    ∃ v, p.wireForm = .ok v ∧ (p.IsInRange → Json.IsDocument (prune v))
  | .leaf v, shape, h => by
    have hadmits : shape.Admits v := h
    refine ⟨v, hadmits.plainValue_eq, fun hrange => ?_⟩
    rw [hadmits.prune_eq]
    exact hadmits.isDocument hrange
  | .list ps, shape, h => by
    cases shape with
    | list item =>
      obtain ⟨vs, hvs, hdoc⟩ := itemsFit.wireForms_ok h
      refine ⟨.list vs, ?_, hdoc⟩
      rw [Part.wireForm, hvs]
      rfl
    | _ => cases h
  | .record m slots, shape, h => by
    obtain ⟨es, hes, hdoc⟩ := slotsFit.wireForms_ok m.omitsDefaults h.2
    refine ⟨.mapping es, ?_, hdoc (defaults_suit m)⟩
    rw [Part.wireForm, hes]
    rfl

theorem itemsFit.wireForms_ok : ∀ {ps : List Part} {item : Shape}, itemsFit item ps →
    ∃ vs, itemWireForms ps = .ok vs ∧ (itemsInRange ps → Json.AreDocuments (pruneItems vs))
  | [], _, _ => ⟨[], rfl, fun _ => trivial⟩
  | p :: ps, item, h => by
    obtain ⟨v, hv, hdoc⟩ := h.1.wireForm_ok
    obtain ⟨vs, hvs, hdocs⟩ := itemsFit.wireForms_ok h.2
    refine ⟨v :: vs, ?_, fun hrange => ?_⟩
    · rw [itemWireForms, hv]
      change (itemWireForms ps >>= _) = _
      rw [hvs]
      rfl
    · rw [pruneItems]
      split
      · exact ⟨hdoc hrange.1, hdocs hrange.2⟩
      · exact hdocs hrange.2

theorem slotsFit.wireForms_ok : ∀ {slots : List (Option Part)} {fs : List Field} (sparse : Bool),
    slotsFit fs slots → ∃ es, slotWireForms sparse fs slots = .ok es ∧
      ((∀ f ∈ fs, f.default.Suits f.shape) → slotsInRange slots →
        Json.AreEntries (pruneEntries es))
  | [], fs, sparse, h => by
    cases fs with
    | nil => exact ⟨[], rfl, fun _ _ => trivial⟩
    | cons f fs => cases h
  | some p :: slots, fs, sparse, h => by
    cases fs with
    | nil => cases h
    | cons f fs =>
      obtain ⟨v, hv, hdoc⟩ := h.1.wireForm_ok
      obtain ⟨es, hes, hdocs⟩ := slotsFit.wireForms_ok sparse h.2
      rw [slotWireForms]
      split
      · refine ⟨es, hes, fun hsuits hrange => ?_⟩
        exact hdocs (fun g hg => hsuits g (List.mem_cons_of_mem _ hg)) hrange.2
      · refine ⟨(.text f.wire, v) :: es, ?_, fun hsuits hrange => ?_⟩
        · rw [hv, hes]
          rfl
        · exact areEntries_cons (fun _ => hdoc hrange.1)
            (hdocs (fun g hg => hsuits g (List.mem_cons_of_mem _ hg)) hrange.2) f.wire
  | none :: slots, fs, sparse, h => by
    cases fs with
    | nil => cases h
    | cons f fs =>
      obtain ⟨es, hes, hdocs⟩ := slotsFit.wireForms_ok sparse h.2
      rw [slotWireForms]
      split
      · refine ⟨es, hes, fun hsuits hrange => ?_⟩
        exact hdocs (fun g hg => hsuits g (List.mem_cons_of_mem _ hg)) hrange
      · rw [hes]
        refine ⟨_, rfl, fun hsuits hrange => areEntries_cons (fun hkept => ?_)
          (hdocs (fun g hg => hsuits g (List.mem_cons_of_mem _ hg)) hrange) f.wire⟩
        have hdefault := hsuits f (List.mem_cons_self ..)
        cases hd : f.default with
        | value v =>
          rw [hd] at hdefault
          dsimp only
          rw [hdefault.1.prune_eq]
          exact hdefault.2
        | _ => trivial
end

variable {m : Model} {p : Part}

/-- A message that fits its model has a mapping of entries. -/
theorem Part.Fits.toMapping_ok (h : p.Fits (.record m)) : ∃ es, p.wireForm = .ok (.mapping es) ∧
    (p.IsInRange → Json.IsDocument (.mapping (pruneEntries es))) := by
  obtain ⟨v, hv, hdoc⟩ := h.wireForm_ok
  cases p with
  | leaf w =>
    have hadmits : (Shape.record m).Admits w := h
    cases hadmits
  | list ps => cases h
  | record m' slots =>
    obtain ⟨es, -, hes⟩ := bind_eq_ok hv
    cases hes
    exact ⟨es, hv, hdoc⟩

/-- A message that fits its model and loses nothing is read back from the mapping of its entries,
and from its text if its integers are short enough. -/
theorem decode_written (hfit : p.Fits (.record m)) (hfull : p.IsFull) :
    (∃ v q, p.toMapping = .ok v ∧ decode m v = .ok q ∧ q.complete = p.complete) ∧
      (p.IsInRange → ∃ text q, p.encode = .ok text ∧
        decode m (.bytes (Text.utf8 text)) = .ok q ∧ q.complete = p.complete) := by
  obtain ⟨es, hes, hdoc⟩ := hfit.toMapping_ok
  obtain ⟨q, hread, hcomplete⟩ := read_part .lenient p [] hfit hfull hes
  have hmapping : p.toMapping = .ok (.mapping (pruneEntries es)) := by
    rw [Part.toMapping, hes]
    rfl
  refine ⟨⟨_, q, hmapping, ?_, hcomplete⟩, fun hrange => ?_⟩
  · exact decode_ok.mpr hread
  · obtain ⟨text, htext, hbytes⟩ := Json.read_written (hdoc hrange)
    refine ⟨text, q, ?_, decode_ok.mpr ?_, hcomplete⟩
    · rw [Part.encode, hmapping]
      change encodeValue _ = _
      rw [encodeValue, htext]
    · have hparts : read .lenient [] (.record m)
          (documentOf (.mapping (pruneEntries es))) = .ok q :=
        hread
      change readBytes .lenient m (Text.utf8 text) = _
      rw [readBytes, hbytes]
      simp only [hparts, if_true]

end Documents
end ClusterSubmission.Message
