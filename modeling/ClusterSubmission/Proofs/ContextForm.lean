import ClusterSubmission.Message.Context
import ClusterSubmission.Proofs.Configuration

/-!
# The form of a submission context

What is posted for a configuration, as the mapping that is written: every scalar under its name, and
a section for each collection that is not empty. The context that is made of the records of a
submission has this form.
-/
namespace ClusterSubmission

/-- What an attempt at submitting goes by besides the configuration: the application, the memory of
the largest container, whether the cluster keeps containers, how the driver is launched, and the
tokens for it. -/
structure Occasion where
  handle : String
  most : Int
  keeps : Bool
  wrapper : List String
  classpath : Value
  unmanaged : Bool
  tokens : List (String × String)

/-- Entries in the notation of the resource manager. -/
def entriesForm (es : List (Value × Value)) : Value :=
  .mapping [(.text "entry", .list (es.map fun e =>
    .mapping [(.text "key", e.1), (.text "value", e.2)]))]

/-- A section for entries, which is absent if there are none. -/
def section? (name : String) (es : List (Value × Value)) : List (Value × Value) :=
  if es.isEmpty then [] else [(.text name, entriesForm es)]

def LocalResource.form (r : LocalResource) : Value :=
  .mapping [(.text "resource", .text r.location), (.text "type", .text r.type),
    (.text "visibility", .text r.visibility), (.text "size", .int r.size),
    (.text "timestamp", .int r.timestamp)]

namespace Configuration

variable (c : Configuration) (o : Occasion)

/-- The memory that is asked for, or that of the largest container if this is less. -/
def grantedMemory : Int := min c.memory o.most

/-- The tokens of the launch command in their order; those that are empty are left out. -/
def commandTokens : List String :=
  o.wrapper ++ [defaultJavaPath, "-Xmx" ++ Text.intText (c.grantedMemory o) ++ "m", "-classpath",
    (o.classpath.orElse (.text defaultClasspath)).plain, c.launcher] ++ c.configurationPaths ++
    (if c.outputPath = "" then [] else ["1>" ++ c.outputPath]) ++
    (if c.errorPath = "" then [] else ["2>" ++ c.errorPath])

def command : String := String.intercalate " " ((c.commandTokens o).filter (· != ""))

def containerForm : Value :=
  .mapping ((.text "commands", .mapping [(.text "command", .text (c.command o))]) ::
    (section? "local-resources" (rawEntries LocalResource.form c.resources) ++
      (section? "environment" (rawEntries .text c.environment) ++
        if o.tokens.isEmpty then []
        else [(.text "credentials", .mapping (section? "tokens" (rawEntries .text o.tokens)))])))

def capabilityForm : Value :=
  .mapping [(.text "memory", .int (c.grantedMemory o)), (.text "vCores", .int 1)]

def placementForm : Value :=
  .mapping [(.text "resource-name", .text (c.host.getD "")),
    (.text "capability", c.capabilityForm o),
    (.text "num-containers", .int 1), (.text "relax-locality", .bool (c.host = some anyHost))]

/-- The entries that are there for every configuration. -/
def fixedEntries : List (Value × Value) :=
  [(.text "application-id", .text o.handle), (.text "application-name", .text c.name),
    (.text "queue", .text c.queue), (.text "priority", .int c.priority),
    (.text "am-container-spec", c.containerForm o), (.text "resource", c.capabilityForm o),
    (.text "am-container-resource-request", c.placementForm o),
    (.text "max-app-attempts", .int c.maxAttempts),
    (.text "keep-containers-across-application-attempts", .bool (c.keepContainers && o.keeps)),
    (.text "unmanaged-AM", .bool o.unmanaged), (.text "application-type", .text c.type)]

def tagsForm : Value := .mapping [(.text "tag", .list (c.tags.map .text))]

/-- What is posted for a configuration. -/
def form : Value :=
  .mapping (c.fixedEntries o ++
    if c.tags.isEmpty then [] else [(.text "application-tags", c.tagsForm)])

end Configuration

namespace Message

section Slots

variable {sparse : Bool} {m : Model} {f : Field} {fs : List Field} {p : Part}
  {slots : List (Option Part)} {v : Value} {es : List (Value × Value)}

theorem record_wireForm (h : slotWireForms m.omitsDefaults m.fields slots = .ok es) :
    (Part.record m slots).wireForm = .ok (.mapping es) := by
  rw [Part.wireForm, h]
  rfl

theorem isDefault_required (p : Part) : p.isDefault .required = false := by
  unfold Part.isDefault
  split <;> first | rfl | contradiction

theorem slotWireForms_nil : slotWireForms sparse [] [] = .ok [] := rfl

theorem slotWireForms_given (hgiven : (sparse && p.isDefault f.default) = false)
    (hp : p.wireForm = .ok v) (h : slotWireForms sparse fs slots = .ok es) :
    slotWireForms sparse (f :: fs) (some p :: slots) = .ok ((.text f.wire, v) :: es) := by
  rw [slotWireForms, if_neg (by rw [hgiven]; exact Bool.false_ne_true), hp, h]
  rfl

theorem slotWireForms_omitted (hdefault : p.isDefault f.default = true)
    (h : slotWireForms true fs slots = .ok es) :
    slotWireForms true (f :: fs) (some p :: slots) = .ok es := by
  rw [slotWireForms, if_pos (by rw [hdefault]; rfl), h]

end Slots

section Entries

variable {β : Type} {part : β → Part} {form : β → Value} {es : List (String × β)} {f : Field}
  {fs : List Field} {slots : List (Option Part)} {rest : List (Value × Value)}

/-- Entries of a map with the parts of their values. -/
def partEntries (part : β → Part) (es : List (String × β)) : List (Value × Part) :=
  es.map fun e => (.text e.1, part e.2)

theorem entriesPart_wireForm (hform : ∀ b, (part b).wireForm = .ok (form b)) (hes : es ≠ []) :
    (entriesPart (partEntries part es)).wireForm = .ok (entriesForm (rawEntries form es)) := by
  have hitems : ∀ es : List (String × β), itemWireForms ((partEntries part es).map fun e =>
      .record .keyValue [some (.leaf e.1), some e.2]) = .ok ((rawEntries form es).map fun e =>
        .mapping [(.text "key", e.1), (.text "value", e.2)]) := by
    intro es
    induction es with
    | nil => rfl
    | cons e es ih =>
      have hentry : (Part.record .keyValue [some (.leaf (.text e.1)), some (part e.2)]).wireForm =
          .ok (.mapping [(.text "key", .text e.1), (.text "value", form e.2)]) :=
        record_wireForm (slotWireForms_given rfl rfl
          (slotWireForms_given (isDefault_required _) (hform e.2) slotWireForms_nil))
      change (do
        let v ← (Part.record .keyValue [some (.leaf (.text e.1)), some (part e.2)]).wireForm
        return v :: (← itemWireForms ((partEntries part es).map fun e : Value × Part =>
          .record .keyValue [some (.leaf e.1), some e.2]))) = _
      rw [hentry, ih]
      rfl
  obtain ⟨e, es, rfl⟩ := List.exists_cons_of_ne_nil hes
  have hlist : (Part.list ((partEntries part (e :: es)).map fun e =>
      .record .keyValue [some (.leaf e.1), some e.2])).wireForm = .ok (.list
        ((rawEntries form (e :: es)).map fun e =>
          .mapping [(.text "key", e.1), (.text "value", e.2)])) := by
    rw [Part.wireForm, hitems]
    rfl
  exact record_wireForm (slotWireForms_given rfl hlist slotWireForms_nil)

/-- The field of a map that may be empty becomes a section. -/
theorem slotWireForms_entries (hform : ∀ b, (part b).wireForm = .ok (form b))
    (hf : f.default = .value .null) (h : slotWireForms true fs slots = .ok rest) :
    slotWireForms true (f :: fs) (some (entriesPart (partEntries part es)) :: slots) =
      .ok (section? f.wire (rawEntries form es) ++ rest) := by
  cases es with
  | nil => exact slotWireForms_omitted (by rw [hf]; rfl) h
  | cons e es =>
    exact slotWireForms_given (by rw [hf]; rfl)
      (entriesPart_wireForm hform (List.cons_ne_nil _ _)) h

/-- Whether a value is written as it is, since it says something and so do its parts. -/
def IsPruned (v : Value) : Prop := isKept v = true ∧ prune v = v

theorem isPruned_text (s : String) : IsPruned (.text s) := ⟨rfl, rfl⟩

theorem isPruned_int (n : Int) : IsPruned (.int n) := ⟨rfl, rfl⟩

theorem isPruned_bool (b : Bool) : IsPruned (.bool b) := ⟨rfl, rfl⟩

theorem pruneEntries_eq {es : List (Value × Value)} (h : ∀ e ∈ es, IsPruned e.2) :
    pruneEntries es = es := by
  induction es with
  | nil => rfl
  | cons e es ih =>
    obtain ⟨hkept, hprune⟩ := h e (List.mem_cons_self ..)
    rw [pruneEntries, if_pos hkept, hprune, ih fun d hd => h d (List.mem_cons_of_mem _ hd)]

theorem pruneEntries_append (es ds : List (Value × Value)) :
    pruneEntries (es ++ ds) = pruneEntries es ++ pruneEntries ds := by
  induction es with
  | nil => rfl
  | cons e es ih =>
    rw [List.cons_append, pruneEntries, pruneEntries]
    split
    · rw [ih, List.cons_append]
    · exact ih

theorem pruneItems_eq {vs : List Value} (h : ∀ v ∈ vs, IsPruned v) : pruneItems vs = vs := by
  induction vs with
  | nil => rfl
  | cons v vs ih =>
    obtain ⟨hkept, hprune⟩ := h v (List.mem_cons_self ..)
    rw [pruneItems, if_pos hkept, hprune, ih fun w hw => h w (List.mem_cons_of_mem _ hw)]

theorem isPruned_mapping {e : Value × Value} {es : List (Value × Value)}
    (h : ∀ d ∈ e :: es, IsPruned d.2) : IsPruned (.mapping (e :: es)) :=
  ⟨rfl, by rw [prune, pruneEntries_eq h]⟩

theorem isPruned_list {v : Value} {vs : List Value} (h : ∀ w ∈ v :: vs, IsPruned w) :
    IsPruned (.list (v :: vs)) :=
  ⟨rfl, by rw [prune, pruneItems_eq h]⟩

theorem isPruned_section {name : String} (hform : ∀ b, IsPruned (form b)) :
    ∀ e ∈ section? name (rawEntries form es), IsPruned e.2 := by
  intro d hd
  cases es with
  | nil => cases hd
  | cons e es =>
    obtain rfl := List.mem_singleton.mp hd
    apply isPruned_mapping
    intro d hd
    obtain rfl := List.mem_singleton.mp hd
    apply isPruned_list
    intro v hv
    change v ∈ (rawEntries form (e :: es)).map fun e =>
      .mapping [(.text "key", e.1), (.text "value", e.2)] at hv
    obtain ⟨x, hx, rfl⟩ := List.mem_map.mp hv
    obtain ⟨y, -, rfl⟩ := List.mem_map.mp hx
    apply isPruned_mapping
    simp only [List.forall_mem_cons]
    exact ⟨isPruned_text y.1, hform y.2, nofun⟩

end Entries

section Context

variable (c : Configuration) (o : Occasion)

/-- The details of a resource, as they are written. -/
def resourceDetails (r : LocalResource) : Part :=
  .record .resourceDetails [some (.leaf (.text r.location)), some (.leaf (.text r.type)),
    some (.leaf (.text r.visibility)), some (.leaf (.int r.size)), some (.leaf (.int r.timestamp))]

def textLeaf (s : String) : Part := .leaf (.text s)

def credentialsOf (tokens : List (String × String)) : Part :=
  if tokens.isEmpty then .leaf .null
  else .record .credentials [some (entriesPart (partEntries textLeaf tokens)), none]

def containerOf : Part :=
  .record .container [some (.record .commands [some (textLeaf (c.command o))]),
    some (entriesPart (partEntries resourceDetails c.resources)),
    some (entriesPart (partEntries textLeaf c.environment)), some (credentialsOf o.tokens)]

theorem resourceParts_eq (es : List (String × LocalResource)) :
    resourceParts (rawEntries LocalResource.value es) = .ok (partEntries resourceDetails es) := by
  induction es with
  | nil => rfl
  | cons e es ih =>
    change (do return (_, resourceDetails e.2) :: (← resourceParts (rawEntries _ es))) = _
    rw [ih]
    rfl

theorem resourceDetails_wireForm (r : LocalResource) : (resourceDetails r).wireForm = .ok r.form :=
  record_wireForm (slotWireForms_given rfl rfl (slotWireForms_given rfl rfl (slotWireForms_given rfl
    rfl (slotWireForms_given rfl rfl (slotWireForms_given rfl rfl slotWireForms_nil)))))

theorem textLeaf_wireForm (s : String) : (textLeaf s).wireForm = .ok (.text s) := rfl

/-- The sections of the container follow its command. -/
theorem containerOf_wireForm : (containerOf c o).wireForm = .ok (c.containerForm o) := by
  have hcommands : (Part.record .commands [some (textLeaf (c.command o))]).wireForm =
      .ok (.mapping [(.text "command", .text (c.command o))]) :=
    record_wireForm (slotWireForms_given rfl (textLeaf_wireForm _) slotWireForms_nil)
  have hcredentials : ∀ f : Field, f.default = .value .null →
      slotWireForms true [f] [some (credentialsOf o.tokens)] = .ok (if o.tokens.isEmpty then []
        else [(.text f.wire, .mapping (section? "tokens" (rawEntries .text o.tokens)))]) := by
    intro f hf
    cases htokens : o.tokens with
    | nil => exact slotWireForms_omitted (by rw [hf]; rfl) slotWireForms_nil
    | cons e es =>
      have hentries : (Part.record .credentials
          [some (entriesPart (partEntries textLeaf (e :: es))), none]).wireForm =
          .ok (.mapping (section? "tokens" (rawEntries .text (e :: es)))) :=
        record_wireForm (slotWireForms_entries textLeaf_wireForm rfl rfl)
      exact slotWireForms_given (by rw [hf]; rfl) hentries slotWireForms_nil
  exact record_wireForm (slotWireForms_given rfl hcommands (slotWireForms_entries
    resourceDetails_wireForm rfl (slotWireForms_entries textLeaf_wireForm rfl
      (hcredentials _ rfl))))

theorem isPruned_container : IsPruned (c.containerForm o) := by
  apply isPruned_mapping
  intro e he
  rcases List.mem_cons.mp he with rfl | he
  · exact ⟨rfl, rfl⟩
  rcases List.mem_append.mp he with he | he
  · exact isPruned_section (fun _ => ⟨rfl, rfl⟩) e he
  rcases List.mem_append.mp he with he | he
  · exact isPruned_section isPruned_text e he
  split at he
  · cases he
  · rename_i hempty
    obtain rfl := List.mem_singleton.mp he
    obtain ⟨d, ds, hd⟩ := List.exists_cons_of_ne_nil
      (show section? "tokens" (rawEntries .text o.tokens) ≠ [] by
        cases htokens : o.tokens with
        | nil => simp [htokens] at hempty
        | cons e es => exact List.cons_ne_nil _ _)
    have hall : ∀ e ∈ section? "tokens" (rawEntries .text o.tokens), IsPruned e.2 :=
      isPruned_section isPruned_text
    dsimp only
    rw [hd] at hall ⊢
    exact isPruned_mapping hall

/-- The request for the driver's container that the configuration resolves to. -/
def requestOf : ResourceRequest where
  resourceName := c.host.elim .null .text
  memory := .int (c.grantedMemory o)
  relaxLocality := .bool (c.host = some anyHost)

/-- A launch specification with the command and the collections of the configuration. -/
structure IsSpecOf (spec : LaunchSpec) : Prop where
  command : ∃ vs, spec.command = .tuple vs ∧ vs.map Value.plain = c.commandTokens o
  localResources : spec.localResources = .mapping (rawEntries LocalResource.value c.resources)
  environment : spec.environment = .mapping (rawEntries .text c.environment)
  tokens : spec.tokens = .mapping (rawEntries .text o.tokens)

def policyOf : AttemptPolicy where
  maxAttempts := .int c.maxAttempts
  keepContainers := .bool (c.keepContainers && o.keeps)

variable {c o} {spec : LaunchSpec}

/-- The line of a specification has the words of the configuration, if all of them have a text. -/
theorem lineOf_ok (h : IsSpecOf c o spec) {line : String} (hline : lineOf spec = .ok line) :
    line = c.command o := by
  obtain ⟨vs, hcommand, hplain⟩ := h.command
  obtain ⟨members, hmembers, hline⟩ := bind_eq_ok hline
  rw [hcommand] at hmembers
  cases hmembers
  obtain ⟨-, rfl⟩ := commandLine_eq_ok.mp hline
  unfold joinCommand Configuration.command
  rw [hplain]

theorem containerPart_ok (h : IsSpecOf c o spec) {p : Part} (hp : containerPart spec = .ok p) :
    p = containerOf c o := by
  have hbind : ∀ {α β : Type} (a : α) (f : α → Except Reason β), (Except.ok a >>= f) = f a :=
    fun _ _ => rfl
  have hentries : ∀ es, (Value.mapping es).entriesOf = .ok es := fun _ => rfl
  have hmapping : ∀ es, (Value.mapping es).asMapping = .ok es := fun _ => rfl
  have hleaves : ∀ es : List (String × String),
      (rawEntries .text es).map (fun e => (e.1, Part.leaf e.2)) = partEntries textLeaf es := by
    intro es
    unfold rawEntries
    rw [List.map_map]
    rfl
  unfold containerPart at hp
  obtain ⟨line, hline, hp⟩ := bind_eq_ok hp
  obtain rfl := lineOf_ok h hline
  simp only [h.localResources, h.environment, h.tokens, hentries, hmapping, resourceParts_eq, hbind,
    hleaves] at hp
  unfold containerOf credentialsOf
  cases htokens : o.tokens with
  | nil =>
    rw [htokens] at hp
    cases hp
    rfl
  | cons e es =>
    rw [htokens] at hp
    cases hp
    rfl

def tagsOf (tags : List String) : Part :=
  if tags.isEmpty then .leaf .null else .record .tags [some (.list (tags.map textLeaf))]

theorem tagsPart_eq (tags : List String) :
    tagsPart (.list (tags.map .text)) = .ok (tagsOf tags) := by
  cases tags with
  | nil => rfl
  | cons t ts =>
    have hleaves : ((t :: ts).map Value.text).map Part.leaf = (t :: ts).map textLeaf := by
      rw [List.map_map]
      rfl
    change Except.ok (Part.record .tags [some (.list (((t :: ts).map Value.text).map .leaf))]) = _
    rw [hleaves]
    rfl

theorem tagsOf_wireForm : (tagsOf c.tags).wireForm =
    .ok (if c.tags.isEmpty then .null else c.tagsForm) := by
  have hitems : ∀ ts : List String, itemWireForms (ts.map textLeaf) = .ok (ts.map .text) := by
    intro ts
    induction ts with
    | nil => rfl
    | cons t ts ih =>
      change (do return Value.text t :: (← itemWireForms (ts.map textLeaf))) = _
      rw [ih]
      rfl
  unfold Configuration.tagsForm
  cases c.tags with
  | nil => rfl
  | cons t ts =>
    have hlist : (Part.list ((t :: ts).map textLeaf)).wireForm =
        .ok (.list ((t :: ts).map .text)) := by
      rw [Part.wireForm, hitems]
      rfl
    exact record_wireForm (slotWireForms_given rfl hlist slotWireForms_nil)

def capabilityOf (c : Configuration) (o : Occasion) : Part :=
  .record .resource [some (.leaf (.int (c.grantedMemory o))), some (.leaf (.int 1))]

theorem capabilityOf_wireForm : (capabilityOf c o).wireForm = .ok (c.capabilityForm o) :=
  record_wireForm (slotWireForms_given rfl rfl (slotWireForms_given rfl rfl slotWireForms_nil))

def placementOf (c : Configuration) (o : Occasion) : Part :=
  .record .placement [some (.leaf (c.host.elim .null .text)), some (capabilityOf c o),
    some (.leaf (.int 1)), some (.leaf (.bool (c.host = some anyHost)))]

theorem placementOf_wireForm {host : String} (hhost : c.host = some host) :
    (placementOf c o).wireForm = .ok (c.placementForm o) := by
  unfold placementOf Configuration.placementForm
  rw [hhost]
  exact record_wireForm (slotWireForms_given rfl rfl (slotWireForms_given rfl capabilityOf_wireForm
    (slotWireForms_given rfl rfl (slotWireForms_given rfl rfl slotWireForms_nil))))

/-- The context of a submission with a configuration. -/
def contextOf (c : Configuration) (o : Occasion) : Part :=
  .record .submissionContext [some (textLeaf o.handle), some (textLeaf c.name),
    some (textLeaf c.queue), some (.leaf (.int c.priority)), some (containerOf c o),
    some (capabilityOf c o), some (placementOf c o), some (.leaf (.int c.maxAttempts)),
    some (.leaf (.bool (c.keepContainers && o.keeps))), some (.leaf (.bool o.unmanaged)),
    some (textLeaf c.type), some (tagsOf c.tags)]

theorem contextPart_ok (wrapper : Value) (renewals : List String) (hspec : IsSpecOf c o spec)
    {p : Part} (hp : contextPart (.handle (.text o.handle)) (requestOf c o) spec (policyOf c o)
      (c.parameters wrapper renewals) (.bool o.unmanaged) = .ok p) : p = contextOf c o := by
  have htags : tagsPart (c.parameters wrapper renewals).applicationTags = .ok (tagsOf c.tags) :=
    tagsPart_eq c.tags
  unfold contextPart at hp
  obtain ⟨id, hid, hp⟩ := bind_eq_ok hp
  cases hid
  obtain ⟨container, hcontainer, hp⟩ := bind_eq_ok hp
  obtain rfl := containerPart_ok hspec hcontainer
  rw [htags] at hp
  cases hp
  rfl

theorem contextOf_wireForm {host : String} (hhost : c.host = some host) :
    (contextOf c o).wireForm = .ok (.mapping (c.fixedEntries o ++
      [(.text "application-tags", if c.tags.isEmpty then .null else c.tagsForm)])) := by
  apply record_wireForm
  iterate 4 refine slotWireForms_given rfl rfl ?_
  refine slotWireForms_given rfl (containerOf_wireForm c o) ?_
  refine slotWireForms_given rfl capabilityOf_wireForm ?_
  refine slotWireForms_given rfl (placementOf_wireForm hhost) ?_
  iterate 4 refine slotWireForms_given rfl rfl ?_
  exact slotWireForms_given rfl tagsOf_wireForm slotWireForms_nil

theorem contextOf_toMapping {host : String} (hhost : c.host = some host) :
    (contextOf c o).toMapping = .ok (c.form o) := by
  -- Only the tags can be dropped: all other entries say something, also zero, false and empty text.
  have hfixed : pruneEntries (c.fixedEntries o) = c.fixedEntries o := by
    apply pruneEntries_eq
    simp only [Configuration.fixedEntries, List.forall_mem_cons]
    exact ⟨isPruned_text _, isPruned_text _, isPruned_text _, isPruned_int _,
      isPruned_container c o,
      ⟨rfl, rfl⟩, ⟨rfl, rfl⟩, isPruned_int _, isPruned_bool _, isPruned_bool _, isPruned_text _,
      nofun⟩
  have htags : pruneEntries [(.text "application-tags",
      if c.tags.isEmpty then .null else c.tagsForm)] =
      if c.tags.isEmpty then [] else [(.text "application-tags", c.tagsForm)] := by
    unfold Configuration.tagsForm
    cases htags : c.tags with
    | nil => rfl
    | cons t ts =>
      apply pruneEntries_eq
      intro e he
      obtain rfl := List.mem_singleton.mp he
      apply isPruned_mapping
      intro d hd
      obtain rfl := List.mem_singleton.mp hd
      apply isPruned_list
      intro v hv
      change v ∈ (t :: ts).map Value.text at hv
      obtain ⟨u, -, rfl⟩ := List.mem_map.mp hv
      exact isPruned_text u
  unfold Part.toMapping
  rw [contextOf_wireForm hhost]
  change Except.ok (prune (.mapping _)) = _
  rw [prune, pruneEntries_append, hfixed, htags]
  rfl

end Context

end Message
end ClusterSubmission
