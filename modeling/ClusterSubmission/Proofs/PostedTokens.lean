import ClusterSubmission.Proofs.ContextForm
import ClusterSubmission.Proofs.Entries
import ClusterSubmission.Proofs.Steps

/-!
# The tokens in what is posted

An order hands over the tokens of its launch specification, whatever else is in it: the document
that is posted has them as entries of the container's credentials. Without tokens, the container has
no credentials.
-/
namespace ClusterSubmission

/-- A document that hands over tokens with the container of its context. -/
def HandsOver (context : Value) (tokens : List (Value × Value)) : Prop :=
  ∃ entries container, context = .mapping entries ∧
    Value.lookup? entries (.text "am-container-spec") = some (.mapping container) ∧
    Value.lookup? container (.text "credentials") =
      if tokens.isEmpty then none else some (.mapping [(.text "tokens", entriesForm tokens)])

/-- An exchange whose request posts tokens. -/
def Exchange.PostsTokens (e : Exchange) (tokens : List (Value × Value)) : Prop :=
  ∃ context text, Message.encodeValue context = .ok text ∧
    e.request.data = .bytes (Text.utf8 text) ∧ HandsOver context tokens

namespace Message

section Lookup

variable {es : List (Value × Value)} {key v : Value}

theorem lookup?_pruneEntries (h : Value.lookup? es key = some v) (hv : isKept v = true) :
    Value.lookup? (pruneEntries es) key = some (prune v) := by
  induction es with
  | nil => cases h
  | cons e es ih =>
    obtain ⟨k, x⟩ := e
    rw [lookup?_cons] at h
    rw [pruneEntries]
    by_cases hk : (k == key) = true
    · rw [if_pos hk] at h
      cases h
      rw [if_pos hv, lookup?_cons, if_pos hk]
    · rw [if_neg hk] at h
      split
      · rw [lookup?_cons, if_neg hk, ih h]
      · exact ih h

theorem lookup?_pruneEntries_none (h : Value.lookup? es key = none) :
    Value.lookup? (pruneEntries es) key = none := by
  induction es with
  | nil => rfl
  | cons e es ih =>
    obtain ⟨k, x⟩ := e
    rw [lookup?_cons] at h
    rw [pruneEntries]
    by_cases hk : (k == key) = true
    · rw [if_pos hk] at h
      cases h
    · rw [if_neg hk] at h
      split
      · rw [lookup?_cons, if_neg hk, ih h]
      · exact ih h

theorem lookup?_slotWireForms_none {sparse : Bool} {fs : List Field} {slots : List (Option Part)}
    {name : String} (h : slotWireForms sparse fs slots = .ok es) (hname : ∀ f ∈ fs, f.wire ≠ name) :
    Value.lookup? es (.text name) = none := by
  have hkeys := exists_field_of_mem_slotWireForms h
  unfold Value.lookup?
  rw [List.find?_eq_none.mpr, Option.map_none]
  intro e he
  obtain ⟨f, hf, hkey⟩ := hkeys e he
  rw [hkey, Value.text_beq]
  simpa using hname f hf

/-- A slot of a record is found under the name of its field, unless its default was left out. -/
theorem lookup?_slotWireForms {sparse : Bool} {before after : List Field} {f : Field}
    {first rest : List (Option Part)} {p : Part} (hlength : first.length = before.length)
    (hbefore : ∀ g ∈ before, g.wire ≠ f.wire) (hafter : ∀ g ∈ after, g.wire ≠ f.wire)
    (h : slotWireForms sparse (before ++ f :: after) (first ++ some p :: rest) = .ok es) :
    if (sparse && p.isDefault f.default) = true then Value.lookup? es (.text f.wire) = none
    else ∃ v, p.wireForm = .ok v ∧ Value.lookup? es (.text f.wire) = some v := by
  induction before generalizing first es with
  | nil =>
    obtain rfl := List.length_eq_zero_iff.mp hlength
    rw [List.nil_append, List.nil_append, slotWireForms] at h
    split
    · rename_i hdefault
      rw [if_pos hdefault] at h
      exact lookup?_slotWireForms_none h hafter
    · rename_i hgiven
      rw [if_neg hgiven] at h
      obtain ⟨v, hv, h⟩ := bind_eq_ok h
      obtain ⟨more, -, h⟩ := bind_eq_ok h
      cases h
      exact ⟨v, hv, by rw [lookup?_cons, Value.text_beq, if_pos (by simp)]⟩
  | cons g before ih =>
    obtain ⟨slot, first, rfl⟩ := List.exists_cons_of_length_eq_add_one hlength
    have hlength' : first.length = before.length := by simpa using hlength
    have hbefore' : ∀ g ∈ before, g.wire ≠ f.wire := fun x hx =>
      hbefore x (List.mem_cons_of_mem _ hx)
    rcases slotWireForms_cons h with h | ⟨v, more, rfl, hmore⟩
    · exact ih hlength' hbefore' h
    · have hother : Value.lookup? ((.text g.wire, v) :: more) (.text f.wire) =
          Value.lookup? more (.text f.wire) := by
        rw [lookup?_cons, Value.text_beq, if_neg (by simpa using hbefore g (by simp))]
      rw [hother]
      exact ih hlength' hbefore' hmore

end Lookup

/-- The field of a container for its credentials. -/
def Model.credentialsField : Field :=
  plainField "credentials" (.optionalRecord .credentials) (.value .null)

/-- The field of a context for its container. -/
def Model.containerField : Field := dashedField "am_container_spec" (.record .container)

theorem credentialsOf_wireForm {e : String × String} {es : List (String × String)} :
    (credentialsOf (e :: es)).wireForm =
      .ok (.mapping [(.text "tokens", entriesForm (rawEntries .text (e :: es)))]) :=
  record_wireForm (slotWireForms_entries textLeaf_wireForm rfl rfl)

theorem isPruned_tokens {e : String × String} {es : List (String × String)} :
    IsPruned (.mapping [(.text "tokens", entriesForm (rawEntries .text (e :: es)))]) :=
  have hsection : ∀ d ∈ section? "tokens" (rawEntries .text (e :: es)), IsPruned d.2 :=
    isPruned_section isPruned_text
  isPruned_mapping hsection

/-- The container of a launch specification with tokens has them in its last slot. -/
theorem containerPart_tokens {spec : LaunchSpec} {tokens : List (String × String)} {p : Part}
    (htokens : spec.tokens = .mapping (rawEntries .text tokens)) (h : containerPart spec = .ok p) :
    ∃ command resources environment,
      p = .record .container [some (.record .commands [some command]),
      some resources, some environment, some (credentialsOf tokens)] := by
  have hleaves : ∀ es : List (String × String),
      (rawEntries .text es).map (fun e => (e.1, Part.leaf e.2)) = partEntries textLeaf es := by
    intro es
    unfold rawEntries
    rw [List.map_map]
    rfl
  unfold containerPart at h
  obtain ⟨command, -, h⟩ := bind_eq_ok h
  obtain ⟨resourceEntries, -, h⟩ := bind_eq_ok h
  obtain ⟨resources, -, h⟩ := bind_eq_ok h
  obtain ⟨environment, -, h⟩ := bind_eq_ok h
  rw [htokens] at h
  cases tokens with
  | nil =>
    cases h
    exact ⟨_, _, _, rfl⟩
  | cons e es =>
    have hset : (Value.mapping (rawEntries .text (e :: es))).isSet = true := rfl
    have hmapping : (Value.mapping (rawEntries .text (e :: es))).asMapping =
        .ok (rawEntries .text (e :: es)) := rfl
    simp only [hset, if_true, hmapping] at h
    have hcredentials : credentialsOf (e :: es) = .record .credentials [some (entriesPart
        ((rawEntries .text (e :: es)).map fun e => (e.1, Part.leaf e.2))), none] := by
      rw [hleaves]
      rfl
    rw [hcredentials]
    exact ⟨_, _, _, (Except.ok.inj h).symm⟩

/-- The container of a launch specification with tokens, as it is written. -/
theorem container_tokens {spec : LaunchSpec} {tokens : List (String × String)} {p : Part}
    {v : Value}
    (htokens : spec.tokens = .mapping (rawEntries .text tokens)) (hp : containerPart spec = .ok p)
    (hv : p.wireForm = .ok v) : ∃ es, v = .mapping es ∧ es ≠ [] ∧
      Value.lookup? (pruneEntries es) (.text "credentials") = if tokens.isEmpty then none
        else some (.mapping [(.text "tokens", entriesForm (rawEntries .text tokens))]) := by
  obtain ⟨command, resources, environment, rfl⟩ := containerPart_tokens htokens hp
  unfold Part.wireForm at hv
  obtain ⟨es, hes, hv⟩ := bind_eq_ok hv
  cases hv
  refine ⟨es, rfl, ?_, ?_⟩
  · -- The command is always there.
    rintro rfl
    obtain ⟨f, fs, hfields, hrequired⟩ : ∃ f fs, Model.container.fields = f :: fs ∧
        f.default = .required := ⟨_, _, rfl, rfl⟩
    rw [hfields, slotWireForms, hrequired, isDefault_required, Bool.and_false,
      if_neg Bool.false_ne_true] at hes
    obtain ⟨v, -, hes⟩ := bind_eq_ok hes
    obtain ⟨more, -, hes⟩ := bind_eq_ok hes
    cases hes
  · have hfields : Model.container.fields =
        Model.container.fields.take 3 ++ Model.credentialsField :: [] := rfl
    have hslots : [some (.record .commands [some command]), some resources, some environment,
        some (credentialsOf tokens)] = [some (.record .commands [some command]), some resources,
        some environment] ++ some (credentialsOf tokens) :: [] := rfl
    rw [hfields, hslots] at hes
    have hfound := lookup?_slotWireForms rfl (by decide) (by simp) hes
    cases tokens with
    | nil => exact lookup?_pruneEntries_none hfound
    | cons e ts =>
      obtain ⟨v, hv, hlookup⟩ := hfound
      rw [credentialsOf_wireForm] at hv
      cases hv
      obtain ⟨hkept, hprune⟩ := @isPruned_tokens e ts
      exact (lookup?_pruneEntries hlookup hkept).trans (congrArg some hprune)

end Message

open Message

/-- What is sent for an order hands over the tokens of its launch specification. -/
theorem SubmissionOrder.postsTokens {o : SubmissionOrder} {tokens : List (String × String)}
    {e : Exchange} (htokens : o.spec.tokens = .mapping (rawEntries .text tokens))
    (h : o.body = .ok e.request.data) : e.PostsTokens (rawEntries .text tokens) := by
  obtain ⟨context, hcontext, h⟩ := bind_eq_ok h
  obtain ⟨v, hmapping, h⟩ := bind_eq_ok h
  obtain ⟨id, -, hcontext⟩ := bind_eq_ok hcontext
  obtain ⟨container, hcontainer, hcontext⟩ := bind_eq_ok hcontext
  obtain ⟨tags, -, hcontext⟩ := bind_eq_ok hcontext
  cases hcontext
  obtain ⟨form, hform, hmapping⟩ := bind_eq_ok hmapping
  obtain ⟨es, hes, hform⟩ := bind_eq_ok hform
  cases hform
  cases hmapping
  obtain ⟨text, htext, h⟩ := bind_eq_ok h
  refine ⟨_, text, htext, (Except.ok.inj h).symm, ?_⟩
  have hfields : Model.submissionContext.fields = Model.submissionContext.fields.take 4 ++
      Model.containerField :: Model.submissionContext.fields.drop 5 := rfl
  rw [hfields] at hes
  change slotWireForms _ _ ([_, _, _, _] ++ some container :: _) = _ at hes
  obtain ⟨v, hv, hlookup⟩ := lookup?_slotWireForms rfl (by decide) (by decide) hes
  obtain ⟨cs, rfl, hcs, hcredentials⟩ := container_tokens htokens hcontainer hv
  have hkept : isKept (.mapping cs) = true := by
    cases cs with
    | nil => exact absurd rfl hcs
    | cons c cs => rfl
  refine ⟨_, pruneEntries cs, rfl, lookup?_pruneEntries hlookup hkept, ?_⟩
  rw [hcredentials]
  cases tokens <;> rfl

end ClusterSubmission
