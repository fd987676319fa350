import ClusterSubmission.Message.Context
import ClusterSubmission.Proofs.MessageRoundTrip

/-!
# Submission contexts that are written and read back

A submission context has no empty lists and no empty records, since an empty map is left out and
tags and tokens only stand where there are some. So it is read back from what is written of it, as
long as it meets the constraints of its model.
-/
namespace ClusterSubmission

section Members

variable {v : Value} {vs : List Value} {es : List (Value × Value)}

theorem Value.members_ne_nil (hset : v.isSet = true) (h : v.members? = some vs) : vs ≠ [] := by
  rintro rfl
  cases v with
  | text s =>
    have htoList : s.toList = [] := List.map_eq_nil_iff.mp (Option.some.inj h)
    have hs : s = "" := String.toList_eq_nil_iff.mp htoList
    rw [hs] at hset
    cases hset
  | bytes bs =>
    obtain rfl : bs = [] := List.map_eq_nil_iff.mp (Option.some.inj h)
    cases hset
  | list items | tuple items =>
    obtain rfl : items = [] := Option.some.inj h
    cases hset
  | mapping es =>
    obtain rfl : es = [] := List.map_eq_nil_iff.mp (Option.some.inj h)
    cases hset
  | _ => cases h

theorem Value.membersOf_ne_nil (hset : v.isSet = true) (h : v.membersOf = .ok vs) : vs ≠ [] := by
  unfold Value.membersOf at h
  split at h
  · rename_i members
    cases h
    exact Value.members_ne_nil hset members
  · cases h

theorem Value.insert_ne_nil (es : List (Value × Value)) (k w : Value) :
    Value.insert es k w ≠ [] := by
  unfold Value.insert
  split
  · rename_i hany
    obtain ⟨e, he, -⟩ := List.any_eq_true.mp hany
    intro hnil
    rw [List.map_eq_nil_iff.mp hnil] at he
    cases he
  · exact List.append_ne_nil_of_right_ne_nil _ (List.cons_ne_nil _ _)

theorem Value.update_ne_nil (more : List (Value × Value)) (h : more ≠ []) :
    Value.update es more ≠ [] := by
  have hkeep : ∀ (more es : List (Value × Value)), es ≠ [] → Value.update es more ≠ [] := by
    intro more
    induction more with
    | nil => exact fun _ hes => hes
    | cons e more ih => exact fun es _ => ih _ (Value.insert_ne_nil es e.1 e.2)
  obtain ⟨e, more, rfl⟩ := List.exists_cons_of_ne_nil h
  exact hkeep more _ (Value.insert_ne_nil es e.1 e.2)

theorem Value.pairs_ne_nil {index : Nat} (hvs : vs ≠ []) (h : Value.pairs index vs = .ok es) :
    es ≠ [] := by
  obtain ⟨v, vs, rfl⟩ := List.exists_cons_of_ne_nil hvs
  unfold Value.pairs at h
  split at h
  · split at h
    · cases h
    · obtain ⟨rest, -, h⟩ := bind_eq_ok h
      cases h
      exact List.cons_ne_nil _ _
  · cases h
  · cases h

/-- A value that is set makes a mapping with entries. -/
theorem Value.asMapping_ne_nil (hset : v.isSet = true) (h : v.asMapping = .ok es) : es ≠ [] := by
  unfold Value.asMapping at h
  split at h
  · cases h
    rintro rfl
    cases hset
  · obtain ⟨vs, hvs, h⟩ := bind_eq_ok h
    obtain ⟨more, hmore, h⟩ := bind_eq_ok h
    cases h
    exact Value.update_ne_nil more (Value.pairs_ne_nil (Value.membersOf_ne_nil hset hvs) hmore)

end Members

namespace Message

variable {handle unmanaged : Value} {request : ResourceRequest} {spec : LaunchSpec}
  {policy : AttemptPolicy} {parameters : Parameters} {context p : Part}

theorem entriesPart_isFull {es : List (Value × Part)} (h : ∀ e ∈ es, e.2.IsFull) :
    (entriesPart es).IsFull := by
  have hitems : ∀ es : List (Value × Part), (∀ e ∈ es, e.2.IsFull) → itemsAreFull (es.map fun e =>
      .record .keyValue [some (.leaf e.1), some e.2]) := by
    intro es
    induction es with
    | nil => exact fun _ => trivial
    | cons e es ih =>
      intro h
      have hentry : (Part.record .keyValue [some (.leaf e.1), some e.2]).IsFull :=
        ⟨Or.inl rfl, trivial, h e (List.mem_cons_self ..), trivial⟩
      exact ⟨nofun, hentry, ih fun d hd => h d (List.mem_cons_of_mem _ hd)⟩
  cases es with
  | nil => trivial
  | cons e es => exact ⟨Or.inl rfl, ⟨List.cons_ne_nil _ _, hitems (e :: es) h⟩, trivial⟩

theorem resourceParts_isFull : ∀ {es : List (Value × Value)} {ps : List (Value × Part)},
    resourceParts es = .ok ps → ∀ e ∈ ps, e.2.IsFull
  | [], _, h => by
    cases h
    nofun
  | (k, v) :: es, _, h => by
    obtain ⟨p, hp, h⟩ := bind_eq_ok h
    obtain ⟨ps, hps, h⟩ := bind_eq_ok h
    cases h
    have hfull : p.IsFull := by
      cases v with
      | resource location size timestamp type visibility =>
        cases hp
        exact ⟨Or.inl rfl, trivial, trivial, trivial, trivial, trivial, trivial⟩
      | _ => cases hp
    intro e he
    rcases List.mem_cons.mp he with rfl | he
    · exact hfull
    · exact resourceParts_isFull hps e he

theorem tagsPart_isFull {tags : Value} (h : tagsPart tags = .ok p)
    (hfit : p.Fits (.optionalRecord .tags)) : p.IsFull := by
  have hitems : ∀ vs : List Value, itemsFit (.text .any) (vs.map .leaf) →
      itemsAreFull (vs.map .leaf) := by
    intro vs
    induction vs with
    | nil => exact fun _ => trivial
    | cons v vs ih =>
      intro hfits
      refine ⟨?_, trivial, ih hfits.2⟩
      rintro hnull
      cases hnull
      have hadmits : (Shape.text .any).Admits .null := hfits.1
      cases hadmits
  unfold tagsPart at h
  split at h
  · rename_i hset
    obtain ⟨vs, hvs, h⟩ := bind_eq_ok h
    cases h
    obtain ⟨v, vs, rfl⟩ := List.exists_cons_of_ne_nil (Value.membersOf_ne_nil hset hvs)
    exact ⟨Or.inl rfl, ⟨List.cons_ne_nil _ _, hitems (v :: vs) hfit.2.1⟩, trivial⟩
  · cases h
    trivial

theorem containerPart_isFull (h : containerPart spec = .ok p) : p.IsFull := by
  have hleaves : ∀ es : List (Value × Value),
      (entriesPart (es.map fun e => (e.1, Part.leaf e.2))).IsFull := by
    intro es
    apply entriesPart_isFull
    intro e he
    obtain ⟨d, -, rfl⟩ := List.mem_map.mp he
    trivial
  unfold containerPart at h
  obtain ⟨command, -, h⟩ := bind_eq_ok h
  obtain ⟨located, -, h⟩ := bind_eq_ok h
  obtain ⟨resources, hresources, h⟩ := bind_eq_ok h
  obtain ⟨environment, -, h⟩ := bind_eq_ok h
  have hfull : ∀ credentials : Part, credentials.IsFull →
      (Part.record .container [some (.record .commands [some (.leaf (.text command))]),
        some (entriesPart resources),
        some (entriesPart (environment.map fun e => (e.1, Part.leaf e.2))),
        some credentials]).IsFull := by
    intro credentials hcredentials
    exact ⟨Or.inl rfl, ⟨Or.inl rfl, trivial, trivial⟩,
      entriesPart_isFull (resourceParts_isFull hresources), hleaves environment, hcredentials,
      trivial⟩
  dsimp only at h
  split at h
  · rename_i hset
    obtain ⟨tokens, htokens, h⟩ := bind_eq_ok h
    cases h
    obtain ⟨e, es, rfl⟩ := List.exists_cons_of_ne_nil (Value.asMapping_ne_nil hset htokens)
    exact hfull _ ⟨Or.inl rfl, hleaves (e :: es), trivial⟩
  · cases h
    exact hfull _ trivial

theorem contextPart_isFull
    (h : contextPart handle request spec policy parameters unmanaged = .ok context)
    (hfit : context.Fits (.record .submissionContext)) : context.IsFull := by
  unfold contextPart at h
  obtain ⟨id, -, h⟩ := bind_eq_ok h
  obtain ⟨container, hcontainer, h⟩ := bind_eq_ok h
  obtain ⟨tags, htags, h⟩ := bind_eq_ok h
  cases h
  obtain ⟨-, -, -, -, -, -, -, -, -, -, -, -, htagsFit, -⟩ := hfit
  have hresource : (Part.record .resource
      [some (.leaf request.memory), some (.leaf request.vcores)]).IsFull :=
    ⟨Or.inl rfl, trivial, trivial, trivial⟩
  exact ⟨Or.inl rfl, trivial, trivial, trivial, trivial, containerPart_isFull hcontainer, hresource,
    ⟨Or.inl rfl, trivial, hresource, trivial, trivial, trivial⟩, trivial, trivial, trivial, trivial,
    tagsPart_isFull htags htagsFit, trivial⟩

/-- The submission context of an application that meets the constraints of its model is read back
from its mapping, and from its text if its integers are short enough to be read. -/
theorem context_read_back
    (h : contextPart handle request spec policy parameters unmanaged = .ok context)
    (hfit : context.Fits (.record .submissionContext)) :
    (∃ v p, context.toMapping = .ok v ∧ decode .submissionContext v = .ok p ∧
      p.complete = context.complete) ∧
      (context.IsInRange → ∃ text p, context.encode = .ok text ∧
        decode .submissionContext (.bytes (Text.utf8 text)) = .ok p ∧
        p.complete = context.complete) :=
  decode_written hfit (contextPart_isFull h hfit)

/-- An order with something in every section. -/
def sampleOrder : SubmissionOrder where
  handle := .handle (.text "application_1_0002")
  request := { resourceName := .text anyHost, memory := .int 512 }
  spec := {
    command := .list [.text "run"]
    localResources := .mapping [(.text "lib",
      .resource (.text "hdfs:/lib") (.int 0) (.int 7) (.text "FILE") (.text "PUBLIC"))]
    environment := .mapping [(.text "MODE", .text "")]
    tokens := .mapping [(.text "rm", .text "abc")] }
  policy := {}
  parameters := { applicationTags := .list [.text "nightly"] }

theorem context_read_back_sample : ∃ context,
    contextPart sampleOrder.handle sampleOrder.request sampleOrder.spec sampleOrder.policy
      sampleOrder.parameters sampleOrder.unmanaged = .ok context ∧
    (∃ v p, context.toMapping = .ok v ∧ decode .submissionContext v = .ok p ∧
      p.complete = context.complete) ∧
    ∃ text p, context.encode = .ok text ∧
      decode .submissionContext (.bytes (Text.utf8 text)) = .ok p ∧
      p.complete = context.complete := by
  have hcontext : contextPart sampleOrder.handle sampleOrder.request sampleOrder.spec
      sampleOrder.policy sampleOrder.parameters sampleOrder.unmanaged = .ok _ := rfl
  have hleast : ∀ least n : Int, least ≤ n → (Shape.integer (some least)).Admits (.int n) := by
    intro least n hn
    apply Shape.Admits.integer
    rintro bound ⟨⟩
    exact hn
  have hentry : ∀ k w : String, k ≠ "" → (Part.record .keyValue [some (.leaf (.text k)),
      some (.leaf (.text w))]).Fits (.record .keyValue) := by
    intro k w hk
    exact ⟨rfl, .nonEmptyText hk, .textOfRecord _ w, trivial⟩
  have hresource : (Part.record .resource [some (.leaf (.int 512)), some (.leaf (.int 1))]).Fits
      (.record .resource) := ⟨rfl, hleast 1 512 (by decide), hleast 1 1 (by decide), trivial⟩
  have hlocated : (Part.record .resourceDetails [some (.leaf (.text "hdfs:/lib")),
      some (.leaf (.text "FILE")), some (.leaf (.text "PUBLIC")), some (.leaf (.int 0)),
      some (.leaf (.int 7))]).Fits (.recordOrText .resourceDetails) :=
    ⟨rfl, .nonEmptyText (by decide), .choice (by decide), .choice (by decide),
      hleast 0 0 (by decide), hleast 0 7 (by decide), trivial⟩
  have hfit := context_read_back hcontext ⟨rfl, .applicationId (by decide),
    .nonEmptyText (by decide), .nonEmptyText (by decide), hleast 0 0 (by decide),
    ⟨rfl, ⟨rfl, .nonEmptyText (by decide), trivial⟩,
      ⟨rfl, ⟨⟨rfl, .nonEmptyText (by decide), hlocated, trivial⟩, trivial⟩, trivial⟩,
      ⟨rfl, ⟨hentry _ _ (by decide), trivial⟩, trivial⟩,
      ⟨rfl, ⟨rfl, ⟨hentry _ _ (by decide), trivial⟩, trivial⟩, nofun, trivial⟩, trivial⟩,
    hresource, ⟨rfl, .anyText _, hresource, hleast 1 1 (by decide), .boolean _, trivial⟩,
    hleast 1 1 (by decide), .boolean _, .boolean _, .nonEmptyText (by decide),
    ⟨rfl, ⟨.anyText _, trivial⟩, trivial⟩, trivial⟩
  have htext : ∀ s, (Part.leaf (.text s)).IsInRange := fun _ => nofun
  have htruth : ∀ b, (Part.leaf (.bool b)).IsInRange := fun _ => nofun
  have hdigits : ∀ n ∈ [0, 1, 7, 512], (Nat.toDigits 10 n).length ≤ Json.maxDigits := by decide
  have hnumber : ∀ n : Nat, n ∈ [0, 1, 7, 512] → (Part.leaf (.int n)).IsInRange := by
    rintro n hn _ ⟨⟩
    exact hdigits n hn
  have hcapability : (Part.record .resource
      [some (.leaf (.int 512)), some (.leaf (.int 1))]).IsInRange :=
    ⟨hnumber 512 (by decide), hnumber 1 (by decide), trivial⟩
  have hpair : ∀ k w : String, (Part.record .entries [some (.list [.record .keyValue
      [some (.leaf (.text k)), some (.leaf (.text w))]])]).IsInRange :=
    fun k w => ⟨⟨⟨htext k, htext w, trivial⟩, trivial⟩, trivial⟩
  exact ⟨_, hcontext, hfit.1, hfit.2 ⟨htext _, htext _, htext _, hnumber 0 (by decide),
    ⟨⟨htext _, trivial⟩,
      ⟨⟨⟨htext _, ⟨htext _, htext _, htext _, hnumber 0 (by decide), hnumber 7 (by decide),
        trivial⟩, trivial⟩, trivial⟩, trivial⟩,
      hpair _ _, ⟨hpair _ _, trivial⟩, trivial⟩,
    hcapability, ⟨htext _, hcapability, hnumber 1 (by decide), htruth _, trivial⟩,
    hnumber 1 (by decide), htruth _, htruth _, htext _, ⟨⟨htext _, trivial⟩, trivial⟩, trivial⟩⟩

end Message
end ClusterSubmission
