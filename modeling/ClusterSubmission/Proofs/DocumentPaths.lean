import ClusterSubmission.Proofs.MessageRoundTrip
import ClusterSubmission.Proofs.PostedTokens

/-!
# Where values stand in what is posted

A value of a message stands in the posted document at a path, which has the names of the fields on
the wire. Empty collections are left out of the document and move nothing else.
-/
namespace ClusterSubmission

/-- What stands at a path of names in a document. -/
def Value.at? (v : Value) : List String → Option Value
  | [] => some v
  | name :: names =>
    match v with
    | .mapping es => (Value.lookup? es (.text name)).bind fun w => w.at? names
    | _ => none

/-- An exchange whose request posts a document. -/
def Exchange.PostsDocument (e : Exchange) (document : Value) : Prop :=
  ∃ text, Message.encodeValue document = .ok text ∧ e.request.data = .bytes (Text.utf8 text)

namespace Message

/-- A part of a message that is kept in every document and has a value at a path. -/
def Part.Shows (p : Part) (path : List String) (v : Value) : Prop :=
  ∀ form, p.wireForm = .ok form → isKept form = true ∧ (prune form).at? path = some v

namespace Part.Shows

theorem integer (n : Int) : (Part.leaf (.int n)).Shows [] (.int n) := by
  intro form h
  cases h
  exact ⟨rfl, rfl⟩

theorem boolean (b : Bool) : (Part.leaf (.bool b)).Shows [] (.bool b) := by
  intro form h
  cases h
  exact ⟨rfl, rfl⟩

theorem text (s : String) : (Part.leaf (.text s)).Shows [] (.text s) := by
  intro form h
  cases h
  exact ⟨rfl, rfl⟩

/-- A record shows what one of its slots shows, below the name of the field. -/
theorem slot {m : Model} {slots : List (Option Part)} {f : Field} {p : Part} {name : String}
    {path : List String} {v : Value} (hp : p.Shows path v) (k : Nat) (hf : m.fields[k]? = some f)
    (hname : f.wire = name) (hslot : slots[k]? = some (some p))
    (hgiven : (m.omitsDefaults && p.isDefault f.default) = false) :
    (Part.record m slots).Shows (name :: path) v := by
  subst hname
  intro form h
  obtain ⟨es, hes, h⟩ := bind_eq_ok h
  cases h
  have hk : k < m.fields.length := (List.getElem?_eq_some_iff.mp hf).1
  have hslots : k < slots.length := (List.getElem?_eq_some_iff.mp hslot).1
  have hfields : m.fields.take k ++ f :: m.fields.drop (k + 1) = m.fields := by
    rw [← (List.getElem?_eq_some_iff.mp hf).2, List.getElem_cons_drop, List.take_append_drop]
  have hparts : slots.take k ++ some p :: slots.drop (k + 1) = slots := by
    rw [← (List.getElem?_eq_some_iff.mp hslot).2, List.getElem_cons_drop, List.take_append_drop]
  have hnodup := wires_distinct m
  rw [← hfields, List.map_append, List.map_cons, List.nodup_append, List.nodup_cons] at hnodup
  obtain ⟨-, ⟨hlater, -⟩, hfirst⟩ := hnodup
  rw [← hfields, ← hparts] at hes
  have hlength : (slots.take k).length = (m.fields.take k).length := by
    rw [List.length_take, List.length_take, Nat.min_eq_left hslots.le, Nat.min_eq_left hk.le]
  have hbefore : ∀ g ∈ m.fields.take k, g.wire ≠ f.wire := by
    intro g hg
    exact hfirst _ (List.mem_map_of_mem hg) _ (List.mem_cons_self ..)
  have hafter : ∀ g ∈ m.fields.drop (k + 1), g.wire ≠ f.wire := by
    intro g hg hsame
    exact hlater (hsame ▸ List.mem_map_of_mem hg)
  have hfound := lookup?_slotWireForms hlength hbefore hafter hes
  rw [hgiven, if_neg Bool.false_ne_true] at hfound
  obtain ⟨u, hu, hlookup⟩ := hfound
  obtain ⟨hkept, hat⟩ := hp u hu
  constructor
  · cases es with
    | nil => cases hlookup
    | cons e es => rfl
  · change (Value.lookup? (pruneEntries es) (.text f.wire)).bind _ = _
    rw [lookup?_pruneEntries hlookup hkept]
    exact hat

theorem at?_toMapping {p : Part} {path : List String} {v document : Value} (hp : p.Shows path v)
    (h : p.toMapping = .ok document) : document.at? path = some v := by
  obtain ⟨form, hform, h⟩ := bind_eq_ok h
  cases h
  exact (hp form hform).2

end Part.Shows

end Message

open Message

namespace SubmissionOrder

variable {o : SubmissionOrder}

/-- A document in which the parts of an order stand where the resource manager reads them. -/
structure IsPostedAs (o : SubmissionOrder) (document : Value) : Prop where
  resource : ∀ v, (Part.leaf o.request.memory).Shows [] v →
    document.at? ["resource", "memory"] = some v
  capability : ∀ v, (Part.leaf o.request.memory).Shows [] v →
    document.at? ["am-container-resource-request", "capability", "memory"] = some v
  command : ∀ tokens, o.spec.command = .tuple tokens →
    document.at? ["am-container-spec", "commands", "command"] = some (.text (joinCommand tokens))
  attempts : ∀ v, (Part.leaf o.policy.maxAttempts).Shows [] v →
    document.at? ["max-app-attempts"] = some v
  keep : ∀ v, (Part.leaf o.policy.keepContainers).Shows [] v →
    document.at? ["keep-containers-across-application-attempts"] = some v

/-- The context of an order is made of its parts, in the order of the fields. -/
theorem exists_slots {context : Part}
    (h : contextPart o.handle o.request o.spec o.policy o.parameters o.unmanaged = .ok context) :
    ∃ container id name queue priority behind, containerPart o.spec = .ok container ∧
      context = .record .submissionContext (id :: name :: queue :: priority :: some container ::
        some (.record .resource [some (.leaf o.request.memory), some (.leaf o.request.vcores)]) ::
        some (.record .placement [some (.leaf o.request.resourceName),
          some (.record .resource [some (.leaf o.request.memory), some (.leaf o.request.vcores)]),
          some (.leaf o.request.numContainers), some (.leaf o.request.relaxLocality)]) ::
        some (.leaf o.policy.maxAttempts) :: some (.leaf o.policy.keepContainers) :: behind) := by
  obtain ⟨id, -, h⟩ := bind_eq_ok h
  obtain ⟨container, hcontainer, h⟩ := bind_eq_ok h
  obtain ⟨tags, -, h⟩ := bind_eq_ok h
  cases h
  exact ⟨container, _, _, _, _, _, hcontainer, rfl⟩

theorem command_shows {spec : LaunchSpec} {container : Part} {tokens : List Value}
    (hcommand : spec.command = .tuple tokens) (h : containerPart spec = .ok container) :
    container.Shows ["commands", "command"] (.text (joinCommand tokens)) := by
  obtain ⟨line, hline, h⟩ := bind_eq_ok h
  obtain ⟨members, hmembers, hline⟩ := bind_eq_ok hline
  rw [hcommand] at hmembers
  cases hmembers
  obtain ⟨-, rfl⟩ := commandLine_eq_ok.mp hline
  obtain ⟨resourceEntries, -, h⟩ := bind_eq_ok h
  obtain ⟨resources, -, h⟩ := bind_eq_ok h
  obtain ⟨environment, -, h⟩ := bind_eq_ok h
  have hshows : (Part.record .commands [some (.leaf (.text (joinCommand tokens)))]).Shows
      ["command"] (.text (joinCommand tokens)) := (Part.Shows.text _).slot 0 rfl rfl rfl rfl
  dsimp only at h
  split at h
  · obtain ⟨credentials, -, h⟩ := bind_eq_ok h
    cases h
    exact hshows.slot 0 rfl rfl rfl rfl
  · cases h
    exact hshows.slot 0 rfl rfl rfl rfl

/-- What is sent for an order is a document with its parts. -/
theorem exists_document {e : Exchange} (h : o.body = .ok e.request.data) :
    ∃ document, e.PostsDocument document ∧ o.IsPostedAs document := by
  obtain ⟨context, hcontext, h⟩ := bind_eq_ok h
  obtain ⟨document, hdocument, h⟩ := bind_eq_ok h
  obtain ⟨container, id, name, queue, priority, behind, hcontainer, rfl⟩ := exists_slots hcontext
  refine ⟨document, ?_, ?_⟩
  · obtain ⟨form, hform, hmapping⟩ := bind_eq_ok hdocument
    obtain ⟨es, -, hform⟩ := bind_eq_ok hform
    cases hform
    cases hmapping
    obtain ⟨text, htext, h⟩ := bind_eq_ok h
    exact ⟨text, htext, (Except.ok.inj h).symm⟩
  · have hmemory : ∀ v, (Part.leaf o.request.memory).Shows [] v →
        (Part.record .resource [some (.leaf o.request.memory),
          some (.leaf o.request.vcores)]).Shows ["memory"] v :=
      fun v hv => hv.slot 0 rfl rfl rfl rfl
    constructor
    · intro v hv
      exact ((hmemory v hv).slot 5 rfl rfl rfl rfl).at?_toMapping hdocument
    · intro v hv
      have hplacement : (Part.record .placement [some (.leaf o.request.resourceName),
          some (.record .resource [some (.leaf o.request.memory), some (.leaf o.request.vcores)]),
          some (.leaf o.request.numContainers), some (.leaf o.request.relaxLocality)]).Shows
            ["capability", "memory"] v := (hmemory v hv).slot 1 rfl rfl rfl rfl
      exact (hplacement.slot 6 rfl rfl rfl rfl).at?_toMapping hdocument
    · intro tokens htokens
      exact ((command_shows htokens hcontainer).slot 4 rfl rfl rfl rfl).at?_toMapping hdocument
    · intro v hv
      exact (hv.slot 7 rfl rfl rfl rfl).at?_toMapping hdocument
    · intro v hv
      exact (hv.slot 8 rfl rfl rfl rfl).at?_toMapping hdocument

end SubmissionOrder

end ClusterSubmission
