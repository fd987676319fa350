import ClusterSubmission.Proofs.Negotiation
import ClusterSubmission.Submission.Submit

/-!
# Steps of submitting

An attempt at submitting sends one segment of exchanges: it may ask for the version, hands the
application over, and for an unmanaged driver looks at the application and asks for a token. The
steps before talk to nobody. Whatever step an attempt fails in bounds what it has sent by then.
-/
namespace ClusterSubmission

open Message

/-- The exchanges of an attempt at submitting, in the order in which they are sent. -/
structure Segment where
  info : Option Exchange := none
  post : Option Exchange := none
  looks : List Exchange := []
  token : Option Exchange := none

def Segment.toList (g : Segment) : List Exchange :=
  g.info.toList ++ g.post.toList ++ (g.looks ++ g.token.toList)

theorem Segment.mem_of_post {g : Segment} {e : Exchange} (h : e ∈ g.post) : e ∈ g.toList := by
  simp [Segment.toList, Option.mem_def.mp h]

/-- An exchange whose request hands over the application with a handle, and no other one. -/
def Exchange.Posts (e : Exchange) (handle : String) : Prop :=
  ∃ more text, encodeValue (.mapping ((.text "application-id", .text handle) :: more)) = .ok text ∧
    (∀ x ∈ more, x.1 ≠ .text "application-id") ∧ e.request.data = .bytes (Text.utf8 text)

/-- Looks at an application, and perhaps a request for a token: all looks but the last found it
pending, and the token is asked for when the last one found it accepted. -/
structure IsTail (n : RestNegotiator) (id : String) (looks : List Exchange)
    (token : Option Exchange) : Prop where
  looks_to : ∀ e ∈ looks, e.IsTo n.manager.address (.application id)
  pending : ∀ e ∈ looks.dropLast, e.IsPending
  token_to : ∀ e ∈ token, e.IsTo n.manager.address .delegationToken
  accepted : ∀ e ∈ token, ∃ last, looks.getLast? = some last ∧ last.IsAccepted

/-- The protocol of an attempt at submitting. -/
structure Segment.IsLawful (n : RestNegotiator) (s : Submission) (g : Segment) : Prop
    extends IsTail n s.handle g.looks g.token where
  info_to : ∀ e ∈ g.info, e.IsTo n.manager.address .info
  info_kept : g.info.isSome = true → s.parameters.keepContainers.isSet = true
  post_to : ∀ e ∈ g.post, e.IsTo n.manager.address .apps ∧ e.Posts s.handle
  looks_after : g.looks ≠ [] → s.unmanaged.isSet = true ∧
    ∃ e ∈ g.post, e.answer?.isSome = true

/-- What a step allows to be sent if the attempt fails in it. -/
def SubmissionStep.Allows (step : SubmissionStep) (g : Segment) : Prop :=
  match step with
  | .validate | .resourceRequest | .launchCommand => g.toList = []
  | .attemptPolicy => g.toList = g.info.toList
  | .submit => g.toList = g.info.toList ++ g.post.toList
  | .credential => ∃ e ∈ g.post, e.answer?.isSome = true

/-- A submission over a negotiator, whose session is open as long as the submission is. -/
structure Submission.IsOver (n : RestNegotiator) (s : Submission) (w : World) : Prop where
  negotiator : s.negotiator = n.operations
  connected : n.IsConnected w
  named : ApplicationId.isValid s.handle = true
  isOpen : s.state ≠ .closed → n.isOpen w = true

section Posts

/-- The first field of a record on the wire is left out, or its entry is the first one. -/
theorem slotWireForms_cons {sparse : Bool} {f : Field} {fs : List Field} {slot : Option Part}
    {slots : List (Option Part)} {es : List (Value × Value)}
    (h : slotWireForms sparse (f :: fs) (slot :: slots) = .ok es) :
    slotWireForms sparse fs slots = .ok es ∨
      ∃ v more, es = (.text f.wire, v) :: more ∧ slotWireForms sparse fs slots = .ok more := by
  cases slot with
  | none =>
    unfold slotWireForms at h
    split at h
    · exact Or.inl h
    · obtain ⟨more, hmore, h⟩ := bind_eq_ok h
      cases h
      exact Or.inr ⟨_, more, rfl, hmore⟩
  | some p =>
    unfold slotWireForms at h
    split at h
    · exact Or.inl h
    · obtain ⟨v, -, h⟩ := bind_eq_ok h
      obtain ⟨more, hmore, h⟩ := bind_eq_ok h
      cases h
      exact Or.inr ⟨v, more, rfl, hmore⟩

/-- The keys of a record on the wire are the names of its fields. -/
theorem exists_field_of_mem_slotWireForms {sparse : Bool} {fs : List Field}
    {slots : List (Option Part)} {es : List (Value × Value)}
    (h : slotWireForms sparse fs slots = .ok es) :
    ∀ x ∈ es, ∃ f ∈ fs, x.1 = .text f.wire := by
  induction fs generalizing slots es with
  | nil =>
    unfold slotWireForms at h
    cases h
    simp
  | cons f fs ih =>
    have hlater : ∀ {slots es}, slotWireForms sparse fs slots = .ok es →
        ∀ x ∈ es, ∃ f' ∈ f :: fs, x.1 = .text f'.wire := by
      intro slots es hes x hx
      obtain ⟨f', hf', heq⟩ := ih hes x hx
      exact ⟨f', List.mem_cons_of_mem _ hf', heq⟩
    cases slots with
    | nil =>
      cases h
      simp
    | cons slot slots =>
      rcases slotWireForms_cons h with h | ⟨v, more, rfl, hmore⟩
      · exact hlater h
      · intro x hx
        rcases List.mem_cons.mp hx with rfl | hx
        · exact ⟨f, by simp, rfl⟩
        · exact hlater hmore x hx

theorem mem_of_mem_pruneEntries {es : List (Value × Value)} {x : Value × Value}
    (h : x ∈ pruneEntries es) : ∃ y ∈ es, x.1 = y.1 := by
  induction es with
  | nil => cases h
  | cons y es ih =>
    unfold pruneEntries at h
    split at h
    · rcases List.mem_cons.mp h with rfl | h
      · exact ⟨y, by simp, rfl⟩
      · obtain ⟨z, hz, heq⟩ := ih h
        exact ⟨z, List.mem_cons_of_mem _ hz, heq⟩
    · obtain ⟨z, hz, heq⟩ := ih h
      exact ⟨z, List.mem_cons_of_mem _ hz, heq⟩

/-- The message of a submission begins with the application id, and has it only there. -/
theorem toMapping_context {id : String} {slots : List (Option Part)} {v : Value}
    (h : (Part.record .submissionContext (some (.leaf (.text id)) :: slots)).toMapping = .ok v) :
    ∃ more, v = .mapping ((.text "application-id", .text id) :: more) ∧
      ∀ x ∈ more, x.1 ≠ .text "application-id" := by
  have hfields : ∃ f fs, Model.submissionContext.fields = f :: fs ∧ f.wire = "application-id" ∧
      ∀ f' ∈ fs, f'.wire ≠ "application-id" := ⟨_, _, rfl, by decide, by decide⟩
  obtain ⟨f, fs, hfields, hname, hothers⟩ := hfields
  unfold Part.toMapping Part.wireForm at h
  rw [hfields, show Model.submissionContext.omitsDefaults = false from rfl] at h
  unfold slotWireForms at h
  rcases hrest : slotWireForms false fs slots with x | rest
  · simp [Part.wireForm, plainValue, hrest, bind, Except.bind] at h
  · simp [Part.wireForm, plainValue, hrest, bind, Except.bind, pure, Except.pure, prune,
      pruneEntries, isKept, hname] at h
    refine ⟨_, h.symm, fun x hx heq => ?_⟩
    obtain ⟨y, hy, hxy⟩ := mem_of_mem_pruneEntries hx
    obtain ⟨f', hf', hyf⟩ := exists_field_of_mem_slotWireForms hrest y hy
    rw [hxy, hyf] at heq
    exact hothers f' hf' (Value.text.inj heq)

theorem contextPart_handle {id : String} {request : ResourceRequest} {spec : LaunchSpec}
    {policy : AttemptPolicy} {parameters : Parameters} {unmanaged : Value} {p : Part}
    (h : contextPart (.handle (.text id)) request spec policy parameters unmanaged = .ok p) :
    ∃ slots, p = .record .submissionContext (some (.leaf (.text id)) :: slots) := by
  obtain ⟨name, hname, h⟩ := bind_eq_ok h
  cases hname
  obtain ⟨container, -, h⟩ := bind_eq_ok h
  obtain ⟨tags, -, h⟩ := bind_eq_ok h
  cases h
  exact ⟨_, rfl⟩

theorem posts_of_body {o : SubmissionOrder} {id : String} {e : Exchange} {data : Value}
    (ho : o.handle = .handle (.text id)) (h : o.body = .ok data) (he : e.request.data = data) :
    e.Posts id := by
  obtain ⟨context, hcontext, h⟩ := bind_eq_ok h
  obtain ⟨v, hmapping, h⟩ := bind_eq_ok h
  rw [ho] at hcontext
  obtain ⟨slots, rfl⟩ := contextPart_handle hcontext
  obtain ⟨more, rfl, hmore⟩ := toMapping_context hmapping
  obtain ⟨text, htext, h⟩ := bind_eq_ok h
  cases h
  exact ⟨more, text, htext, hmore, he⟩

end Posts

section Silence

variable {α β : Type} {id : Nat} {w w' : World}

/-- An operation that talks to nobody, and whose failures are its own. -/
def Run.IsSilent (id : Nat) (x : Run α) : Prop :=
  ∀ w w' r, x w = (r, w') → Asks id w [] w' ∧ ∀ f, r = .error f → f.IsBare

namespace Run.IsSilent

theorem bind {x : Run α} {f : α → Run β} (hx : x.IsSilent id) (hf : ∀ a, (f a).IsSilent id) :
    (x >>= f).IsSilent id := by
  intro w w' r h
  rcases Run.bind_cases h with ⟨e, he, rfl⟩ | ⟨a, w₁, ha, h⟩
  · obtain ⟨hasks, hbare⟩ := hx _ _ _ he
    exact ⟨hasks, fun g hg => hbare g (congrArg Except.error (Except.error.inj hg))⟩
  · obtain ⟨hasks, -⟩ := hx _ _ _ ha
    obtain ⟨hrest, hbare⟩ := hf a _ _ _ h
    exact ⟨hasks.trans hrest, hbare⟩

theorem pure (a : α) : (Pure.pure a : Run α).IsSilent id := by
  intro w w' r h
  cases h
  exact ⟨Asks.refl id w, by simp⟩

theorem ofExcept (x : Except Reason α) : (Run.ofExcept x).IsSilent id := by
  intro w w' r h
  cases x with
  | ok a =>
    cases h
    exact ⟨Asks.refl id w, by simp⟩
  | error e =>
    cases h
    refine ⟨Asks.refl id w, fun f hf => ?_⟩
    cases hf
    rfl

theorem get : (MonadState.get : Run World).IsSilent id := by
  intro w w' r h
  cases h
  exact ⟨Asks.refl id w, by simp⟩

theorem log (level : Int) (m : String) : (Run.log level m).IsSilent id := by
  intro w w' r h
  rcases Run.log_cases level m w with hl | ⟨x, hl, -⟩
  · rw [hl] at h
    cases h
    exact ⟨Asks.refl id w, by simp⟩
  · rw [hl] at h
    cases h
    refine ⟨Asks.refl id w, fun f hf => ?_⟩
    cases hf
    rfl

theorem warn (kind : SubmissionWarning) (m : String) : (warn kind m).IsSilent id := by
  refine bind (log warningLevel m) fun _ => ?_
  intro w w' r h
  cases h
  exact ⟨⟨⟨rfl, (List.append_nil _).symm, rfl, rfl, rfl⟩, rfl, rfl, rfl⟩, by simp⟩

end Run.IsSilent

end Silence

namespace Submission

variable {n : RestNegotiator} {s : Submission} {w w' : World} {id : Nat}

theorem resourceRequest_isSilent : s.resourceRequest.IsSilent id := by
  unfold resourceRequest
  refine .bind (.ofExcept _) fun memory => .bind (.ofExcept _) fun capped => ?_
  cases capped with
  | false => exact .pure _
  | true =>
    exact .bind (.ofExcept _) fun _ => .bind (.ofExcept _) fun _ => .bind (.warn _ _) fun _ =>
      .pure _

theorem launchSpec_isSilent (r : ResourceRequest) : (s.launchSpec r).IsSilent id := by
  unfold launchSpec
  exact .bind (.ofExcept _) fun _ => .bind (.ofExcept _) fun _ => .bind (.ofExcept _) fun _ =>
    .bind .get fun _ => .pure _

/-- How the version that is known depends on whether it was asked for. -/
inductive Learns {α : Type} (n : RestNegotiator) (w : World) :
    Option Exchange → Except Failure α → World → Prop
  | unasked (r : Except Failure α) (w' : World) (h : n.version? w' = n.version? w) :
    Learns n w none r w'
  | learnt (e : Exchange) (v : Version) (r : Except Failure α) (w' : World)
      (hw : n.version? w = none) (he : e.version? = some v) (hv : n.version? w' = some v) :
    Learns n w (some e) r w'
  | failed (e : Exchange) (f : Failure) (w' : World) (hw : n.version? w = none)
      (hv : n.version? w' = none) (he : e.version? = none ∨ IsConsoleFault w f) :
    Learns n w (some e) (.error f) w'

/-- What choosing the attempt policy does: it may send one request, for the version. -/
structure IsChoice {α : Type} (n : RestNegotiator) (s : Submission) (w : World)
    (info : Option Exchange) (r : Except Failure α) (w' : World) : Prop where
  talks : Talks n.manager.session w info.toList w'
  tokenStores : w'.tokenStores = w.tokenStores
  tokenSinks : w'.tokenSinks = w.tokenSinks
  passes : Passes info.toList r
  learns : Learns n w info r w'
  info_to : ∀ e ∈ info, e.IsTo n.manager.address .info
  info_kept : info.isSome = true → s.parameters.keepContainers.isSet = true

section Choice

variable {α β : Type} {info : Option Exchange} {w₁ : World}

theorem Learns.of_ok {a : α} {r : Except Failure β}
    (h : Learns n w info (.ok a : Except Failure α) w₁) (hv : n.version? w' = n.version? w₁) :
    Learns n w info r w' := by
  cases h with
  | unasked x y h => exact .unasked r w' (hv.trans h)
  | learnt e v x y hw he hknown => exact .learnt e v r w' hw he (hv.trans hknown)

theorem Learns.of_error {f : Failure} (h : Learns n w info (.error f : Except Failure α) w₁) :
    Learns n w info (.error f : Except Failure β) w₁ := by
  cases h with
  | unasked x y h => exact .unasked _ w₁ h
  | learnt e v x y hw he hknown => exact .learnt e v _ w₁ hw he hknown
  | failed e f y hw hv he => exact .failed e f w₁ hw hv he

theorem Learns.unknown {e : Exchange} {r : Except Failure α} (h : Learns n w info r w')
    (he : e ∈ info) : n.version? w = none := by
  cases h with
  | unasked => cases he
  | learnt e v r w' hw => exact hw
  | failed e f w' hw => exact hw

theorem Learns.known {r : Except Failure α} (h : Learns n w info r w')
    (hv : n.version? w ≠ none) : n.version? w' ≠ none := by
  cases h with
  | unasked r w' h => rwa [h]
  | learnt e v r w' hw => exact absurd hw hv
  | failed e f w' hw => exact absurd hw hv

theorem Learns.outcome {e : Exchange} {r : Except Failure α} (h : Learns n w info r w')
    (he : e ∈ info) : n.version? w' ≠ none ∨
      ∃ f, r = .error f ∧ (e.version? = none ∨ IsConsoleFault w f) := by
  cases h with
  | unasked => cases he
  | learnt x v r w' hw hx hv => exact Or.inl (by simp [hv])
  | failed x f w' hw hv hx =>
    cases he
    exact Or.inr ⟨f, rfl, hx⟩

theorem IsChoice.none {r : Except Failure α} (h : Asks n.manager.session w [] w')
    (hr : ∀ f, r = .error f → f.IsBare) : IsChoice n s w none r w' :=
  ⟨h.toTalks, h.tokenStores, h.tokenSinks, .nil hr, .unasked r w' h.version, by simp, by simp⟩

theorem IsChoice.of_ok {a : α} {r : Except Failure β}
    (h : IsChoice n s w info (.ok a : Except Failure α) w₁)
    (hasks : Asks n.manager.session w₁ [] w') (hr : ∀ f, r = .error f → f.IsBare) :
    IsChoice n s w info r w' := by
  have htalks := h.talks.trans hasks.toTalks
  have hpasses := h.passes.append (.nil hr)
  rw [List.append_nil] at htalks hpasses
  exact ⟨htalks, hasks.tokenStores.trans h.tokenStores, hasks.tokenSinks.trans h.tokenSinks,
    hpasses, h.learns.of_ok hasks.version, h.info_to, h.info_kept⟩

theorem IsChoice.bind {x : Run α} {k : α → Run β} {r₁ : Except Failure α} {r : Except Failure β}
    (hx : x w = (r₁, w₁)) (hc : IsChoice n s w info r₁ w₁)
    (hk : ∀ a, (k a).IsSilent n.manager.session) (h : (x >>= k) w = (r, w')) :
    IsChoice n s w info r w' := by
  cases r₁ with
  | error f =>
    rw [Run.bind_of_error hx] at h
    cases h
    exact ⟨hc.talks, hc.tokenStores, hc.tokenSinks, hc.passes.error, hc.learns.of_error,
      hc.info_to, hc.info_kept⟩
  | ok a =>
    rw [Run.bind_of_ok hx] at h
    obtain ⟨hasks, hbare⟩ := hk a _ _ _ h
    exact hc.of_ok hasks hbare

end Choice

theorem clusterVersion_isChoice (hc : n.IsConnected w) (ho : n.isOpen w = true)
    (hk : s.parameters.keepContainers.isSet = true) {r : Except Failure Version}
    (h : n.clusterVersion w = (r, w')) : ∃ info, IsChoice n s w info r w' := by
  rcases hv : n.version? w with _ | v
  · obtain ⟨e, hto, hasks⟩ := RestNegotiator.clusterVersion_of_unknown hc ho hv h
    refine ⟨some e, hasks.talks, hasks.tokenStores, hasks.tokenSinks,
      hasks.ends.passes fun a f => readVersion_isBare, ?_, ?_, fun _ => hk⟩
    · rcases hasks.known with ⟨v, he, hknown⟩ | ⟨hnone, f, rfl, he⟩
      · exact .learnt e v r w' hv he hknown
      · exact .failed e f w' hv hnone he
    · intro x hx
      cases hx
      exact hto
  · rw [RestNegotiator.clusterVersion_of_known ho hv] at h
    cases h
    exact ⟨none, Talks.refl _ _, rfl, rfl, .nil (by simp), .unasked _ _ rfl,
      by simp, by simp⟩

theorem keepsContainers_isChoice (hs : s.IsOver n w) (ho : n.isOpen w = true)
    {r : Except Failure Value} (h : s.keepsContainers w = (r, w')) :
    ∃ info, IsChoice n s w info r w' := by
  unfold keepsContainers at h
  by_cases hk : s.parameters.keepContainers.isSet = true
  · simp only [hk, Bool.not_true, Bool.false_eq_true, if_false] at h
    rw [hs.negotiator] at h
    rcases hask : n.clusterVersion w with ⟨r₁, w₁⟩
    obtain ⟨info, hchoice⟩ := clusterVersion_isChoice hs.connected ho hk hask
    refine ⟨info, hchoice.bind hask (fun v => ?_) h⟩
    split
    · exact .bind (.log _ _) fun _ => .pure _
    · exact .bind (.warn _ _) fun _ => .pure _
  · have hunset : s.parameters.keepContainers.isSet = false := by simpa using hk
    simp only [hunset, Bool.not_false, if_true] at h
    cases h
    exact ⟨none, .none (Asks.refl _ _) (by simp)⟩

theorem attemptPolicy_isChoice (hs : s.IsOver n w) (ho : n.isOpen w = true)
    {r : Except Failure AttemptPolicy} (h : s.attemptPolicy w = (r, w')) :
    ∃ info, IsChoice n s w info r w' := by
  unfold attemptPolicy at h
  rcases hkeep : s.keepsContainers w with ⟨r₁, w₁⟩
  obtain ⟨info, hchoice⟩ := keepsContainers_isChoice hs ho hkeep
  refine ⟨info, hchoice.bind hkeep (fun v => ?_) h⟩
  dsimp only
  split
  · exact .bind (.warn _ _) fun _ => .pure _
  · exact .pure _

/-- What is read of the answer to handing over: only its text can be at fault. -/
theorem acceptance_error {a : Response} {f : Failure}
    (h : (answerValue a >>= fun _ => (.ok () : Except Failure Unit)) = .error f) :
    f.IsBare ∧ ResourceManager.answerContent a = .error .illFormedText := by
  rcases bind_eq_error h with ha | ⟨v, -, h⟩
  · obtain ⟨rfl, hcontent⟩ := answerValue_error ha
    exact ⟨rfl, hcontent⟩
  · cases h

/-- The application is handed over with one request, or not at all. -/
theorem handOver_cases {o : SubmissionOrder} (hs : s.IsOver n w) (ho : n.isOpen w = true)
    {r : Except Failure Unit} (h : s.handOver o w = (r, w')) :
    (∃ f, r = .error f ∧ f.IsBare ∧ Asks n.manager.session w [] w') ∨
    ∃ (e : Exchange) (data : Value), o.body = .ok data ∧ e.IsTo n.manager.address .apps ∧
      e.request.data = data ∧ Asks n.manager.session w [e] w' ∧
      Ends w e (fun a => answerValue a >>= fun _ => .ok ()) r := by
  have hsteps : s.handOver o = ((do
      Run.info ("Submitting application '" ++ s.handle ++ "' to YARN")
      Run.info ("Driver command: " ++ (← Run.ofExcept (Message.lineOf o.spec)))) >>=
        fun _ => n.submit o) := by
    unfold handOver
    rw [hs.negotiator]
    simp only [bind_assoc]
    rfl
  have hsilent : Run.IsSilent n.manager.session (do
      Run.info ("Submitting application '" ++ s.handle ++ "' to YARN")
      Run.info ("Driver command: " ++ (← Run.ofExcept (Message.lineOf o.spec)))) :=
    .bind (.log _ _) fun _ => .bind (.ofExcept _) fun _ => .log _ _
  rw [hsteps] at h
  rcases Run.bind_cases h with ⟨f, hf, rfl⟩ | ⟨a, w₁, ha, h⟩
  · obtain ⟨hasks, hbare⟩ := hsilent _ _ _ hf
    exact Or.inl ⟨f, rfl, hbare f rfl, hasks⟩
  · obtain ⟨hasks, -⟩ := hsilent _ _ _ ha
    have hc₁ := hs.connected.of_talks hasks.toTalks
    have ho₁ := RestNegotiator.isOpen_of_talks ho hasks.toTalks
    rcases RestNegotiator.submit_cases hc₁ ho₁ h with
      ⟨f, rfl, rfl, hf⟩ | ⟨e, data, hdata, hto, hed, hsends, hends⟩
    · refine Or.inl ⟨f, rfl, ?_, hasks⟩
      rcases hf with hf | ⟨x, -, rfl⟩
      · exact hf.2.1
      · rfl
    · exact Or.inr ⟨e, data, hdata, hto, hed, hasks.trans hsends.toAsks,
        hends.of_talks hasks.toTalks⟩

theorem exists_tail_of_obtains {sent : List Exchange} {handle : String}
    {r : Except Failure Credential} (h : RestNegotiator.Obtains n handle w sent r) :
    ∃ looks token, sent = looks ++ Option.toList token ∧ IsTail n handle looks token := by
  have hlooks : ∀ {looks last}, RestNegotiator.IsWait n handle looks last →
      IsTail n handle (looks ++ [last]) none := by
    intro looks last hw
    refine ⟨hw.target, ?_, by simp, by simp⟩
    rw [List.dropLast_concat]
    exact hw.pending
  cases h with
  | untimed f hf => exact ⟨[], none, rfl, by simp, by simp, by simp, by simp⟩
  | looking looks last f hw | late looks last f hw | notAlive looks last p f hw
  | unwritable looks last x hw => exact ⟨looks ++ [last], none, by simp, hlooks hw⟩
  | token looks last e service r hw ha hto hends =>
    refine ⟨looks ++ [last], some e, rfl, hw.target, (hlooks hw).pending, ?_, ?_⟩
    · intro x hx
      cases hx
      exact hto
    · intro x hx
      exact ⟨last, List.getLast?_concat, ha⟩

theorem service_of_obtains {sent : List Exchange} {handle : String} {c : Credential}
    (h : RestNegotiator.Obtains n handle w sent (.ok c)) : ∃ t, c.service = .text t := by
  generalize hr : (.ok c : Except Failure Credential) = r at h
  cases h with
  | token looks last e service r hw ha hto hends =>
    subst hr
    obtain ⟨a, -, hread⟩ := hends.ok
    obtain ⟨p, -, hc⟩ := bind_eq_ok hread
    cases hc
    exact ⟨service, rfl⟩
  | untimed | looking | late | notAlive | unwritable => cases hr

theorem recordCredential_cases (store : Nat) (user : Value) (c : Credential) (w : World) :
    (∃ stores, recordCredential store user c w = (.ok (), { w with tokenStores := stores })) ∨
      ∃ x, recordCredential store user c w = (.error (Reason.failure x), w) := by
  unfold recordCredential
  rw [Run.get_bind]
  rcases (w.tokenStore store).add user c with x | kept
  · exact Or.inr ⟨x, rfl⟩
  · exact Or.inl ⟨_, rfl⟩

theorem addCredential_cases (sink : Nat) {c : Credential} (hc : ∃ t, c.service = .text t)
    (w : World) :
    (∃ sinks, addCredential sink c w = (.ok (), { w with tokenSinks := sinks })) ∨
      ∃ f, addCredential sink c w = (.error f, w) ∧ IsConsoleFault w f := by
  obtain ⟨t, ht⟩ := hc
  have hkey : ((w.tokenSink sink).aliasFor c.service).isKey = true := by
    unfold CredentialSink.aliasFor Value.orElse
    rw [ht]
    split <;> rfl
  unfold addCredential
  rw [Run.get_bind]
  rcases Run.debug_cases ("Adding " ++ c.kind.plain ++ " as '"
    ++ ((w.tokenSink sink).aliasFor c.service).plain ++ "'") w with hd | ⟨f, hd, hf⟩
  · rw [Run.bind_of_ok hd]
    unfold putToken CredentialSink.put
    rw [Run.get_bind, hkey]
    exact Or.inl ⟨_, rfl⟩
  · rw [Run.bind_of_error hd]
    exact Or.inr ⟨f, rfl, hf⟩

/-- A credential is recorded, and its token put into the sink. Where no record fails, this happens
as a whole or not at all. -/
theorem storing_spec (id : Nat) {store sink : Nat} {user : Value} {c : Credential} {m : String}
    (hc : ∃ t, c.service = .text t) {r : Except Failure Unit}
    (h : (recordCredential store user c >>= fun _ => Run.debug m >>= fun _ =>
      addCredential sink c) w = (r, w')) :
    Talks id w [] w' ∧ w'.sessions = w.sessions ∧ ∀ f, r = .error f → f.IsBare ∧
      (w.isTalkative = false → w'.tokenStores = w.tokenStores ∧ w'.tokenSinks = w.tokenSinks) := by
  have hfault : ∀ {w₁ : World} {f}, w₁.isTalkative = w.isTalkative → IsConsoleFault w₁ f →
      ∀ g, (.error f : Except Failure Unit) = .error g → g.IsBare ∧
        (w.isTalkative = false → w₁.tokenStores = w.tokenStores ∧
          w₁.tokenSinks = w.tokenSinks) := by
    intro w₁ f hloud hf g hg
    refine ⟨Except.error.inj hg ▸ hf.2.1, fun hquiet => ?_⟩
    exact absurd hf (not_isConsoleFault (hloud.trans hquiet) f)
  rcases recordCredential_cases store user c w with ⟨stores, hrecord⟩ | ⟨x, hrecord⟩
  · rw [Run.bind_of_ok hrecord] at h
    have htalks : Talks id w [] { w with tokenStores := stores } :=
      ⟨rfl, (List.append_nil _).symm, rfl, rfl, rfl⟩
    rcases Run.debug_cases m { w with tokenStores := stores } with hd | ⟨f, hd, hf⟩
    · rw [Run.bind_of_ok hd] at h
      rcases addCredential_cases sink hc { w with tokenStores := stores } with
        ⟨sinks, hadd⟩ | ⟨f, hadd, hf⟩
      · rw [hadd] at h
        cases h
        exact ⟨⟨rfl, (List.append_nil _).symm, rfl, rfl, rfl⟩, rfl, by simp⟩
      · rw [hadd] at h
        cases h
        exact ⟨htalks, rfl, hfault rfl hf⟩
    · rw [Run.bind_of_error hd] at h
      cases h
      exact ⟨htalks, rfl, hfault rfl hf⟩
  · rw [Run.bind_of_error hrecord] at h
    cases h
    refine ⟨Talks.refl id w, rfl, fun f hf => ⟨?_, fun _ => ⟨rfl, rfl⟩⟩⟩
    cases hf
    rfl

/-- What delivering the credential does: it looks at the application and may ask for a token. The
tokens that are kept only change with success, as far as no record fails. -/
structure IsDelivery (n : RestNegotiator) (s : Submission) (w : World) (looks : List Exchange)
    (token : Option Exchange) (r : Except Failure Credential) (w' : World) : Prop
    extends IsTail n s.handle looks token where
  talks : Talks n.manager.session w (looks ++ token.toList) w'
  version : n.version? w' = n.version? w
  passes : Passes (looks ++ token.toList) r
  tokens : ∀ f, r = .error f → w.isTalkative = false →
    w'.tokenStores = w.tokenStores ∧ w'.tokenSinks = w.tokenSinks

theorem deliverCredential_spec (hs : s.IsOver n w) (ho : n.isOpen w = true)
    {r : Except Failure Credential} (h : s.deliverCredential w = (r, w')) :
    ∃ looks token, IsDelivery n s w looks token r w' := by
  -- Obtaining talks to the server, and what comes behind it only stores.
  have hsteps : s.deliverCredential = (n.obtainCredential s.handleValue >>= fun c =>
      (recordCredential s.manager.store s.manager.user c >>= fun _ =>
        Run.debug ("Recorded " ++ c.kind.plain ++ " of '" ++ s.handle ++ "' for '"
          ++ s.manager.user.plain ++ "'") >>= fun _ => addCredential s.sink c) >>=
        fun _ => pure c) := by
    unfold deliverCredential TokenManager.issue
    rw [hs.negotiator]
    simp only [bind_assoc]
    rfl
  rw [hsteps] at h
  rcases hobtain : n.obtainCredential s.handleValue w with ⟨r₁, w₁⟩
  obtain ⟨sent, hasks, hobtains⟩ :=
    RestNegotiator.obtainCredential_spec hs.connected ho hs.named hobtain
  obtain ⟨looks, token, rfl, htail⟩ := exists_tail_of_obtains hobtains
  refine ⟨looks, token, ?_⟩
  cases r₁ with
  | error f =>
    rw [Run.bind_of_error hobtain] at h
    cases h
    exact ⟨htail, hasks.toTalks, hasks.version, hobtains.passes,
      fun _ _ _ => ⟨hasks.tokenStores, hasks.tokenSinks⟩⟩
  | ok c =>
    rw [Run.bind_of_ok hobtain] at h
    rcases hstore : (recordCredential s.manager.store s.manager.user c >>= fun _ =>
      Run.debug ("Recorded " ++ c.kind.plain ++ " of '" ++ s.handle ++ "' for '"
        ++ s.manager.user.plain ++ "'") >>= fun _ => addCredential s.sink c) w₁ with ⟨r₂, w₂⟩
    obtain ⟨htalks, hsessions, hfailed⟩ :=
      storing_spec n.manager.session (service_of_obtains hobtains) hstore
    rw [Run.bind_pure hstore] at h
    cases h
    have hversion : n.version? w' = n.version? w := by
      rw [← show n.version? w₁ = n.version? w from hasks.version]
      unfold RestNegotiator.version? World.session
      rw [hsessions]
    have hsent := hasks.toTalks.trans htalks
    cases r₂ with
    | ok _ =>
      rw [List.append_nil] at hsent
      exact ⟨htail, hsent, hversion, hobtains.passes, fun f hf => (by cases hf)⟩
    | error f =>
      have hpasses : Passes (looks ++ token.toList ++ []) (.error f : Except Failure Credential) :=
        hobtains.passes.append (.nil fun g hg => (hfailed g (by cases hg; rfl)).1)
      rw [List.append_nil] at hsent hpasses
      refine ⟨htail, hsent, hversion, hpasses, fun g _ hquiet => ?_⟩
      obtain ⟨hstores, hsinks⟩ := (hfailed f rfl).2 (hasks.toTalks.isTalkative.trans hquiet)
      exact ⟨hstores.trans hasks.tokenStores, hsinks.trans hasks.tokenSinks⟩

/-- The record of a step never fails, so a step ends as its body does. -/
theorem inStep_apply {α : Type} (step : SubmissionStep) (body : Run α)
    (hid : ApplicationId.isValid s.handle = true) (w : World) :
    s.inStep step body w = match body w with
      | (.ok a, w) => (.ok a, w)
      | (.error f, w) => (.error (f.inStep s.handle step), w) := by
  have hline : Log.ClosesNothing
      ("Submission step '" ++ step.name ++ "' of application '" ++ s.handle ++ "'").toList :=
    closesNothing_handle hid (by cases step <;> decide) (by decide)
  unfold inStep
  exact Run.bind_of_ok (Run.debug_of_closesNothing hline w)

theorem inStep_of_ok {α : Type} {step : SubmissionStep} {body : Run α} {a : α}
    (hid : ApplicationId.isValid s.handle = true) (h : body w = (.ok a, w')) :
    s.inStep step body w = (.ok a, w') := by
  rw [inStep_apply step body hid, h]

theorem inStep_of_error {α : Type} {step : SubmissionStep} {body : Run α} {f : Failure}
    (hid : ApplicationId.isValid s.handle = true) (h : body w = (.error f, w')) :
    s.inStep step body w = (.error (f.inStep s.handle step), w') := by
  rw [inStep_apply step body hid, h]

/-- A step fails with its own failure, or the attempt goes on behind it. -/
theorem inStep_bind_cases {α β : Type} {step : SubmissionStep} {body : Run α} {k : α → Run β}
    (hid : ApplicationId.isValid s.handle = true) {r : Except Failure β}
    (h : (s.inStep step body >>= k) w = (r, w')) :
    (∃ f, body w = (.error f, w') ∧ r = .error (f.inStep s.handle step)) ∨
      ∃ a w₁, body w = (.ok a, w₁) ∧ k a w₁ = (r, w') := by
  rcases hbody : body w with ⟨f | a, w₁⟩
  · rw [Run.bind_of_error (inStep_of_error hid hbody)] at h
    cases h
    exact Or.inl ⟨f, rfl, rfl⟩
  · rw [Run.bind_of_ok (inStep_of_ok hid hbody)] at h
    exact Or.inr ⟨a, w₁, rfl, h⟩

/-- An attempt that failed in a step, with the failure that was raised there. -/
structure FailsIn (n : RestNegotiator) (s : Submission) (w : World) (g : Segment)
    (step : SubmissionStep) (f : Failure) (w' : World) : Prop where
  allowed : step.Allows g
  passes : Passes g.toList (.error f : Except Failure Unit)
  learns : Learns n w g.info (.error f : Except Failure Unit) w'
  kept : w.isTalkative = false → w'.tokenStores = w.tokenStores ∧ w'.tokenSinks = w.tokenSinks
  unread : step = .submit → ∀ e ∈ g.post, ∀ a, e.answer? = some a →
    ResourceManager.answerContent a = .error .illFormedText ∨ IsConsoleFault w f
  unmanaged : step = .credential → s.unmanaged.isSet = true

/-- An attempt that succeeded. -/
structure Succeeds (n : RestNegotiator) (w : World) (g : Segment) (w' : World) : Prop where
  learns : Learns n w g.info (.ok () : Except Failure Unit) w'
  posted : ∃ e ∈ g.post, e.answer?.isSome = true

/-- What an attempt at submitting does, by its segment and its result. -/
structure IsAttempt (n : RestNegotiator) (s : Submission) (w : World) (g : Segment)
    (r : Except Failure (SubmissionReport × Submission)) (w' : World) : Prop
    extends g.IsLawful n s where
  talks : Talks n.manager.session w g.toList w'
  outcome : (∃ report, r = .ok (report, { s with state := .submitted }) ∧ Succeeds n w g w') ∨
    ∃ step f, r = .error (f.inStep s.handle step) ∧ FailsIn n s w g step f w'

theorem IsOver.of_talks {sent : List Exchange} {w₁ : World} (h : s.IsOver n w)
    (ht : Talks n.manager.session w sent w₁) : s.IsOver n w₁ :=
  ⟨h.negotiator, h.connected.of_talks ht, h.named,
    fun hs => RestNegotiator.isOpen_of_talks (h.isOpen hs) ht⟩

theorem IsChoice.of_asks {α : Type} {info : Option Exchange} {r : Except Failure α} {w₁ : World}
    (ha : Asks n.manager.session w [] w₁) (h : IsChoice n s w₁ info r w') :
    IsChoice n s w info r w' := by
  refine ⟨ha.toTalks.trans h.talks, h.tokenStores.trans ha.tokenStores,
    h.tokenSinks.trans ha.tokenSinks, h.passes, ?_, h.info_to, h.info_kept⟩
  have hversion : n.version? w₁ = n.version? w := ha.version
  cases h.learns with
  | unasked x y h => exact .unasked r w' (h.trans hversion)
  | learnt e v x y hw he hknown => exact .learnt e v r w' (hversion ▸ hw) he hknown
  | failed e f y hw hv he =>
    refine .failed e f w' (hversion ▸ hw) hv ?_
    rcases he with he | he
    · exact Or.inl he
    · exact Or.inr (ha.toTalks.isConsoleFault.mp he)

/-- An attempt that fails before the application is handed over sent nothing but what the choice of
the attempt policy did. -/
theorem isAttempt_of_choice {step : SubmissionStep} {α : Type} {info : Option Exchange}
    {f : Failure} (h : IsChoice n s w info (.error f : Except Failure α) w')
    (hstep : step.Allows { info }) (hsubmit : step ≠ .credential) :
    IsAttempt n s w { info } (.error (f.inStep s.handle step)) w' := by
  have hlist : ({ info } : Segment).toList = info.toList := by simp [Segment.toList]
  refine ⟨⟨⟨by simp, by simp, by simp, by simp⟩, h.info_to, h.info_kept, by simp, by simp⟩,
    hlist ▸ h.talks, Or.inr ⟨step, f, rfl, ⟨hstep, ?_, h.learns.of_error,
      fun _ => ⟨h.tokenStores, h.tokenSinks⟩, by simp, fun he => absurd he hsubmit⟩⟩⟩
  rw [hlist]
  exact h.passes.error

theorem deliver_isAttempt {report : Option Credential → SubmissionReport} {info : Option Exchange}
    {e : Exchange} {w₁ : World} (hs : s.IsOver n w) (ho : n.isOpen w = true)
    (hlaw : ({ info, post := some e } : Segment).IsLawful n s)
    (htalks : Talks n.manager.session w (info.toList ++ [e]) w₁)
    (hstores : w₁.tokenStores = w.tokenStores) (hsinks : w₁.tokenSinks = w.tokenSinks)
    (hpasses : Passes (info.toList ++ [e]) (.ok () : Except Failure Unit))
    (hlearns : Learns n w info (.ok () : Except Failure Unit) w₁)
    (ha : e.answer?.isSome = true) {r : Except Failure (SubmissionReport × Submission)}
    (h : (if s.unmanaged.isSet = true then
      s.inStep .credential s.deliverCredential >>= fun c =>
        pure (report (some c), { s with state := .submitted })
      else pure (report none, { s with state := .submitted })) w₁ = (r, w')) :
    ∃ g, IsAttempt n s w g r w' := by
  by_cases hu : s.unmanaged.isSet = true
  · simp only [hu, if_true] at h
    have hs₁ := hs.of_talks htalks
    have ho₁ := RestNegotiator.isOpen_of_talks ho htalks
    have hlawful : ∀ {looks token}, IsTail n s.handle looks token →
        ({ info, post := some e, looks, token } : Segment).IsLawful n s := fun htail =>
      ⟨htail, hlaw.info_to, hlaw.info_kept, hlaw.post_to, fun _ => ⟨hu, e, rfl, ha⟩⟩
    rcases inStep_bind_cases hs.named h with ⟨f, hf, rfl⟩ | ⟨c, w₂, hc, h⟩
    · obtain ⟨looks, token, hd⟩ := deliverCredential_spec hs₁ ho₁ hf
      refine ⟨_, hlawful hd.toIsTail, htalks.trans hd.talks, Or.inr ⟨.credential, f, rfl, ?_⟩⟩
      refine ⟨⟨e, rfl, ha⟩, hpasses.append hd.passes.error, hlearns.of_ok hd.version, ?_, by simp,
        fun _ => hu⟩
      intro hquiet
      obtain ⟨hstores', hsinks'⟩ := hd.tokens f rfl (htalks.isTalkative.trans hquiet)
      exact ⟨hstores'.trans hstores, hsinks'.trans hsinks⟩
    · obtain ⟨looks, token, hd⟩ := deliverCredential_spec hs₁ ho₁ hc
      cases h
      exact ⟨_, hlawful hd.toIsTail, htalks.trans hd.talks, Or.inl ⟨_, rfl,
        hlearns.of_ok hd.version, e, rfl, ha⟩⟩
  · have hunset : s.unmanaged.isSet = false := by simpa using hu
    simp only [hunset, Bool.false_eq_true, if_false] at h
    cases h
    refine ⟨_, hlaw, ?_, Or.inl ⟨_, rfl, hlearns, e, rfl, ha⟩⟩
    simpa [Segment.toList] using htalks

theorem handOver_isAttempt {α : Type} {policy : α} {o : SubmissionOrder} {info : Option Exchange}
    {w₁ : World} (report : Option Credential → SubmissionReport) (hs : s.IsOver n w)
    (ho : n.isOpen w = true) (hhandle : o.handle = .handle (.text s.handle))
    (hchoice : IsChoice n s w info (.ok policy) w₁)
    {r : Except Failure (SubmissionReport × Submission)}
    (h : (s.inStep .submit (s.handOver o) >>= fun _ =>
      if s.unmanaged.isSet = true then
        s.inStep .credential s.deliverCredential >>= fun c =>
          pure (report (some c), { s with state := .submitted })
      else pure (report none, { s with state := .submitted })) w₁ = (r, w')) :
    ∃ g, IsAttempt n s w g r w' := by
  have hs₁ := hs.of_talks hchoice.talks
  have ho₁ := RestNegotiator.isOpen_of_talks ho hchoice.talks
  have hlawful : ∀ {e : Exchange} {data}, o.body = .ok data → e.IsTo n.manager.address .apps →
      e.request.data = data → ({ info, post := some e } : Segment).IsLawful n s := by
    intro e data hdata hto hed
    refine ⟨⟨by simp, by simp, by simp, by simp⟩, hchoice.info_to, hchoice.info_kept, ?_, by simp⟩
    intro x hx
    cases hx
    exact ⟨hto, posts_of_body hhandle hdata hed⟩
  rcases inStep_bind_cases hs.named h with ⟨f, hf, rfl⟩ | ⟨_, w₂, hpost, h⟩
  · rcases handOver_cases hs₁ ho₁ hf with
      ⟨x, hx, hbare, hasks⟩ | ⟨e, data, hdata, hto, hed, hasks, hends⟩
    · cases hx
      have hall : IsChoice n s w info (.error f : Except Failure Unit) w' :=
        hchoice.of_ok hasks (by simpa using hbare)
      exact ⟨_, isAttempt_of_choice hall (by simp [SubmissionStep.Allows, Segment.toList])
        (by decide)⟩
    · refine ⟨_, hlawful hdata hto hed, ?_, Or.inr ⟨.submit, f, rfl, ⟨?_, ?_,
        hchoice.learns.of_ok hasks.version, fun _ => ⟨hasks.tokenStores.trans hchoice.tokenStores,
        hasks.tokenSinks.trans hchoice.tokenSinks⟩, ?_, by simp⟩⟩⟩
      · simpa [Segment.toList] using hchoice.talks.trans hasks.toTalks
      · simp [SubmissionStep.Allows, Segment.toList]
      · simpa [Segment.toList] using hchoice.passes.append
          (hends.passes fun a x hx => (acceptance_error hx).1)
      · intro _ x hx a ha
        cases hx
        rcases hends.of_answer ha with hread | ⟨x, hx, hfault⟩
        · exact Or.inl (acceptance_error hread.symm).2
        · cases hx
          exact Or.inr (hchoice.talks.isConsoleFault.mp hfault)
  · rcases handOver_cases hs₁ ho₁ hpost with
      ⟨x, hx, -⟩ | ⟨e, data, hdata, hto, hed, hasks, hends⟩
    · cases hx
    · obtain ⟨a, ha, -⟩ := hends.ok
      exact deliver_isAttempt hs ho (hlawful hdata hto hed) (hchoice.talks.trans hasks.toTalks)
        (hasks.tokenStores.trans hchoice.tokenStores) (hasks.tokenSinks.trans hchoice.tokenSinks)
        (hchoice.passes.append (hends.passes fun a x hx => (acceptance_error hx).1))
        (hchoice.learns.of_ok hasks.version) (by simp [ha]) h

theorem validate_ok (h : s.validate = .ok ()) :
    s.state = .configuring ∧ s.parameters.driverHost.isSet = true := by
  unfold validate at h
  by_cases hstate : s.state = .configuring
  · by_cases hhost : s.parameters.driverHost.isSet = true
    · exact ⟨hstate, hhost⟩
    · simp [hstate, hhost, throw, throwThe, MonadExceptOf.throw] at h
  · simp [hstate, throw, throwThe, MonadExceptOf.throw, bind, Except.bind] at h

theorem submit_isAttempt (hs : s.IsOver n w)
    {r : Except Failure (SubmissionReport × Submission)} (h : s.submit w = (r, w')) :
    ∃ g, IsAttempt n s w g r w' ∧
      (g.toList ≠ [] → s.state = .configuring ∧ s.parameters.driverHost.isSet = true) := by
  have hearly : ∀ {step : SubmissionStep} {f : Failure} {w₁ : World},
      Asks n.manager.session w [] w₁ → f.IsBare → step.Allows {} → step ≠ .credential →
      ∃ g, IsAttempt n s w g (.error (f.inStep s.handle step)) w₁ ∧
        (g.toList ≠ [] → s.state = .configuring ∧ s.parameters.driverHost.isSet = true) := by
    intro step f w₁ hasks hbare hallows hstep
    have hchoice : IsChoice n s w none (.error f : Except Failure Unit) w₁ :=
      .none hasks (by simpa using hbare)
    exact ⟨_, isAttempt_of_choice hchoice hallows hstep, by simp [Segment.toList]⟩
  -- The first three steps talk to nobody, and validating lets only what is configured pass.
  unfold submit at h
  rcases inStep_bind_cases hs.named h with ⟨f, hf, rfl⟩ | ⟨_, w₁, hvalid, h⟩
  · obtain ⟨hasks, hbare⟩ := Run.IsSilent.ofExcept _ _ _ _ hf
    exact hearly hasks (hbare f rfl) rfl (by decide)
  have hready : s.state = .configuring ∧ s.parameters.driverHost.isSet = true := by
    rcases hv : s.validate with x | _
    · rw [hv] at hvalid
      cases hvalid
    · exact validate_ok hv
  obtain ⟨hasks₁, -⟩ := Run.IsSilent.ofExcept _ _ _ _ hvalid
  rcases inStep_bind_cases hs.named h with ⟨f, hf, rfl⟩ | ⟨request, w₂, hrequest, h⟩
  · obtain ⟨hasks, hbare⟩ := resourceRequest_isSilent _ _ _ hf
    exact hearly (hasks₁.trans hasks) (hbare f rfl) rfl (by decide)
  have hasks₂ := hasks₁.trans (resourceRequest_isSilent _ _ _ hrequest).1
  rcases inStep_bind_cases hs.named h with ⟨f, hf, rfl⟩ | ⟨spec, w₃, hspec, h⟩
  · obtain ⟨hasks, hbare⟩ := launchSpec_isSilent request _ _ _ hf
    exact hearly (hasks₂.trans hasks) (hbare f rfl) rfl (by decide)
  have hasks₃ := hasks₂.trans (launchSpec_isSilent request _ _ _ hspec).1
  have hs₃ := hs.of_talks hasks₃.toTalks
  have hopen : s.state ≠ .closed := by simp [hready.1]
  have ho₃ := hs₃.isOpen hopen
  rcases inStep_bind_cases hs.named h with ⟨f, hf, rfl⟩ | ⟨policy, w₄, hpolicy, h⟩
  · obtain ⟨info, hchoice⟩ := attemptPolicy_isChoice hs₃ ho₃ hf
    exact ⟨_, isAttempt_of_choice (hchoice.of_asks hasks₃)
      (by simp [SubmissionStep.Allows, Segment.toList]) (by decide), fun _ => hready⟩
  obtain ⟨info, hchoice⟩ := attemptPolicy_isChoice hs₃ ho₃ hpolicy
  simp only [pure_bind] at h
  obtain ⟨g, hg⟩ := handOver_isAttempt (fun c => ⟨s.handle, request, spec, policy, c⟩) hs
    (hs.isOpen hopen) rfl (hchoice.of_asks hasks₃) h
  exact ⟨g, hg, fun _ => hready⟩

end Submission

end ClusterSubmission
