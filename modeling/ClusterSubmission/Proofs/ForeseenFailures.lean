import ClusterSubmission.Proofs.Negotiation

/-!
# Which failures are foreseen

A negotiator promises failures of the submission only. With a server that answers or fails in the
transport this holds except for answers that stumble the readers: text that is no UTF-8, documents
of the wrong kind, and version numbers with too many digits. Every other failure of the operations
belongs to the submission.
-/
namespace ClusterSubmission

open Message

/-- The operations of a negotiator with what they are given. An application is given by its id. -/
inductive Errand where
  | createApplication
  | clusterVersion
  | submit (o : SubmissionOrder)
  | obtainCredential (id : String)

namespace Errand

/-- Runs an operation for its effect. -/
def run (n : RestNegotiator) : Errand → Run Unit
  | .createApplication => n.createApplication >>= fun _ => pure ()
  | .clusterVersion => n.clusterVersion >>= fun _ => pure ()
  | .submit o => n.submit o
  | .obtainCredential id => n.obtainCredential (.handle (.text id)) >>= fun _ => pure ()

/-- What an operation is given has the types it is declared with: an order that can be written down,
an application id, times to wait and to pause by, and a renewer that can be sent. -/
def IsTyped (n : RestNegotiator) (w : World) : Errand → Prop
  | .createApplication | .clusterVersion => True
  | .submit o => ∃ data, o.body = .ok data
  | .obtainCredential id => ApplicationId.isValid id = true ∧
      n.acceptTimeout.isStep w.clock = true ∧ n.pollInterval.isPause w.clock = true ∧
      ∃ data, ResourceManager.requestBody (.mapping [(.text "renewer", n.renewer)]) = .ok data

/-- The answers that an operation stumbles over. -/
inductive Stumbles (n : RestNegotiator) (e : Exchange) : Errand → Prop
  | grant (a : Response) (h : e.answer? = some a) (hu : IsUnreadable .newApplication a) :
    Stumbles n e .createApplication
  | info (a : Response) (h : e.answer? = some a) (hu : IsUnreadable .clusterInfoEnvelope a) :
    Stumbles n e .clusterVersion
  | longVersion (a : Response) (p : Part) (digits : Nat) (h : e.answer? = some a)
      (hp : readAnswer .clusterInfoEnvelope a = .ok p)
      (hn : (reportedVersion (p.get "clusterInfo")).isNull = false)
      (hv : Version.ofValue (reportedVersion (p.get "clusterInfo")) =
        .error (.integerTooLong digits)) : Stumbles n e .clusterVersion
  | acceptance (o : SubmissionOrder) (a : Response) (h : e.answer? = some a)
      (hu : ResourceManager.answerContent a = .error .illFormedText) : Stumbles n e (.submit o)
  | report (id : String) (a : Response) (hto : e.IsTo n.manager.address (.application id))
      (h : e.answer? = some a) (hu : IsUnreadable .reportEnvelope a) :
    Stumbles n e (.obtainCredential id)
  | token (id : String) (a : Response) (hto : e.IsTo n.manager.address .delegationToken)
      (h : e.answer? = some a) (hu : IsUnreadable .delegationToken a) :
    Stumbles n e (.obtainCredential id)

end Errand

/-- Whether a result is a failure that is none of the submission. -/
def IsForeign {α : Type} (r : Except Failure α) : Prop :=
  ∃ f, r = .error f ∧ f.kind.isSubmission = false

theorem not_isForeign_ok {α : Type} {a : α} : ¬ IsForeign (.ok a : Except Failure α) := by
  rintro ⟨f, hf, -⟩
  cases hf

theorem IsConsoleFault.isForeign {α : Type} {w : World} {f : Failure} (h : IsConsoleFault w f) :
    IsForeign (.error f : Except Failure α) := ⟨f, rfl, by rw [h.1]; rfl⟩

/-- A request ends with a foreign failure exactly through a record or an answer that is read so. -/
theorem Ends.isForeign_iff {α : Type} {w : World} {e : Exchange}
    {read : Response → Except Failure α} {r : Except Failure α} (h : Ends w e read r)
    (he : ∀ g, e.reply.outcome = .error g → g.kind.isTransport = true) :
    IsForeign r ↔ (∃ f, r = .error f ∧ IsConsoleFault w f) ∨
      ∃ a, e.answer? = some a ∧ IsForeign (read a) := by
  constructor
  · rintro ⟨f, rfl, hf⟩
    rcases h.error_cases he with hkind | hconsole | ⟨a, ha, hread⟩
    · rw [hkind] at hf
      cases hf
    · exact Or.inl ⟨f, rfl, hconsole⟩
    · exact Or.inr ⟨a, ha, f, hread, hf⟩
  · rintro (⟨f, rfl, hf⟩ | ⟨a, ha, hread⟩)
    · exact hf.isForeign
    · rcases h.of_answer ha with rfl | ⟨f, rfl, hf⟩
      · exact hread
      · exact hf.isForeign

theorem isForeign_readAnswer {m : Model} {a : Response} :
    IsForeign (readAnswer m a) ↔ IsUnreadable m a := by
  constructor
  · rintro ⟨f, hf, hkind⟩
    rcases readAnswer_error hf with h | ⟨-, h⟩
    · rw [h] at hkind
      cases hkind
    · exact h
  · intro h
    obtain ⟨f, hf, hkind⟩ := readAnswer_of_isUnreadable h
    exact ⟨f, hf, hkind⟩

theorem isForeign_bind_ok {α β : Type} {r : Except Failure α} {g : α → β} :
    IsForeign (r >>= fun a => .ok (g a)) ↔ IsForeign r := by
  cases r with
  | ok a => exact iff_of_false not_isForeign_ok not_isForeign_ok
  | error f =>
    constructor
    · rintro ⟨g, hg, hkind⟩
      cases hg
      exact ⟨f, rfl, hkind⟩
    · rintro ⟨g, hg, hkind⟩
      cases hg
      exact ⟨f, rfl, hkind⟩

theorem isForeign_error {α : Type} {f : Failure} :
    IsForeign (.error f : Except Failure α) ↔ f.kind.isSubmission = false := by
  constructor
  · rintro ⟨g, hg, hkind⟩
    cases hg
    exact hkind
  · intro h
    exact ⟨f, rfl, h⟩

theorem readInteger_error {ds : List Char} {x : Reason} (h : readInteger ds = .error x) :
    ∃ digits, x = .integerTooLong digits := by
  unfold readInteger at h
  split at h <;> cases h
  exact ⟨_, rfl⟩

theorem Version.read_error {text : String} {x : Reason} (h : Version.read text = .error x) :
    x = .versionUnreadable text ∨ ∃ digits, x = .integerTooLong digits := by
  unfold Version.read at h
  split at h
  · cases h
    exact Or.inl rfl
  · rcases bind_eq_error h with ha | ⟨a, ha, h⟩
    · exact Or.inr (readInteger_error ha)
    · cases h
  · rcases bind_eq_error h with ha | ⟨a, ha, h⟩
    · exact Or.inr (readInteger_error ha)
    · rcases bind_eq_error h with hb | ⟨b, hb, h⟩
      · exact Or.inr (readInteger_error hb)
      · cases h
  · rcases bind_eq_error h with ha | ⟨a, ha, h⟩
    · exact Or.inr (readInteger_error ha)
    · rcases bind_eq_error h with hb | ⟨b, hb, h⟩
      · exact Or.inr (readInteger_error hb)
      · rcases bind_eq_error h with hc | ⟨c, hc, h⟩
        · exact Or.inr (readInteger_error hc)
        · cases h

theorem Version.ofValue_error {v : Value} {x : Reason} (h : Version.ofValue v = .error x) :
    (∃ text, x = .versionUnreadable text) ∨ ∃ digits, x = .integerTooLong digits := by
  unfold Version.ofValue at h
  split at h
  · cases h
  · rcases Version.read_error h with h | h
    · exact Or.inl ⟨_, h⟩
    · exact Or.inr h

theorem isForeign_readVersion {a : Response} :
    IsForeign (readVersion a) ↔ IsUnreadable .clusterInfoEnvelope a ∨
      ∃ p digits, readAnswer .clusterInfoEnvelope a = .ok p ∧
        (reportedVersion (p.get "clusterInfo")).isNull = false ∧
        Version.ofValue (reportedVersion (p.get "clusterInfo")) =
          .error (.integerTooLong digits) := by
  rcases hp : readAnswer .clusterInfoEnvelope a with f | p
  · have hversion : readVersion a = .error f := by
      simp [readVersion, hp, bind, Except.bind]
    rw [hversion, isForeign_error, ← isForeign_readAnswer, hp, isForeign_error]
    simp
  · have hreadable : ¬ IsUnreadable .clusterInfoEnvelope a := by
      rw [← isForeign_readAnswer, hp]
      exact not_isForeign_ok
    rcases readVersion_cases hp with ⟨hnull, hr⟩ | ⟨hnull, ⟨x, hof, hr⟩ | ⟨v, hof, hr⟩⟩
    · rw [hr, isForeign_error]
      have hown : Reason.versionMissing.failure.kind.isSubmission = true := rfl
      simp [hreadable, hnull, hown]
    · rw [hr, isForeign_error]
      rcases Version.ofValue_error hof with ⟨text, rfl⟩ | ⟨digits, rfl⟩
      · have hown : (Reason.versionUnreadable text).failure.kind.isSubmission = true := rfl
        simp [hreadable, hof, hown]
      · have hforeign : (Reason.integerTooLong digits).failure.kind.isSubmission = false := rfl
        simp [hreadable, hnull, hof, hforeign]
    · rw [hr]
      simp [hreadable, hof, not_isForeign_ok]

theorem isForeign_answerValue {a : Response} :
    IsForeign (answerValue a) ↔ ResourceManager.answerContent a = .error .illFormedText := by
  unfold answerValue
  rcases ha : ResourceManager.answerContent a with x | v
  · rw [answerContent_error ha]
    exact ⟨fun _ => rfl, fun _ => isForeign_error.mpr rfl⟩
  · constructor
    · rintro ⟨f, hf, -⟩
      cases hf
    · intro h
      cases h

namespace Errand

variable {n : RestNegotiator} {w w' : World}

/-- What is said about an operation that sent some requests: its failure is foreign exactly through
a record or through the last answer. -/
def IsForeseen (n : RestNegotiator) (w : World) (errand : Errand) (sent : List Exchange)
    (r : Except Failure Unit) : Prop :=
  IsForeign r ↔ (∃ f, r = .error f ∧ IsConsoleFault w f) ∨
    ∃ e, sent.getLast? = some e ∧ Stumbles n e errand

theorem isForeseen_of_ends {α : Type} {e : Exchange} {read : Response → Except Failure α}
    {r : Except Failure α} {errand : Errand} (h : Ends w e read r)
    (he : ∀ g, e.reply.outcome = .error g → g.kind.isTransport = true)
    (hstumbles : Stumbles n e errand ↔ ∃ a, e.answer? = some a ∧ IsForeign (read a)) :
    IsForeseen n w errand [e] (r >>= fun _ => .ok ()) := by
  have hconsole : (∃ f, (r >>= fun _ => .ok ()) = (.error f : Except Failure Unit) ∧
      IsConsoleFault w f) ↔ ∃ f, r = .error f ∧ IsConsoleFault w f := by
    cases r with
    | ok a =>
      constructor
      · rintro ⟨f, hf, -⟩
        cases hf
      · rintro ⟨f, hf, -⟩
        cases hf
    | error g =>
      constructor
      · rintro ⟨f, hf, hc⟩
        cases hf
        exact ⟨g, rfl, hc⟩
      · rintro ⟨f, hf, hc⟩
        cases hf
        exact ⟨g, rfl, hc⟩
  unfold IsForeseen
  rw [isForeign_bind_ok, hconsole, h.isForeign_iff he, ← hstumbles]
  simp

theorem isForeseen_createApplication (hc : n.IsConnected w) (ho : n.isOpen w = true)
    (hs : w.server.IsHonest) {r : Except Failure Unit}
    (h : run n .createApplication w = (r, w')) :
    ∃ sent, Talks n.manager.session w sent w' ∧ IsForeseen n w .createApplication sent r := by
  rcases hop : n.createApplication w with ⟨r₁, w₁⟩
  obtain ⟨e, -, hsends, hends⟩ := RestNegotiator.createApplication_spec hc ho hop
  have hrun := Run.bind_pure hop fun _ => ()
  rw [show run n .createApplication w = _ from hrun] at h
  cases h
  refine ⟨[e], hsends.toTalks, isForeseen_of_ends hends
    (fun g => hsends.isHonest hs (List.mem_singleton_self e)) ?_⟩
  constructor
  · rintro ⟨a, ha, hu⟩
    exact ⟨a, ha, isForeign_bind_ok.mpr (isForeign_readAnswer.mpr hu)⟩
  · rintro ⟨a, ha, hread⟩
    exact .grant a ha (isForeign_readAnswer.mp (isForeign_bind_ok.mp hread))

theorem isForeseen_clusterVersion (hc : n.IsConnected w) (ho : n.isOpen w = true)
    (hs : w.server.IsHonest) {r : Except Failure Unit}
    (h : run n .clusterVersion w = (r, w')) :
    ∃ sent, Talks n.manager.session w sent w' ∧ IsForeseen n w .clusterVersion sent r := by
  rcases hv : n.version? w with _ | v
  · rcases hop : n.clusterVersion w with ⟨r₁, w₁⟩
    obtain ⟨e, -, hasks⟩ := RestNegotiator.clusterVersion_of_unknown hc ho hv hop
    have hrun := Run.bind_pure hop fun _ => ()
    rw [show run n .clusterVersion w = _ from hrun] at h
    cases h
    refine ⟨[e], hasks.talks, isForeseen_of_ends hasks.ends
      (fun g => hasks.talks.isHonest hs (List.mem_singleton_self e)) ?_⟩
    constructor
    · intro hstumbles
      cases hstumbles with
      | info a ha hu => exact ⟨a, ha, isForeign_readVersion.mpr (Or.inl hu)⟩
      | longVersion a p digits ha hp hnull hof =>
        exact ⟨a, ha, isForeign_readVersion.mpr (Or.inr ⟨p, digits, hp, hnull, hof⟩)⟩
    · rintro ⟨a, ha, hread⟩
      rcases isForeign_readVersion.mp hread with hu | ⟨p, digits, hp, hnull, hof⟩
      · exact .info a ha hu
      · exact .longVersion a p digits ha hp hnull hof
  · have hrun := Run.bind_pure (RestNegotiator.clusterVersion_of_known ho hv) fun _ => ()
    rw [show run n .clusterVersion w = _ from hrun] at h
    cases h
    refine ⟨[], Talks.refl _ _, ?_⟩
    constructor
    · rintro ⟨f, hf, -⟩
      cases hf
    · rintro (⟨f, hf, -⟩ | ⟨e, he, -⟩)
      · cases hf
      · cases he

theorem isForeseen_submit {o : SubmissionOrder} (hc : n.IsConnected w) (ho : n.isOpen w = true)
    (hs : w.server.IsHonest) (ht : IsTyped n w (.submit o)) {r : Except Failure Unit}
    (h : run n (.submit o) w = (r, w')) :
    ∃ sent, Talks n.manager.session w sent w' ∧ IsForeseen n w (.submit o) sent r := by
  obtain ⟨data, hdata⟩ := ht
  rcases RestNegotiator.submit_cases hc ho h with
    ⟨f, rfl, rfl, hf | ⟨x, hx, -⟩⟩ | ⟨e, body, -, -, -, hsends, hends⟩
  · exact ⟨[], Talks.refl _ _, fun _ => Or.inl ⟨f, rfl, hf⟩, fun _ => hf.isForeign⟩
  · rw [hx] at hdata
    cases hdata
  · refine ⟨[e], hsends.toTalks, ?_⟩
    have hunit : (r >>= fun _ => .ok ()) = r := by cases r <;> rfl
    rw [← hunit]
    refine isForeseen_of_ends hends
      (fun g => hsends.isHonest hs (List.mem_singleton_self e)) ?_
    constructor
    · intro hstumbles
      cases hstumbles with
      | acceptance _ a ha hu =>
        exact ⟨a, ha, isForeign_bind_ok.mpr (isForeign_answerValue.mpr hu)⟩
    · rintro ⟨a, ha, hread⟩
      exact .acceptance o a ha (isForeign_answerValue.mp (isForeign_bind_ok.mp hread))

theorem not_isTo_delegationToken {address id : String} {e : Exchange}
    (h : e.IsTo address (.application id)) : ¬ e.IsTo address .delegationToken := by
  intro h'
  have hmethod := h.1.symm.trans h'.1
  simp [Service.method] at hmethod

theorem not_isUnreadable_of_report {e : Exchange} {p : Part} {a : Response}
    (hp : e.report? = some p) (ha : e.answer? = some a) : ¬ IsUnreadable .reportEnvelope a := by
  intro hu
  obtain ⟨f, hf, -⟩ := readAnswer_of_isUnreadable hu
  simp [Exchange.report?, ha, readReport, hf, bind, Except.bind, Except.toOption] at hp

/-- A report is the last thing that an operation stumbles over only if it is unreadable. -/
theorem stumbles_report {id : String} {e : Exchange}
    (hto : e.IsTo n.manager.address (.application id)) :
    Stumbles n e (.obtainCredential id) ↔
      ∃ a, e.answer? = some a ∧ IsForeign (readReport a) := by
  constructor
  · intro h
    cases h with
    | report _ a hto' ha hu =>
      exact ⟨a, ha, isForeign_bind_ok.mpr (isForeign_readAnswer.mpr hu)⟩
    | token _ a hto' ha hu => exact absurd hto' (not_isTo_delegationToken hto)
  · rintro ⟨a, ha, hread⟩
    exact .report id a hto ha (isForeign_readAnswer.mp (isForeign_bind_ok.mp hread))

theorem stumbles_token {id service : String} {e : Exchange}
    (hto : e.IsTo n.manager.address .delegationToken) :
    Stumbles n e (.obtainCredential id) ↔
      ∃ a, e.answer? = some a ∧ IsForeign (readCredential service a) := by
  constructor
  · intro h
    cases h with
    | report _ a hto' ha hu => exact absurd hto (not_isTo_delegationToken hto')
    | token _ a hto' ha hu =>
      exact ⟨a, ha, isForeign_bind_ok.mpr (isForeign_readAnswer.mpr hu)⟩
  · rintro ⟨a, ha, hread⟩
    exact .token id a hto ha (isForeign_readAnswer.mp (isForeign_bind_ok.mp hread))

theorem IsForeseen.of_last {errand : Errand} {sent : List Exchange} {e : Exchange}
    {r : Except Failure Unit} (h : IsForeseen n w errand [e] r) :
    IsForeseen n w errand (sent ++ [e]) r := by
  unfold IsForeseen at h ⊢
  rw [h]
  simp

theorem isForeseen_obtainCredential {id : String} (hc : n.IsConnected w)
    (ho : n.isOpen w = true) (hs : w.server.IsHonest) (ht : IsTyped n w (.obtainCredential id))
    {r : Except Failure Unit} (h : run n (.obtainCredential id) w = (r, w')) :
    ∃ sent, Talks n.manager.session w sent w' ∧ IsForeseen n w (.obtainCredential id) sent r := by
  obtain ⟨hid, haccept, hpoll, data, hdata⟩ := ht
  rcases hop : n.obtainCredential (.handle (.text id)) w with ⟨r₁, w₁⟩
  obtain ⟨sent, hasks, hobtains⟩ := RestNegotiator.obtainCredential_spec hc ho hid hop
  have hrun := Run.bind_pure hop fun _ => ()
  rw [show run n (.obtainCredential id) w = _ from hrun] at h
  cases h
  refine ⟨sent, hasks.toTalks, ?_⟩
  -- The types that are declared leave only what the exchanges bring about.
  cases hobtains with
  | untimed f hf hstep =>
    rw [haccept] at hstep
    cases hstep
  | late looks last f hw hp hf hstep =>
    rw [Value.isStep_of_isPause hpoll] at hstep
    cases hstep
  | unwritable looks last x hw ha hx =>
    rw [hdata] at hx
    cases hx
  | looking looks last f hw hends =>
    have hlast : last.IsTo n.manager.address (.application id) := hw.target last (by simp)
    exact (isForeseen_of_ends hends
      (fun g => hasks.isHonest hs (by simp)) (stumbles_report hlast)).of_last
  | notAlive looks last p f hw hp hn hf hb =>
    have hlast : last.IsTo n.manager.address (.application id) := hw.target last (by simp)
    constructor
    · intro hforeign
      have hkind := isForeign_error.mp hforeign
      rw [hf] at hkind
      cases hkind
    · rintro (⟨g, hg, hconsole⟩ | ⟨e, he, hstumbles⟩)
      · cases hg
        exact hconsole.isForeign
      · rw [List.getLast?_concat] at he
        cases he
        obtain ⟨a, ha, hread⟩ := (stumbles_report hlast).mp hstumbles
        exact absurd (isForeign_readAnswer.mp (isForeign_bind_ok.mp hread))
          (not_isUnreadable_of_report hp ha)
  | token looks last e service r hw ha hto hends =>
    exact (isForeseen_of_ends hends (fun g => hasks.isHonest hs (by simp))
      (stumbles_token hto)).of_last

end Errand

theorem createApplication_outcome {n : RestNegotiator} {w w' : World} (hc : n.IsConnected w)
    (ho : n.isOpen w = true) {r : Except Failure (Value × Ceiling)}
    (h : n.createApplication w = (r, w')) :
    ∃ e : Exchange, w'.exchanges = w.exchanges ++ [e] ∧
      e.IsTo n.manager.address .newApplication ∧
      (∀ g, r = .ok g →
        ∃ a p, e.answer? = some a ∧ IsMessage .newApplication a p ∧ g = grantOf p) ∧
      ∀ a, e.answer? = some a → w.isTalkative = false →
        ((∃ g, r = .ok g) ↔ ∃ p, IsMessage .newApplication a p) ∧
        ((∃ f, r = .error f ∧ f.kind = .communication) ↔
          (∀ p, ¬ IsMessage .newApplication a p) ∧ ¬ IsUnreadable .newApplication a) := by
  obtain ⟨e, hto, hsends, hends⟩ := RestNegotiator.createApplication_spec hc ho h
  refine ⟨e, hsends.exchanges, hto, ?_, ?_⟩
  · rintro g rfl
    obtain ⟨a, ha, hread⟩ := hends.ok
    obtain ⟨p, hp, hg⟩ := bind_eq_ok hread
    cases hg
    exact ⟨a, p, ha, readAnswer_ok.mp hp, rfl⟩
  · intro a ha hquiet
    have hr : r = readGrant a := by
      rcases hends.of_answer ha with hr | ⟨f, -, hf⟩
      · exact hr
      · exact absurd hf (not_isConsoleFault hquiet f)
    unfold readGrant at hr
    rcases hp : readAnswer .newApplication a with f | p
    · rw [hp] at hr
      subst hr
      have hnone : ∀ p, ¬ IsMessage .newApplication a p := by
        intro p hmessage
        rw [readAnswer_ok.mpr hmessage] at hp
        cases hp
      constructor
      · constructor
        · rintro ⟨g, hg⟩
          cases hg
        · rintro ⟨p, hmessage⟩
          exact absurd hmessage (hnone p)
      constructor
      · rintro ⟨g, hg, hkind⟩
        cases hg
        refine ⟨hnone, fun hu => ?_⟩
        have hforeign := isForeign_readAnswer.mpr hu
        rw [hp, isForeign_error, hkind] at hforeign
        cases hforeign
      · rintro ⟨-, hreadable⟩
        rcases readAnswer_error hp with hkind | ⟨-, hu⟩
        · exact ⟨f, rfl, hkind⟩
        · exact absurd hu hreadable
    · rw [hp] at hr
      subst hr
      have hmessage := readAnswer_ok.mp hp
      refine ⟨⟨fun _ => ⟨p, hmessage⟩, fun _ => ⟨_, rfl⟩⟩, ?_⟩
      constructor
      · rintro ⟨g, hg, -⟩
        cases hg
      · rintro ⟨hnone, -⟩
        exact absurd hmessage (hnone p)

end ClusterSubmission
