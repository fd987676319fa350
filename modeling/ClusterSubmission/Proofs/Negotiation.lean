import ClusterSubmission.Negotiator.Rest
import ClusterSubmission.Proofs.Request

/-!
# What a negotiator sends

Each operation of a negotiator sends a known sequence of requests, and how it ends is decided by the
last reply. A version is remembered when an answer gave one. A token is only asked for after a
report that the application was accepted, and every report before the last one said that it is
pending.
-/
namespace ClusterSubmission

namespace Message

/-- The version in an answer about the cluster. -/
def readVersion (a : Response) : Except Failure Version := do
  let reported := reportedVersion ((← readAnswer .clusterInfoEnvelope a).get "clusterInfo")
  if reported.isNull then .error Reason.versionMissing.failure
  else match Version.ofValue reported with
    | .ok v => .ok v
    | .error e => .error e.failure

/-- The report in an answer about an application. -/
def readReport (a : Response) : Except Failure Part :=
  readAnswer .reportEnvelope a >>= fun p => .ok (p.get "app")

/-- What a new application grants, by the answer. -/
def readGrant (a : Response) : Except Failure (Value × Ceiling) :=
  readAnswer .newApplication a >>= fun p => .ok (grantOf p)

/-- The credential in an answer with a token, for a service. -/
def readCredential (service : String) (a : Response) : Except Failure Credential :=
  readAnswer .delegationToken a >>= fun p => .ok (Credential.ofToken p service)

theorem handle_of_readGrant {a : Response} {grant : Value × Ceiling}
    (h : readGrant a = .ok grant) :
    ∃ id ceiling p, ApplicationId.isValid id = true ∧ grant = (.handle (.text id), ceiling) ∧
      IsMessage .newApplication a p ∧ p.field "application_id" = .text id := by
  obtain ⟨p, hp, hgrant⟩ := bind_eq_ok h
  obtain ⟨id, hfield, hid⟩ := applicationId_of_readAnswer hp
  cases hgrant
  exact ⟨id, (grantOf p).2, p, hid, Prod.ext (congrArg Value.handle hfield) rfl,
    readAnswer_ok.mp hp, hfield⟩

/-- A message about the cluster gives a version, unless there is none in it or it is no version. -/
theorem readVersion_cases {a : Response} {p : Part}
    (hp : readAnswer .clusterInfoEnvelope a = .ok p) :
    ((reportedVersion (p.get "clusterInfo")).isNull = true ∧
      readVersion a = .error Reason.versionMissing.failure) ∨
    (reportedVersion (p.get "clusterInfo")).isNull = false ∧
      ((∃ x, Version.ofValue (reportedVersion (p.get "clusterInfo")) = .error x ∧
          readVersion a = .error x.failure) ∨
        ∃ v, Version.ofValue (reportedVersion (p.get "clusterInfo")) = .ok v ∧
          readVersion a = .ok v) := by
  rcases hnull : (reportedVersion (p.get "clusterInfo")).isNull with _ | _
  · refine Or.inr ⟨rfl, ?_⟩
    rcases hof : Version.ofValue (reportedVersion (p.get "clusterInfo")) with x | v
    · exact Or.inl ⟨x, rfl, by simp [readVersion, hp, hnull, hof, bind, Except.bind]⟩
    · exact Or.inr ⟨v, rfl, by simp [readVersion, hp, hnull, hof, bind, Except.bind]⟩
  · exact Or.inl ⟨rfl, by simp [readVersion, hp, hnull, bind, Except.bind]⟩

theorem readAnswer_isBare {m : Model} {a : Response} {f : Failure}
    (h : readAnswer m a = .error f) : f.IsBare := by
  rcases bind_eq_error h with ha | ⟨v, -, h⟩
  · rw [(answerValue_error ha).1]
    rfl
  · unfold decode at h
    split at h
    · cases h
    · split at h <;> cases h <;> rfl

theorem readAnswer_bind_isBare {β : Type} {m : Model} (g : Part → β) {a : Response} {f : Failure}
    (h : (readAnswer m a >>= fun p => .ok (g p)) = .error f) : f.IsBare := by
  rcases bind_eq_error h with hp | ⟨p, -, h⟩
  · exact readAnswer_isBare hp
  · cases h

theorem readVersion_isBare {a : Response} {f : Failure} (h : readVersion a = .error f) :
    f.IsBare := by
  rcases bind_eq_error h with hp | ⟨p, hp, -⟩
  · exact readAnswer_isBare hp
  · rcases readVersion_cases hp with ⟨-, hr⟩ | ⟨-, ⟨x, -, hr⟩ | ⟨v, -, hr⟩⟩
    · cases hr.symm.trans h
      rfl
    · cases hr.symm.trans h
      rfl
    · cases hr.symm.trans h

end Message

open Message

/-- The version that an exchange gave. -/
def Exchange.version? (e : Exchange) : Option Version :=
  e.answer?.bind fun a => (readVersion a).toOption

/-- The report that an exchange gave. -/
def Exchange.report? (e : Exchange) : Option Part :=
  e.answer?.bind fun a => (readReport a).toOption

/-- An exchange whose answer grants an application under a handle. -/
def Exchange.Grants (e : Exchange) (handle : String) : Prop :=
  ∃ a p, e.answer? = some a ∧ IsMessage .newApplication a p ∧
    p.field "application_id" = .text handle

/-- An exchange with a report that the application is still being saved. -/
def Exchange.IsPending (e : Exchange) : Prop := ∃ p, e.report? = some p ∧ isPending p = true

/-- An exchange with a report that the application was accepted. -/
def Exchange.IsAccepted (e : Exchange) : Prop := ∃ p, e.report? = some p ∧ isAccepted p = true

/-- What an order is sent as. -/
def SubmissionOrder.body (o : SubmissionOrder) : Except Reason Value := do
  let context ← contextPart o.handle o.request o.spec o.policy o.parameters o.unmanaged
  ResourceManager.requestBody (← context.toMapping)

/-- Whether an integer has a nearest binary number. -/
def Quantity.isSmall (n : Int) : Bool := (Quantity.addInt? (Binary64.zero false) n).isSome

/-- Whether a quantity can be added to another one again and again. -/
def Quantity.fits : Quantity → Quantity → Bool
  | .int _, .int _ | .float _, .float _ => true
  | .int n, .float _ | .float _, .int n => Quantity.isSmall n

theorem Quantity.addInt?_of_isSmall {n : Int} (h : Quantity.isSmall n = true) (x : Binary64) :
    ∃ y, Quantity.addInt? x n = some (.float y) := by
  unfold Quantity.isSmall Quantity.addInt? at h
  unfold Quantity.addInt?
  rcases hn : Binary64.ofInt n with ⟨s, m, e⟩ | s | _
  · exact ⟨_, rfl⟩
  · rw [hn] at h
    cases h
  · exact ⟨_, rfl⟩

theorem Quantity.add?_of_fits {p q : Quantity} (h : p.fits q = true) :
    ∃ r, Quantity.add? p q = some r ∧ r.fits q = true := by
  cases p with
  | int m =>
    cases q with
    | int n => exact ⟨_, rfl, rfl⟩
    | float y =>
      obtain ⟨z, hz⟩ := Quantity.addInt?_of_isSmall h y
      exact ⟨.float z, hz, rfl⟩
  | float x =>
    cases q with
    | int n =>
      obtain ⟨z, hz⟩ := Quantity.addInt?_of_isSmall h x
      exact ⟨.float z, hz, h⟩
    | float y => exact ⟨_, rfl, rfl⟩

/-- Whether time can pass by a value for any number of times. -/
def Value.isStep (v : Value) (clock : Quantity) : Bool :=
  match v.quantity? with
  | some q => clock.fits q
  | none => false

/-- The longest pause in seconds: as many whole ones as have their nanoseconds in 63 bits. -/
def longestPause : Int := 9223372036

/-- Whether a program can pause by a value for any number of times: not by less than no time, nor by
more than the longest pause. -/
def Value.isPause (v : Value) (clock : Quantity) : Bool :=
  v.isStep clock && (v.quantity?.bind RestNegotiator.units?).any fun u =>
    0 ≤ u && u ≤ longestPause * (Binary64.scale : Int)

theorem Value.isStep_of_isPause {v : Value} {clock : Quantity} (h : v.isPause clock = true) :
    v.isStep clock = true := (Bool.and_eq_true_iff.mp h).1

theorem Exchange.version?_of_error {w : World} {e : Exchange} {f : Failure}
    (h : Ends w e readVersion (.error f)) : e.version? = none ∨ IsConsoleFault w f := by
  unfold Exchange.version?
  rcases ha : e.answer? with _ | a
  · exact Or.inl rfl
  · rcases h.of_answer ha with hread | ⟨g, hfg, hg⟩
    · rw [Option.bind_some, ← hread]
      exact Or.inl rfl
    · cases hfg
      exact Or.inr hg

theorem Exchange.report?_eq_some {e : Exchange} {p : Part} :
    e.report? = some p ↔ ∃ a, e.answer? = some a ∧ readReport a = .ok p := by
  have hok : ∀ r : Except Failure Part, r.toOption = some p ↔ r = .ok p := by
    intro r
    cases r <;> simp [Except.toOption]
  unfold Exchange.report?
  rw [Option.bind_eq_some_iff]
  simp only [hok]

theorem Exchange.report?_of_ok {w : World} {e : Exchange} {p : Part}
    (h : Ends w e readReport (.ok p)) : e.report? = some p :=
  Exchange.report?_eq_some.mpr h.ok

/-- A session that was opened is one of the world's, open, and knows no version yet. -/
theorem ResourceManager.connect_spec {w w' : World} {rm : ResourceManager}
    {address timeout verify proxies : Value}
    {auth : Option AuthHandler}
    (h : ResourceManager.connect address auth timeout verify proxies w = (.ok rm, w')) :
    IsServiceAddress rm.address ∧ rm.session < w'.sessions.length ∧
      (w'.session rm.session).isOpen = true ∧ (w'.session rm.session).version = none := by
  unfold ResourceManager.connect at h
  rcases hjoin : Url.joinValues address (.text ResourceManager.root) with x | base
  · rw [hjoin] at h
    cases h
  · obtain ⟨a, rfl, ha⟩ := joinValues_root hjoin
    rw [hjoin] at h
    cases h
    refine ⟨ha, by simp, ?_, ?_⟩ <;> simp [World.session]

/-- A world with a server and one session. -/
def World.served (server : Server) : World := { server, sessions := [{}] }

namespace RestNegotiator

/-- A negotiator whose session was opened with an address of services and is one of the world's. -/
structure IsConnected (n : RestNegotiator) (w : World) : Prop where
  address : IsServiceAddress n.manager.address
  known : n.manager.session < w.sessions.length

/-- Whether the session of a negotiator is open. -/
def isOpen (n : RestNegotiator) (w : World) : Bool := (w.session n.manager.session).isOpen

/-- The version of the cluster that a negotiator knows. -/
def version? (n : RestNegotiator) (w : World) : Option Version :=
  (w.session n.manager.session).version

variable {n : RestNegotiator} {w w' : World}

theorem IsConnected.of_talks {sent : List Exchange} (h : n.IsConnected w)
    (ht : Talks n.manager.session w sent w') : n.IsConnected w' :=
  ⟨h.address, ht.count ▸ h.known⟩

theorem isConnected_of_connect {address timeout verify proxies : Value}
    {auth : Option AuthHandler}
    (h : ResourceManager.connect address auth timeout verify proxies w = (.ok n.manager, w')) :
    n.IsConnected w' ∧ n.isOpen w' = true ∧ n.version? w' = none := by
  obtain ⟨ha, hknown, hopen, hversion⟩ := ResourceManager.connect_spec h
  exact ⟨⟨ha, hknown⟩, hopen, hversion⟩

/-- A negotiator on the session of such a world. -/
def sample : RestNegotiator := { manager := ⟨"http://rm:8088/ws/v1/cluster/", .int 90, 0⟩ }

theorem connect_sample (server : Server) :
    ResourceManager.connect (.text "http://rm:8088") none .null .null .null { server } =
      (.ok sample.manager, World.served server) := rfl

/-- What closing a session keeps. -/
structure Closes (n : RestNegotiator) (w w' : World) : Prop where
  server : w'.server = w.server
  exchanges : w'.exchanges = w.exchanges
  loggers : w'.loggers = w.loggers
  count : w'.sessions.length = w.sessions.length
  version : n.version? w' = n.version? w
  closed : n.isOpen w' = false

theorem close_spec (hc : n.IsConnected w) :
    ∃ w', n.close w = (.ok (), w') ∧ n.Closes w w' := by
  have hclose : n.close w = (ResourceManager.isOpen n.manager >>= fun o =>
      if !o then pure () else do
      Run.debug ("Closing session to " ++ n.manager.address)
      forgetSession n.manager.session
      modify fun w => w.setSession n.manager.session
        { w.session n.manager.session with isOpen := false }) w := rfl
  have hisOpen : ResourceManager.isOpen n.manager w = (.ok (n.isOpen w), w) := rfl
  rw [hclose, Run.bind_of_ok hisOpen]
  rcases ho : n.isOpen w with _ | _
  · exact ⟨w, rfl, rfl, rfl, rfl, rfl, rfl, ho⟩
  · have hline : Log.ClosesNothing ("Closing session to " ++ n.manager.address).toList := by
      have h : Log.ClosesNothing ("Closing session to " ++ n.manager.address ++ "").toList :=
        closesNothing_address hc.address (by decide) (by decide)
      simpa using h
    simp only [Bool.not_true, Bool.false_eq_true, if_false]
    rw [Run.bind_of_ok (Run.debug_of_closesNothing hline w)]
    refine ⟨_, rfl, rfl, rfl, rfl, List.length_set, ?_, ?_⟩
    · exact World.session_setSession Session.version rfl
    · exact congrArg Session.isOpen (World.session_setSession_self hc.known)

theorem checkOpen_of_open (h : n.isOpen w = true) : n.checkOpen w = (.ok (), w) := by
  have hisOpen : n.manager.isOpen w = (.ok true, w) := by
    unfold ResourceManager.isOpen
    rw [Run.get_bind, show (w.session n.manager.session).isOpen = true from h]
    rfl
  unfold checkOpen
  rw [Run.bind_of_ok hisOpen]
  rfl

theorem checkOpen_of_closed (h : n.isOpen w = false) :
    n.checkOpen w = (.error Reason.sessionClosed.failure, w) := by
  have hisOpen : n.manager.isOpen w = (.ok false, w) := by
    unfold ResourceManager.isOpen
    rw [Run.get_bind, show (w.session n.manager.session).isOpen = false from h]
    rfl
  unfold checkOpen
  rw [Run.bind_of_ok hisOpen]
  rfl

/-- An answer is decoded before anything else is done with it. -/
theorem decode_cases {α : Type} {m : Model} {body : Run Value} {k : Part → Run α} {e : Exchange}
    {r₁ : Except Failure Value} {r : Except Failure α} {w₁ : World} (hbody : body w = (r₁, w₁))
    (hends : Ends w e answerValue r₁)
    (h : (body >>= fun v => Run.ofResult (decode m v) >>= k) w = (r, w')) :
    (∃ f, r = .error f ∧ w' = w₁ ∧ Ends w e (readAnswer m) (.error f)) ∨
      ∃ p, Ends w e (readAnswer m) (.ok p) ∧ k p w₁ = (r, w') := by
  have hread : Ends w e (readAnswer m) (r₁ >>= decode m) := hends.bind _
  rw [Run.bind_ofResult hbody] at h
  rcases hp : r₁ >>= decode m with f | p
  · rw [hp, Run.ofResult_error_bind] at h
    rw [hp] at hread
    cases h
    exact Or.inl ⟨f, rfl, rfl, hread⟩
  · rw [hp, Run.ofResult_ok_bind] at h
    rw [hp] at hread
    exact Or.inr ⟨p, hread, h⟩

theorem createApplication_spec (hc : n.IsConnected w) (ho : n.isOpen w = true)
    {r : Except Failure (Value × Ceiling)} (h : n.createApplication w = (r, w')) :
    ∃ e : Exchange, e.IsTo n.manager.address .newApplication ∧
      Sends n.manager.session w [e] w' ∧ Ends w e readGrant r := by
  unfold createApplication at h
  rw [Run.bind_of_ok (checkOpen_of_open ho)] at h
  rcases hask : n.manager.newApplication [] w with ⟨r₁, w₁⟩
  obtain ⟨e, hto, hsends, hends⟩ := ResourceManager.newApplication_spec hc.address ho hask
  refine ⟨e, hto, ?_⟩
  rcases decode_cases hask hends h with ⟨f, rfl, rfl, hread⟩ | ⟨p, hread, h⟩
  · exact ⟨hsends, hread.bind _⟩
  · rcases Run.debug_cases ("New application '" ++ (p.field "application_id").plain
      ++ "' created") w₁ with hd | ⟨f, hd, hf⟩
    · rw [Run.bind_of_ok hd] at h
      cases h
      exact ⟨hsends, hread.bind fun p => .ok (grantOf p)⟩
    · rw [Run.bind_of_error hd] at h
      cases h
      exact ⟨hsends, hread.record (hsends.isConsoleFault.mp hf) _⟩

theorem clusterVersion_of_known {v : Version} (ho : n.isOpen w = true)
    (hv : n.version? w = some v) : n.clusterVersion w = (.ok v, w) := by
  unfold clusterVersion
  rw [Run.bind_of_ok (checkOpen_of_open ho), Run.get_bind,
    show (w.session n.manager.session).version = some v from hv]
  rfl

/-- What asking for the version does: an answer that gave one makes it known, unless a record failed
before it was read. -/
structure AsksVersion (n : RestNegotiator) (w : World) (e : Exchange) (r : Except Failure Version)
    (w' : World) : Prop where
  talks : Talks n.manager.session w [e] w'
  tokenStores : w'.tokenStores = w.tokenStores
  tokenSinks : w'.tokenSinks = w.tokenSinks
  ends : Ends w e readVersion r
  known : (∃ v, e.version? = some v ∧ n.version? w' = some v) ∨
    n.version? w' = none ∧ ∃ f, r = .error f ∧ (e.version? = none ∨ IsConsoleFault w f)

theorem asksVersion_of_error {e : Exchange} {f : Failure} (hv : n.version? w = none)
    (hsends : Sends n.manager.session w [e] w') (hends : Ends w e readVersion (.error f)) :
    AsksVersion n w e (.error f) w' :=
  ⟨hsends.toTalks, hsends.tokenStores, hsends.tokenSinks, hends,
    Or.inr ⟨hsends.version.trans hv, f, rfl, Exchange.version?_of_error hends⟩⟩

/-- A version is remembered before it is recorded, so that it is known even if the record fails. -/
theorem asksVersion_of_ok {e : Exchange} {a : Response} {v : Version} {w₁ : World}
    (hc : n.IsConnected w) (hsends : Sends n.manager.session w [e] w₁)
    (ha : e.answer? = some a) (hread : readVersion a = .ok v) {r : Except Failure Version}
    (h : (Run.debug ("Cluster reports Hadoop version " ++ v.text) >>= fun _ => pure v)
      (w₁.setSession n.manager.session
        { w₁.session n.manager.session with version := some v }) = (r, w')) :
    AsksVersion n w e r w' := by
  have hset : Talks n.manager.session w₁ [] (w₁.setSession n.manager.session
      { w₁.session n.manager.session with version := some v }) := Talks.setSession rfl
  have htalks := hsends.toTalks.trans hset
  have hgiven : e.version? = some v := by
    simp [Exchange.version?, ha, hread, Except.toOption]
  have hknown : n.version? (w₁.setSession n.manager.session
      { w₁.session n.manager.session with version := some v }) = some v := by
    unfold version?
    rw [World.session_setSession_self (hc.of_talks hsends.toTalks).known]
  have hends : Ends w e readVersion (.ok v) := hread ▸ .answered a ha
  rcases Run.debug_cases ("Cluster reports Hadoop version " ++ v.text)
    (w₁.setSession n.manager.session
      { w₁.session n.manager.session with version := some v }) with hd | ⟨f, hd, hf⟩
  · rw [Run.bind_of_ok hd] at h
    cases h
    exact ⟨htalks, hsends.tokenStores, hsends.tokenSinks, hends, Or.inl ⟨v, hgiven, hknown⟩⟩
  · rw [Run.bind_of_error hd] at h
    cases h
    exact ⟨htalks, hsends.tokenStores, hsends.tokenSinks,
      hends.record (htalks.isConsoleFault.mp hf) _, Or.inl ⟨v, hgiven, hknown⟩⟩

theorem clusterVersion_of_unknown (hc : n.IsConnected w) (ho : n.isOpen w = true)
    (hv : n.version? w = none) {r : Except Failure Version}
    (h : n.clusterVersion w = (r, w')) :
    ∃ e : Exchange, e.IsTo n.manager.address .info ∧ AsksVersion n w e r w' := by
  unfold clusterVersion at h
  rw [Run.bind_of_ok (checkOpen_of_open ho), Run.get_bind,
    show (w.session n.manager.session).version = none from hv] at h
  change n.askVersion w = (r, w') at h
  unfold askVersion at h
  rcases hask : n.manager.cluster [] w with ⟨r₁, w₁⟩
  obtain ⟨e, hto, hsends, hends⟩ := ResourceManager.cluster_spec hc.address ho hask
  refine ⟨e, hto, ?_⟩
  rcases decode_cases hask hends h with ⟨f, rfl, rfl, hread⟩ | ⟨p, hread, h⟩
  · exact asksVersion_of_error hv hsends (hread.bind _)
  obtain ⟨a, ha, hp⟩ := hread.ok
  rcases readVersion_cases hp with ⟨hnull, hr⟩ | ⟨hnull, ⟨x, hof, hr⟩ | ⟨v, hof, hr⟩⟩
  · simp only [hnull, if_true, Run.fail_bind] at h
    cases h
    exact asksVersion_of_error hv hsends (hr ▸ .answered a ha)
  · simp only [hnull, hof] at h
    cases h
    exact asksVersion_of_error hv hsends (hr ▸ .answered a ha)
  · simp only [hnull, hof] at h
    exact asksVersion_of_ok hc hsends ha hr h

theorem handleText_of_contextPart {o : SubmissionOrder} {p : Part}
    (h : contextPart o.handle o.request o.spec o.policy o.parameters o.unmanaged = .ok p) :
    ∃ s, o.handle.handleText = .ok s := by
  unfold contextPart at h
  obtain ⟨s, hs, -⟩ := bind_eq_ok h
  exact ⟨s, hs⟩

/-- An order is sent with one request, or not at all if it cannot be written down. -/
theorem submit_cases {o : SubmissionOrder} (hc : n.IsConnected w) (ho : n.isOpen w = true)
    {r : Except Failure Unit} (h : n.submit o w = (r, w')) :
    (∃ f, r = .error f ∧ w' = w ∧
      (IsConsoleFault w f ∨ ∃ x, o.body = .error x ∧ f = x.failure)) ∨
    ∃ (e : Exchange) (data : Value), o.body = .ok data ∧ e.IsTo n.manager.address .apps ∧
      e.request.data = data ∧ Sends n.manager.session w [e] w' ∧
      Ends w e (fun a => answerValue a >>= fun _ => .ok ()) r := by
  unfold submit at h
  rw [Run.bind_of_ok (checkOpen_of_open ho)] at h
  rcases hcontext : contextPart o.handle o.request o.spec o.policy o.parameters o.unmanaged
    with x | context
  · rw [hcontext, Run.ofExcept_error_bind] at h
    cases h
    exact Or.inl ⟨_, rfl, rfl, Or.inr ⟨x, by simp [SubmissionOrder.body, hcontext, bind,
      Except.bind], rfl⟩⟩
  · obtain ⟨handle, hhandle⟩ := handleText_of_contextPart hcontext
    rw [hcontext, Run.ofExcept_ok_bind, hhandle] at h
    rcases hmapping : context.toMapping with x | v
    · rw [hmapping, Run.ofExcept_error_bind] at h
      cases h
      exact Or.inl ⟨_, rfl, rfl, Or.inr ⟨x, by simp [SubmissionOrder.body, hcontext, hmapping,
        bind, Except.bind], rfl⟩⟩
    · have hbody : o.body = ResourceManager.requestBody v := by
        simp [SubmissionOrder.body, hcontext, hmapping, bind, Except.bind]
      rw [hmapping, Run.ofExcept_ok_bind] at h
      rcases hask : n.manager.submitApplication v [] w with ⟨r₁, w₁⟩
      rcases ResourceManager.submitApplication_cases hc.address ho hask with
        ⟨f, rfl, rfl, hf⟩ | ⟨e, data, hdata, hto, hed, hsends, hends⟩
      · rw [Run.bind_of_error hask] at h
        cases h
        exact Or.inl ⟨f, rfl, rfl, hbody ▸ hf⟩
      · refine Or.inr ⟨e, data, hbody.trans hdata, hto, hed, ?_⟩
        cases r₁ with
        | error f =>
          rw [Run.bind_of_error hask] at h
          cases h
          exact ⟨hsends, hends.bind fun _ => .ok ()⟩
        | ok v =>
          rw [Run.bind_of_ok hask, Run.ofExcept_ok_bind] at h
          rcases Run.info_cases ("Application '" ++ handle ++ "' submitted to queue '"
            ++ o.parameters.queue.plain ++ "'") w₁ with hi | ⟨f, hi, hf⟩
          · rw [hi] at h
            cases h
            exact ⟨hsends, hends.bind fun _ => .ok ()⟩
          · rw [hi] at h
            cases h
            exact ⟨hsends, hends.record (hsends.isConsoleFault.mp hf) _⟩

/-- What was declined is turned into distrust, and reading an answer never declines. -/
theorem whenDeclined_spec {α : Type} {body : Run α} {other : Failure → Reason} {e : Exchange}
    {read : Response → Except Failure α} {r r₁ : Except Failure α} {w₀ w₁ : World}
    (hbody : body w = (r₁, w₁)) (hends : Ends w₀ e read r₁)
    (hread : ∀ a f, read a = .error f → f.kind ≠ .rejected)
    (hother : ∀ f, (other f).kind = .auth) (h : whenDeclined body other w = (r, w')) :
    w' = w₁ ∧ Ends w₀ e read r := by
  unfold whenDeclined at h
  rw [hbody] at h
  cases r₁ with
  | ok v =>
    cases h
    exact ⟨rfl, hends⟩
  | error f =>
    by_cases hf : f.kind = .rejected
    · simp only [hf, if_true] at h
      cases h
      refine ⟨rfl, ?_⟩
      -- Only a refusal, or what the server declines of itself, is left to be turned.
      generalize hr : (.error f : Except Failure α) = r at hends
      cases hends with
      | answered a ha => exact absurd hf (hread a f hr.symm)
      | refused a g hg ha hkind => exact .refused a _ hg ha (Or.inr (hother _)) rfl
      | unreachable x g hx hg hkind =>
        cases hr
        rw [hkind] at hf
        cases hf
      | raised x g hx hg hsame =>
        cases hr
        rcases hsame with rfl | ⟨-, hkind, -⟩
        · exact .raised _ _ hx hg (Or.inr ⟨hf, hother _, rfl⟩)
        · rw [hkind] at hf
          cases hf
      | hidden a g ha hg =>
        cases hr
        rw [hg.1] at hf
        cases hf
    · simp only [hf, if_false] at h
      cases h
      exact ⟨rfl, hends⟩

theorem report_spec {id : String} (hc : n.IsConnected w) (ho : n.isOpen w = true)
    (hid : ApplicationId.isValid id = true) {r : Except Failure Part}
    (h : n.report (.handle (.text id)) w = (r, w')) :
    ∃ e : Exchange, e.IsTo n.manager.address (.application id) ∧
      Sends n.manager.session w [e] w' ∧ Ends w e readReport r := by
  unfold report at h
  change whenDeclined _ _ w = (r, w') at h
  rcases hbody : (n.manager.application (.text id) [] >>= fun v =>
    Run.ofResult (decode .reportEnvelope v) >>= fun p => pure (p.get "app")) w with ⟨r₁, w₁⟩
  rcases hask : n.manager.application (.text id) [] w with ⟨r₂, w₂⟩
  obtain ⟨e, hto, hsends, hends⟩ := ResourceManager.application_spec hc.address hid ho hask
  have hread : w₁ = w₂ ∧ Ends w e readReport r₁ := by
    rcases decode_cases hask hends hbody with ⟨f, rfl, rfl, hread⟩ | ⟨p, hread, hp⟩
    · exact ⟨rfl, hread.bind _⟩
    · cases hp
      exact ⟨rfl, hread.bind fun p => .ok (p.get "app")⟩
  have hnever : ∀ a f, readReport a = .error f → f.kind ≠ .rejected := by
    intro a f hf
    rcases bind_eq_error hf with ha | ⟨p, -, hf⟩
    · exact readAnswer_ne_rejected ha
    · cases hf
  obtain ⟨rfl, hread⟩ := hread
  obtain ⟨rfl, hends'⟩ := whenDeclined_spec hbody hread hnever (fun _ => rfl) h
  exact ⟨e, hto, hsends, hends'⟩

/-- The failures of reckoning with time. -/
def IsTimeFault (f : Failure) : Prop :=
  f = Reason.wrongType.failure ∨ f = Reason.overflow.failure

theorem addTo_cases (v : Value) (p : Quantity) (w : World) :
    (∃ q, (quantityOf v >>= fun q => addQuantities p q) w = (.ok q, w) ∧
      (v.isStep p = true → v.isStep q = true)) ∨
    ∃ f, (quantityOf v >>= fun q => addQuantities p q) w = (.error f, w) ∧ IsTimeFault f ∧
      v.isStep p = false := by
  unfold quantityOf addQuantities Value.isStep
  rcases hv : v.quantity? with _ | q
  · exact Or.inr ⟨_, rfl, Or.inl rfl, rfl⟩
  · by_cases hfits : p.fits q = true
    · obtain ⟨r, hr, hrfits⟩ := Quantity.add?_of_fits hfits
      refine Or.inl ⟨r, ?_, fun _ => hrfits⟩
      rw [Run.pure_bind_apply, hr]
      rfl
    · have hnot : p.fits q = false := by simpa using hfits
      rcases hr : Quantity.add? p q with _ | r
      · refine Or.inr ⟨Reason.overflow.failure, ?_, Or.inr rfl, hnot⟩
        rw [Run.pure_bind_apply, hr]
        rfl
      · refine Or.inl ⟨r, ?_, fun h => absurd h hfits⟩
        rw [Run.pure_bind_apply, hr]
        rfl

theorem sleep_cases (id : Nat) (v : Value) (w : World) :
    (∃ w', sleep v w = (.ok (), w') ∧ Asks id w [] w' ∧
      (v.isStep w.clock = true → v.isStep w'.clock = true)) ∨
    ∃ f w', sleep v w = (.error f, w') ∧ Asks id w [] w' ∧ IsTimeFault f ∧
      v.isStep w.clock = false := by
  have hkeep : ∀ s c, Asks id w [] { w with sleeps := s, clock := c } := fun s c =>
    ⟨⟨rfl, (List.append_nil _).symm, rfl, rfl, rfl⟩, rfl, rfl, rfl⟩
  have hsleep : sleep v w = ((quantityOf v >>= fun q => addQuantities w.clock q) >>= fun now =>
      modify fun w => { w with clock := now }) { w with sleeps := v :: w.sleeps } := by
    unfold sleep
    rw [Run.modify_bind, Run.get_bind, bind_assoc]
  rcases addTo_cases v w.clock { w with sleeps := v :: w.sleeps } with
    ⟨q, hq, hstep⟩ | ⟨f, hf, hfault, hstep⟩
  · rw [Run.bind_of_ok hq] at hsleep
    exact Or.inl ⟨_, hsleep, hkeep _ _, hstep⟩
  · rw [Run.bind_of_error hf] at hsleep
    exact Or.inr ⟨f, _, hsleep, hkeep _ _, hfault, hstep⟩

theorem isOpen_of_talks {sent : List Exchange} (h : n.isOpen w = true)
    (ht : Talks n.manager.session w sent w') : n.isOpen w' = true := ht.isOpen.trans h

/-- Looks at an application: all but the last one found it pending. -/
structure IsWait (n : RestNegotiator) (id : String) (looks : List Exchange) (last : Exchange) :
    Prop where
  target : ∀ e ∈ looks ++ [last], e.IsTo n.manager.address (.application id)
  pending : ∀ e ∈ looks, e.IsPending

/-- Waiting by looks at an application: it ends with what the last look says, or because no time
passes before another one. -/
structure Awaits (n : RestNegotiator) (id : String) (w : World) (looks : List Exchange)
    (last : Exchange) (r : Except Failure Part) (w' : World) : Prop
    extends IsWait n id looks last where
  asks : Asks n.manager.session w (looks ++ [last]) w'
  outcome : Ends w last readReport r ∨ last.IsPending ∧ n.pollInterval.isStep w.clock = false ∧
    ∃ f, r = .error f ∧ IsTimeFault f

theorem Awaits.of_report {id : String} {e : Exchange} {r : Except Failure Part}
    (hto : e.IsTo n.manager.address (.application id)) (hsends : Sends n.manager.session w [e] w')
    (hends : Ends w e readReport r) : Awaits n id w [] e r w' :=
  ⟨⟨by simpa using hto, by simp⟩, hsends.toAsks, Or.inl hends⟩

theorem Awaits.of_stuck {id : String} {e : Exchange} {f : Failure}
    (hto : e.IsTo n.manager.address (.application id)) (hpending : e.IsPending)
    (hasks : Asks n.manager.session w [e] w') (hstep : n.pollInterval.isStep w.clock = false)
    (hf : IsTimeFault f) : Awaits n id w [] e (.error f) w' :=
  ⟨⟨by simpa using hto, by simp⟩, hasks, Or.inr ⟨hpending, hstep, f, rfl, hf⟩⟩

/-- Behind a pending report and a pause, the waiting goes on. -/
theorem Awaits.cons {id : String} {e last : Exchange} {looks : List Exchange} {w₁ : World}
    {r : Except Failure Part} (hto : e.IsTo n.manager.address (.application id))
    (hpending : e.IsPending) (hpause : Asks n.manager.session w [e] w₁)
    (hstep : n.pollInterval.isStep w.clock = true → n.pollInterval.isStep w₁.clock = true)
    (h : Awaits n id w₁ looks last r w') : Awaits n id w (e :: looks) last r w' := by
  refine ⟨⟨?_, ?_⟩, hpause.trans h.asks, ?_⟩
  · simpa using ⟨hto, by simpa using h.target⟩
  · simpa using ⟨hpending, h.pending⟩
  · rcases h.outcome with hend | ⟨hlast, hnot, hfault⟩
    · exact Or.inl (hend.of_talks hpause.toTalks)
    · refine Or.inr ⟨hlast, ?_, hfault⟩
      by_contra hstill
      rw [hstep (by simpa using hstill)] at hnot
      cases hnot

/-- The application is looked at until a report says that it is not pending any more, a look fails,
or time cannot pass. -/
theorem awaitAcceptance_spec {id : String} (hid : ApplicationId.isValid id = true)
    (deadline : Quantity) : ∀ (fuel : Nat) {w : World} {r : Except Failure Part},
    n.IsConnected w → n.isOpen w = true →
    n.awaitAcceptance (.handle (.text id)) deadline fuel w = (r, w') →
    ∃ looks last, Awaits n id w looks last r w' := by
  intro fuel
  -- By induction on the looks that are left: behind a pause the session is as it was before.
  induction fuel with
  | zero =>
    intro w r hc ho h
    obtain ⟨e, hto, hsends, hends⟩ := report_spec hc ho hid h
    exact ⟨[], e, .of_report hto hsends hends⟩
  | succ fuel ih =>
    intro w r hc ho h
    unfold awaitAcceptance at h
    rcases hreport : n.report (.handle (.text id)) w with ⟨r₁, w₁⟩
    obtain ⟨e, hto, hsends, hends⟩ := report_spec hc ho hid hreport
    cases r₁ with
    | error f =>
      rw [Run.bind_of_error hreport] at h
      cases h
      exact ⟨[], e, .of_report hto hsends hends⟩
    | ok p =>
      rw [Run.bind_of_ok hreport, Run.get_bind] at h
      by_cases hstop : (!isPending p || Quantity.le deadline w₁.clock) = true
      · simp only [hstop, if_true] at h
        cases h
        exact ⟨[], e, .of_report hto hsends hends⟩
      · have hpending : e.IsPending := by
          refine ⟨p, Exchange.report?_of_ok hends, ?_⟩
          simp at hstop
          exact hstop.1
        simp only [hstop] at h
        change (Run.debug ("Application '" ++ id ++ "' is " ++ (p.field "state").plain
          ++ ", waiting to be accepted") >>= fun _ => sleep n.pollInterval >>= fun _ =>
            n.awaitAcceptance (.handle (.text id)) deadline fuel) w₁ = (r, w') at h
        rcases Run.debug_cases ("Application '" ++ id ++ "' is " ++ (p.field "state").plain
          ++ ", waiting to be accepted") w₁ with hd | ⟨f, hd, hf⟩
        · rw [Run.bind_of_ok hd] at h
          rcases sleep_cases n.manager.session n.pollInterval w₁ with
            ⟨w₂, hsleep, hasks, hstep⟩ | ⟨f, w₂, hsleep, hasks, hfault, hstep⟩
          · rw [Run.bind_of_ok hsleep] at h
            rw [hsends.clock] at hstep
            have hpause : Asks n.manager.session w [e] w₂ := hsends.toAsks.trans hasks
            obtain ⟨looks, last, hmore⟩ :=
              ih (hc.of_talks hpause.toTalks) (isOpen_of_talks ho hpause.toTalks) h
            exact ⟨e :: looks, last, .cons hto hpending hpause hstep hmore⟩
          · rw [Run.bind_of_error hsleep] at h
            cases h
            rw [hsends.clock] at hstep
            exact ⟨[], e, .of_stuck hto hpending (hsends.toAsks.trans hasks) hstep hfault⟩
        · rw [Run.bind_of_error hd] at h
          cases h
          exact ⟨[], e, .of_report hto hsends (hends.record (hsends.isConsoleFault.mp hf) _)⟩

/-- How obtaining a credential ends, by the exchanges of it. -/
inductive Obtains (n : RestNegotiator) (id : String) (w : World) :
    List Exchange → Except Failure Credential → Prop
  | untimed (f : Failure) (hf : IsTimeFault f) (ht : n.acceptTimeout.isStep w.clock = false) :
    Obtains n id w [] (.error f)
  | looking (looks : List Exchange) (last : Exchange) (f : Failure) (hw : IsWait n id looks last)
      (hends : Ends w last readReport (.error f)) : Obtains n id w (looks ++ [last]) (.error f)
  | late (looks : List Exchange) (last : Exchange) (f : Failure) (hw : IsWait n id looks last)
      (hp : last.IsPending) (hf : IsTimeFault f) (ht : n.pollInterval.isStep w.clock = false) :
    Obtains n id w (looks ++ [last]) (.error f)
  | notAlive (looks : List Exchange) (last : Exchange) (p : Part) (f : Failure)
      (hw : IsWait n id looks last) (hp : last.report? = some p) (hn : isAccepted p = false)
      (hf : f.kind = .auth) (hb : f.IsBare) : Obtains n id w (looks ++ [last]) (.error f)
  | unwritable (looks : List Exchange) (last : Exchange) (x : Reason)
      (hw : IsWait n id looks last) (ha : last.IsAccepted)
      (hx : ResourceManager.requestBody (.mapping [(.text "renewer", n.renewer)]) = .error x) :
    Obtains n id w (looks ++ [last]) (.error x.failure)
  | token (looks : List Exchange) (last e : Exchange) (service : String)
      (r : Except Failure Credential) (hw : IsWait n id looks last) (ha : last.IsAccepted)
      (hto : e.IsTo n.manager.address .delegationToken)
      (hends : Ends w e (readCredential service) r) : Obtains n id w (looks ++ [last] ++ [e]) r

theorem Exchange.isSome_answer_of_report {e : Exchange} {p : Part} (h : e.report? = some p) :
    e.answer?.isSome = true := by
  obtain ⟨a, ha, -⟩ := Exchange.report?_eq_some.mp h
  rw [ha]
  rfl

theorem IsTimeFault.isBare {f : Failure} (h : IsTimeFault f) : f.IsBare := by
  rcases h with rfl | rfl <;> rfl

theorem Obtains.passes {id : String} {sent : List Exchange} {r : Except Failure Credential}
    (h : Obtains n id w sent r) : Passes sent r := by
  have hlooks : ∀ {looks last}, IsWait n id looks last → ∀ e ∈ looks, e.answer?.isSome = true := by
    intro looks last hw e he
    obtain ⟨p, hp, -⟩ := hw.pending e he
    exact Exchange.isSome_answer_of_report hp
  have hall : ∀ {looks last p}, IsWait n id looks last → last.report? = some p →
      ∀ e ∈ looks ++ [last], e.answer?.isSome = true := by
    intro looks last p hw hp e he
    rcases List.mem_append.mp he with he | he
    · exact hlooks hw e he
    · rw [List.mem_singleton.mp he]
      exact Exchange.isSome_answer_of_report hp
  cases h with
  | untimed f hf => exact .nil fun g hg => Except.error.inj hg ▸ hf.isBare
  | looking looks last f hw hends =>
    have hbefore : Passes looks (.ok () : Except Failure Unit) :=
      .of_answered (hlooks hw) fun g hg => by cases hg
    exact hbefore.append (hends.passes fun a g hg => readAnswer_bind_isBare _ hg).error
  | late looks last f hw hp hf =>
    obtain ⟨p, hp, -⟩ := hp
    exact .of_answered (hall hw hp) fun g hg => Except.error.inj hg ▸ hf.isBare
  | notAlive looks last p f hw hp hn hf hb =>
    exact .of_answered (hall hw hp) fun g hg => Except.error.inj hg ▸ hb
  | unwritable looks last x hw ha =>
    obtain ⟨p, hp, -⟩ := ha
    exact .of_answered (hall hw hp) fun g hg => Except.error.inj hg ▸ rfl
  | token looks last e service r hw ha hto hends =>
    obtain ⟨p, hp, -⟩ := ha
    have hbefore : Passes (looks ++ [last]) (.ok () : Except Failure Unit) :=
      .of_answered (hall hw hp) fun g hg => by cases hg
    exact hbefore.append (hends.passes fun a g hg => readAnswer_bind_isBare _ hg)

theorem requestBody_error {v : Value} {x : Reason}
    (h : ResourceManager.requestBody v = .error x) : x = .wrongType := by
  unfold ResourceManager.requestBody at h
  split at h
  · cases h
  · unfold encodeValue at h
    split at h <;> cases h
    rfl

/-- The token is asked for with one request, and declined ones are not trusted. -/
theorem token_cases {r : Except Failure Part} (hc : n.IsConnected w) (ho : n.isOpen w = true)
    (h : whenDeclined (n.manager.delegationToken n.renewer [] >>= fun v =>
      Run.ofResult (decode .delegationToken v)) (fun f => .tokenDeclined f.message) w = (r, w')) :
    (∃ x, ResourceManager.requestBody (.mapping [(.text "renewer", n.renewer)]) = .error x ∧
      r = .error x.failure ∧ w' = w) ∨
    ∃ e : Exchange, e.IsTo n.manager.address .delegationToken ∧
      Sends n.manager.session w [e] w' ∧ Ends w e (readAnswer .delegationToken) r := by
  rcases hask : n.manager.delegationToken n.renewer [] w with ⟨r₁, w₁⟩
  have hbody : (n.manager.delegationToken n.renewer [] >>= fun v =>
      Run.ofResult (decode .delegationToken v)) w = (r₁ >>= decode .delegationToken, w₁) := by
    cases r₁ with
    | error f => exact Run.bind_of_error hask
    | ok v => rw [Run.bind_of_ok hask, Run.ofResult_apply]; rfl
  rcases ResourceManager.delegationToken_cases hc.address ho hask with
    ⟨x, hx, rfl, rfl⟩ | ⟨e, hto, hsends, hends⟩
  · have hkind := requestBody_error hx
    subst hkind
    unfold whenDeclined at h
    rw [hbody] at h
    cases h
    exact Or.inl ⟨_, hx, rfl, rfl⟩
  · obtain ⟨rfl, hends'⟩ := whenDeclined_spec hbody (hends.bind (decode .delegationToken))
      (fun a f hf => readAnswer_ne_rejected hf) (fun _ => rfl) h
    exact Or.inr ⟨e, hto, hsends, hends'⟩

/-- Waiting ends with what the last look says, as far as time can be reckoned with. -/
theorem waitForAcceptance_cases {id : String} {r : Except Failure Part} (hc : n.IsConnected w)
    (ho : n.isOpen w = true) (hid : ApplicationId.isValid id = true)
    (h : n.waitForAcceptance (.handle (.text id)) w = (r, w')) :
    (∃ f, r = .error f ∧ w' = w ∧ IsTimeFault f ∧ n.acceptTimeout.isStep w.clock = false) ∨
    ∃ looks last, Awaits n id w looks last r w' := by
  have hwait : n.waitForAcceptance (.handle (.text id)) w =
      ((quantityOf n.acceptTimeout >>= fun q => addQuantities w.clock q) >>= fun deadline =>
        n.awaitAcceptance (.handle (.text id)) deadline
          (lookLimit n.acceptTimeout n.pollInterval)) w := by
    unfold waitForAcceptance
    rw [Run.get_bind, bind_assoc]
  rw [hwait] at h
  rcases addTo_cases n.acceptTimeout w.clock w with ⟨q, hq, -⟩ | ⟨f, hf, hfault, hstep⟩
  · rw [Run.bind_of_ok hq] at h
    exact Or.inr (awaitAcceptance_spec hid q _ hc ho h)
  · rw [Run.bind_of_error hf] at h
    cases h
    exact Or.inl ⟨f, rfl, rfl, hfault, hstep⟩

/-- Behind a report that the application was accepted, the token is asked for. -/
theorem obtains_of_accepted {id service : String} {looks : List Exchange} {last : Exchange}
    {w₁ : World} (hc : n.IsConnected w) (ho : n.isOpen w = true)
    (hservice : Url.hostOf n.manager.address = .ok service)
    (hasks : Asks n.manager.session w (looks ++ [last]) w₁) (hlooks : IsWait n id looks last)
    (hlast : last.IsAccepted) {r : Except Failure Credential}
    (h : (whenDeclined (n.manager.delegationToken n.renewer [] >>= fun v =>
        Run.ofResult (decode .delegationToken v)) (fun f => .tokenDeclined f.message) >>= fun t =>
      Run.debug ("Obtained " ++ (t.field "kind").plain ++ " for application '" ++ id ++ "'") >>=
        fun _ => Run.ofExcept (Url.hostOf n.manager.address) >>= fun host =>
          pure (Credential.ofToken t host)) w₁ = (r, w')) :
    ∃ sent, Asks n.manager.session w sent w' ∧ Obtains n id w sent r := by
  have hc₁ := hc.of_talks hasks.toTalks
  have ho₁ := isOpen_of_talks ho hasks.toTalks
  rcases htoken : whenDeclined (n.manager.delegationToken n.renewer [] >>= fun v =>
    Run.ofResult (decode .delegationToken v)) (fun f => .tokenDeclined f.message) w₁
    with ⟨r₂, w₂⟩
  rcases token_cases hc₁ ho₁ htoken with ⟨x, hx, rfl, rfl⟩ | ⟨e, hto, hsends, hends⟩
  · rw [Run.bind_of_error htoken] at h
    cases h
    exact ⟨_, hasks, .unwritable looks last x hlooks hlast hx⟩
  · have hends' := hends.of_talks hasks.toTalks
    have hsent : Asks n.manager.session w (looks ++ [last] ++ [e]) w₂ :=
      hasks.trans hsends.toAsks
    cases r₂ with
    | error f =>
      rw [Run.bind_of_error htoken] at h
      cases h
      exact ⟨_, hsent, .token looks last e service _ hlooks hlast hto (hends'.bind _)⟩
    | ok token =>
      rw [Run.bind_of_ok htoken, hservice] at h
      rcases Run.debug_cases ("Obtained " ++ (token.field "kind").plain
        ++ " for application '" ++ id ++ "'") w₂ with hd | ⟨f, hd, hf⟩
      · rw [Run.bind_of_ok hd] at h
        cases h
        exact ⟨_, hsent, .token looks last e service _ hlooks hlast hto
          (hends'.bind fun p => .ok (Credential.ofToken p service))⟩
      · rw [Run.bind_of_error hd] at h
        cases h
        exact ⟨_, hsent, .token looks last e service _ hlooks hlast hto
          (hends'.record (hsent.isConsoleFault.mp hf) _)⟩

/-- A credential is obtained by looking at the application, and then asking for a token once. -/
theorem obtainCredential_spec {id : String} (hc : n.IsConnected w) (ho : n.isOpen w = true)
    (hid : ApplicationId.isValid id = true) {r : Except Failure Credential}
    (h : n.obtainCredential (.handle (.text id)) w = (r, w')) :
    ∃ sent, Asks n.manager.session w sent w' ∧ Obtains n id w sent r := by
  obtain ⟨service, hservice⟩ := hostOf_service hc.address
  unfold obtainCredential at h
  rw [Run.bind_of_ok (checkOpen_of_open ho)] at h
  rcases hwait : n.waitForAcceptance (.handle (.text id)) w with ⟨r₁, w₁⟩
  rcases waitForAcceptance_cases hc ho hid hwait with
    ⟨f, rfl, rfl, hfault, hstep⟩ | ⟨looks, last, hawaits⟩
  · rw [Run.bind_of_error hwait] at h
    cases h
    exact ⟨[], Asks.refl _ _, .untimed f hfault hstep⟩
  have hlooks := hawaits.toIsWait
  rcases hawaits.outcome with hend | ⟨hpending, hstep, f, rfl, hfault⟩
  · cases r₁ with
    | error f =>
      rw [Run.bind_of_error hwait] at h
      cases h
      exact ⟨_, hawaits.asks, .looking looks last f hlooks hend⟩
    | ok p =>
      rw [Run.bind_of_ok hwait] at h
      simp only [Value.handleText, Run.ofExcept_ok_bind] at h
      have hreport := Exchange.report?_of_ok hend
      by_cases haccepted : isAccepted p = true
      · simp only [haccepted, Bool.not_true, Bool.false_eq_true, if_false] at h
        exact obtains_of_accepted hc ho hservice hawaits.asks hlooks ⟨p, hreport, haccepted⟩ h
      · have hnot : isAccepted p = false := by simpa using haccepted
        simp only [hnot, Bool.not_false, if_true] at h
        cases h
        exact ⟨_, hawaits.asks, .notAlive looks last p _ hlooks hreport hnot rfl rfl⟩
  · rw [Run.bind_of_error hwait] at h
    cases h
    exact ⟨_, hawaits.asks, .late looks last f hlooks hpending hfault hstep⟩

end RestNegotiator
end ClusterSubmission
