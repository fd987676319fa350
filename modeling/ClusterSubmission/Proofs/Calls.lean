import ClusterSubmission.Proofs.Steps

/-!
# Calls on a submission

A submission begins over an open session and is then changed, submitted and closed by calls, in any
order. The calls keep it over its negotiator. A call that fails leaves it as it was, and so does an
attempt at submitting with what it has for its tokens; the failure tells the step that it was in.
-/
namespace ClusterSubmission

open Message

/-- The calls on a submission. -/
inductive Call where
  | change (c : Change)
  | submit
  | close

namespace Submission

/-- Makes a call: how it ends, and the submission after it. -/
def perform (s : Submission) : Call → StateM World (Except Failure Unit × Submission)
  | .change c => fun w =>
    match s.change c with
    | .ok s' => ((.ok (), s'), w)
    | .error f => ((.error f, s), w)
  | .submit => fun w =>
    match s.submit w with
    | (.ok (_, s'), w) => ((.ok (), s'), w)
    | (.error f, w) => ((.error f, s), w)
  | .close => s.close

variable {n : RestNegotiator} {s s' : Submission} {w w' : World}

/-- Where a submission can get. Between the calls on it, anything but the sessions may change. -/
inductive Reachable (n : RestNegotiator) : Submission → World → Prop
  | start {plan : SubmissionPlan} {s : Submission} {w w' : World} (hc : n.IsConnected w)
      (h : start n.operations plan w = (.ok s, w')) : Reachable n s w'
  | call {c : Call} {s s' : Submission} {w w' : World} {r : Except Failure Unit}
      (hs : Reachable n s w) (h : s.perform c w = ((r, s'), w')) : Reachable n s' w'
  | elsewhere {s : Submission} {w w' : World} (hs : Reachable n s w)
      (h : w'.sessions = w.sessions) : Reachable n s w'

theorem exists_started (n : RestNegotiator) (plan : SubmissionPlan) (w : World)
    (p : Submission → World → Bool)
    (h : (match start n.operations plan w with
      | (.ok s, w') => p s w'
      | (.error _, _) => false) = true) :
    ∃ s w', start n.operations plan w = (.ok s, w') ∧ p s w' = true := by
  rcases hstart : start n.operations plan w with ⟨f | s, w'⟩
  · rw [hstart] at h
    cases h
  · rw [hstart] at h
    exact ⟨s, w', rfl, h⟩

theorem start_of_error (plan : SubmissionPlan) {f : Failure} {w₁ : World}
    (hc : n.IsConnected w₁) (hask : n.createApplication w = (.error f, w₁)) :
    ∃ w₂, start n.operations plan w = (.error f, w₂) ∧ n.Closes w₁ w₂ := by
  have hline : Log.ClosesNothing "Requesting application id from YARN".toList :=
    Log.closesNothing_of_notMem (by decide)
  obtain ⟨w₂, hclose, hcloses⟩ := RestNegotiator.close_spec hc
  have hfailed : (n.operations.createApplication.onFailure n.operations.close) w =
      (.error f, w₂) := by
    change Run.onFailure n.createApplication n.close w = _
    unfold Run.onFailure
    rw [hask]
    dsimp only
    rw [hclose]
  refine ⟨w₂, ?_, hcloses⟩
  unfold start
  rw [Run.bind_of_ok (Run.debug_of_closesNothing hline w), Run.bind_of_error hfailed]

theorem start_of_grant (plan : SubmissionPlan) {id : String} {ceiling : Ceiling} {w₁ : World}
    (hid : ApplicationId.isValid id = true)
    (hask : n.createApplication w = (.ok (.handle (.text id), ceiling), w₁)) :
    ∃ s, start n.operations plan w = (.ok s, w₁) ∧ s.negotiator = n.operations ∧
      s.handle = id := by
  have hline : Log.ClosesNothing "Requesting application id from YARN".toList :=
    Log.closesNothing_of_notMem (by decide)
  have hnamed : Log.ClosesNothing ("YARN application id: " ++ id).toList := by
    have h : Log.ClosesNothing ("YARN application id: " ++ id ++ "").toList :=
      closesNothing_handle hid (by decide) (by decide)
    simpa using h
  have hreserved : (n.operations.createApplication.onFailure n.operations.close) w =
      (.ok (.handle (.text id), ceiling), w₁) := by
    change Run.onFailure n.createApplication n.close w = _
    unfold Run.onFailure
    rw [hask]
  unfold start
  rw [Run.bind_of_ok (Run.debug_of_closesNothing hline w), Run.bind_of_ok hreserved]
  dsimp only
  rw [Value.handleText, Run.ofExcept_ok_bind,
    Run.bind_of_ok (Run.info_of_closesNothing hnamed w₁)]
  exact ⟨_, rfl, rfl, rfl⟩

/-- No submission begins over a session that was closed. -/
theorem isOpen_of_start {plan : SubmissionPlan} (hc : n.IsConnected w)
    (h : start n.operations plan w = (.ok s, w')) : n.isOpen w = true := by
  rcases ho : n.isOpen w with _ | _
  · have hask : n.createApplication w = (.error Reason.sessionClosed.failure, w) := by
      unfold RestNegotiator.createApplication
      rw [Run.bind_of_error (RestNegotiator.checkOpen_of_closed ho)]
    obtain ⟨w₂, hstart, -⟩ := start_of_error plan hc hask
    rw [hstart] at h
    cases h
  · rfl

/-- A submission begins with one request for an application. It is over the negotiator then, or the
session is closed. -/
theorem start_spec {plan : SubmissionPlan} (hc : n.IsConnected w) (ho : n.isOpen w = true)
    {r : Except Failure Submission} (h : start n.operations plan w = (r, w')) :
    ∃ e : Exchange, e.IsTo n.manager.address .newApplication ∧
      w'.exchanges = w.exchanges ++ [e] ∧ w'.server = w.server ∧
      ((∃ f, r = .error f ∧ n.isOpen w' = false) ∨
        ∃ s, r = .ok s ∧ s.IsOver n w' ∧ e.Grants s.handle) := by
  rcases hask : n.createApplication w with ⟨r₁, w₁⟩
  obtain ⟨e, hto, hsends, hends⟩ := RestNegotiator.createApplication_spec hc ho hask
  have hc₁ := hc.of_talks hsends.toTalks
  refine ⟨e, hto, ?_⟩
  cases r₁ with
  | error f =>
    obtain ⟨w₂, hstart, hcloses⟩ := start_of_error plan hc₁ hask
    rw [hstart] at h
    cases h
    exact ⟨hcloses.exchanges.trans hsends.exchanges, hcloses.server.trans hsends.server,
      Or.inl ⟨f, rfl, hcloses.closed⟩⟩
  | ok grant =>
    obtain ⟨a, ha, hread⟩ := hends.ok
    obtain ⟨id, ceiling, p, hid, rfl, hmessage, hfield⟩ := handle_of_readGrant hread
    obtain ⟨s, hstart, hnegotiator, rfl⟩ := start_of_grant plan hid hask
    rw [hstart] at h
    cases h
    exact ⟨hsends.exchanges, hsends.server, Or.inr ⟨s, rfl, ⟨hnegotiator, hc₁, hid,
      fun _ => RestNegotiator.isOpen_of_talks ho hsends.toTalks⟩, a, p, ha, hmessage, hfield⟩⟩

theorem close_cases (hs : s.IsOver n w) :
    ∃ w', s.close w = ((.ok (), { s with state := .closed }), w') ∧
      w'.exchanges = w.exchanges ∧ n.version? w' = n.version? w ∧
      ({ s with state := .closed } : Submission).IsOver n w' := by
  have hline : Log.ClosesNothing ("Closing YARN application: " ++ s.handle).toList := by
    have h : Log.ClosesNothing ("Closing YARN application: " ++ s.handle ++ "").toList :=
      closesNothing_handle hs.named (by decide) (by decide)
    simpa using h
  by_cases hclosed : s.state = .closed
  · refine ⟨w, ?_, rfl, rfl, hs.negotiator, hs.connected, hs.named, fun h => absurd rfl h⟩
    unfold close
    simp only [hclosed, if_true]
    rw [← hclosed]
  · obtain ⟨w₁, hclose, hcloses⟩ := RestNegotiator.close_spec hs.connected
    refine ⟨w₁, ?_, hcloses.exchanges, hcloses.version, hs.negotiator,
      ⟨hs.connected.address, hcloses.count ▸ hs.connected.known⟩, hs.named, fun h => absurd rfl h⟩
    have hsession : s.negotiator.close w = (.ok (), w₁) := by
      rw [hs.negotiator]
      exact hclose
    unfold close
    simp only [hclosed, if_false, Run.debug_of_closesNothing hline w, hsession]

/-- A change fails, or it is made of the parameters of a submission that is being configured. -/
theorem change_cases (s : Submission) (c : Change) :
    (∃ f, s.change c = .error f) ∨ ∃ p, s.change c = .ok { s with parameters := p } ∧
      s.state = .configuring ∧ c.refusal? = none ∧ c.apply s.parameters = .ok p := by
  rcases hc : s.change c with f | s'
  · exact Or.inl ⟨f, rfl⟩
  refine Or.inr ?_
  unfold change at hc
  rcases hr : c.refusal? with _ | x
  · by_cases hstate : s.state = .configuring
    · rcases hp : c.apply s.parameters with x | p
      · simp [hr, hstate, hp, throw, throwThe, MonadExceptOf.throw] at hc
      · simp [hr, hstate, hp, pure, Except.pure] at hc
        exact ⟨p, by rw [← hc, ← hstate], hstate, rfl, rfl⟩
    · simp [hr, hstate, throw, throwThe, MonadExceptOf.throw, bind, Except.bind] at hc
  · simp [hr, throw, throwThe, MonadExceptOf.throw, bind, Except.bind] at hc

theorem change_ok {c : Change} (h : s.change c = .ok s') :
    ∃ p, s' = { s with parameters := p } := by
  rcases s.change_cases c with ⟨f, hf⟩ | ⟨p, hp, -⟩
  · rw [hf] at h
    cases h
  · rw [hp] at h
    cases h
    exact ⟨p, rfl⟩

theorem perform_submit {r : Except Failure Unit} (hs : s.IsOver n w)
    (h : s.perform .submit w = ((r, s'), w')) :
    ∃ g : Segment, g.IsLawful n s ∧ Talks n.manager.session w g.toList w' ∧
      (g.toList ≠ [] → s.state = .configuring ∧ s.parameters.driverHost.isSet = true) ∧
      ((r = .ok () ∧ s' = { s with state := .submitted } ∧ Succeeds n w g w') ∨
        ∃ step x, r = .error (x.inStep s.handle step) ∧ s' = s ∧ FailsIn n s w g step x w') := by
  rcases hsubmit : s.submit w with ⟨r₁, w₁⟩
  obtain ⟨g, hattempt, hentered⟩ := submit_isAttempt hs hsubmit
  simp only [perform, hsubmit] at h
  refine ⟨g, hattempt.toIsLawful, ?_, hentered, ?_⟩
  · rcases hattempt.outcome with ⟨report, rfl, -⟩ | ⟨step, x, rfl, -⟩ <;> cases h <;>
      exact hattempt.talks
  · rcases hattempt.outcome with ⟨report, rfl, hok⟩ | ⟨step, x, rfl, hfail⟩
    · cases h
      exact Or.inl ⟨rfl, rfl, hok⟩
    · cases h
      exact Or.inr ⟨step, x, rfl, rfl, hfail⟩

/-- A call that sends nothing. -/
structure Rests (n : RestNegotiator) (c : Call) (s : Submission) (w : World) (s' : Submission)
    (w' : World) : Prop where
  isOver : s'.IsOver n w'
  handle : s'.handle = s.handle
  exchanges : w'.exchanges = w.exchanges
  version : n.version? w' = n.version? w
  state : s'.state = s.state ∨ s'.state = .closed
  closed : c = .close → s'.state = .closed

theorem perform_rests {c : Call} {r : Except Failure Unit} (hs : s.IsOver n w)
    (hc : c ≠ .submit) (h : s.perform c w = ((r, s'), w')) : Rests n c s w s' w' := by
  cases c with
  | submit => exact absurd rfl hc
  | change c =>
    rcases hchange : s.change c with f | s₁
    · simp only [perform, hchange] at h
      cases h
      exact ⟨hs, rfl, rfl, rfl, Or.inl rfl, fun h => (by cases h)⟩
    · obtain ⟨p, rfl⟩ := change_ok hchange
      simp only [perform, hchange] at h
      cases h
      exact ⟨⟨hs.negotiator, hs.connected, hs.named, hs.isOpen⟩, rfl, rfl, rfl, Or.inl rfl,
        fun h => (by cases h)⟩
  | close =>
    obtain ⟨w₁, hclose, hexchanges, hversion, hover⟩ := close_cases hs
    change s.close w = _ at h
    rw [hclose] at h
    cases h
    exact ⟨hover, rfl, hexchanges, hversion, Or.inr rfl, fun _ => rfl⟩

/-- Calls keep a submission over its negotiator, under its handle. -/
theorem IsOver.perform {c : Call} {r : Except Failure Unit} (hs : s.IsOver n w)
    (h : s.perform c w = ((r, s'), w')) : s'.IsOver n w' ∧ s'.handle = s.handle := by
  by_cases hc : c = .submit
  · subst hc
    obtain ⟨g, -, htalks, hentered, hend⟩ := perform_submit hs h
    have hs' := hs.of_talks htalks
    rcases hend with ⟨-, rfl, hok⟩ | ⟨step, x, -, rfl, -⟩
    · -- Something was sent, so the submission was being configured and its session is open.
      obtain ⟨e, he, -⟩ := hok.posted
      have hsent : g.toList ≠ [] := List.ne_nil_of_mem (Segment.mem_of_post he)
      have hopen : s.state ≠ .closed := by simp [(hentered hsent).1]
      exact ⟨⟨hs'.negotiator, hs'.connected, hs'.named, fun _ => hs'.isOpen hopen⟩, rfl⟩
    · exact ⟨hs', rfl⟩
  · have hrests := perform_rests hs hc h
    exact ⟨hrests.isOver, hrests.handle⟩

theorem Reachable.isOver (h : Reachable n s w) : s.IsOver n w := by
  induction h with
  | start hc h =>
    have ho := isOpen_of_start hc h
    obtain ⟨e, -, -, -, ⟨f, hf, -⟩ | ⟨s, hs, hover, -⟩⟩ := start_spec hc ho h
    · cases hf
    · cases hs
      exact hover
  | call hs h ih => exact (ih.perform h).1
  | elsewhere hs h ih =>
    refine ⟨ih.negotiator, ⟨ih.connected.address, h ▸ ih.connected.known⟩, ih.named, fun hopen =>
      ?_⟩
    have ho := ih.isOpen hopen
    unfold RestNegotiator.isOpen World.session at ho ⊢
    rw [h]
    exact ho

end Submission

/-- The grant of an application, as an answer says it. -/
def sampleGrant : String :=
  "\x7b\"application-id\":\"application_1_0002\",\"maximum-resource-capability\":\x7b\"memory\":4096\x7d\x7d"

/-- A plan with stores of its own. -/
def SubmissionPlan.sample : SubmissionPlan := { manager := { store := 0 }, sink := 0 }

/-- What is noted about a failure in a step. -/
def SubmissionStep.note (step : SubmissionStep) (handle : String) : String :=
  "Submission step '" ++ step.name ++ "' of application '" ++ handle ++ "' failed"

/-- A failure that tells the step it was raised in. -/
structure Failure.Tells (f x : Failure) (handle : String) (step : SubmissionStep) : Prop where
  kind : f.kind = x.kind
  interrupt : x.kind.isInterrupt = true → f = x
  notes : x.kind.isInterrupt = false → f.notes = x.notes ++ [step.note handle]
  application : f.kind.isSubmission = true → f.applicationId.isNull = false ∧
    f.applicationId = x.applicationId.orElse (.text handle)
  label : f.kind.isSubmission = true → f.step.isNull = false ∧
    f.step = x.step.orElse (.text step.name)

theorem Value.isNull_orElse_text (v : Value) (s : String) :
    (v.orElse (.text s)).isNull = false := by
  unfold Value.orElse
  split
  · rename_i hset
    cases v with
    | null => cases hset
    | _ => rfl
  · rfl

theorem Failure.inStep_tells (x : Failure) (handle : String) (step : SubmissionStep) :
    (x.inStep handle step).Tells x handle step := by
  have hother : x.kind.isSubmission = true → x.kind.isInterrupt = false := by
    intro h
    cases hk : x.kind <;> rw [hk] at h <;> first | rfl | cases h
  by_cases hi : x.kind.isInterrupt = true
  · have hsame : x.inStep handle step = x := by
      unfold Failure.inStep
      rw [if_pos hi]
    rw [hsame]
    refine ⟨rfl, fun _ => rfl, fun h => ?_, fun h => ?_, fun h => ?_⟩
    · rw [hi] at h
      cases h
    · rw [hother h] at hi
      cases hi
    · rw [hother h] at hi
      cases hi
  · have hadded : x.inStep handle step =
        { x with
          applicationId := if x.kind.isSubmission then x.applicationId.orElse (.text handle)
            else x.applicationId
          step := if x.kind.isSubmission then x.step.orElse (.text step.name) else x.step
          notes := x.notes ++ [step.note handle] } := by
      unfold Failure.inStep
      rw [if_neg hi]
      rfl
    have hkind : (x.inStep handle step).kind = x.kind := by
      rw [hadded]
      rfl
    refine ⟨hkind, fun h => absurd h hi, fun _ => by rw [hadded], fun h => ?_, fun h => ?_⟩
    · rw [hkind] at h
      rw [hadded]
      simp [h, Value.isNull_orElse_text]
    · rw [hkind] at h
      rw [hadded]
      simp [h, Value.isNull_orElse_text]

end ClusterSubmission
