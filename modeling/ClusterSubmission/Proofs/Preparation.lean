import ClusterSubmission.Proofs.CredentialDelivery
import ClusterSubmission.Proofs.PostedContext
import ClusterSubmission.Proofs.SessionRuns

/-!
# How an attempt at submitting is prepared

Before the attempt policy is chosen, an attempt settles the memory and the command of the driver, by
the figures of the submission alone: it talks to nobody, and warns of a limit at most once. Behind
the choice it hands over what was settled, and warns of nothing.
-/
namespace ClusterSubmission

open Message

/-- The kinds of the warnings that were given, the oldest first. -/
def World.warned (w : World) : List SubmissionWarning := w.warnings.map (·.1)

/-- The world with one more warning. -/
def World.withWarning (w : World) (kind : SubmissionWarning) (message : String) : World :=
  { w with warnings := w.warnings ++ [(kind, message)] }

@[simp] theorem World.warned_withWarning (w : World) (kind : SubmissionWarning) (message : String) :
    (w.withWarning kind message).warned = w.warned ++ [kind] := by
  simp [World.warned, World.withWarning]

theorem Asks.withWarning (id : Nat) (w : World) (kind : SubmissionWarning) (message : String) :
    Asks id w [] (w.withWarning kind message) :=
  ⟨⟨rfl, (List.append_nil _).symm, rfl, rfl, rfl⟩, rfl, rfl, rfl⟩

theorem warn_of_closesNothing {m : String} (h : Log.ClosesNothing m.toList)
    (kind : SubmissionWarning) (w : World) : warn kind m w = (.ok (), w.withWarning kind m) := by
  unfold warn
  rw [Run.bind_of_ok (Run.log_of_closesNothing h warningLevel w)]
  rfl

/-- The figures of a submission: the memory that was asked for, that of the largest container, how
often the driver may be started, and whether its containers are to be kept. -/
structure Figures where
  asked : Int
  most : Int
  attempts : Int
  keep : Bool

/-- The memory that was asked for, limited by that of the largest container. -/
def Figures.granted (x : Figures) : Int := min x.asked x.most

/-- What is warned of before the attempt policy is chosen. -/
def Figures.capped (x : Figures) : List SubmissionWarning :=
  if x.most < x.asked then [.memoryCapped] else []

/-- Whether the limit cannot be warned of: what was asked for has no text. -/
def Figures.IsUnsaid (x : Figures) : Prop := x.most < x.asked ∧ (textBound : Int) ≤ x.asked

/-- A submission with some figures, as its setters and the resource manager let them be. -/
structure Submission.HasFigures (s : Submission) (x : Figures) : Prop where
  memory : s.parameters.driverMemory = .int x.asked
  memory_pos : 1 ≤ x.asked
  ceiling : s.ceiling.memory = .int x.most
  ceiling_nonneg : 0 ≤ x.most
  attempts : s.parameters.maxAttempts = .int x.attempts
  attempts_pos : 1 ≤ x.attempts
  keep : s.parameters.keepContainers = .bool x.keep

/-- A launch specification whose command has the heap size right after the path of the virtual
machine. -/
def LaunchSpec.HasHeap (spec : LaunchSpec) (wrapper : List String) (megabytes : Int) : Prop :=
  ∃ after, spec.command = .tuple (wrapper.map .text ++ .text defaultJavaPath ::
    .text ("-Xmx" ++ Text.intText megabytes ++ "m") :: after)

theorem Message.memory_of_readGrant {a : Response} {id : Value} {ceiling : Ceiling}
    (h : readGrant a = .ok (id, ceiling)) : ∃ most, ceiling.memory = .int most ∧ 0 ≤ most := by
  obtain ⟨p, hp, hgrant⟩ := bind_eq_ok h
  obtain ⟨v, -, hdecode⟩ := bind_eq_ok hp
  obtain ⟨d, hread⟩ := exists_read_of_decode hdecode
  cases hgrant
  exact memory_of_read hread

section Calm

variable {α β : Type} {x : Run α} {f : α → Run β}

/-- An operation that warns of nothing, however it ends. -/
def Run.IsCalm (x : Run α) : Prop := ∀ w, (x w).2.warnings = w.warnings

namespace Run.IsCalm

theorem of_staysIn {id : Nat} (h : x.StaysIn id) : x.IsCalm := fun w => (h w).warnings

theorem bind (hx : x.IsCalm) (hf : ∀ a, (f a).IsCalm) : (x >>= f).IsCalm := by
  intro w
  have hfirst := hx w
  rcases hw : x w with ⟨e | a, v⟩ <;> rw [hw] at hfirst
  · rw [Run.bind_of_error hw]
    exact hfirst
  · rw [Run.bind_of_ok hw]
    exact (hf a v).trans hfirst

theorem read {k : World → Run α} (h : ∀ w, (k w).IsCalm) :
    (MonadState.get >>= k : Run α).IsCalm := fun w => h w w

theorem pure (a : α) : (Pure.pure a : Run α).IsCalm := fun _ => rfl

theorem ofExcept (r : Except Reason α) : (Run.ofExcept r).IsCalm := by
  intro w
  cases r <;> rfl

theorem log (level : Int) (m : String) : (Run.log level m).IsCalm := by
  intro w
  rcases Run.log_cases level m w with h | ⟨r, h, -⟩ <;> rw [h]

theorem info (m : String) : (Run.info m).IsCalm := log infoLevel m

theorem debug (m : String) : (Run.debug m).IsCalm := log debugLevel m

theorem inStep (s : Submission) (step : SubmissionStep) (hx : x.IsCalm) :
    (s.inStep step x).IsCalm := by
  refine bind (debug _) fun _ w => ?_
  have hbody := hx w
  rcases hw : x w with ⟨e | a, v⟩ <;> rw [hw] at hbody <;> exact hbody

end Run.IsCalm

theorem RestNegotiator.clusterVersion_isCalm (n : RestNegotiator) : n.clusterVersion.IsCalm := by
  intro w
  have hspares := n.perform_spares .version w
  rcases h : n.clusterVersion w with ⟨r, w'⟩
  rw [perform_version_eq h] at hspares
  exact hspares.warnings

end Calm

namespace Submission

variable {n : RestNegotiator} {s : Submission} {w w' : World}

/-- The steps before the choice of the attempt policy. -/
def prepare (s : Submission) : Run (ResourceRequest × LaunchSpec) := do
  s.inStep .validate (Run.ofExcept s.validate)
  let request ← s.inStep .resourceRequest s.resourceRequest
  let spec ← s.inStep .launchCommand (s.launchSpec request)
  return (request, spec)

/-- The steps behind the choice of the attempt policy. -/
def conclude (s : Submission) (request : ResourceRequest) (spec : LaunchSpec)
    (policy : AttemptPolicy) : Run (SubmissionReport × Submission) :=
  s.inStep .submit (s.handOver ⟨s.handleValue, request, spec, policy, s.parameters,
    s.unmanaged⟩) >>=
    fun _ => if s.unmanaged.isSet = true then
      s.inStep .credential s.deliverCredential >>= fun c =>
        pure (⟨s.handle, request, spec, policy, some c⟩, { s with state := .submitted })
    else pure (⟨s.handle, request, spec, policy, none⟩, { s with state := .submitted })

theorem submit_eq (s : Submission) : s.submit = s.prepare >>= fun p =>
    s.inStep .attemptPolicy s.attemptPolicy >>= fun policy => s.conclude p.1 p.2 policy := by
  unfold submit prepare conclude
  simp only [bind_assoc, pure_bind]

theorem recordCredential_isCalm (store : Nat) (user : Value) (c : Credential) :
    (recordCredential store user c).IsCalm := by
  intro w
  rcases recordCredential_cases store user c w with ⟨stores, h⟩ | ⟨x, h⟩ <;> rw [h]

theorem addCredential_isCalm (sink : Nat) (c : Credential) : (addCredential sink c).IsCalm := by
  have hput : ∀ name token, (putToken sink name token).IsCalm := by
    intro name token w
    unfold putToken
    rw [Run.get_bind]
    cases (w.tokenSink sink).put name token <;> rfl
  unfold addCredential
  exact .read fun w => .bind (.debug _) fun _ => hput _ _

theorem issue_isCalm (m : TokenManager) (n : RestNegotiator) (handle : Value) :
    (m.issue n.operations handle).IsCalm := by
  unfold TokenManager.issue
  refine .bind (.of_staysIn (n.obtainCredential_staysIn handle)) fun c => ?_
  exact .bind (recordCredential_isCalm _ _ c) fun _ => .bind (.ofExcept _) fun _ =>
    .bind (.debug _) fun _ => .pure c

theorem deliverCredential_isCalm (hs : s.negotiator = n.operations) :
    s.deliverCredential.IsCalm := by
  unfold deliverCredential
  rw [hs]
  exact .bind (issue_isCalm _ n _) fun c => .bind (addCredential_isCalm _ c) fun _ => .pure c

/-- Behind the choice of the attempt policy, nothing is warned of. -/
theorem conclude_isCalm (hs : s.negotiator = n.operations) (request : ResourceRequest)
    (spec : LaunchSpec) (policy : AttemptPolicy) : (s.conclude request spec policy).IsCalm := by
  have hhand : ∀ o, (s.handOver o).IsCalm := by
    intro o
    unfold handOver
    rw [hs]
    exact .bind (.info _) fun _ => .bind (.ofExcept _) fun _ => .bind (.info _) fun _ =>
      .of_staysIn (n.submit_staysIn o)
  unfold conclude
  refine .bind (.inStep s .submit (hhand _)) fun _ => ?_
  split
  · exact .bind (.inStep s .credential (deliverCredential_isCalm hs)) fun _ => .pure _
  · exact .pure _

section Figures

variable {x : Figures}

theorem keepContainers_of_apply {p q : Parameters} {c : Change} (h : c.apply p = .ok q) :
    q.keepContainers = p.keepContainers ∨ ∃ v : Value, q.keepContainers = .bool v.isSet := by
  have hsame : c.parameter ≠ "keep_containers" → q.keepContainers = p.keepContainers := by
    intro hne
    have hget := (Change.differOnlyIn_of_apply h "keep_containers" (Ne.symm hne)).1
    exact Option.some.inj hget
  cases c with
  | preserveContainers v =>
    cases h
    exact Or.inr ⟨v, rfl⟩
  | _ => exact Or.inl (hsame (by simp [Change.parameter]))

/-- Whether containers are to be kept is always a truth value. -/
theorem Arises.keepContainers (hs : s.Arises) :
    ∃ keep, s.parameters.keepContainers = .bool keep := by
  -- By induction on the calls: only a change of this parameter moves it.
  induction hs with
  | start h =>
    obtain ⟨-, wrapper, hp⟩ := start_ok h
    rw [hp]
    exact ⟨false, rfl⟩
  | call hs h ih =>
    obtain ⟨p, st, rfl, -, rfl | ⟨d, -, -, happly⟩⟩ := perform_moves h
    · exact ih
    · rcases keepContainers_of_apply happly with hsame | ⟨v, hset⟩
      · obtain ⟨keep, hkeep⟩ := ih
        exact ⟨keep, hsame.trans hkeep⟩
      · exact ⟨v.isSet, hset⟩
  | @tagged tags s s' r hs h ih =>
    rcases s.addTags_cases tags with ⟨-, hrefused⟩ | ⟨-, _, _, -, hadded⟩
    · rw [hrefused] at h
      cases h
      exact ih
    · rw [hadded] at h
      cases h
      exact ih

theorem Reachable.arises (h : Reachable n s w) : s.Arises := by
  induction h with
  | start hc h => exact .start h
  | call hs h ih => exact .call ih h
  | elsewhere hs h ih => exact ih

/-- The ceiling of a submission is the one that was granted with its application. -/
theorem Reachable.granted (h : Reachable n s w) :
    ∃ a, readGrant a = .ok (s.handleValue, s.ceiling) := by
  induction h with
  | start hc h =>
    have ho := isOpen_of_start hc h
    obtain ⟨_, w₁, hline, h⟩ := Run.of_bind_ok h
    obtain rfl := Run.of_debug_ok hline
    obtain ⟨⟨id, ceiling⟩, w₂, hreserved, h⟩ := Run.of_bind_ok h
    obtain ⟨handle, _, hhandle, h⟩ := Run.of_bind_ok h
    obtain ⟨hhandle, -⟩ := Run.of_ofExcept_ok hhandle
    obtain ⟨_, _, -, h⟩ := Run.of_bind_ok h
    cases h
    obtain ⟨e, -, -, hends⟩ :=
      RestNegotiator.createApplication_spec hc ho (Run.of_onFailure_ok hreserved)
    obtain ⟨a, -, hread⟩ := hends.ok
    obtain ⟨name, most, -, -, heq, -⟩ := handle_of_readGrant hread
    cases heq
    cases hhandle
    exact ⟨a, hread⟩
  | call hs h ih =>
    obtain ⟨p, st, rfl, -⟩ := perform_moves h
    exact ih
  | elsewhere hs h ih => exact ih

theorem Reachable.exists_figures (h : Reachable n s w) : ∃ x, s.HasFigures x := by
  have hvalid := h.arises.isValid
  obtain ⟨asked, hasked, hpos⟩ := hvalid.driverMemory
  obtain ⟨attempts, hattempts, hsome⟩ := hvalid.maxAttempts
  obtain ⟨keep, hkeep⟩ := h.arises.keepContainers
  obtain ⟨a, hread⟩ := h.granted
  obtain ⟨most, hmost, hnonneg⟩ := memory_of_readGrant hread
  exact ⟨⟨asked, most, attempts, keep⟩, hasked, hpos, hmost, hnonneg, hattempts, hsome, hkeep⟩

/-- The request for the container has the granted memory, with a warning if this is less than what
was asked for. -/
theorem resourceRequest_run (hx : s.HasFigures x) (hsaid : ¬ x.IsUnsaid) (id : Nat) (w : World) :
    ∃ r w₁, s.resourceRequest w = (.ok r, w₁) ∧ r.memory = .int x.granted ∧ Asks id w [] w₁ ∧
      w₁.warned = w.warned ++ x.capped := by
  have hline : Log.ClosesNothing ("Requested " ++ (Value.int x.asked).plain
      ++ "MB of memory for the driver. The max on " ++ "this YARN installation is "
      ++ (Value.int x.most).plain ++ ". Using " ++ (Value.int x.most).plain
      ++ " as the memory for the driver.").toList := by
    apply Log.closesNothing_of_notMem
    simp only [String.toList_append, List.mem_append, not_or]
    exact ⟨⟨⟨⟨⟨⟨⟨by decide, Text.notMem_intText _⟩, by decide⟩, by decide⟩,
      Text.notMem_intText _⟩, by decide⟩, Text.notMem_intText _⟩, by decide⟩
  unfold resourceRequest
  rw [memory_eq hx.memory hx.ceiling]
  dsimp only
  rw [Run.ofExcept_ok_bind, hx.memory, Value.isBefore_int, Run.ofExcept_ok_bind, hx.ceiling]
  by_cases hless : x.most < x.asked
  · have hcapped : min x.asked x.most < x.asked := by omega
    have hshort : x.asked < textBound := by
      by_contra hlong
      exact hsaid ⟨hless, Int.not_lt.mp hlong⟩
    have hasked : (Value.int x.asked).shown = .ok (Value.int x.asked).plain := by
      rw [Value.shown_eq_ok, Value.textFault?_nat (by have := hx.memory_pos; omega), if_pos hshort]
      exact ⟨rfl, rfl⟩
    have hmost : (Value.int x.most).shown = .ok (Value.int x.most).plain := by
      rw [Value.shown_eq_ok, Value.textFault?_nat hx.ceiling_nonneg, if_pos (by omega)]
      exact ⟨rfl, rfl⟩
    rw [if_pos (decide_eq_true hcapped), hasked, Run.ofExcept_ok_bind, hmost, Run.ofExcept_ok_bind,
      Run.bind_of_ok (warn_of_closesNothing hline _ w)]
    refine ⟨_, _, rfl, rfl, Asks.withWarning id w _ _, ?_⟩
    simp [Figures.capped, hless]
  · have hcapped : ¬ min x.asked x.most < x.asked := by omega
    rw [if_neg (by simpa using hcapped)]
    refine ⟨_, w, rfl, rfl, Asks.refl id w, ?_⟩
    simp [Figures.capped, hless]

/-- A limit that cannot be warned of makes the request fail, without a warning. -/
theorem resourceRequest_fails (hx : s.HasFigures x) (hunsaid : x.IsUnsaid) (w : World) :
    s.resourceRequest w = (.error Reason.integerTextTooLong.failure, w) := by
  obtain ⟨hless, hlong⟩ := hunsaid
  have hcapped : min x.asked x.most < x.asked := by omega
  have hasked : (Value.int x.asked).shown = .error .integerTextTooLong := by
    unfold Value.shown
    rw [Value.textFault?_nat (by have := hx.memory_pos; omega), if_neg (Int.not_lt.mpr hlong)]
    rfl
  unfold resourceRequest
  rw [memory_eq hx.memory hx.ceiling]
  dsimp only
  rw [Run.ofExcept_ok_bind, hx.memory, Value.isBefore_int, Run.ofExcept_ok_bind,
    if_pos (decide_eq_true hcapped), hasked]
  rfl

/-- A command without assertions has its heap size right after the path of the virtual machine. -/
theorem build_heap {c : LaunchCommand} {m : Int} {tokens : List Value}
    (hassertions : c.assertions = .bool false) (hmemory : c.memory = .int m)
    (h : c.build = .ok tokens) : ∃ after, tokens = c.wrapper.map .text ++ c.javaPath ::
      .text ("-Xmx" ++ Text.intText m ++ "m") :: after := by
  unfold LaunchCommand.build at h
  rw [hassertions, hmemory] at h
  split at h
  · cases h
  · obtain ⟨heap, hheap, h⟩ := bind_eq_ok h
    obtain ⟨output, -, h⟩ := bind_eq_ok h
    obtain ⟨error, -, h⟩ := bind_eq_ok h
    obtain ⟨text, htext, hheap⟩ := bind_eq_ok hheap
    obtain ⟨-, rfl⟩ := Value.shown_eq_ok.mp htext
    cases hheap
    cases h
    refine ⟨c.jvmOptions.map .text ++ [.text "-classpath", c.classpath, c.launcher]
      ++ c.configurationPaths.map .text ++ output ++ error, ?_⟩
    have hnumber : (Value.int m).plain = Text.intText m := rfl
    simp [LaunchCommand.tokenIf, Value.isSet, hnumber]

/-- What an attempt is prepared with: a request for the granted memory, and a command with a heap of
this size. -/
structure IsPrepared (s : Submission) (x : Figures) (request : ResourceRequest)
    (spec : LaunchSpec) : Prop where
  memory : request.memory = .int x.granted
  heap : spec.HasHeap s.parameters.wrapper.asTokens x.granted

/-- How the preparation of an attempt ends, and what it warns of. A limit is warned of unless it
cannot be said; then the tokens of the sequences come before the size of the heap, and only where
the heap has a size the command can be built. -/
inductive Prepares (s : Submission) (x : Figures) :
    List SubmissionWarning → Except Failure (ResourceRequest × LaunchSpec) → Prop
  | unsaid (h : x.IsUnsaid) : Prepares s x [] (.error
      (Reason.integerTextTooLong.failure.inStep s.handle .resourceRequest))
  | faulty (hsaid : ¬ x.IsUnsaid) (y : Reason) (h : s.sequenceFault? = some y) :
    Prepares s x x.capped (.error (y.failure.inStep s.handle .launchCommand))
  | memoryless (hsaid : ¬ x.IsUnsaid) (h : s.sequenceFault? = none) (hzero : x.granted = 0) :
    Prepares s x x.capped (.error
      ((Reason.memoryNotPositive "0").failure.inStep s.handle .launchCommand))
  | textless (hsaid : ¬ x.IsUnsaid) (hpos : 1 ≤ x.granted) (y : Reason) :
    Prepares s x x.capped (.error (y.failure.inStep s.handle .launchCommand))
  | ready (hsaid : ¬ x.IsUnsaid) (hpos : 1 ≤ x.granted) {request : ResourceRequest}
      {spec : LaunchSpec} (h : IsPrepared s x request spec) :
    Prepares s x x.capped (.ok (request, spec))

theorem Prepares.of_ok {kinds : List SubmissionWarning} {p : ResourceRequest × LaunchSpec}
    (h : Prepares s x kinds (.ok p)) :
    kinds = x.capped ∧ ¬ x.IsUnsaid ∧ 1 ≤ x.granted ∧ IsPrepared s x p.1 p.2 := by
  cases h with
  | ready hsaid hpos hready => exact ⟨rfl, hsaid, hpos, hready⟩

theorem launchSpec_of_error {r : ResourceRequest} {y : Reason} (h : s.launchTokens r = .error y)
    (w : World) : s.launchSpec r w = (.error y.failure, w) := by
  unfold launchSpec
  rw [h]
  rfl

theorem launchSpec_of_ok {r : ResourceRequest} {tokens : List Value}
    (hp : s.parameters.IsValid) (h : s.launchTokens r = .ok tokens) (w : World) :
    ∃ spec, s.launchSpec r w = (.ok spec, w) ∧ spec.command = .tuple tokens := by
  obtain ⟨resources, hresources, -⟩ := hp.localResources
  obtain ⟨environment, henvironment, -⟩ := hp.environment
  unfold launchSpec
  rw [h, hresources, henvironment]
  exact ⟨_, rfl, rfl⟩

/-- How the steps behind the request for the container end. -/
theorem launchSpec_prepares {request : ResourceRequest} (hp : s.parameters.IsValid)
    (hx : s.HasFigures x) (hsaid : ¬ x.IsUnsaid) (hrequest : request.memory = .int x.granted)
    (w : World) : (∃ spec, s.launchSpec request w = (.ok spec, w) ∧
        Prepares s x x.capped (.ok (request, spec))) ∨
      ∃ y : Reason, s.launchSpec request w = (.error y.failure, w) ∧
        Prepares s x x.capped (.error (y.failure.inStep s.handle .launchCommand)) := by
  have hnonneg : 0 ≤ x.granted := by
    have hasked := hx.memory_pos
    have hmost := hx.ceiling_nonneg
    unfold Figures.granted
    omega
  have htokens := launchTokens_eq (s := s) hrequest
  cases hfault : s.sequenceFault? with
  | some y =>
    rw [hfault] at htokens
    exact Or.inr ⟨y, launchSpec_of_error htokens w, .faulty hsaid y hfault⟩
  | none =>
    rw [hfault, Option.elim_none] at htokens
    by_cases hpos : 0 < x.granted
    · rw [if_pos hpos] at htokens
      rcases hbuild : (s.driverCommand x.granted).build with y | tokens
      · rw [hbuild] at htokens
        exact Or.inr ⟨y, launchSpec_of_error htokens w, .textless hsaid hpos y⟩
      · rw [hbuild] at htokens
        obtain ⟨spec, hspec, hcommand⟩ := launchSpec_of_ok hp htokens w
        obtain ⟨after, rfl⟩ := build_heap rfl rfl hbuild
        exact Or.inl ⟨spec, hspec, .ready hsaid hpos ⟨hrequest, after, hcommand⟩⟩
    · have hzero : x.granted = 0 := by omega
      have hrefusal : (Value.int 0).heapRefusal = .memoryNotPositive "0" := by
        have htext : Value.textFault? (.int 0) = none := by
          rw [Value.textFault?_int]
          exact if_pos (lt_textBound (k := 0) (by decide) (by decide))
        unfold Value.heapRefusal
        rw [htext]
        rfl
      rw [if_neg hpos, hzero, hrefusal] at htokens
      exact Or.inr ⟨_, launchSpec_of_error htokens w, .memoryless hsaid hfault hzero⟩

/-- The preparation of what is valid talks to nobody, and ends as it is said. -/
theorem prepare_prepares (hs : s.IsOver n w) (hp : s.parameters.IsValid) (hx : s.HasFigures x)
    (hv : s.validate = .ok ()) : ∃ w₁ kinds r, s.prepare w = (r, w₁) ∧
      Asks n.manager.session w [] w₁ ∧ w₁.warned = w.warned ++ kinds ∧ Prepares s x kinds r := by
  have hvalid : s.inStep .validate (Run.ofExcept s.validate) w = (.ok (), w) := by
    apply inStep_of_ok hs.named
    rw [hv]
    rfl
  by_cases hunsaid : x.IsUnsaid
  · refine ⟨w, [], _, ?_, Asks.refl _ w, (List.append_nil _).symm, .unsaid hunsaid⟩
    unfold prepare
    rw [Run.bind_of_ok hvalid,
      Run.bind_of_error (inStep_of_error hs.named (resourceRequest_fails hx hunsaid w))]
  · obtain ⟨request, w₁, hrequest, hmemory, hasks, hwarned⟩ :=
      resourceRequest_run hx hunsaid n.manager.session w
    have hsteps : s.prepare w = (s.inStep .launchCommand (s.launchSpec request) >>= fun spec =>
        pure (request, spec)) w₁ := by
      unfold prepare
      rw [Run.bind_of_ok hvalid, Run.bind_of_ok (inStep_of_ok hs.named hrequest)]
    rcases launchSpec_prepares hp hx hunsaid hmemory w₁ with
      ⟨spec, hspec, hends⟩ | ⟨y, hfailed, hends⟩
    · refine ⟨w₁, _, _, ?_, hasks, hwarned, hends⟩
      rw [hsteps, Run.bind_of_ok (inStep_of_ok hs.named hspec)]
      rfl
    · refine ⟨w₁, _, _, ?_, hasks, hwarned, hends⟩
      rw [hsteps, Run.bind_of_error (inStep_of_error hs.named hfailed)]

end Figures

end Submission

end ClusterSubmission
