import ClusterSubmission.Proofs.ContextForm
import ClusterSubmission.Proofs.Protocol
import ClusterSubmission.Proofs.ValidParameters

/-!
# What a configuration is resolved to

The steps of submitting resolve the parameters of a configuration: into the request for a container,
the launch specification, and the attempt policy. The cluster limits the memory and decides whether
containers are kept, and nothing else is changed. What is handed over is the form of the
configuration.
-/
namespace ClusterSubmission

open Message

theorem Value.isBefore_int (a b : Int) :
    Value.isBefore (.int a) (.int b) = .ok (decide (a < b)) := by
  have hlt : Value.isBefore? (.int a) (.int b) = some (decide (a < b)) := by
    change some (some (compare a b) == some .lt) = _
    by_cases h : a < b
    · have hcompare : compare a b = .lt := Int.compare_eq_lt.mpr h
      rw [hcompare]
      simp [h]
    · have hcompare : compare a b ≠ .lt := fun hc => h (Int.compare_eq_lt.mp hc)
      simp [h, hcompare]
  unfold Value.isBefore
  rw [hlt]

theorem Value.int_beq (m n : Int) : (Value.int m == .int n) = decide (m = n) := by
  change (some (compare m n) == some .eq) = _
  by_cases h : m = n
  · simp [h]
  · have hcompare : compare m n ≠ .eq := fun hc => h (Int.compare_eq_eq.mp hc)
    simp [h, hcompare]

theorem Run.of_ofExcept_ok {α : Type} {x : Except Reason α} {w w' : World} {a : α}
    (h : Run.ofExcept x w = (.ok a, w')) : x = .ok a ∧ w = w' := by
  cases x with
  | error e => cases h
  | ok b =>
    cases h
    exact ⟨rfl, rfl⟩

theorem Value.map_plain_text (ts : List String) : (ts.map Value.text).map Value.plain = ts := by
  rw [List.map_map]
  exact List.map_id ts

namespace LaunchCommand

theorem plain_tokenIf (b : Bool) (t : String) :
    (tokenIf b t).map Value.plain = if b then [t] else [] := by
  cases b <;> rfl

theorem plain_shownIf {condition : Bool} {v : Value} {token : String → String} {ts : List Value}
    (h : shownIf condition v token = .ok ts) :
    ts.map Value.plain = if condition then [token v.plain] else [] := by
  cases condition with
  | false =>
    cases h
    rfl
  | true =>
    obtain ⟨text, htext, h⟩ := bind_eq_ok h
    obtain ⟨-, rfl⟩ := Value.shown_eq_ok.mp htext
    cases h
    rfl

/-- The tokens of a command that can be built. -/
theorem plain_of_build {c : LaunchCommand} {ts : List Value} (h : c.build = .ok ts) :
    ts.map Value.plain = c.wrapper ++ [c.javaPath.plain]
      ++ (if c.assertions.isSet then ["-ea"] else [])
      ++ (if c.memory.isNull then [] else ["-Xmx" ++ c.memory.plain ++ "m"])
      ++ c.jvmOptions ++ ["-classpath", c.classpath.plain, c.launcher.plain]
      ++ c.configurationPaths
      ++ (if c.outputPath.isSet then ["1>" ++ c.outputPath.plain] else [])
      ++ (if c.errorPath.isSet then ["2>" ++ c.errorPath.plain] else []) := by
  unfold build at h
  split at h
  · cases h
  · obtain ⟨heap, hheap, h⟩ := bind_eq_ok h
    obtain ⟨output, houtput, h⟩ := bind_eq_ok h
    obtain ⟨error, herror, h⟩ := bind_eq_ok h
    cases h
    simp only [List.map_append, Value.map_plain_text, plain_tokenIf, plain_shownIf hheap,
      plain_shownIf houtput, plain_shownIf herror, List.map_cons, List.map_nil]
    cases c.memory.isNull <;> rfl

end LaunchCommand

theorem Run.IsSilent.version? {α : Type} (n : RestNegotiator) {x : Run α} {w w' : World}
    {r : Except Failure α} (hx : x.IsSilent n.manager.session) (h : x w = (r, w')) :
    n.version? w' = n.version? w := (hx _ _ _ h).1.version

/-- Where the version was asked for, it is known. -/
theorem RestNegotiator.version?_of_ok {n : RestNegotiator} {w w' : World} {v : Version}
    (hc : n.IsConnected w) (ho : n.isOpen w = true) (h : n.clusterVersion w = (.ok v, w')) :
    n.version? w' = some v := by
  rcases hv : n.version? w with _ | u
  · obtain ⟨e, -, hasks⟩ := clusterVersion_of_unknown hc ho hv h
    obtain ⟨a, ha, hread⟩ := hasks.ends.ok
    have hgiven : e.version? = some v := by
      simp [Exchange.version?, ha, hread, Except.toOption]
    rcases hasks.known with ⟨u, hu, hknown⟩ | ⟨-, f, hf, -⟩
    · rw [hknown, ← hu, hgiven]
    · cases hf
  · rw [clusterVersion_of_known ho hv] at h
    cases h
    exact hv

namespace Submission

variable {n : RestNegotiator} {s s' : Submission} {w w' : World}

section Steps

/-- A submission with the parameters of a configuration, on an occasion. -/
structure IsConfigured (c : Configuration) (o : Occasion) (s : Submission) : Prop where
  parameters : ∃ wrapper renewals, s.parameters = c.parameters wrapper renewals ∧
    wrapper.asTokens = o.wrapper
  most : s.ceiling.memory = .int o.most
  classpath : s.classpath = o.classpath
  unmanaged : s.unmanaged = .bool o.unmanaged
  handle : s.handle = o.handle

variable {c : Configuration} {o : Occasion}

/-- The memory of the driver is what was asked for, limited by the largest container. -/
theorem memory_eq {asked most : Int} (hasked : s.parameters.driverMemory = .int asked)
    (hmost : s.ceiling.memory = .int most) : s.memory = .ok (.int (min asked most)) := by
  unfold Submission.memory
  rw [hmost, hasked]
  dsimp only
  rw [Value.isBefore_int]
  change Except.ok (if decide (most < asked) = true then Value.int most else Value.int asked) = _
  by_cases hless : most < asked
  · have hmin : min asked most = most := by omega
    rw [if_pos (decide_eq_true hless), hmin]
  · have hmin : min asked most = asked := by omega
    rw [if_neg (by simpa using hless), hmin]

theorem IsConfigured.memory_eq (h : s.IsConfigured c o) :
    s.memory = .ok (.int (c.grantedMemory o)) := by
  obtain ⟨wrapper, renewals, hp, -⟩ := h.parameters
  have hasked : s.parameters.driverMemory = .int c.memory := by
    rw [hp]
    rfl
  exact Submission.memory_eq hasked h.most

theorem IsConfigured.driverHost_eq (h : s.IsConfigured c o) :
    s.parameters.driverHost = c.host.elim .null .text := by
  obtain ⟨wrapper, renewals, hp, -⟩ := h.parameters
  rw [hp]
  rfl

theorem resourceRequest_eq (h : s.IsConfigured c o) {r : ResourceRequest}
    (hr : s.resourceRequest w = (.ok r, w')) : r = requestOf c o := by
  have hhost := h.driverHost_eq
  have hanywhere : (s.parameters.driverHost == Value.text anyHost) =
      decide (c.host = some anyHost) := by
    rw [hhost]
    cases c.host with
    | none => rfl
    | some host =>
      change (host == anyHost) = _
      simp [beq_eq_decide]
  unfold resourceRequest at hr
  obtain ⟨memory, w₁, hmemory, hr⟩ := Run.of_bind_ok hr
  obtain ⟨hmemory, -⟩ := Run.of_ofExcept_ok hmemory
  rw [h.memory_eq] at hmemory
  cases hmemory
  obtain ⟨capped, w₂, -, hr⟩ := Run.of_bind_ok hr
  have hresult : r = ⟨s.parameters.driverHost, .int (c.grantedMemory o), .int 1, .int 1,
      .bool (s.parameters.driverHost == .text anyHost)⟩ := by
    cases capped with
    | false =>
      cases hr
      rfl
    | true =>
      obtain ⟨_, _, -, hr⟩ := Run.of_bind_ok hr
      obtain ⟨_, _, -, hr⟩ := Run.of_bind_ok hr
      obtain ⟨_, _, -, hr⟩ := Run.of_bind_ok hr
      cases hr
      rfl
  rw [hresult, hanywhere, hhost]
  rfl

/-- Why the driver's command has no tokens, if a part of it is at fault that is a sequence. -/
def sequenceFault? (s : Submission) : Option Reason :=
  s.parameters.wrapper.tokenFault?.or s.parameters.configurationPaths.tokenFault?

/-- The parts of the driver's command, with a heap size. -/
def driverCommand (s : Submission) (megabytes : Int) : LaunchCommand where
  wrapper := s.parameters.wrapper.asTokens
  memory := .int megabytes
  classpath := s.classpath.orElse (.text defaultClasspath)
  launcher := s.parameters.launcher
  configurationPaths := s.parameters.configurationPaths.asTokens
  outputPath := s.parameters.outputPath
  errorPath := s.parameters.errorPath

/-- The tokens of the driver are those of its command, if the sequences in it have tokens and the
heap has a size. -/
theorem launchTokens_eq {r : ResourceRequest} {m : Int} (hr : r.memory = .int m) :
    s.launchTokens r = s.sequenceFault?.elim
      (if 0 < m then (s.driverCommand m).build else .error (Value.int m).heapRefusal) .error := by
  unfold launchTokens sequenceFault?
  simp only [hr, LaunchCommand.withWrapper, LaunchCommand.withConfigurationPaths, Value.tokens_eq,
    LaunchCommand.withMemory_eq, Value.isHeapSize_int, decide_eq_true_eq]
  cases s.parameters.wrapper.tokenFault? with
  | some x => rfl
  | none =>
    cases s.parameters.configurationPaths.tokenFault? with
    | some x => rfl
    | none => by_cases hm : 0 < m <;> simp only [hm, if_true, if_false] <;> rfl

theorem launchTokens_ok {r : ResourceRequest} {m : Int} {tokens : List Value}
    (hr : r.memory = .int m) (h : s.launchTokens r = .ok tokens) :
    s.sequenceFault? = none ∧ 0 < m ∧ (s.driverCommand m).build = .ok tokens := by
  rw [launchTokens_eq hr] at h
  cases hfault : s.sequenceFault? with
  | some x =>
    rw [hfault] at h
    cases h
  | none =>
    rw [hfault, Option.elim_none] at h
    split at h
    · exact ⟨rfl, ‹_›, h⟩
    · cases h

theorem launchSpec_eq (h : s.IsConfigured c o) {spec : LaunchSpec}
    (hsink : (w.tokenSink s.sink).tokens = rawEntries .text o.tokens)
    (hs : s.launchSpec (requestOf c o) w = (.ok spec, w')) : IsSpecOf c o spec := by
  obtain ⟨wrapper, renewals, hp, hwrapper⟩ := h.parameters
  obtain ⟨tokens, w₁, htokens, hs⟩ := Run.of_bind_ok hs
  obtain ⟨hmade, rfl⟩ := Run.of_ofExcept_ok htokens
  have hmemory : (requestOf c o).memory = .int (c.grantedMemory o) := rfl
  obtain ⟨-, -, hbuilt⟩ := launchTokens_ok hmemory hmade
  rw [hp] at hs
  cases hs
  refine ⟨⟨tokens, rfl, ?_⟩, rfl, rfl, congrArg Value.mapping hsink⟩
  have hpaths : (Value.list (c.configurationPaths.map .text)).asTokens = c.configurationPaths :=
    Value.map_plain_text c.configurationPaths
  have hredirected : ∀ sign path : String,
      (if (Value.text path).isSet = true then [sign ++ path] else []) =
        if path = "" then [] else [sign ++ path] := by
    intro sign path
    by_cases hempty : path = "" <;> simp [Value.isSet, hempty]
  rw [LaunchCommand.plain_of_build hbuilt]
  unfold driverCommand
  rw [hp, h.classpath]
  change wrapper.asTokens ++ [defaultJavaPath] ++ []
    ++ ["-Xmx" ++ Text.intText (c.grantedMemory o) ++ "m"] ++ []
    ++ ["-classpath", (o.classpath.orElse (.text defaultClasspath)).plain, c.launcher]
    ++ (Value.list (c.configurationPaths.map .text)).asTokens
    ++ (if (Value.text c.outputPath).isSet = true then ["1>" ++ c.outputPath] else [])
    ++ (if (Value.text c.errorPath).isSet = true then ["2>" ++ c.errorPath] else []) = _
  rw [hwrapper, hpaths, hredirected, hredirected]
  unfold Configuration.commandTokens
  simp only [List.append_assoc, List.append_nil, List.cons_append, List.nil_append]

/-- Containers are kept if this is wanted and the cluster, whose version is known then, keeps
them. -/
theorem keepsContainers_eq (hs : s.IsOver n w) (ho : n.isOpen w = true) {keep : Bool}
    (hkeep : s.parameters.keepContainers = .bool keep) {v : Value}
    (h : s.keepsContainers w = (.ok v, w')) : ∃ keeps, v = .bool (keep && keeps) ∧
      (keep = true → ∃ version, n.version? w' = some version ∧
        keeps = version.keepsContainers) := by
  unfold keepsContainers at h
  rw [hkeep] at h
  cases keep with
  | false =>
    cases h
    exact ⟨false, rfl, nofun⟩
  | true =>
    rw [hs.negotiator] at h
    obtain ⟨version, w₁, hask, h⟩ := Run.of_bind_ok h
    have hknown := RestNegotiator.version?_of_ok hs.connected ho hask
    rcases hkeeps : version.keepsContainers with _ | _
    · simp only [hkeeps, Bool.false_eq_true, if_false] at h
      have hlater := Run.IsSilent.version? n (.bind (.warn _ _) fun _ => .pure _) h
      obtain ⟨_, _, -, h⟩ := Run.of_bind_ok h
      cases h
      exact ⟨false, rfl, fun _ => ⟨version, hlater.trans hknown, hkeeps.symm⟩⟩
    · simp only [hkeeps, if_true] at h
      have hlater := Run.IsSilent.version? n (.bind (.log _ _) fun _ => .pure _) h
      obtain ⟨_, _, -, h⟩ := Run.of_bind_ok h
      cases h
      exact ⟨true, rfl, fun _ => ⟨version, hlater.trans hknown, hkeeps.symm⟩⟩

theorem attemptPolicy_eq (hs : s.IsOver n w) (ho : n.isOpen w = true) (h : s.IsConfigured c o)
    {policy : AttemptPolicy} (hpolicy : s.attemptPolicy w = (.ok policy, w')) :
    ∃ keeps, policy = policyOf c { o with keeps } ∧ (c.keepContainers = true →
      ∃ version, n.version? w' = some version ∧ keeps = version.keepsContainers) := by
  obtain ⟨wrapper, renewals, hp, -⟩ := h.parameters
  have hkeep : s.parameters.keepContainers = .bool c.keepContainers := by
    rw [hp]
    rfl
  have hattempts : s.parameters.maxAttempts = .int c.maxAttempts := by
    rw [hp]
    rfl
  unfold attemptPolicy at hpolicy
  obtain ⟨v, w₁, hkept, hpolicy⟩ := Run.of_bind_ok hpolicy
  obtain ⟨keeps, rfl, hknown⟩ := keepsContainers_eq hs ho hkeep hkept
  have hresult : policy = ⟨s.parameters.maxAttempts, .bool (c.keepContainers && keeps)⟩ ∧
      n.version? w' = n.version? w₁ := by
    dsimp only at hpolicy
    split at hpolicy
    · have hversion := Run.IsSilent.version? n (.bind (.warn _ _) fun _ => .pure _) hpolicy
      obtain ⟨_, _, -, hpolicy⟩ := Run.of_bind_ok hpolicy
      cases hpolicy
      exact ⟨rfl, hversion⟩
    · cases hpolicy
      exact ⟨rfl, rfl⟩
  obtain ⟨rfl, hversion⟩ := hresult
  rw [hattempts, hversion]
  exact ⟨keeps, rfl, hknown⟩

/-- The order that the steps make is sent as the form of the configuration. -/
theorem requestBody_of_body (h : s.IsConfigured c o) {host : String} (hhost : c.host = some host)
    {spec : LaunchSpec} (hspec : IsSpecOf c o spec) {data : Value}
    (hdata : SubmissionOrder.body ⟨s.handleValue, requestOf c o, spec, policyOf c o, s.parameters,
      s.unmanaged⟩ = .ok data) : ResourceManager.requestBody (c.form o) = .ok data := by
  obtain ⟨wrapper, renewals, hp, -⟩ := h.parameters
  have hhandle : s.handleValue = .handle (.text o.handle) := by rw [← h.handle]; rfl
  obtain ⟨context, hcontext, hdata⟩ := bind_eq_ok hdata
  dsimp only at hcontext
  rw [hhandle, hp, h.unmanaged] at hcontext
  obtain rfl := contextPart_ok wrapper renewals hspec hcontext
  rw [contextOf_toMapping hhost] at hdata
  exact hdata

/-- Behind handing over, only other services are asked: for the application, and for its token. -/
theorem deliver_sends (report : Option Credential → SubmissionReport) (hs : s.IsOver n w)
    (ho : n.isOpen w = true) {r : Except Failure (SubmissionReport × Submission)}
    (h : (if s.unmanaged.isSet = true then
      s.inStep .credential s.deliverCredential >>= fun c =>
        pure (report (some c), { s with state := .submitted })
      else pure (report none, { s with state := .submitted })) w = (r, w')) :
    ∃ sent, Talks n.manager.session w sent w' ∧ n.version? w' = n.version? w ∧
      ∀ e ∈ sent, e.IsTo n.manager.address (.application s.handle) ∨
        e.IsTo n.manager.address .delegationToken := by
  have hothers : ∀ {looks : List Exchange} {token : Option Exchange}
      {r : Except Failure Credential},
      IsDelivery n s w looks token r w' → ∀ e ∈ looks ++ token.toList,
        e.IsTo n.manager.address (.application s.handle) ∨
          e.IsTo n.manager.address .delegationToken := by
    intro looks token r hd e he
    rcases List.mem_append.mp he with he | he
    · exact Or.inl (hd.looks_to e he)
    · exact Or.inr (hd.token_to e (Option.mem_toList.mp he))
  by_cases hu : s.unmanaged.isSet = true
  · rw [if_pos hu] at h
    rcases inStep_bind_cases hs.named h with ⟨f, hf, -⟩ | ⟨c, w₁, hc, h⟩
    · obtain ⟨looks, token, hd⟩ := deliverCredential_spec hs ho hf
      exact ⟨_, hd.talks, hd.version, hothers hd⟩
    · obtain ⟨looks, token, hd⟩ := deliverCredential_spec hs ho hc
      cases h
      exact ⟨_, hd.talks, hd.version, hothers hd⟩
  · rw [if_neg hu] at h
    cases h
    exact ⟨[], Talks.refl _ _, rfl, by simp⟩

/-- Behind the choice of the attempt policy, the application is handed over with the body of the
order, and then looked at. -/
theorem handOver_sends (report : Option Credential → SubmissionReport) {order : SubmissionOrder}
    (hs : s.IsOver n w) (ho : n.isOpen w = true)
    {r : Except Failure (SubmissionReport × Submission)}
    (h : (s.inStep .submit (s.handOver order) >>= fun _ =>
      if s.unmanaged.isSet = true then
        s.inStep .credential s.deliverCredential >>= fun c =>
          pure (report (some c), { s with state := .submitted })
      else pure (report none, { s with state := .submitted })) w = (r, w')) :
    ∃ sent, Talks n.manager.session w sent w' ∧ n.version? w' = n.version? w ∧
      ∀ e ∈ sent, (e.IsTo n.manager.address .apps ∧ order.body = .ok e.request.data) ∨
        e.IsTo n.manager.address (.application s.handle) ∨
          e.IsTo n.manager.address .delegationToken := by
  rcases inStep_bind_cases hs.named h with ⟨f, hf, -⟩ | ⟨_, w₁, hpost, h⟩
  · rcases handOver_cases hs ho hf with ⟨x, -, -, hasks⟩ | ⟨e, data, hdata, hto, rfl, hasks, -⟩
    · exact ⟨_, hasks.toTalks, hasks.version, by simp⟩
    · refine ⟨_, hasks.toTalks, hasks.version, fun x hx => ?_⟩
      rw [List.mem_singleton.mp hx]
      exact Or.inl ⟨hto, hdata⟩
  · rcases handOver_cases hs ho hpost with ⟨x, hx, -⟩ | ⟨e, data, hdata, hto, rfl, hasks, -⟩
    · cases hx
    · obtain ⟨more, htalks, hversion, hothers⟩ := deliver_sends report (hs.of_talks hasks.toTalks)
        (RestNegotiator.isOpen_of_talks ho hasks.toTalks) h
      refine ⟨_, hasks.toTalks.trans htalks, hversion.trans hasks.version, fun x hx => ?_⟩
      rcases List.mem_append.mp hx with hx | hx
      · rw [List.mem_singleton.mp hx]
        exact Or.inl ⟨hto, hdata⟩
      · exact Or.inr (hothers x hx)

theorem IsConfigured.of_keeps (h : s.IsConfigured c o) (keeps : Bool) :
    s.IsConfigured c { o with keeps } :=
  ⟨h.parameters, h.most, h.classpath, h.unmanaged, h.handle⟩

theorem IsConfigured.exists_host (h : s.IsConfigured c o)
    (hset : s.parameters.driverHost.isSet = true) : ∃ host, c.host = some host := by
  rw [h.driverHost_eq] at hset
  cases hhost : c.host with
  | none =>
    rw [hhost] at hset
    cases hset
  | some host => exact ⟨host, rfl⟩

/-- An attempt at submitting hands over nothing but the form of the configuration. -/
theorem submit_sends (hs : s.IsOver n w) (h : s.IsConfigured c o)
    (hsink : (w.tokenSink s.sink).tokens = rawEntries .text o.tokens)
    {r : Except Failure (SubmissionReport × Submission)} (hsubmit : s.submit w = (r, w')) :
    ∃ sent, Talks n.manager.session w sent w' ∧
      ∀ e ∈ sent, e.IsTo n.manager.address .apps → ∃ host keeps, c.host = some host ∧
        (c.keepContainers = true → ∃ version, n.version? w' = some version ∧
          keeps = version.keepsContainers) ∧
        ResourceManager.requestBody (c.form { o with keeps }) = .ok e.request.data := by
  -- Up to the attempt policy nobody is talked to, and choosing it asks for the version only.
  unfold submit at hsubmit
  rcases inStep_bind_cases hs.named hsubmit with ⟨f, hf, -⟩ | ⟨_, w₁, hvalid, hsubmit⟩
  · exact ⟨_, (Run.IsSilent.ofExcept _ _ _ _ hf).1.toTalks, by simp⟩
  obtain ⟨hv, rfl⟩ := Run.of_ofExcept_ok hvalid
  obtain ⟨hstate, hset⟩ := validate_ok hv
  obtain ⟨host, hhost⟩ := h.exists_host hset
  rcases inStep_bind_cases hs.named hsubmit with ⟨f, hf, -⟩ | ⟨request, w₂, hrequest, hsubmit⟩
  · exact ⟨_, (resourceRequest_isSilent _ _ _ hf).1.toTalks, by simp⟩
  have hasks₂ : Asks n.manager.session w [] w₂ := (resourceRequest_isSilent _ _ _ hrequest).1
  obtain rfl := resourceRequest_eq h hrequest
  rcases inStep_bind_cases hs.named hsubmit with ⟨f, hf, -⟩ | ⟨spec, w₃, hlaunch, hsubmit⟩
  · exact ⟨_, hasks₂.toTalks.trans (launchSpec_isSilent _ _ _ _ hf).1.toTalks, by simp⟩
  have hasks₃ := hasks₂.trans (launchSpec_isSilent _ _ _ _ hlaunch).1
  have hsink₂ : (w₂.tokenSink s.sink).tokens = rawEntries .text o.tokens := by
    unfold World.tokenSink at hsink ⊢
    rw [hasks₂.tokenSinks]
    exact hsink
  have hspec := launchSpec_eq h hsink₂ hlaunch
  have hs₃ := hs.of_talks hasks₃.toTalks
  have ho₃ := hs₃.isOpen (by simp [hstate])
  have hinfo : ∀ {info : Option Exchange}, (∀ e ∈ info, e.IsTo n.manager.address .info) →
      ∀ e ∈ info.toList, ¬ e.IsTo n.manager.address .apps := by
    intro info hall e he hto
    cases hto.eq_apps (hall e (Option.mem_toList.mp he))
  rcases inStep_bind_cases hs.named hsubmit with ⟨f, hf, -⟩ | ⟨policy, w₄, hpolicy, hsubmit⟩
  · obtain ⟨info, hchoice⟩ := attemptPolicy_isChoice hs₃ ho₃ hf
    exact ⟨_, hasks₃.toTalks.trans hchoice.talks,
      fun e he hto => absurd hto (hinfo hchoice.info_to e he)⟩
  obtain ⟨info, hchoice⟩ := attemptPolicy_isChoice hs₃ ho₃ hpolicy
  obtain ⟨keeps, rfl, hknown⟩ := attemptPolicy_eq hs₃ ho₃ h hpolicy
  have htalks := hasks₃.toTalks.trans hchoice.talks
  simp only [pure_bind] at hsubmit
  obtain ⟨sent, hlater, hversion, hbody⟩ := handOver_sends
    (fun credential => ⟨s.handle, requestOf c o, spec, policyOf c { o with keeps }, credential⟩)
    (hs.of_talks htalks) ((hs.of_talks htalks).isOpen (by simp [hstate])) hsubmit
  refine ⟨_, htalks.trans hlater, fun e he hto => ?_⟩
  rcases List.mem_append.mp he with he | he
  · exact absurd hto (hinfo hchoice.info_to e he)
  · refine ⟨host, keeps, hhost, ?_, ?_⟩
    · rw [hversion]
      exact hknown
    · rcases hbody e he with ⟨-, hdata⟩ | hto' | hto'
      · exact requestBody_of_body (h.of_keeps keeps) hhost ⟨hspec.command, hspec.localResources,
          hspec.environment, hspec.tokens⟩ hdata
      · cases hto.eq_apps hto'
      · cases hto.eq_apps hto'

end Steps

end Submission
end ClusterSubmission
