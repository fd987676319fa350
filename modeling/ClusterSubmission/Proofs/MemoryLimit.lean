import ClusterSubmission.Proofs.AttemptPolicy

/-!
# The limit of the memory

The memory of the driver is what was asked for, or that of the largest container if this is less.
The same number is posted twice, stands in the command as the size of the heap, and is reported. A
warning is given where it is limited, and a driver without memory is not submitted at all.
-/
namespace ClusterSubmission

open Message

theorem Figures.count_capped (x : Figures) :
    x.capped.count .memoryCapped = if x.most < x.asked then 1 else 0 := by
  unfold capped
  split <;> rfl

/-- The choice of the attempt policy warns of no limit of the memory. -/
theorem Submission.Chooses.count_capped {n : RestNegotiator} {x : Figures} {w w' : World}
    {info : Option Exchange} {kinds : List SubmissionWarning} {r : Except Failure AttemptPolicy}
    (h : Chooses n x w info kinds r w') : kinds.count .memoryCapped = 0 := by
  have hpolicy : ∀ v, (x.policyWarnings v).count .memoryCapped = 0 := by
    intro v
    unfold Figures.policyWarnings
    split
    · split <;> rfl
    · rfl
  cases h with
  | unwanted | unknown => rfl
  | remembered v | learnt e v => exact hpolicy v

/-- A preparation warns of a limit exactly where the limit can be said. -/
theorem Submission.Prepares.count_capped {s : Submission} {x : Figures}
    {kinds : List SubmissionWarning} {p : Except Failure (ResourceRequest × LaunchSpec)}
    (h : s.Prepares x kinds p) :
    kinds.count .memoryCapped = if x.most < x.asked ∧ x.asked < textBound then 1 else 0 := by
  have hcapped : ¬ x.IsUnsaid → x.capped.count .memoryCapped =
      if x.most < x.asked ∧ x.asked < textBound then 1 else 0 := by
    intro hsaid
    rw [x.count_capped]
    unfold Figures.IsUnsaid at hsaid
    by_cases hless : x.most < x.asked
    · rw [if_pos hless, if_pos ⟨hless, by omega⟩]
    · rw [if_neg hless, if_neg fun h => hless h.1]
  cases h with
  | unsaid hunsaid =>
    rw [if_neg fun h => absurd h.2 (Int.not_lt.mpr hunsaid.2)]
    rfl
  | faulty hsaid | memoryless hsaid | textless hsaid | ready hsaid => exact hcapped hsaid

/-- What the failure of a preparation tells: a limit that cannot be said is no value, and without
memory the command is at fault, unless a token of a sequence is. -/
theorem Submission.Prepares.of_error {s : Submission} {x : Figures}
    {kinds : List SubmissionWarning} {f : Failure} (h : s.Prepares x kinds (.error f)) :
    (x.IsUnsaid → f.kind = .value) ∧ (x.granted = 0 → ¬ x.IsUnsaid →
      (s.sequenceFault? = none → f.kind = .configuration ∧ f.step = .text "launch-command") ∧
      ∀ y, s.sequenceFault? = some y → f.kind = y.kind) := by
  cases h with
  | unsaid hunsaid =>
    exact ⟨fun _ => (Failure.inStep_tells _ _ _).kind, fun _ hsaid => absurd hunsaid hsaid⟩
  | faulty hsaid y hfault =>
    refine ⟨fun hunsaid => absurd hunsaid hsaid, fun _ _ => ⟨fun hnone => ?_, fun z hz => ?_⟩⟩
    · rw [hfault] at hnone
      cases hnone
    · rw [hfault] at hz
      cases hz
      exact (Failure.inStep_tells _ _ _).kind
  | memoryless hsaid hfault hzero =>
    refine ⟨fun hunsaid => absurd hunsaid hsaid, fun _ _ => ⟨fun _ => ⟨rfl, rfl⟩, fun z hz => ?_⟩⟩
    rw [hfault] at hz
    cases hz
  | textless hsaid hpos y =>
    exact ⟨fun hunsaid => absurd hunsaid hsaid, fun hzero => absurd hzero (by omega)⟩

/-- A document that asks for memory wherever it can, with a heap of the same size. -/
def AsksFor (document : Value) (wrapper : List String) (megabytes : Int) : Prop :=
  document.at? ["resource", "memory"] = some (.int megabytes) ∧
  document.at? ["am-container-resource-request", "capability", "memory"] = some (.int megabytes) ∧
  ∃ after, document.at? ["am-container-spec", "commands", "command"] =
    some (.text (joinCommand (wrapper.map .text ++ .text defaultJavaPath ::
      .text ("-Xmx" ++ Text.intText megabytes ++ "m") :: after)))

theorem SubmissionOrder.IsPostedAs.asksFor {o : SubmissionOrder} {document : Value}
    {wrapper : List String} {m : Int} (h : o.IsPostedAs document) (hm : o.request.memory = .int m)
    (hheap : o.spec.HasHeap wrapper m) : AsksFor document wrapper m := by
  obtain ⟨after, hcommand⟩ := hheap
  have hshows : (Part.leaf o.request.memory).Shows [] (.int m) := by
    rw [hm]
    exact Part.Shows.integer m
  exact ⟨h.resource _ hshows, h.capability _ hshows, after, h.command _ hcommand⟩

/-- An attempt that is valid warns of the limit exactly if more was asked for, by a number that has
a text; by a number that has none it fails before that. It hands over and reports the same number
everywhere, and if this is zero it fails before anything is sent, with trouble of the configuration
unless a token of the wrapper or a configuration path has no text. -/
theorem memory_limited {n : RestNegotiator} {s : Submission} {w w' : World}
    {r : Except Failure (SubmissionReport × Submission)} (hs : Submission.Reachable n s w)
    (hv : s.validate = .ok ()) (h : s.submit w = (r, w')) :
    ∃ (asked most m : Int) (sent : List Exchange) (kinds : List SubmissionWarning),
      s.parameters.driverMemory = .int asked ∧ 1 ≤ asked ∧
      s.ceiling.memory = .int most ∧ 0 ≤ most ∧ m = min asked most ∧
      w'.exchanges = w.exchanges ++ sent ∧ w'.warned = w.warned ++ kinds ∧
      (kinds.count .memoryCapped = if most < asked ∧ asked < textBound then 1 else 0) ∧
      (∀ e ∈ sent, e.IsTo n.manager.address .apps → 1 ≤ m ∧ ∃ document,
        e.PostsDocument document ∧ AsksFor document s.parameters.wrapper.asTokens m) ∧
      (∀ report s', r = .ok (report, s') → 1 ≤ m ∧ report.request.memory = .int m ∧
        report.spec.HasHeap s.parameters.wrapper.asTokens m) ∧
      (most < asked → textBound ≤ asked → sent = [] ∧ ∃ f, r = .error f ∧ f.kind = .value) ∧
      (m = 0 → asked < textBound → sent = [] ∧ ∃ f, r = .error f ∧
        (s.sequenceFault? = none → f.kind = .configuration ∧ f.step = .text "launch-command") ∧
        ∀ y, s.sequenceFault? = some y → f.kind = y.kind) := by
  obtain ⟨x, hx⟩ := hs.exists_figures
  have hover := hs.isOver
  obtain ⟨w₁, kinds, p, hprepare, hasks, hcapped, hprepares⟩ :=
    Submission.prepare_prepares hover hs.arises.isValid hx hv
  have hcount := hprepares.count_capped
  rcases p with f | ⟨request, spec⟩
  case error =>
    -- What cannot be prepared fails with nothing sent.
    rw [Submission.submit_eq, Run.bind_of_error hprepare] at h
    cases h
    obtain ⟨hunsaid, hnothing⟩ := hprepares.of_error
    refine ⟨x.asked, x.most, x.granted, [], kinds, hx.memory, hx.memory_pos, hx.ceiling,
      hx.ceiling_nonneg, rfl, hasks.exchanges, hcapped, hcount, by simp, by simp,
      fun hless hlong => ⟨rfl, f, rfl, hunsaid ⟨hless, hlong⟩⟩,
      fun hzero hshort => ⟨rfl, f, rfl, hnothing hzero fun h => ?_⟩⟩
    exact absurd h.2 (Int.not_le.mpr hshort)
  case ok =>
    obtain ⟨rfl, hsaid, hpos, hmemory, hheap⟩ := hprepares.of_ok
    obtain ⟨info, kinds, choice, w₂, sent, hchooses, hexchanges, hwarned, hends⟩ :=
      Submission.submit_of_prepared hs hx hprepare h
    refine ⟨x.asked, x.most, x.granted, info.toList ++ sent, x.capped ++ kinds, hx.memory,
      hx.memory_pos, hx.ceiling, hx.ceiling_nonneg, rfl, hexchanges, hwarned, ?_, ?_, ?_,
      fun hless hlong => absurd ⟨hless, hlong⟩ hsaid, fun hzero => absurd hzero (by omega)⟩
    · rw [List.count_append, hchooses.count_capped, Nat.add_zero, hcount]
    · intro e he hto
      rcases List.mem_append.mp he with he | he
      · exact absurd hto (hchooses.not_apps e he)
      · rcases hends with ⟨f, -, -, rfl⟩ | ⟨policy, -, hconcludes⟩
        · cases he
        · obtain ⟨o, document, rfl, rfl, -, hdocument, hposted⟩ := hconcludes.posts e he hto
          exact ⟨hpos, document, hdocument, hposted.asksFor hmemory hheap⟩
    · rintro report s' rfl
      rcases hends with ⟨f, -, hfailed, -⟩ | ⟨policy, -, hconcludes⟩
      · cases hfailed
      · obtain ⟨rfl, rfl, -⟩ := hconcludes.reports report s' rfl
        exact ⟨hpos, hmemory, hheap⟩

/-- A submission that asked for more memory than there is in the largest container. -/
theorem memory_limited_capped : ∃ (s s' : Submission) (w w' : World) (report : SubmissionReport)
    (e : Exchange) (document : Value), Submission.Reachable RestNegotiator.sample s w ∧
    s.validate = .ok () ∧ s.submit w = (.ok (report, s'), w') ∧
    w'.warned = w.warned ++ [.memoryCapped] ∧ e ∈ w'.exchanges ∧ e.PostsDocument document ∧
    AsksFor document s.parameters.wrapper.asTokens 4096 ∧ report.request.memory = .int 4096 := by
  let node (s : Submission) (w : World) : Turn := ⟨.change (.node (.text anyHost)), s, w⟩
  let memory (t : Turn) : Turn := ⟨.change (.memory (.int 8192)), t.next, t.nextWorld⟩
  let submit (t : Turn) : Turn := ⟨.submit, t.next, t.nextWorld⟩
  obtain ⟨s, w, hstart, hp⟩ := Submission.exists_started RestNegotiator.sample
    SubmissionPlan.sample (World.served (Server.answering sampleGrant))
    (fun s w => (submit (memory (node s w))).result.isOk &&
      (submit (memory (node s w))).nextWorld.warned ==
        (memory (node s w)).nextWorld.warned ++ [.memoryCapped] &&
      (memory (node s w)).next.parameters.driverMemory == .int 8192 &&
      (memory (node s w)).next.ceiling.memory == .int 4096) (by decide +kernel)
  simp only [Bool.and_eq_true] at hp
  obtain ⟨⟨⟨hok, hwarned⟩, hasked⟩, hmost⟩ := hp
  obtain ⟨hc, -⟩ := RestNegotiator.isConnected_of_connect
    (RestNegotiator.connect_sample (Server.answering sampleGrant))
  have hs : Submission.Reachable RestNegotiator.sample (memory (node s w)).next
      (memory (node s w)).nextWorld :=
    .call (.call (.start hc hstart) (node s w).perform_eq) (memory (node s w)).perform_eq
  have hresult := Turn.result_of_isOk hok
  obtain ⟨report, s', hsubmit⟩ := Turn.exists_report (t := submit (memory (node s w))) rfl hresult
  obtain ⟨prepared, w₁, hready⟩ := Submission.exists_prepared hsubmit
  have hvalid := Submission.validate_of_prepare hready
  obtain ⟨e, he, hto⟩ := Turn.exists_posted (t := submit (memory (node s w))) hs.isOver rfl hresult
  obtain ⟨asked, most, m, sent, kinds, hdriver, -, hceiling, -, hm, hexchanges, -, -, hposts,
    hreports, -, -⟩ := memory_limited hs hvalid hsubmit
  rw [hdriver, Value.int_beq] at hasked
  rw [hceiling, Value.int_beq] at hmost
  obtain rfl : m = 4096 := by
    rw [hm, of_decide_eq_true hasked, of_decide_eq_true hmost]
    rfl
  rw [show (submit (memory (node s w))).sent = _ from Turn.sent_of_exchanges hexchanges] at he
  obtain ⟨-, document, hdocument, hasks⟩ := hposts e he hto
  obtain ⟨-, hreport, -⟩ := hreports report s' rfl
  have hmem : e ∈ (submit (memory (node s w))).nextWorld.exchanges := by
    rw [hexchanges]
    exact List.mem_append_right _ he
  exact ⟨_, s', _, _, report, e, document, hs, hvalid, hsubmit, eq_of_beq hwarned, hmem,
    hdocument, hasks, hreport⟩

theorem Turn.exists_failure {s : Submission} {w : World} {p : Failure → Bool}
    (h : failsWith p (⟨.submit, s, w⟩ : Turn).result = true) :
    ∃ f, s.submit w = (.error f, (⟨.submit, s, w⟩ : Turn).nextWorld) ∧ p f = true := by
  obtain ⟨f, hresult, hf⟩ := exists_of_failsWith h
  refine ⟨f, ?_, hf⟩
  rcases hsubmit : s.submit w with ⟨g | ⟨report, s'⟩, w'⟩
  · simp only [result, Submission.perform, hsubmit] at hresult
    cases hresult
    rw [nextWorld_of_submit hsubmit]
  · simp only [result, Submission.perform, hsubmit] at hresult
    cases hresult

theorem Submission.validate_of_isOk {s : Submission} (h : s.validate.isOk = true) :
    s.validate = .ok () := by
  rcases hv : s.validate with f | _
  · rw [hv] at h
    cases h
  · rfl

theorem Submission.HasFigures.eq_of_beq {s : Submission} {x : Figures} (hx : s.HasFigures x)
    {asked most : Int} (hasked : (s.parameters.driverMemory == .int asked) = true)
    (hmost : (s.ceiling.memory == .int most) = true) :
    s.parameters.driverMemory = .int asked ∧ s.ceiling.memory = .int most := by
  rw [hx.memory, Value.int_beq] at hasked
  rw [hx.ceiling, Value.int_beq] at hmost
  rw [hx.memory, hx.ceiling, of_decide_eq_true hasked, of_decide_eq_true hmost]
  exact ⟨rfl, rfl⟩

/-- A grant of an application where the largest container has no memory. -/
def memorylessGrant : String :=
  "\x7b\"application-id\":\"application_1_0002\",\"maximum-resource-capability\":\x7b\"memory\":0\x7d\x7d"

/-- A submission that asked for more memory than there is, by a number of too many digits, and one
with a handle in front of its command whose id is no text, where there is no memory: the first is
not warned, and neither fails with trouble of the configuration. -/
theorem memory_limit_without_text :
    (∃ (s : Submission) (w w' : World) (f : Failure),
      Submission.Reachable RestNegotiator.sample s w ∧
      s.validate = .ok () ∧ s.parameters.driverMemory = .int textBound ∧
      s.ceiling.memory = .int 4096 ∧ s.submit w = (.error f, w') ∧ f.kind = .value ∧
      w'.warned = w.warned) ∧
    ∃ (s : Submission) (w w' : World) (f : Failure),
      Submission.Reachable RestNegotiator.sample s w ∧
      s.validate = .ok () ∧ s.parameters.driverMemory = .int 512 ∧ s.ceiling.memory = .int 0 ∧
      s.submit w = (.error f, w') ∧ f.kind = .wrongType := by
  let node (s : Submission) (w : World) : Turn := ⟨.change (.node (.text anyHost)), s, w⟩
  let memory (t : Turn) : Turn := ⟨.change (.memory (.int textBound)), t.next, t.nextWorld⟩
  let submit (t : Turn) : Turn := ⟨.submit, t.next, t.nextWorld⟩
  constructor
  · obtain ⟨s, w, hstart, hp⟩ := Submission.exists_started RestNegotiator.sample
      SubmissionPlan.sample (World.served (Server.answering sampleGrant))
      (fun s w => failsWith (·.kind == .value) (submit (memory (node s w))).result &&
        (submit (memory (node s w))).nextWorld.warned == (memory (node s w)).nextWorld.warned &&
        (memory (node s w)).next.validate.isOk &&
        (memory (node s w)).next.parameters.driverMemory == .int textBound &&
        (memory (node s w)).next.ceiling.memory == .int 4096) (by decide +kernel)
    simp only [Bool.and_eq_true] at hp
    obtain ⟨⟨⟨⟨hkind, hwarned⟩, hvalid⟩, hasked⟩, hmost⟩ := hp
    obtain ⟨hc, -⟩ := RestNegotiator.isConnected_of_connect
      (RestNegotiator.connect_sample (Server.answering sampleGrant))
    have hs : Submission.Reachable RestNegotiator.sample (memory (node s w)).next
        (memory (node s w)).nextWorld :=
      .call (.call (.start hc hstart) (node s w).perform_eq) (memory (node s w)).perform_eq
    obtain ⟨x, hx⟩ := hs.exists_figures
    obtain ⟨hdriver, hceiling⟩ := hx.eq_of_beq hasked hmost
    obtain ⟨f, hfailed, hf⟩ := Turn.exists_failure (s := (memory (node s w)).next) hkind
    exact ⟨_, _, _, f, hs, Submission.validate_of_isOk hvalid, hdriver, hceiling, hfailed,
      eq_of_beq hf, eq_of_beq hwarned⟩
  · obtain ⟨s, w, hstart, hp⟩ := Submission.exists_started RestNegotiator.sample
      { SubmissionPlan.sample with wrapper := .list [.handle (.int 5)] }
      (World.served (Server.answering memorylessGrant))
      (fun s w => failsWith (·.kind == .wrongType) (submit (node s w)).result &&
        (node s w).next.validate.isOk &&
        (node s w).next.parameters.driverMemory == .int 512 &&
        (node s w).next.ceiling.memory == .int 0) (by decide +kernel)
    simp only [Bool.and_eq_true] at hp
    obtain ⟨⟨⟨hkind, hvalid⟩, hasked⟩, hmost⟩ := hp
    obtain ⟨hc, -⟩ := RestNegotiator.isConnected_of_connect
      (RestNegotiator.connect_sample (Server.answering memorylessGrant))
    have hs : Submission.Reachable RestNegotiator.sample (node s w).next (node s w).nextWorld :=
      .call (.start hc hstart) (node s w).perform_eq
    obtain ⟨x, hx⟩ := hs.exists_figures
    obtain ⟨hdriver, hceiling⟩ := hx.eq_of_beq hasked hmost
    obtain ⟨f, hfailed, hf⟩ := Turn.exists_failure (s := (node s w).next) hkind
    exact ⟨_, _, _, f, hs, Submission.validate_of_isOk hvalid, hdriver, hceiling, hfailed,
      eq_of_beq hf⟩

end ClusterSubmission
