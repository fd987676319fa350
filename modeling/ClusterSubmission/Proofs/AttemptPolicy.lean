import ClusterSubmission.Proofs.DocumentPaths
import ClusterSubmission.Proofs.Preparation

/-!
# The attempt policy

Whether containers are kept across attempts depends on the wish of the caller and on the version of
the cluster. The version is only asked for where they are to be kept, and an attempt that does not
learn it fails before anything is handed over. Otherwise the policy that is posted and the warnings
that are given follow from the wish, the version and the number of attempts.
-/
namespace ClusterSubmission

open Message

/-- What is warned of when the attempt policy is chosen by a version. -/
def Figures.policyWarnings (x : Figures) (v : Version) : List SubmissionWarning :=
  if v.keepsContainers then if x.attempts = 1 then [.keepContainersNoEffect] else []
  else [.keepContainersUnsupported]

namespace Submission

variable {n : RestNegotiator} {s : Submission} {x : Figures} {w w₁ w' : World}

theorem attemptPolicy_unwanted (hx : s.HasFigures x) (hkeep : x.keep = false) (w : World) :
    s.attemptPolicy w = (.ok ⟨.int x.attempts, .bool false⟩, w) := by
  unfold attemptPolicy keepsContainers
  rw [hx.keep, hkeep, hx.attempts]
  rfl

theorem attemptPolicy_unknown (hs : s.negotiator = n.operations) (hx : s.HasFigures x)
    (hkeep : x.keep = true) {f : Failure} (h : n.clusterVersion w = (.error f, w₁)) :
    s.attemptPolicy w = (.error f, w₁) := by
  have hask : s.negotiator.clusterVersion w = (.error f, w₁) := by
    rw [hs]
    exact h
  unfold attemptPolicy keepsContainers
  rw [hx.keep, hkeep]
  exact Run.bind_of_error (Run.bind_of_error hask)

theorem keepsContainers_known (hs : s.negotiator = n.operations) (hx : s.HasFigures x)
    (hkeep : x.keep = true) {v : Version} (h : n.clusterVersion w = (.ok v, w₁)) (id : Nat) :
    ∃ w₂, s.keepsContainers w = (.ok (.bool v.keepsContainers), w₂) ∧ Asks id w₁ [] w₂ ∧
      w₂.warned = w₁.warned ++
        if v.keepsContainers then [] else [.keepContainersUnsupported] := by
  have hask : s.negotiator.clusterVersion w = (.ok v, w₁) := by
    rw [hs]
    exact h
  unfold keepsContainers
  rw [hx.keep, hkeep]
  change ∃ w₂, (s.negotiator.clusterVersion >>= _) w = _ ∧ _
  rw [Run.bind_of_ok hask]
  by_cases hsupported : v.keepsContainers = true
  · have hline : Log.ClosesNothing ("Hadoop version " ++ v.text ++ " is "
        ++ Version.keepContainersSince.text
        ++ " or after, containers are kept across application attempts").toList := by
      apply Log.closesNothing_of_notMem
      simp only [String.toList_append, List.mem_append, not_or]
      exact ⟨⟨⟨⟨by decide, v.notMem_text⟩, by decide⟩, Version.notMem_text _⟩, by decide⟩
    rw [if_pos hsupported, Run.bind_of_ok (Run.debug_of_closesNothing hline w₁), hsupported]
    exact ⟨w₁, rfl, Asks.refl id w₁, (List.append_nil _).symm⟩
  · have hline : Log.ClosesNothing ("Hadoop version " ++ v.text ++ " does not yet support "
        ++ "keeping containers across application attempts. Driver restarts will not support "
        ++ "recovering evaluators.").toList := by
      apply Log.closesNothing_of_notMem
      simp only [String.toList_append, List.mem_append, not_or]
      exact ⟨⟨⟨⟨by decide, v.notMem_text⟩, by decide⟩, by decide⟩, by decide⟩
    have hold : v.keepsContainers = false := by simpa using hsupported
    rw [if_neg hsupported, Run.bind_of_ok (warn_of_closesNothing hline _ w₁), hold]
    refine ⟨_, rfl, Asks.withWarning id w₁ _ _, ?_⟩
    simp

/-- A policy that goes by a version keeps containers if the version does. -/
theorem attemptPolicy_known (hs : s.negotiator = n.operations) (hx : s.HasFigures x)
    (hkeep : x.keep = true) {v : Version} (h : n.clusterVersion w = (.ok v, w₁)) (id : Nat) :
    ∃ w₂, s.attemptPolicy w = (.ok ⟨.int x.attempts, .bool v.keepsContainers⟩, w₂) ∧
      Asks id w₁ [] w₂ ∧ w₂.warned = w₁.warned ++ x.policyWarnings v := by
  obtain ⟨w₂, hkept, hasks, hwarned⟩ := keepsContainers_known hs hx hkeep h id
  have hline : Log.ClosesNothing ("Application will not be restarted even though preserve "
      ++ "evaluators is set to true since the max application attempts is 1. Proceeding to submit "
      ++ "application...").toList := by
    apply Log.closesNothing_of_notMem
    simp only [String.toList_append, List.mem_append, not_or]
    exact ⟨⟨by decide, by decide⟩, by decide⟩
  unfold attemptPolicy
  rw [hx.attempts]
  dsimp only
  rw [Run.bind_of_ok hkept, Value.int_beq]
  by_cases hwarns : v.keepsContainers = true ∧ x.attempts = 1
  · obtain ⟨hsupported, hone⟩ := hwarns
    rw [hsupported] at hwarned ⊢
    rw [hone, if_pos (by decide), Run.bind_of_ok (warn_of_closesNothing hline _ w₂)]
    refine ⟨_, rfl, hasks.trans (Asks.withWarning id w₂ _ _), ?_⟩
    simp [hwarned, Figures.policyWarnings, hsupported, hone]
  · have hquiet : ((Value.bool v.keepsContainers).isSet && decide (x.attempts = 1)) = false := by
      simpa [Value.isSet] using hwarns
    rw [hquiet]
    refine ⟨w₂, rfl, hasks, ?_⟩
    rw [hwarned]
    by_cases hsupported : v.keepsContainers = true
    · have hmany : x.attempts ≠ 1 := fun hone => hwarns ⟨hsupported, hone⟩
      simp [Figures.policyWarnings, hsupported, hmany]
    · simp [Figures.policyWarnings, hsupported]

/-- How the attempt policy is chosen. The version is only asked for where containers are to be kept
and it is not known yet, and without it there is no policy. -/
inductive Chooses (n : RestNegotiator) (x : Figures) (w : World) : Option Exchange →
    List SubmissionWarning → Except Failure AttemptPolicy → World → Prop
  | unwanted (w' : World) (hkeep : x.keep = false) :
    Chooses n x w none [] (.ok ⟨.int x.attempts, .bool false⟩) w'
  | remembered (v : Version) (w' : World) (hkeep : x.keep = true) (hw : n.version? w = some v)
      (hv : n.version? w' = some v) :
    Chooses n x w none (x.policyWarnings v) (.ok ⟨.int x.attempts, .bool v.keepsContainers⟩) w'
  | learnt (e : Exchange) (v : Version) (w' : World) (hkeep : x.keep = true)
      (hw : n.version? w = none) (hto : e.IsTo n.manager.address .info)
      (he : e.version? = some v) (hv : n.version? w' = some v) :
    Chooses n x w (some e) (x.policyWarnings v)
      (.ok ⟨.int x.attempts, .bool v.keepsContainers⟩) w'
  | unknown (e : Exchange) (f : Failure) (w' : World) (hkeep : x.keep = true)
      (hw : n.version? w = none) (hto : e.IsTo n.manager.address .info)
      (he : e.version? = none ∨ IsConsoleFault w f) (hv : n.version? w' = none) :
    Chooses n x w (some e) [] (.error f) w'

theorem Chooses.info_to {info : Option Exchange} {kinds : List SubmissionWarning}
    {r : Except Failure AttemptPolicy} (h : Chooses n x w info kinds r w') :
    ∀ e ∈ info, e.IsTo n.manager.address .info := by
  intro e he
  cases h with
  | unwanted | remembered => cases he
  | learnt e' v w' hkeep hw hto | unknown e' f w' hkeep hw hto =>
    cases he
    exact hto

/-- Choosing the attempt policy hands nothing over. -/
theorem Chooses.not_apps {info : Option Exchange} {kinds : List SubmissionWarning}
    {r : Except Failure AttemptPolicy} (h : Chooses n x w info kinds r w') :
    ∀ e ∈ info.toList, ¬ e.IsTo n.manager.address .apps := by
  intro e he hto
  cases hto.eq_apps (h.info_to e (Option.mem_toList.mp he))

/-- What is done before that sends nothing takes no part in the choice. -/
theorem Chooses.of_asks {info : Option Exchange} {kinds : List SubmissionWarning}
    {r : Except Failure AttemptPolicy} (hasks : Asks n.manager.session w [] w₁)
    (h : Chooses n x w₁ info kinds r w') : Chooses n x w info kinds r w' := by
  have hversion : n.version? w₁ = n.version? w := hasks.version
  cases h with
  | unwanted w' hkeep => exact .unwanted w' hkeep
  | remembered v w' hkeep hw hv => exact .remembered v w' hkeep (hversion ▸ hw) hv
  | learnt e v w' hkeep hw hto he hv => exact .learnt e v w' hkeep (hversion ▸ hw) hto he hv
  | unknown e f w' hkeep hw hto he hv =>
    exact .unknown e f w' hkeep (hversion ▸ hw) hto
      (he.imp_right hasks.toTalks.isConsoleFault.mp) hv

/-- An answer about the version makes it known, and a failure leaves it unknown. -/
theorem clusterVersion_ends (hc : n.IsConnected w) (ho : n.isOpen w = true)
    (hv : n.version? w = none) {r : Except Failure Version} (h : n.clusterVersion w = (r, w')) :
    ∃ e : Exchange, e.IsTo n.manager.address .info ∧ Talks n.manager.session w [e] w' ∧
      ((∃ v, r = .ok v ∧ e.version? = some v ∧ n.version? w' = some v) ∨
        ∃ f, r = .error f ∧ n.version? w' = none ∧ (e.version? = none ∨ IsConsoleFault w f)) := by
  obtain ⟨e, hto, hasks⟩ := RestNegotiator.clusterVersion_of_unknown hc ho hv h
  refine ⟨e, hto, hasks.talks, ?_⟩
  cases r with
  | ok v =>
    obtain ⟨a, ha, hread⟩ := hasks.ends.ok
    have hgiven : e.version? = some v := by
      simp [Exchange.version?, ha, hread, Except.toOption]
    exact Or.inl ⟨v, rfl, hgiven, RestNegotiator.version?_of_ok hc ho h⟩
  | error f =>
    rw [RestNegotiator.clusterVersion_of_unasked ho hv] at h
    obtain ⟨w₁, hstays, ⟨g, hg, rfl⟩ | ⟨v, hok, -⟩⟩ := RestNegotiator.askVersion_cases h
    · have hnone : n.version? w' = none := hstays.version.trans hv
      rcases hasks.known with ⟨u, -, hknown⟩ | ⟨-, g, hg, he⟩
      · rw [hnone] at hknown
        cases hknown
      · cases hg
        exact Or.inr ⟨f, rfl, hnone, he⟩
    · cases hok

theorem attemptPolicy_chooses (hs : s.IsOver n w) (ho : n.isOpen w = true) (hx : s.HasFigures x)
    {r : Except Failure AttemptPolicy} (h : s.attemptPolicy w = (r, w')) :
    ∃ info kinds, Chooses n x w info kinds r w' ∧ Talks n.manager.session w info.toList w' ∧
      w'.warned = w.warned ++ kinds := by
  cases hkeep : x.keep with
  | false =>
    rw [attemptPolicy_unwanted hx hkeep] at h
    cases h
    exact ⟨none, [], .unwanted w hkeep, Talks.refl _ _, (List.append_nil _).symm⟩
  | true =>
    rcases hask : n.clusterVersion w with ⟨r₁, w₁⟩
    have hcalm := n.clusterVersion_isCalm w
    rw [hask] at hcalm
    have hwarned : w₁.warned = w.warned := congrArg (List.map Prod.fst) hcalm
    -- Where the version is known, the policy goes by it and nothing is sent any more.
    have hknown : ∀ v, r₁ = .ok v → n.version? w₁ = some v →
        r = .ok ⟨.int x.attempts, .bool v.keepsContainers⟩ ∧ n.version? w' = some v ∧
          Talks n.manager.session w₁ [] w' ∧ w'.warned = w.warned ++ x.policyWarnings v := by
      rintro v rfl hv
      obtain ⟨w₂, hpolicy, hasks, hkinds⟩ :=
        attemptPolicy_known hs.negotiator hx hkeep hask n.manager.session
      rw [hpolicy] at h
      cases h
      exact ⟨rfl, hasks.version.trans hv, hasks.toTalks, by rw [hkinds, hwarned]⟩
    cases hv : n.version? w with
    | some v =>
      rw [RestNegotiator.clusterVersion_of_known ho hv] at hask
      cases hask
      obtain ⟨rfl, hv', htalks, hkinds⟩ := hknown v rfl hv
      exact ⟨none, _, .remembered v w' hkeep hv hv', htalks, hkinds⟩
    | none =>
      obtain ⟨e, hto, htalks, ⟨v, rfl, he, hv₁⟩ | ⟨f, rfl, hv₁, he⟩⟩ :=
        clusterVersion_ends hs.connected ho hv hask
      · obtain ⟨rfl, hv', hmore, hkinds⟩ := hknown v rfl hv₁
        exact ⟨some e, _, .learnt e v w' hkeep hv hto he hv', htalks.trans hmore, hkinds⟩
      · rw [attemptPolicy_unknown hs.negotiator hx hkeep hask] at h
        cases h
        exact ⟨some e, [], .unknown e f w' hkeep hv hto he hv₁, htalks,
          hwarned.trans (List.append_nil _).symm⟩

/-- What is handed over by an attempt with a request, a specification and a policy. -/
structure Concludes (n : RestNegotiator) (request : ResourceRequest) (spec : LaunchSpec)
    (policy : AttemptPolicy) (w : World) (sent : List Exchange)
    (r : Except Failure (SubmissionReport × Submission)) (w' : World) : Prop where
  talks : Talks n.manager.session w sent w'
  version : n.version? w' = n.version? w
  warned : w'.warned = w.warned
  not_info : ∀ e ∈ sent, ¬ e.IsTo n.manager.address .info
  posts : ∀ e ∈ sent, e.IsTo n.manager.address .apps → ∃ (o : SubmissionOrder) (document : Value),
    o.request = request ∧ o.spec = spec ∧ o.policy = policy ∧ e.PostsDocument document ∧
      o.IsPostedAs document
  reports : ∀ report s', r = .ok (report, s') → report.request = request ∧ report.spec = spec ∧
    report.policy = policy

theorem conclude_spec (hs : s.IsOver n w) (ho : n.isOpen w = true) {request : ResourceRequest}
    {spec : LaunchSpec} {policy : AttemptPolicy}
    {r : Except Failure (SubmissionReport × Submission)}
    (h : s.conclude request spec policy w = (r, w')) :
    ∃ sent, Concludes n request spec policy w sent r w' := by
  have hcalm := conclude_isCalm hs.negotiator request spec policy w
  rw [h] at hcalm
  obtain ⟨sent, htalks, hversion, hsends⟩ := handOver_sends
    (fun c => ⟨s.handle, request, spec, policy, c⟩) hs ho h
  refine ⟨sent, htalks, hversion, congrArg (List.map Prod.fst) hcalm, ?_, ?_, ?_⟩
  · intro e he hinfo
    rcases hsends e he with ⟨hto, -⟩ | hto | hto <;> cases hinfo.eq_info hto
  · intro e he happs
    rcases hsends e he with ⟨-, hbody⟩ | hto | hto
    · obtain ⟨document, hdocument, hposted⟩ := SubmissionOrder.exists_document hbody
      exact ⟨_, document, rfl, rfl, rfl, hdocument, hposted⟩
    · cases happs.eq_apps hto
    · cases happs.eq_apps hto
  · rintro report s' rfl
    obtain ⟨_, _, -, h⟩ := Run.of_bind_ok h
    split at h
    · obtain ⟨c, _, -, h⟩ := Run.of_bind_ok h
      cases h
      exact ⟨rfl, rfl, rfl⟩
    · cases h
      exact ⟨rfl, rfl, rfl⟩

/-- Only what is valid is prepared. -/
theorem validate_of_prepare {p : ResourceRequest × LaunchSpec}
    (h : s.prepare w = (.ok p, w₁)) : s.validate = .ok () := by
  obtain ⟨_, w₂, hvalid, -⟩ := Run.of_bind_ok h
  obtain ⟨w₃, hvalid⟩ := of_inStep_ok hvalid
  exact (Run.of_ofExcept_ok hvalid).1

/-- What follows on the preparation of an attempt: the choice of the policy, and then what is handed
over with it. Without a policy the attempt fails in this step. -/
theorem submit_of_prepared (hs : Reachable n s w) (hx : s.HasFigures x) {request : ResourceRequest}
    {spec : LaunchSpec} (hready : s.prepare w = (.ok (request, spec), w₁))
    {r : Except Failure (SubmissionReport × Submission)} (h : s.submit w = (r, w')) :
    ∃ info kinds choice w₂ sent, Chooses n x w info kinds choice w₂ ∧
      w'.exchanges = w.exchanges ++ (info.toList ++ sent) ∧
      w'.warned = w.warned ++ (x.capped ++ kinds) ∧
      ((∃ f, choice = .error f ∧ r = .error (f.inStep s.handle .attemptPolicy) ∧ sent = []) ∨
        ∃ policy, choice = .ok policy ∧ Concludes n request spec policy w₂ sent r w') := by
  have hover := hs.isOver
  have hvalid := validate_of_prepare hready
  obtain ⟨w₀, _, _, hprepare, hasks, hcapped, hprepares⟩ :=
    prepare_prepares hover hs.arises.isValid hx hvalid
  rw [hready] at hprepare
  cases hprepare
  obtain ⟨rfl, -⟩ := hprepares.of_ok
  have hunclosed : s.state ≠ .closed := by
    rw [(validate_ok hvalid).1]
    decide
  have hover₀ := hover.of_talks hasks.toTalks
  have hopen := hover₀.isOpen hunclosed
  rw [submit_eq, Run.bind_of_ok hready] at h
  rcases inStep_bind_cases hover.named h with ⟨f, hf, rfl⟩ | ⟨policy, w₂, hpolicy, h⟩
  · obtain ⟨info, kinds, hchooses, htalks, hkinds⟩ := attemptPolicy_chooses hover₀ hopen hx hf
    refine ⟨info, kinds, _, w', [], hchooses.of_asks hasks, ?_, ?_, Or.inl ⟨f, rfl, rfl, rfl⟩⟩
    · exact (hasks.toTalks.trans htalks).exchanges.trans (by simp)
    · rw [hkinds, hcapped, List.append_assoc]
  · obtain ⟨info, kinds, hchooses, htalks, hkinds⟩ := attemptPolicy_chooses hover₀ hopen hx hpolicy
    obtain ⟨sent, hconcludes⟩ := conclude_spec (hover₀.of_talks htalks)
      (RestNegotiator.isOpen_of_talks hopen htalks) h
    refine ⟨info, kinds, _, w₂, sent, hchooses.of_asks hasks, ?_, ?_,
      Or.inr ⟨policy, rfl, hconcludes⟩⟩
    · exact ((hasks.toTalks.trans htalks).trans hconcludes.talks).exchanges
    · rw [hconcludes.warned, hkinds, hcapped, List.append_assoc]

end Submission

/-- Exchanges by which nothing is handed over but documents with an attempt policy. -/
def RestNegotiator.PostsPolicy (n : RestNegotiator) (sent : List Exchange) (attempts : Int)
    (keep : Bool) : Prop :=
  ∀ e ∈ sent, e.IsTo n.manager.address .apps → ∃ document, e.PostsDocument document ∧
    document.at? ["max-app-attempts"] = some (.int attempts) ∧
    document.at? ["keep-containers-across-application-attempts"] = some (.bool keep)

theorem Submission.Concludes.postsPolicy {n : RestNegotiator} {request : ResourceRequest}
    {spec : LaunchSpec} {attempts : Int} {keep : Bool} {w w' : World} {sent : List Exchange}
    {r : Except Failure (SubmissionReport × Submission)}
    (h : Concludes n request spec ⟨.int attempts, .bool keep⟩ w sent r w') :
    n.PostsPolicy sent attempts keep := by
  intro e he hto
  obtain ⟨o, document, -, -, hpolicy, hdocument, hposted⟩ := h.posts e he hto
  refine ⟨document, hdocument, hposted.attempts _ ?_, hposted.keep _ ?_⟩
  · rw [hpolicy]
    exact Part.Shows.integer attempts
  · rw [hpolicy]
    exact Part.Shows.boolean keep

/-- An attempt that is prepared asks for the version of the cluster only if containers are to be
kept and it is not known yet. If it learns none, it fails in this step and hands nothing over.
Otherwise the policy that is posted has the attempts that were asked for, and keeps containers if
this was asked for and the version is 2.4.0 or later. It is warned of containers that are not kept,
and of kept ones if the driver is started once only. -/
theorem attempt_policy_gated {n : RestNegotiator} {s : Submission} {w w₁ w' : World}
    {request : ResourceRequest} {spec : LaunchSpec}
    {r : Except Failure (SubmissionReport × Submission)} (hs : Submission.Reachable n s w)
    (hready : s.prepare w = (.ok (request, spec), w₁)) (h : s.submit w = (r, w')) :
    ∃ (x : Figures) (info : Option Exchange) (sent : List Exchange)
      (kinds : List SubmissionWarning), s.HasFigures x ∧
      w'.exchanges = w.exchanges ++ (info.toList ++ sent) ∧
      w'.warned = w.warned ++ (x.capped ++ kinds) ∧
      (∀ e ∈ info, e.IsTo n.manager.address .info) ∧
      (∀ e ∈ sent, ¬ e.IsTo n.manager.address .info) ∧
      ((x.keep = false ∧ info = none ∧ kinds = [] ∧ n.PostsPolicy sent x.attempts false) ∨
        (x.keep = true ∧ ∃ e f, info = some e ∧ n.version? w = none ∧
          (e.version? = none ∨ IsConsoleFault w f) ∧
          r = .error (f.inStep s.handle .attemptPolicy) ∧ sent = [] ∧ kinds = []) ∨
        x.keep = true ∧ ∃ v : Version,
          ((n.version? w = some v ∧ info = none) ∨
            n.version? w = none ∧ ∃ e, info = some e ∧ e.version? = some v) ∧
          n.version? w' = some v ∧ n.PostsPolicy sent x.attempts (v.atLeast ⟨2, 4, 0⟩) ∧
          kinds = if v.atLeast ⟨2, 4, 0⟩ then
            if x.attempts = 1 then [.keepContainersNoEffect] else []
          else [.keepContainersUnsupported]) := by
  obtain ⟨x, hx⟩ := hs.exists_figures
  obtain ⟨info, kinds, choice, w₂, sent, hchooses, hexchanges, hwarned, hends⟩ :=
    Submission.submit_of_prepared hs hx hready h
  have hinfo := hchooses.info_to
  rcases hends with ⟨f, rfl, rfl, rfl⟩ | ⟨policy, rfl, hconcludes⟩
  · cases hchooses with
    | unknown e f w₂ hkeep hw hto he hv =>
      exact ⟨x, some e, [], [], hx, hexchanges, hwarned, hinfo, by simp,
        Or.inr (Or.inl ⟨hkeep, e, f, rfl, hw, he, rfl, rfl, rfl⟩)⟩
  · refine ⟨x, info, sent, kinds, hx, hexchanges, hwarned, hinfo, hconcludes.not_info, ?_⟩
    cases hchooses with
    | unwanted w₂ hkeep => exact Or.inl ⟨hkeep, rfl, rfl, hconcludes.postsPolicy⟩
    | remembered v w₂ hkeep hw hv =>
      exact Or.inr (Or.inr ⟨hkeep, v, Or.inl ⟨hw, rfl⟩, hconcludes.version.trans hv,
        hconcludes.postsPolicy, rfl⟩)
    | learnt e v w₂ hkeep hw hto he hv =>
      exact Or.inr (Or.inr ⟨hkeep, v, Or.inr ⟨hw, e, rfl, he⟩, hconcludes.version.trans hv,
        hconcludes.postsPolicy, rfl⟩)

theorem Turn.exists_report {t : Turn} (hc : t.call = .submit) (h : t.result = .ok ()) :
    ∃ report s', t.submission.submit t.world = (.ok (report, s'), t.nextWorld) := by
  rcases hsubmit : t.submission.submit t.world with ⟨f | ⟨report, s'⟩, w'⟩
  · simp only [Turn.result, hc, Submission.perform, hsubmit] at h
    cases h
  · refine ⟨report, s', ?_⟩
    simp only [Turn.nextWorld, hc, Submission.perform, hsubmit]

theorem Submission.exists_prepared {s s' : Submission} {w w' : World} {report : SubmissionReport}
    (h : s.submit w = (.ok (report, s'), w')) : ∃ p w₁, s.prepare w = (.ok p, w₁) := by
  rw [submit_eq] at h
  obtain ⟨p, w₁, hp, -⟩ := Run.of_bind_ok h
  exact ⟨p, w₁, hp⟩

/-- A server that grants an application and reports a version of its cluster. -/
def Server.informing : Server := fun _ q =>
  let text := match q.method with
    | .text "GET" => sampleInfo
    | _ => sampleGrant
  ⟨[], .ok ⟨200, .text "OK", Text.utf8 text⟩⟩

/-- A submission whose containers are kept, though its driver is started once only. -/
theorem attempt_policy_gated_once : ∃ (s : Submission) (w w₁ w' : World)
    (prepared : ResourceRequest × LaunchSpec)
    (r : Except Failure (SubmissionReport × Submission)) (e : Exchange) (document : Value),
    Submission.Reachable RestNegotiator.sample s w ∧ s.prepare w = (.ok prepared, w₁) ∧
    s.submit w = (r, w') ∧ w'.warned = [.keepContainersNoEffect] ∧ e ∈ w'.exchanges ∧
    e.PostsDocument document ∧ document.at? ["max-app-attempts"] = some (.int 1) ∧
    document.at? ["keep-containers-across-application-attempts"] = some (.bool true) := by
  let node (s : Submission) (w : World) : Turn := ⟨.change (.node (.text anyHost)), s, w⟩
  let keep (t : Turn) : Turn := ⟨.change (.preserveContainers (.bool true)), t.next, t.nextWorld⟩
  let submit (t : Turn) : Turn := ⟨.submit, t.next, t.nextWorld⟩
  obtain ⟨s, w, hstart, hp⟩ := Submission.exists_started RestNegotiator.sample
    SubmissionPlan.sample (World.served Server.informing)
    (fun s w => (submit (keep (node s w))).result.isOk &&
      (keep (node s w)).nextWorld.warned == [] &&
      (submit (keep (node s w))).nextWorld.warned == [.keepContainersNoEffect] &&
      (keep (node s w)).next.parameters.maxAttempts == .int 1) (by decide +kernel)
  simp only [Bool.and_eq_true, beq_iff_eq] at hp
  obtain ⟨⟨⟨hok, hnone⟩, hwarned⟩, hattempts⟩ := hp
  obtain ⟨hc, -⟩ := RestNegotiator.isConnected_of_connect
    (RestNegotiator.connect_sample Server.informing)
  have hs : Submission.Reachable RestNegotiator.sample (keep (node s w)).next
      (keep (node s w)).nextWorld :=
    .call (.call (.start hc hstart) (node s w).perform_eq) (keep (node s w)).perform_eq
  have hresult := Turn.result_of_isOk hok
  obtain ⟨report, s', hsubmit⟩ := Turn.exists_report (t := submit (keep (node s w))) rfl hresult
  obtain ⟨prepared, w₁, hready⟩ := Submission.exists_prepared hsubmit
  obtain ⟨e, he, hto⟩ := Turn.exists_posted (t := submit (keep (node s w))) hs.isOver rfl hresult
  obtain ⟨x, info, sent, kinds, hx, hexchanges, hkinds, hinfo, -, hgated⟩ :=
    attempt_policy_gated hs hready hsubmit
  have hone : x.attempts = 1 := by
    rw [hx.attempts, Value.int_beq] at hattempts
    exact of_decide_eq_true hattempts
  change (submit (keep (node s w))).nextWorld.warned = (keep (node s w)).nextWorld.warned ++ _
    at hkinds
  rw [hwarned, hnone, List.nil_append] at hkinds
  have hposted : e ∈ sent := by
    rw [show (submit (keep (node s w))).sent = _ from Turn.sent_of_exchanges hexchanges] at he
    rcases List.mem_append.mp he with he | he
    · cases hto.eq_apps (hinfo e (Option.mem_toList.mp he))
    · exact he
  have hmem : e ∈ (submit (keep (node s w))).nextWorld.exchanges := by
    rw [hexchanges]
    exact List.mem_append_right _ (List.mem_append_right _ hposted)
  -- The one warning that is given tells which case this is.
  rcases hgated with ⟨-, -, rfl, -⟩ | ⟨-, _, f, -, -, -, hfailed, -⟩ | ⟨-, v, -, -, hposts, rfl⟩
  · unfold Figures.capped at hkinds
    split at hkinds <;> cases hkinds
  · cases hfailed
  · have hkept : v.atLeast ⟨2, 4, 0⟩ = true := by
      by_contra hold
      rw [if_neg hold] at hkinds
      unfold Figures.capped at hkinds
      split at hkinds <;> cases hkinds
    rw [hone, hkept] at hposts
    obtain ⟨document, hdocument, hmany, hkeep⟩ := hposts e hposted hto
    exact ⟨_, _, w₁, _, prepared, _, e, document, hs, hready, hsubmit, hwarned, hmem, hdocument,
      hmany, hkeep⟩

end ClusterSubmission
