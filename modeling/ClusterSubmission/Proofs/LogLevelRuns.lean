import ClusterSubmission.Proofs.LogLevelServices
import ClusterSubmission.Proofs.ValidParameters

/-!
# Runs at different levels of the log

Operations on submissions and negotiators go the same way at each level of the log, until a record
fails on the console. So do lists of operations, where each goes on from what the ones before it
left. A level at which more is shown can keep an application from being submitted.
-/
namespace ClusterSubmission

namespace Submission

variable {n : RestNegotiator} {s : Submission}

/-- Closing ends alike as well, with the submission as closing leaves it. -/
theorem close_alike (hs : s.negotiator = n.operations) {w u : World} (h : u.IsQuieter w) :
    ((s.close w).1 = (s.close u).1 ∧ (s.close u).2.IsQuieter (s.close w).2) ∨
      ∃ f, (s.close w).1.1 = .error f ∧ f.IsOfRecord ∧ (s.close w).2.Precedes (s.close u).2 := by
  have hclose : s.negotiator.close.IgnoresLevel := by
    rw [hs]
    exact n.manager.close_ignoresLevel
  by_cases hclosed : s.state = .closed
  · have hend : ∀ v, s.close v = ((.ok (), s), v) := by
      intro v
      unfold close
      rw [if_pos hclosed]
    rw [hend, hend]
    exact Or.inl ⟨rfl, h⟩
  have hfailed : ∀ {v v₁ : World} {f : Failure},
      Run.debug ("Closing YARN application: " ++ s.handle) v = (.error f, v₁) →
      s.close v = ((.error f, s), v₁) := by
    intro v v₁ f hline
    unfold close
    rw [if_neg hclosed, hline]
  have hended : ∀ {v v₁ : World} {x : Unit},
      Run.debug ("Closing YARN application: " ++ s.handle) v = (.ok x, v₁) →
      s.close v = (((s.negotiator.close v₁).1, { s with state := .closed }),
        (s.negotiator.close v₁).2) := by
    intro v v₁ x hline
    unfold close
    rw [if_neg hclosed, hline]
    rfl
  have hline := (Run.IgnoresLevel.debug ("Closing YARN application: " ++ s.handle)).alike w u h
  rcases hw : Run.debug ("Closing YARN application: " ++ s.handle) w with ⟨r, w₁⟩
  rcases hu : Run.debug ("Closing YARN application: " ++ s.handle) u with ⟨r', u₁⟩
  rw [hw, hu] at hline
  cases hline with
  | same _ hq =>
    cases r with
    | error f =>
      rw [hfailed hw, hfailed hu]
      exact Or.inl ⟨rfl, hq⟩
    | ok _ =>
      rw [hended hw, hended hu]
      have halike := hclose.alike w₁ u₁ hq
      rcases hw₁ : s.negotiator.close w₁ with ⟨r, w₂⟩
      rcases hu₁ : s.negotiator.close u₁ with ⟨r', u₂⟩
      rw [hw₁, hu₁] at halike
      cases halike with
      | same _ hq₁ => exact Or.inl ⟨rfl, hq₁⟩
      | fault _ hof hp => exact Or.inr ⟨_, rfl, hof, hp⟩
  | fault _ hof hp =>
    rw [hfailed hw]
    refine Or.inr ⟨_, rfl, hof, ?_⟩
    cases r' with
    | error f =>
      rw [hfailed hu]
      exact hp
    | ok _ =>
      rw [hended hu]
      exact hp.trans (hclose.precedes u₁)

end Submission

/-- The operations on submissions and negotiators. A submission is named by its place among those
that were begun. -/
inductive Action where
  | connect (auth : Option AuthHandler) (given : List (String × Value))
  | configure (settings : Settings)
  | createApplication (n : RestNegotiator)
  | clusterVersion (n : RestNegotiator)
  | handOver (n : RestNegotiator) (o : SubmissionOrder)
  | report (n : RestNegotiator) (handle : Value)
  | obtainCredential (n : RestNegotiator) (handle : Value)
  | closeSession (n : RestNegotiator)
  | start (n : RestNegotiator) (plan : SubmissionPlan)
  | change (place : Nat) (c : Change)
  | putTokens (sink : Nat) (data given : Value)
  | submit (place : Nat)
  | close (place : Nat)

/-- What an operation gives. -/
inductive Outcome where
  | done
  | negotiator (n : RestNegotiator)
  | grant (handle : Value) (ceiling : Ceiling)
  | version (v : Version)
  | report (p : Message.Part)
  | credential (c : Credential)
  | submitted (r : SubmissionReport)

/-- Where a list of operations is: what the last one gave, the submissions, and the world. -/
structure Stage where
  result : Except Failure Outcome
  submissions : List Submission
  world : World

namespace Action

/-- Runs an operation that leaves the submissions as they are. -/
def aside {α : Type} (x : Run α) (f : α → Outcome) (ss : List Submission) (w : World) : Stage :=
  match x w with
  | (.ok a, w) => ⟨.ok (f a), ss, w⟩
  | (.error e, w) => ⟨.error e, ss, w⟩

/-- Runs an operation on a submission. If there is none, nothing happens. -/
def onPlace (place : Nat) (ss : List Submission) (w : World) (f : Submission → Stage) : Stage :=
  match ss[place]? with
  | some s => f s
  | none => ⟨.ok .done, ss, w⟩

def run (ss : List Submission) (w : World) : Action → Stage
  | .connect auth given => aside (RestNegotiator.ofNamed auth given) .negotiator ss w
  | .configure settings => aside (RestNegotiator.ofSettings settings) .negotiator ss w
  | .createApplication n => aside n.createApplication (fun g => .grant g.1 g.2) ss w
  | .clusterVersion n => aside n.clusterVersion .version ss w
  | .handOver n o => aside (n.submit o) (fun _ => .done) ss w
  | .report n handle => aside (n.report handle) .report ss w
  | .obtainCredential n handle => aside (n.obtainCredential handle) .credential ss w
  | .closeSession n => aside n.close (fun _ => .done) ss w
  | .putTokens sink data given => aside (addTokens sink data given) (fun _ => .done) ss w
  | .start n plan =>
    match Submission.start n.operations plan w with
    | (.ok s, w) => ⟨.ok .done, ss ++ [s], w⟩
    | (.error f, w) => ⟨.error f, ss, w⟩
  | .change place c => onPlace place ss w fun s =>
    match s.change c with
    | .ok s' => ⟨.ok .done, ss.set place s', w⟩
    | .error f => ⟨.error f, ss, w⟩
  | .submit place => onPlace place ss w fun s =>
    match s.submit w with
    | (.ok (given, s'), w) => ⟨.ok (.submitted given), ss.set place s', w⟩
    | (.error f, w) => ⟨.error f, ss, w⟩
  | .close place => onPlace place ss w fun s =>
    match s.close w with
    | ((r, s'), w) => ⟨r.map fun _ => .done, ss.set place s', w⟩

/-- The stages of a list of operations. -/
def stages : List Submission → World → List Action → List Stage
  | _, _, [] => []
  | ss, w, o :: os =>
    let stage := o.run ss w
    stage :: stages stage.submissions stage.world os

end Action

/-- Stages of a run that shows more records than another one: they agree, or they agree up to one
where the run has failed in a record, without having sent or warned of anything more. -/
inductive Agree : List Stage → List Stage → Prop
  | nil : Agree [] []
  | same (r : Except Failure Outcome) (ss : List Submission) {w u : World}
      {later later' : List Stage}
      (h : u.IsQuieter w) (hlater : Agree later later') :
      Agree (⟨r, ss, w⟩ :: later) (⟨r, ss, u⟩ :: later')
  | fault {f : Failure} (r : Except Failure Outcome) {ss ss' : List Submission} {w u : World}
      (later later' : List Stage) (hf : f.IsOfRecord) (h : w.Precedes u) :
      Agree (⟨.error f, ss, w⟩ :: later) (⟨r, ss', u⟩ :: later')

/-- How single stages compare. -/
inductive Stage.IsLike : Stage → Stage → Prop
  | same (r : Except Failure Outcome) (ss : List Submission) {w u : World} (h : u.IsQuieter w) :
      IsLike ⟨r, ss, w⟩ ⟨r, ss, u⟩
  | fault {f : Failure} (r : Except Failure Outcome) {ss ss' : List Submission} {w u : World}
      (hf : f.IsOfRecord) (h : w.Precedes u) : IsLike ⟨.error f, ss, w⟩ ⟨r, ss', u⟩

namespace Action

variable {ss : List Submission} {w u : World}

/-- Submissions over negotiators on a resource manager. -/
def AreRest (ss : List Submission) : Prop :=
  ∀ s ∈ ss, ∃ n : RestNegotiator, s.negotiator = n.operations

theorem aside_isLike {α : Type} {x : Run α} (hx : x.IgnoresLevel) (f : α → Outcome)
    (h : u.IsQuieter w) : (aside x f ss w).IsLike (aside x f ss u) := by
  have halike := hx.alike w u h
  unfold aside
  rcases hw : x w with ⟨r, w₁⟩
  rcases hu : x u with ⟨r', u₁⟩
  rw [hw, hu] at halike
  cases halike with
  | same _ hq => cases r <;> exact .same _ _ hq
  | fault _ hof hp => cases r' <;> exact .fault _ hof hp

theorem aside_submissions {α : Type} (x : Run α) (f : α → Outcome) :
    (aside x f ss w).submissions = ss := by
  unfold aside
  split <;> rfl

theorem run_isLike (hss : AreRest ss) (h : u.IsQuieter w) (o : Action) :
    (o.run ss w).IsLike (o.run ss u) := by
  cases o with
  | connect auth given => exact aside_isLike (ofNamed_ignoresLevel auth given) _ h
  | configure settings => exact aside_isLike (ofSettings_ignoresLevel settings) _ h
  | createApplication n => exact aside_isLike n.createApplication_ignoresLevel _ h
  | clusterVersion n => exact aside_isLike n.clusterVersion_ignoresLevel _ h
  | handOver n o => exact aside_isLike (n.submit_ignoresLevel o) _ h
  | report n handle => exact aside_isLike (n.report_ignoresLevel handle) _ h
  | obtainCredential n handle => exact aside_isLike (n.obtainCredential_ignoresLevel handle) _ h
  | closeSession n => exact aside_isLike n.manager.close_ignoresLevel _ h
  | putTokens sink data given =>
    refine aside_isLike ?_ _ h
    exact .read (fun _ _ => rfl) fun _ => .bind (.ofExcept _) fun _ => .bind (.debug _) fun _ =>
      .bind (.ofExcept _) fun _ => Submission.putToken_ignoresLevel _ _ _
  | start n plan =>
    have halike := (Submission.start_ignoresLevel n plan).alike w u h
    simp only [run]
    rcases hw : Submission.start n.operations plan w with ⟨r, w₁⟩
    rcases hu : Submission.start n.operations plan u with ⟨r', u₁⟩
    rw [hw, hu] at halike
    cases halike with
    | same _ hq => cases r <;> exact .same _ _ hq
    | fault _ hof hp => cases r' <;> exact .fault _ hof hp
  | change place c =>
    simp only [run, onPlace]
    rcases ss[place]? with _ | s
    · exact .same _ _ h
    · dsimp only
      split <;> exact .same _ _ h
  | submit place =>
    simp only [run, onPlace]
    rcases hs : ss[place]? with _ | s
    · exact .same _ _ h
    obtain ⟨n, hn⟩ := hss s (List.mem_of_getElem? hs)
    have halike := (Submission.submit_ignoresLevel hn).alike w u h
    dsimp only
    rcases hw : s.submit w with ⟨r, w₁⟩
    rcases hu : s.submit u with ⟨r', u₁⟩
    rw [hw, hu] at halike
    cases halike with
    | same _ hq => cases r <;> exact .same _ _ hq
    | fault _ hof hp => cases r' <;> exact .fault _ hof hp
  | close place =>
    simp only [run, onPlace]
    rcases hs : ss[place]? with _ | s
    · exact .same _ _ h
    obtain ⟨n, hn⟩ := hss s (List.mem_of_getElem? hs)
    have halike := Submission.close_alike hn h
    dsimp only
    rcases hw : s.close w with ⟨⟨r, s₁⟩, w₁⟩
    rcases hu : s.close u with ⟨⟨r', s₁'⟩, u₁⟩
    rw [hw, hu] at halike
    rcases halike with ⟨heq, hq⟩ | ⟨f, hf, hof, hp⟩
    · cases heq
      exact .same _ _ hq
    · cases hf
      exact .fault _ hof hp

theorem AreRest.set {s' : Submission} {place : Nat} (hss : AreRest ss)
    (hs' : ∃ n : RestNegotiator, s'.negotiator = n.operations) : AreRest (ss.set place s') := by
  intro t ht
  rcases List.mem_or_eq_of_mem_set ht with ht | rfl
  · exact hss t ht
  · exact hs'

/-- What an operation makes of submissions is over the negotiators they were over. -/
theorem run_areRest (hss : AreRest ss) (w : World) (o : Action) :
    AreRest (o.run ss w).submissions := by
  cases o with
  | start n plan =>
    simp only [run]
    split
    · rename_i s w₁ hstart
      intro t ht
      rcases List.mem_append.mp ht with ht | ht
      · exact hss t ht
      · rw [List.mem_singleton.mp ht]
        exact ⟨n, (Submission.start_ok hstart).1⟩
    · exact hss
  | change place c =>
    simp only [run, onPlace]
    rcases hs : ss[place]? with _ | s
    · exact hss
    dsimp only
    split
    · rename_i s' hs'
      obtain ⟨p, rfl⟩ := Submission.change_ok hs'
      exact hss.set (hss s (List.mem_of_getElem? hs))
    · exact hss
  | submit place =>
    simp only [run, onPlace]
    rcases hs : ss[place]? with _ | s
    · exact hss
    dsimp only
    split
    · rename_i hsubmit
      obtain ⟨-, rfl⟩ := Submission.submit_ok hsubmit
      exact hss.set (hss s (List.mem_of_getElem? hs))
    · exact hss
  | close place =>
    simp only [run, onPlace]
    rcases hs : ss[place]? with _ | s
    · exact hss
    have hkept := hss s (List.mem_of_getElem? hs)
    rcases hclose : s.close w with ⟨⟨r, s'⟩, w'⟩
    dsimp only
    rw [hclose]
    rcases Submission.close_moves hclose with rfl | rfl
    · exact hss.set hkept
    · exact hss.set hkept
  | _ =>
    simp only [run, aside_submissions]
    exact hss

theorem stages_agree (hss : AreRest ss) (h : u.IsQuieter w) (os : List Action) :
    Agree (stages ss w os) (stages ss u os) := by
  -- By induction on the operations: each leaves submissions over negotiators, and quieter worlds.
  induction os generalizing ss w u with
  | nil => exact .nil
  | cons o os ih =>
    have hlike := run_isLike hss h o
    have hkept := run_areRest hss w o
    unfold stages
    rcases hw : o.run ss w with ⟨r, ss₁, w₁⟩
    rcases hu : o.run ss u with ⟨r', ss₁', u₁⟩
    rw [hw] at hkept
    rw [hw, hu] at hlike
    cases hlike with
    | same _ _ hq => exact .same _ _ hq (ih hkept hq)
    | fault _ hof hp => exact .fault _ _ _ hof hp

end Action

/-- Stages that agree are the same, up to the level, where no record fails. -/
theorem Agree.same_of_no_fault {xs ys : List Stage} (h : Agree xs ys)
    (hno : ∀ x ∈ xs, ∀ f, x.result = .error f → ¬ f.IsOfRecord) :
    List.Forall₂ (fun x y => y.result = x.result ∧ y.submissions = x.submissions ∧
      y.world.IsQuieter x.world) xs ys := by
  induction h with
  | nil => exact .nil
  | same r ss h hlater ih =>
    refine .cons ⟨rfl, rfl, h⟩ (ih fun x hx => ?_)
    exact hno x (List.mem_cons_of_mem _ hx)
  | fault r later later' hf h => exact absurd hf (hno _ (List.mem_cons_self ..) _ rfl)

/-- Operations from the beginning go the same way at two levels of the log, until one of the run at
the lower level fails in a record on the console. -/
theorem levels_agree_until_fault (w : World) (os : List Action) {a b : Int} (ha : 0 < a)
    (hab : a ≤ b) :
    Agree (Action.stages [] (w.atLevel a) os) (Action.stages [] (w.atLevel b) os) :=
  Action.stages_agree (by simp [Action.AreRest]) (w.atLevel_isQuieter ha hab) os

/-- Submitting to a queue whose name looks like the end of a style. -/
def sampleActions : List Action :=
  [.start RestNegotiator.sample { SubmissionPlan.sample with classpath := .text "lib" },
    .change 0 (.node (.text "*")), .change 0 (.launcher (.text "Main")),
    .change 0 (.queue (.text "[/x]")), .submit 0]

theorem levels_agree_until_fault_info :
    Agree (Action.stages [] ((World.served (Server.answering sampleGrant)).atLevel infoLevel)
        sampleActions)
      (Action.stages [] ((World.served (Server.answering sampleGrant)).atLevel warningLevel)
        sampleActions) :=
  levels_agree_until_fault _ _ (by decide) (by decide)

theorem exists_last {l : List Stage} (p : Stage → Bool)
    (h : (match l.getLast? with
      | some last => p last
      | none => false) = true) : ∃ last, l.getLast? = some last ∧ p last = true := by
  rcases hlast : l.getLast? with _ | last
  · rw [hlast] at h
    cases h
  · rw [hlast] at h
    exact ⟨last, rfl, h⟩

/-- At the level of warnings the application is submitted. At the level below, submitting fails in a
record after the application was handed over. -/
theorem submit_fails_at_info : ∃ quiet loud,
    (Action.stages [] ((World.served (Server.answering sampleGrant)).atLevel warningLevel)
      sampleActions).getLast? = some quiet ∧
    (Action.stages [] ((World.served (Server.answering sampleGrant)).atLevel infoLevel)
      sampleActions).getLast? = some loud ∧
    quiet.result.isOk = true ∧ (∃ f, loud.result = .error f ∧ f.kind = .markup) ∧
    quiet.world.history.length = 2 ∧ loud.world.history.length = 2 := by
  obtain ⟨quiet, hquiet, hq⟩ := exists_last (l := Action.stages []
      ((World.served (Server.answering sampleGrant)).atLevel warningLevel) sampleActions)
    (fun last => last.result.isOk && decide (last.world.history.length = 2)) (by decide +kernel)
  obtain ⟨loud, hloud, hl⟩ := exists_last (l := Action.stages []
      ((World.served (Server.answering sampleGrant)).atLevel infoLevel) sampleActions)
    (fun last => failsWith (·.kind == .markup) last.result &&
      decide (last.world.history.length = 2)) (by decide +kernel)
  obtain ⟨hok, hsent⟩ := Bool.and_eq_true_iff.mp hq
  obtain ⟨hfailed, hsent'⟩ := Bool.and_eq_true_iff.mp hl
  obtain ⟨f, hf, hkind⟩ := exists_of_failsWith hfailed
  exact ⟨quiet, loud, hquiet, hloud, hok, ⟨f, hf, eq_of_beq hkind⟩, of_decide_eq_true hsent,
    of_decide_eq_true hsent'⟩

end ClusterSubmission
