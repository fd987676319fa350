import ClusterSubmission.Proofs.Calls

/-!
# The protocol of a submission

A run of calls is a list of turns, each where the one before left off. A submission asks for its
application once, and then sends one segment for each attempt at submitting. What came before limits
a turn: nothing is sent once the submission was closed or submitted, and a version that was given is
not asked for again.
-/
namespace ClusterSubmission

open Message

/-- A call, with the submission and the world that it is made in. -/
structure Turn where
  call : Call
  submission : Submission
  world : World

namespace Turn

def result (t : Turn) : Except Failure Unit := (t.submission.perform t.call t.world).1.1

def next (t : Turn) : Submission := (t.submission.perform t.call t.world).1.2

def nextWorld (t : Turn) : World := (t.submission.perform t.call t.world).2

/-- The exchanges of a turn. -/
def sent (t : Turn) : List Exchange := t.nextWorld.exchanges.drop t.world.exchanges.length

end Turn

namespace Submission

/-- The turns of a run of calls. -/
def turns (s : Submission) (w : World) : List Call → List Turn
  | [] => []
  | c :: cs =>
    let t : Turn := ⟨c, s, w⟩
    t :: t.next.turns t.nextWorld cs

/-- The world after a run of calls. -/
def worldAfter (s : Submission) (w : World) : List Call → World
  | [] => w
  | c :: cs =>
    let t : Turn := ⟨c, s, w⟩
    t.next.worldAfter t.nextWorld cs

end Submission

namespace Segment

variable {n : RestNegotiator} {s : Submission} {g : Segment} {e : Exchange}

/-- Every exchange of a lawful segment has one place and asks the service of that place. -/
theorem IsLawful.place (hg : g.IsLawful n s) (he : e ∈ g.toList) :
    (e ∈ g.info ∧ e.IsTo n.manager.address .info) ∨
      (e ∈ g.post ∧ e.IsTo n.manager.address .apps) ∨
      e.IsTo n.manager.address (.application s.handle) ∨
      e.IsTo n.manager.address .delegationToken := by
  unfold toList at he
  rcases List.mem_append.mp he with he | he
  · rcases List.mem_append.mp he with he | he
    · rw [Option.mem_toList] at he
      exact Or.inl ⟨he, hg.info_to e he⟩
    · rw [Option.mem_toList] at he
      exact Or.inr (Or.inl ⟨he, (hg.post_to e he).1⟩)
  · rcases List.mem_append.mp he with he | he
    · exact Or.inr (Or.inr (Or.inl (hg.looks_to e he)))
    · rw [Option.mem_toList] at he
      exact Or.inr (Or.inr (Or.inr (hg.token_to e he)))

theorem IsLawful.info_of_mem (hg : g.IsLawful n s) (he : e ∈ g.toList)
    (hto : e.IsTo n.manager.address .info) : e ∈ g.info := by
  rcases hg.place he with ⟨he, -⟩ | ⟨-, h⟩ | h | h
  · exact he
  · cases hto.eq_info h
  · cases hto.eq_info h
  · cases hto.eq_info h

theorem IsLawful.post_of_mem (hg : g.IsLawful n s) (he : e ∈ g.toList)
    (hto : e.IsTo n.manager.address .apps) : e ∈ g.post := by
  rcases hg.place he with ⟨-, h⟩ | ⟨he, -⟩ | h | h
  · cases hto.eq_apps h
  · exact he
  · cases hto.eq_apps h
  · cases hto.eq_apps h

end Segment

namespace Turn

variable {n : RestNegotiator} {t : Turn}

/-- A turn that keeps to the protocol: it sends a segment, and nothing unless it is an attempt at
submitting a submission that is being configured and has a host. -/
structure IsLawful (n : RestNegotiator) (t : Turn) : Prop where
  segment : ∃ g : Segment, t.sent = g.toList ∧ g.IsLawful n t.submission
  entered : t.sent ≠ [] → t.call = .submit ∧ t.submission.state = .configuring ∧
    t.submission.parameters.driverHost.isSet = true

/-- What an earlier turn means for a later one. The version is only asked for again if the earlier
request left it unknown, because it gave none or a record failed before the version was kept. -/
structure Limits (n : RestNegotiator) (t u : Turn) : Prop where
  closed : t.call = .close → u.sent = []
  version : ∀ e ∈ t.sent, ∀ e' ∈ u.sent, e.IsTo n.manager.address .info →
    e'.IsTo n.manager.address .info → n.version? t.nextWorld = none ∧ (e.version? = none ∨
      ∃ step x, t.result = .error (x.inStep t.submission.handle step) ∧ IsConsoleFault t.world x)

theorem perform_eq (t : Turn) :
    t.submission.perform t.call t.world = ((t.result, t.next), t.nextWorld) := rfl

theorem over_next (h : t.submission.IsOver n t.world) :
    t.next.IsOver n t.nextWorld ∧ t.next.handle = t.submission.handle := h.perform t.perform_eq

theorem sent_of_exchanges {sent : List Exchange}
    (h : t.nextWorld.exchanges = t.world.exchanges ++ sent) : t.sent = sent := by
  unfold Turn.sent
  rw [h, List.drop_left]

theorem nextWorld_of_submit {s : Submission} {w w' : World}
    {r : Except Failure (SubmissionReport × Submission)} (h : s.submit w = (r, w')) :
    (⟨.submit, s, w⟩ : Turn).nextWorld = w' := by
  unfold nextWorld Submission.perform
  dsimp only
  rw [h]
  cases r <;> rfl

theorem sent_of_ne_submit (h : t.submission.IsOver n t.world) (hc : t.call ≠ .submit) :
    t.sent = [] := by
  have hrests := Submission.perform_rests h hc t.perform_eq
  exact sent_of_exchanges (by rw [hrests.exchanges, List.append_nil])

theorem of_submit (h : t.submission.IsOver n t.world) (hc : t.call = .submit) :
    ∃ g : Segment, t.sent = g.toList ∧ g.IsLawful n t.submission ∧
      (g.toList ≠ [] → t.submission.state = .configuring ∧
        t.submission.parameters.driverHost.isSet = true) ∧
      ((t.result = .ok () ∧ t.next = { t.submission with state := .submitted } ∧
          Submission.Succeeds n t.world g t.nextWorld) ∨
        ∃ step x, t.result = .error (x.inStep t.submission.handle step) ∧
          t.next = t.submission ∧
            Submission.FailsIn n t.submission t.world g step x t.nextWorld) := by
  have hperform := t.perform_eq
  rw [hc] at hperform
  obtain ⟨g, hlawful, htalks, hentered, hend⟩ := Submission.perform_submit h hperform
  exact ⟨g, sent_of_exchanges htalks.exchanges, hlawful, hentered, hend⟩

theorem isLawful (h : t.submission.IsOver n t.world) : t.IsLawful n := by
  by_cases hc : t.call = .submit
  · obtain ⟨g, hsent, hlawful, hentered, -⟩ := of_submit h hc
    refine ⟨⟨g, hsent, hlawful⟩, fun hne => ⟨hc, hentered ?_⟩⟩
    rwa [← hsent]
  · have hnone := sent_of_ne_submit h hc
    refine ⟨⟨{}, hnone, ?_⟩, fun hne => absurd hnone hne⟩
    exact ⟨⟨by simp, by simp, by simp, by simp⟩, by simp, by simp, by simp, by simp⟩

theorem exchanges_eq (h : t.submission.IsOver n t.world) :
    t.nextWorld.exchanges = t.world.exchanges ++ t.sent := by
  by_cases hc : t.call = .submit
  · have hperform := t.perform_eq
    rw [hc] at hperform
    obtain ⟨g, -, htalks, -⟩ := Submission.perform_submit h hperform
    rw [sent_of_exchanges htalks.exchanges, htalks.exchanges]
  · have hrests := Submission.perform_rests h hc t.perform_eq
    rw [sent_of_ne_submit h hc, hrests.exchanges, List.append_nil]

theorem sent_of_entered (h : t.submission.IsOver n t.world)
    (hstate : t.submission.state ≠ .configuring) : t.sent = [] := by
  by_contra hne
  exact hstate ((isLawful h).entered hne).2.1

theorem state_next (h : t.submission.IsOver n t.world)
    (hstate : t.submission.state ≠ .configuring) : t.next.state ≠ .configuring := by
  by_cases hc : t.call = .submit
  · obtain ⟨g, -, -, -, ⟨-, hnext, -⟩ | ⟨step, x, -, hnext, -⟩⟩ := of_submit h hc
    · simp [hnext]
    · rw [hnext]
      exact hstate
  · have hrests := Submission.perform_rests h hc t.perform_eq
    rcases hrests.state with hsame | hclosed
    · rw [hsame]
      exact hstate
    · rw [hclosed]
      decide

theorem version_next (h : t.submission.IsOver n t.world) (hv : n.version? t.world ≠ none) :
    n.version? t.nextWorld ≠ none := by
  by_cases hc : t.call = .submit
  · obtain ⟨g, -, -, -, ⟨-, -, hok⟩ | ⟨step, x, -, -, hfail⟩⟩ := of_submit h hc
    · exact hok.learns.known hv
    · exact hfail.learns.known hv
  · rw [(Submission.perform_rests h hc t.perform_eq).version]
    exact hv

theorem not_isTo_info (h : t.submission.IsOver n t.world) (hv : n.version? t.world ≠ none) :
    ∀ e ∈ t.sent, ¬ e.IsTo n.manager.address .info := by
  intro e he hto
  have hc := ((isLawful h).entered (List.ne_nil_of_mem he)).1
  obtain ⟨g, hsent, hlawful, -, hend⟩ := of_submit h hc
  rw [hsent] at he
  have hinfo := hlawful.info_of_mem he hto
  rcases hend with ⟨-, -, hok⟩ | ⟨step, x, -, -, hfail⟩
  · exact hv (hok.learns.unknown hinfo)
  · exact hv (hfail.learns.unknown hinfo)

/-- A request for the version makes it known, unless it gave none or a record failed. -/
theorem version_of_info (h : t.submission.IsOver n t.world) {e : Exchange} (he : e ∈ t.sent)
    (hto : e.IsTo n.manager.address .info) : n.version? t.nextWorld ≠ none ∨ e.version? = none ∨
      ∃ step x, t.result = .error (x.inStep t.submission.handle step) ∧
        IsConsoleFault t.world x := by
  have hc := ((isLawful h).entered (List.ne_nil_of_mem he)).1
  obtain ⟨g, hsent, hlawful, -, hend⟩ := of_submit h hc
  rw [hsent] at he
  have hinfo := hlawful.info_of_mem he hto
  -- An attempt that succeeded cannot have failed to learn the version.
  rcases hend with ⟨-, -, hok⟩ | ⟨step, x, hr, -, hfail⟩
  · rcases hok.learns.outcome hinfo with hknown | ⟨f, hf, -⟩
    · exact Or.inl hknown
    · cases hf
  · rcases hfail.learns.outcome hinfo with hknown | ⟨f, hf, he | hfault⟩
    · exact Or.inl hknown
    · exact Or.inr (Or.inl he)
    · cases hf
      exact Or.inr (Or.inr ⟨step, x, hr, hfault⟩)

end Turn

namespace Submission

variable {n : RestNegotiator} {s : Submission} {w : World}

theorem isOver_of_mem_turns {cs : List Call} (hs : s.IsOver n w) : ∀ t ∈ s.turns w cs,
    t.submission.IsOver n t.world ∧ t.submission.handle = s.handle := by
  induction cs generalizing s w with
  | nil => simp [turns]
  | cons c cs ih =>
    obtain ⟨hover, hhandle⟩ := Turn.over_next (t := ⟨c, s, w⟩) hs
    intro t ht
    rcases List.mem_cons.mp ht with rfl | ht
    · exact ⟨hs, rfl⟩
    · obtain ⟨hover', hhandle'⟩ := ih hover t ht
      exact ⟨hover', hhandle'.trans hhandle⟩

theorem exchanges_worldAfter {cs : List Call} (hs : s.IsOver n w) :
    (s.worldAfter w cs).exchanges = w.exchanges ++ (s.turns w cs).flatMap Turn.sent := by
  induction cs generalizing s w with
  | nil => simp [worldAfter, turns]
  | cons c cs ih =>
    obtain ⟨hover, -⟩ := Turn.over_next (t := ⟨c, s, w⟩) hs
    have hsent := Turn.exchanges_eq (t := ⟨c, s, w⟩) hs
    simp only [worldAfter, turns, List.flatMap_cons]
    rw [ih hover, hsent, List.append_assoc]

/-- What every turn keeps holds in each turn of a run. -/
theorem lasting {p : Submission → World → Prop}
    (hkeep : ∀ t : Turn, t.submission.IsOver n t.world → p t.submission t.world →
      p t.next t.nextWorld) {cs : List Call} (hs : s.IsOver n w) (h : p s w) :
    ∀ t ∈ s.turns w cs, p t.submission t.world := by
  induction cs generalizing s w with
  | nil => simp [turns]
  | cons c cs ih =>
    intro t ht
    rcases List.mem_cons.mp ht with rfl | ht
    · exact h
    · exact ih (Turn.over_next (t := ⟨c, s, w⟩) hs).1 (hkeep ⟨c, s, w⟩ hs h) t ht

/-- A relation between a turn and all runs behind it holds between the turns of a run. -/
theorem pairwise_turns {r : Turn → Turn → Prop}
    (hr : ∀ t : Turn, t.submission.IsOver n t.world → ∀ cs, ∀ u ∈ t.next.turns t.nextWorld cs,
      r t u) {cs : List Call} (hs : s.IsOver n w) : (s.turns w cs).Pairwise r := by
  induction cs generalizing s w with
  | nil => exact List.Pairwise.nil
  | cons c cs ih =>
    exact List.Pairwise.cons (hr ⟨c, s, w⟩ hs cs) (ih (Turn.over_next (t := ⟨c, s, w⟩) hs).1)

theorem sent_of_mem_turns {cs : List Call} (hs : s.IsOver n w) (hstate : s.state ≠ .configuring) :
    ∀ t ∈ s.turns w cs, t.sent = [] := by
  intro t ht
  exact Turn.sent_of_entered (isOver_of_mem_turns hs t ht).1
    (lasting (p := fun s _ => s.state ≠ .configuring) (fun t => Turn.state_next) hs hstate t ht)

theorem limits_turns {cs : List Call} (hs : s.IsOver n w) :
    (s.turns w cs).Pairwise (Turn.Limits n) := by
  refine pairwise_turns (fun t ht cs u hu => ?_) hs
  have hnext := (Turn.over_next ht).1
  constructor
  · intro hc
    have hrests := perform_rests ht (by simp [hc]) t.perform_eq
    exact sent_of_mem_turns hnext (by simp [hrests.closed hc]) u hu
  · intro e he e' he' hto hto'
    have hunknown : n.version? t.nextWorld = none := by
      by_contra hknown
      have hlater := lasting (p := fun _ w => n.version? w ≠ none) (fun t => Turn.version_next)
        hnext hknown u hu
      exact Turn.not_isTo_info (isOver_of_mem_turns hnext u hu).1 hlater e' he' hto'
    exact ⟨hunknown, (Turn.version_of_info ht he hto).resolve_left (not_not.mpr hunknown)⟩

end Submission

/-- The protocol of a submission over a fresh session. One request asks for the application, and if
it fails the session is closed. Otherwise the submission is of the application that was granted, and
the turns of all calls keep to the protocol, each within the limits of those before it. -/
theorem submission_protocol {address timeout verify proxies : Value} {auth : Option AuthHandler}
    {n : RestNegotiator} {w₀ w : World} (plan : SubmissionPlan)
    (hconnect : ResourceManager.connect address auth timeout verify proxies w₀ =
      (.ok n.manager, w)) :
    ∃ e : Exchange, e.IsTo n.manager.address .newApplication ∧
      ((∃ f w₁, Submission.start n.operations plan w = (.error f, w₁) ∧
          w₁.exchanges = w.exchanges ++ [e] ∧ n.isOpen w₁ = false) ∨
        ∃ s w₁, Submission.start n.operations plan w = (.ok s, w₁) ∧ e.Grants s.handle ∧
          ∀ cs : List Call,
            (s.worldAfter w₁ cs).exchanges =
                w.exchanges ++ e :: (s.turns w₁ cs).flatMap Turn.sent ∧
              (∀ t ∈ s.turns w₁ cs, t.IsLawful n ∧ t.submission.handle = s.handle) ∧
              (s.turns w₁ cs).Pairwise (Turn.Limits n)) := by
  obtain ⟨hc, ho, -⟩ := RestNegotiator.isConnected_of_connect hconnect
  rcases hstart : Submission.start n.operations plan w with ⟨r, w₁⟩
  obtain ⟨e, hto, hsent, -, ⟨f, rfl, hclosed⟩ | ⟨s, rfl, hover, hgrants⟩⟩ :=
    Submission.start_spec hc ho hstart
  · exact ⟨e, hto, Or.inl ⟨f, w₁, rfl, hsent, hclosed⟩⟩
  · refine ⟨e, hto, Or.inr ⟨s, w₁, rfl, hgrants, fun cs => ⟨?_, fun t ht => ?_, ?_⟩⟩⟩
    · rw [Submission.exchanges_worldAfter hover, hsent, List.append_assoc]
      rfl
    · obtain ⟨hturn, hhandle⟩ := Submission.isOver_of_mem_turns hover t ht
      exact ⟨Turn.isLawful hturn, hhandle⟩
    · exact Submission.limits_turns hover

/-- A fresh session with a server that grants an application. -/
theorem submission_protocol_granted :
    ResourceManager.connect (.text "http://rm:8088") none .null .null .null
        { server := Server.answering sampleGrant } =
      (.ok RestNegotiator.sample.manager, World.served (Server.answering sampleGrant)) ∧
    ∃ (e : Exchange) (s : Submission) (w₁ : World),
      e.IsTo RestNegotiator.sample.manager.address .newApplication ∧ e.Grants s.handle ∧
        Submission.start RestNegotiator.sample.operations SubmissionPlan.sample
          (World.served (Server.answering sampleGrant)) = (.ok s, w₁) ∧
        (s.worldAfter w₁ [.change (.node (.text anyHost)), .submit]).exchanges =
          (World.served (Server.answering sampleGrant)).exchanges ++
            e :: (s.turns w₁ [.change (.node (.text anyHost)), .submit]).flatMap Turn.sent := by
  obtain ⟨s, w₁, hgranted, -⟩ := Submission.exists_started RestNegotiator.sample
    SubmissionPlan.sample (World.served (Server.answering sampleGrant)) (fun _ _ => true)
    (by decide +kernel)
  have hconnect := RestNegotiator.connect_sample (Server.answering sampleGrant)
  obtain ⟨e, hto, ⟨f, w', hstart, -⟩ | ⟨s', w', hstart, hgrants, hrun⟩⟩ :=
    submission_protocol SubmissionPlan.sample hconnect
  · rw [hgranted] at hstart
    cases hstart
  · obtain ⟨hexchanges, -⟩ := hrun [.change (.node (.text anyHost)), .submit]
    exact ⟨hconnect, e, s', w', hto, hgrants, hstart, hexchanges⟩

/-- A server that grants an application, accepts it, and reports that it failed. -/
def Server.failing : Server := fun _ q =>
  let text := match q.method with
    | .text "GET" => "\x7b\"app\":\x7b\"id\":\"application_1_0002\",\"state\":\"FAILED\"\x7d\x7d"
    | _ => sampleGrant
  ⟨[], .ok ⟨200, .text "OK", Text.utf8 text⟩⟩

/-- Whether the request of an exchange posts to the applications of the sample's server. -/
def Exchange.isPost (e : Exchange) : Bool :=
  match e.request.method with
  | .text m => decide (m = "POST") &&
    decide (e.request.url = Service.url RestNegotiator.sample.manager.address .apps)
  | _ => false

theorem Exchange.isTo_of_isPost {e : Exchange} (h : e.isPost = true) :
    e.IsTo RestNegotiator.sample.manager.address .apps := by
  unfold Exchange.isPost at h
  split at h
  · rename_i m hm
    obtain ⟨hmethod, hurl⟩ := Bool.and_eq_true_iff.mp h
    exact ⟨by rw [hm, of_decide_eq_true hmethod]; rfl, of_decide_eq_true hurl⟩
  · cases h

/-- Whether two turns one behind the other begin with handing over, where the first was answered. -/
def repeatsPost (ts : List Turn) (k : Nat) : Bool :=
  (ts[k]?.any fun t => t.sent.any fun e => e.isPost && e.answer?.isSome) &&
    ts[k + 1]?.any fun u => u.sent.any Exchange.isPost

end ClusterSubmission
