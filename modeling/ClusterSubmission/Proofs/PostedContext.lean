import ClusterSubmission.Proofs.Resolution

/-!
# What is posted

A run of settings leaves a submission with the parameters of the configuration that the accepted
ones make up; those that are refused leave no trace. So what a later attempt at submitting posts is
the form of this configuration, with the tokens that were put into the sink.
-/
namespace ClusterSubmission

open Message

section Sinks

/-- What was put into a sink, one after another. -/
def CredentialSink.IsFilledBy (sink : CredentialSink) (puts : List (String × String)) : Prop :=
  puts.foldlM (fun (s : CredentialSink) e => s.put (.text e.1) (.text e.2)) {} = .ok sink

/-- A sink has one token for each alias, the one that was put last. -/
theorem CredentialSink.IsFilledBy.tokens_eq {sink : CredentialSink}
    {puts : List (String × String)} (h : sink.IsFilledBy puts) :
    sink.tokens = rawEntries .text (lastEntries puts) := by
  have hall : ∀ (puts : List (String × String)) (s : CredentialSink),
      puts.foldlM (fun (s : CredentialSink) e => s.put (.text e.1) (.text e.2)) s =
        .ok ⟨Value.update s.tokens (rawEntries .text puts)⟩ := by
    intro puts
    induction puts with
    | nil => exact fun _ => rfl
    | cons e puts ih => exact fun s => ih ⟨Value.insert s.tokens (.text e.1) (.text e.2)⟩
  have hfilled : Value.update [] (rawEntries .text puts) = rawEntries .text (lastEntries puts) := by
    have hupdate : Value.update (rawEntries .text (lastEntries [])) (rawEntries .text puts) = _ :=
      update_rawEntries Value.text puts
    rw [putEntries_lastEntries, List.nil_append] at hupdate
    exact hupdate
  unfold IsFilledBy at h
  rw [hall] at h
  cases h
  exact hfilled

end Sinks

theorem Run.of_onFailure_ok {α : Type} {x : Run α} {finish : Run Unit} {w w' : World} {a : α}
    (h : x.onFailure finish w = (.ok a, w')) : x w = (.ok a, w') := by
  unfold Run.onFailure at h
  split at h
  · rename_i hok
    exact hok.trans h
  · split at h <;> cases h

theorem RestNegotiator.memory_of_createApplication {n : RestNegotiator} {w w' : World} {id : Value}
    {ceiling : Ceiling} (h : n.createApplication w = (.ok (id, ceiling), w')) :
    ∃ most, ceiling.memory = .int most := by
  unfold createApplication at h
  obtain ⟨_, _, -, h⟩ := Run.of_bind_ok h
  obtain ⟨v, _, -, h⟩ := Run.of_bind_ok h
  obtain ⟨p, _, hdecode, h⟩ := Run.of_bind_ok h
  obtain ⟨_, _, -, h⟩ := Run.of_bind_ok h
  rw [Run.ofResult_apply] at hdecode
  obtain ⟨d, hread⟩ := exists_read_of_decode (Prod.mk.inj hdecode).1
  obtain ⟨most, hmost, -⟩ := memory_of_read hread
  cases h
  exact ⟨most, hmost⟩

namespace Submission

variable {n : RestNegotiator} {plan : SubmissionPlan} {xs : List Setting} {s s' : Submission}
  {w w' : World}

/-- A submission by a plan, with the parameters of a configuration. -/
structure Carries (plan : SubmissionPlan) (c : Configuration) (s : Submission) : Prop where
  parameters : ∃ renewals, s.parameters = c.parameters (.list plan.wrapper.asSequence) renewals
  most : ∃ most, s.ceiling.memory = .int most
  classpath : s.classpath = plan.classpath
  unmanaged : s.unmanaged = plan.unmanaged
  sink : s.sink = plan.sink

theorem carries_of_start (h : start n.operations plan w = (.ok s, w')) :
    s.Carries plan (.of []) := by
  unfold start at h
  obtain ⟨_, _, -, h⟩ := Run.of_bind_ok h
  obtain ⟨⟨id, ceiling⟩, w₁, hreserved, h⟩ := Run.of_bind_ok h
  obtain ⟨handle, _, -, h⟩ := Run.of_bind_ok h
  obtain ⟨_, _, -, h⟩ := Run.of_bind_ok h
  have hmost := RestNegotiator.memory_of_createApplication (Run.of_onFailure_ok hreserved)
  cases h
  exact ⟨⟨[], (Configuration.parameters_nil _).symm⟩, hmost, rfl, rfl, rfl⟩

/-- Where settings on a submission can get, with those that were accepted. Between them it may be
tried to submit or to close, and anything but the sessions may change. -/
inductive Configured (n : RestNegotiator) (plan : SubmissionPlan) :
    List Setting → Submission → World → Prop
  | start {s : Submission} {w w' : World} (hc : n.IsConnected w)
      (h : start n.operations plan w = (.ok s, w')) : Configured n plan [] s w'
  | accepted {xs : List Setting} {x : Setting} {s s' : Submission} {w w' : World}
      (hs : Configured n plan xs s w) (h : s.perform (.change x.change) w = ((.ok (), s'), w')) :
      Configured n plan (xs ++ [x]) s' w'
  | refused {xs : List Setting} {x : Setting} {f : Failure} {s s' : Submission} {w w' : World}
      (hs : Configured n plan xs s w)
      (h : s.perform (.change x.change) w = ((.error f, s'), w')) : Configured n plan xs s' w'
  | submit {xs : List Setting} {r : Except Failure Unit} {s s' : Submission} {w w' : World}
      (hs : Configured n plan xs s w) (h : s.perform .submit w = ((r, s'), w')) :
      Configured n plan xs s' w'
  | close {xs : List Setting} {r : Except Failure Unit} {s s' : Submission} {w w' : World}
      (hs : Configured n plan xs s w) (h : s.perform .close w = ((r, s'), w')) :
      Configured n plan xs s' w'
  | elsewhere {xs : List Setting} {s : Submission} {w w' : World} (hs : Configured n plan xs s w)
      (h : w'.sessions = w.sessions) : Configured n plan xs s w'

theorem Configured.reachable (h : Configured n plan xs s w) : Reachable n s w := by
  induction h with
  | start hc h => exact .start hc h
  | accepted _ h ih | refused _ h ih | submit _ h ih | close _ h ih => exact .call ih h
  | elsewhere _ h ih => exact .elsewhere ih h

/-- A setting that is accepted is one more setting of the configuration. -/
theorem Carries.accepted {x : Setting} (hs : s.Carries plan (.of xs))
    (h : s.perform (.change x.change) w = ((.ok (), s'), w')) :
    s'.Carries plan (.of (xs ++ [x])) := by
  obtain ⟨renewals, hp⟩ := hs.parameters
  rcases change_cases s x.change with ⟨f, hf⟩ | ⟨p, hchange, -, -, happly⟩
  · simp only [perform, hf] at h
    cases h
  · obtain ⟨renewals', hnext⟩ := Configuration.apply_change xs x _ renewals
    rw [hp, hnext] at happly
    simp only [perform, hchange] at h
    cases h
    cases happly
    exact ⟨⟨renewals', rfl⟩, hs.most, hs.classpath, hs.unmanaged, hs.sink⟩

theorem Carries.refused {c : Configuration} {d : Change} {f : Failure} (hs : s.Carries plan c)
    (h : s.perform (.change d) w = ((.error f, s'), w')) : s'.Carries plan c := by
  rcases change_cases s d with ⟨g, hg⟩ | ⟨p, hchange, -⟩
  · simp only [perform, hg] at h
    cases h
    exact hs
  · simp only [perform, hchange] at h
    cases h

/-- Calls that are no changes leave the configuration alone. -/
theorem Carries.kept {c : Configuration} {call : Call} {r : Except Failure Unit}
    (hs : s.Carries plan c) (hcall : ∀ d, call ≠ .change d)
    (h : s.perform call w = ((r, s'), w')) : s'.Carries plan c := by
  obtain ⟨p, st, rfl, -, rfl | ⟨d, hd, -⟩⟩ := perform_moves h
  · exact ⟨hs.parameters, hs.most, hs.classpath, hs.unmanaged, hs.sink⟩
  · exact absurd hd (hcall d)

theorem Configured.carries (h : Configured n plan xs s w) : s.Carries plan (.of xs) := by
  -- By induction on the calls: only a setting that is accepted moves the configuration.
  induction h with
  | start hc h => exact carries_of_start h
  | accepted _ h ih => exact ih.accepted h
  | refused _ h ih => exact ih.refused h
  | submit _ h ih => exact ih.kept (by simp) h
  | close _ h ih => exact ih.kept (by simp) h
  | elsewhere _ _ ih => exact ih

end Submission

namespace Turn

variable {n : RestNegotiator}

theorem result_of_isOk {t : Turn} (h : t.result.isOk = true) : t.result = .ok () := by
  rcases hr : t.result with f | _
  · rw [hr] at h
    cases h
  · rfl

/-- An attempt at submitting that succeeds has posted something. -/
theorem exists_posted {t : Turn} (hs : t.submission.IsOver n t.world) (hc : t.call = .submit)
    (hr : t.result = .ok ()) : ∃ e ∈ t.sent, e.IsTo n.manager.address .apps := by
  obtain ⟨g, hsent, hlawful, -, ⟨-, -, hok⟩ | ⟨step, x, hfailed, -⟩⟩ := of_submit hs hc
  · obtain ⟨e, he, -⟩ := hok.posted
    rw [hsent]
    exact ⟨e, Segment.mem_of_post he, (hlawful.post_to e he).1⟩
  · rw [hr] at hfailed
    cases hfailed

end Turn

/-- What a submission posts is the form of the configuration that the accepted settings make up,
with the handle of the application and one token for each alias in the sink. The memory is limited
by the largest container, and containers are kept if the cluster has a version that keeps them. -/
theorem posted_context {n : RestNegotiator} {plan : SubmissionPlan} {xs : List Setting}
    {s : Submission} {w : World} {unmanaged : Bool} {puts : List (String × String)} {e : Exchange}
    (hunmanaged : plan.unmanaged = .bool unmanaged) (hs : Submission.Configured n plan xs s w)
    (hputs : (w.tokenSink plan.sink).IsFilledBy puts)
    (he : e ∈ (⟨.submit, s, w⟩ : Turn).sent) (hto : e.IsTo n.manager.address .apps) :
    ∃ host most keeps text, (Configuration.of xs).host = some host ∧
      s.ceiling.memory = .int most ∧
      ((Configuration.of xs).keepContainers = true → ∃ version,
        n.version? (⟨.submit, s, w⟩ : Turn).nextWorld = some version ∧
          keeps = version.keepsContainers) ∧
      Json.write? ((Configuration.of xs).form ⟨s.handle, most, keeps, plan.wrapper.asTokens,
        plan.classpath, unmanaged, lastEntries puts⟩) = some text ∧
      e.request.data = .bytes (Text.utf8 text) := by
  have hover := hs.reachable.isOver
  obtain ⟨⟨renewals, hp⟩, ⟨most, hmost⟩, hclasspath, hplanned, hsink⟩ := hs.carries
  have hconfigured : s.IsConfigured (.of xs) ⟨s.handle, most, false, plan.wrapper.asTokens,
      plan.classpath, unmanaged, lastEntries puts⟩ :=
    ⟨⟨_, renewals, hp, rfl⟩, hmost, hclasspath, hplanned.trans hunmanaged, rfl⟩
  rcases hsubmit : s.submit w with ⟨r, w'⟩
  have hnext : (⟨.submit, s, w⟩ : Turn).nextWorld = w' := Turn.nextWorld_of_submit hsubmit
  obtain ⟨sent, htalks, hposted⟩ := Submission.submit_sends hover hconfigured
    (by rw [hsink]; exact hputs.tokens_eq) hsubmit
  have hsent : (⟨.submit, s, w⟩ : Turn).sent = sent :=
    Turn.sent_of_exchanges (by rw [hnext]; exact htalks.exchanges)
  rw [hsent] at he
  obtain ⟨host, keeps, hhost, hknown, hbody⟩ := hposted e he hto
  rw [hnext]
  obtain ⟨text, htext, hdata⟩ := bind_eq_ok hbody
  refine ⟨host, most, keeps, text, hhost, hmost, hknown, ?_, (Except.ok.inj hdata).symm⟩
  unfold encodeValue at htext
  split at htext
  · rename_i written hwritten
    cases htext
    exact hwritten
  · cases htext

/-- A submission with a token that wanted more memory than there is in the largest container. -/
theorem posted_context_capped : ∃ (s : Submission) (w : World) (e : Exchange) (keeps : Bool)
    (text : String),
    Submission.Configured RestNegotiator.sample SubmissionPlan.sample
      [.node anyHost, .memory 8192] s w ∧
    e ∈ (⟨.submit, s, w⟩ : Turn).sent ∧ e.IsTo RestNegotiator.sample.manager.address .apps ∧
    Json.write? ((Configuration.of [.node anyHost, .memory 8192]).form ⟨s.handle, 4096, keeps, [],
      .text defaultClasspath, false, [("rm", "new")]⟩) = some text ∧
    e.request.data = .bytes (Text.utf8 text) := by
  -- The token is put into the sink after the settings, which belongs to no call.
  let filled (w : World) : World := { w with tokenSinks := [⟨[(.text "rm", .text "new")]⟩] }
  let node (s : Submission) (w : World) : Turn := ⟨.change (Setting.node anyHost).change, s, w⟩
  let memory (t : Turn) : Turn := ⟨.change (Setting.memory 8192).change, t.next, t.nextWorld⟩
  let submit (t : Turn) : Turn := ⟨.submit, t.next, filled t.nextWorld⟩
  obtain ⟨s, w, hstart, hp⟩ := Submission.exists_started RestNegotiator.sample
    SubmissionPlan.sample (World.served (Server.answering sampleGrant))
    (fun s w => (node s w).result.isOk && (memory (node s w)).result.isOk &&
      (submit (memory (node s w))).result.isOk &&
      (memory (node s w)).next.ceiling.memory == .int 4096) (by decide +kernel)
  simp only [Bool.and_eq_true] at hp
  obtain ⟨⟨⟨hnode, hmemory⟩, hsubmit⟩, hmost⟩ := hp
  obtain ⟨hc, -⟩ := RestNegotiator.isConnected_of_connect
    (RestNegotiator.connect_sample (Server.answering sampleGrant))
  have hs₁ : Submission.Configured RestNegotiator.sample SubmissionPlan.sample [.node anyHost]
      (node s w).next (node s w).nextWorld :=
    .accepted (.start hc hstart) (Turn.result_of_isOk hnode ▸ (node s w).perform_eq)
  have hs₂ : Submission.Configured RestNegotiator.sample SubmissionPlan.sample
      [.node anyHost, .memory 8192] (memory (node s w)).next (memory (node s w)).nextWorld :=
    .accepted hs₁ (Turn.result_of_isOk hmemory ▸ (memory (node s w)).perform_eq)
  have hs₃ : Submission.Configured RestNegotiator.sample SubmissionPlan.sample
      [.node anyHost, .memory 8192] (memory (node s w)).next
        (filled (memory (node s w)).nextWorld) :=
    .elsewhere hs₂ rfl
  obtain ⟨e, he, hto⟩ := Turn.exists_posted (t := submit (memory (node s w)))
    hs₃.reachable.isOver rfl (Turn.result_of_isOk hsubmit)
  have hfilled : ((filled (memory (node s w)).nextWorld).tokenSink SubmissionPlan.sample.sink).IsFilledBy
      [("rm", "old"), ("rm", "new")] := rfl
  obtain ⟨host, most, keeps, text, -, hceiling, -, htext, hdata⟩ :=
    posted_context rfl hs₃ hfilled he hto
  have hlimit : most = 4096 := by
    rw [hceiling] at hmost
    change (some (compare most 4096) == some .eq) = true at hmost
    exact Int.compare_eq_eq.mp (Option.some.inj (eq_of_beq hmost))
  subst hlimit
  exact ⟨_, _, e, keeps, text, hs₃, he, hto, htext, hdata⟩

end ClusterSubmission
