import ClusterSubmission.Proofs.Calls
import ClusterSubmission.Proofs.Resolution
import ClusterSubmission.Proofs.SessionRuns

/-!
# How a credential is delivered

An attempt at submitting first hands over an order with the tokens of its sink. Then, for an
unmanaged driver, a credential is obtained: it is recorded, and its token put into the sink, as a
whole or not at all. Nothing else touches the store or the sink.
-/
namespace ClusterSubmission

open Message

section Tokens

/-- A credential that was obtained has a token and a service. -/
theorem RestNegotiator.token_of_obtains {n : RestNegotiator} {w : World} {sent : List Exchange}
    {handle : String} {c : Credential} (h : Obtains n handle w sent (.ok c)) :
    ∃ token, c.token = .text token := by
  generalize hr : (.ok c : Except Failure Credential) = r at h
  cases h with
  | token looks last e service r hw ha hto hends =>
    subst hr
    obtain ⟨a, -, hread⟩ := hends.ok
    obtain ⟨p, hp, hc⟩ := bind_eq_ok hread
    obtain ⟨v, -, hdecode⟩ := bind_eq_ok hp
    obtain ⟨d, hd⟩ := exists_read_of_decode hdecode
    obtain ⟨slots, rfl, ⟨hlength, hfilled⟩, hmissing⟩ := read_record hd
    obtain ⟨slot, rest, rfl⟩ := List.exists_cons_of_length_eq_add_one hlength
    cases slot with
    | none => cases hmissing
    | some q =>
      obtain ⟨way, d', hq⟩ := hfilled 0 _ q rfl rfl
      obtain ⟨token, rfl⟩ := read_text hq
      cases hc
      exact ⟨token, rfl⟩
  | untimed | looking | late | notAlive | unwritable => cases hr

end Tokens

/-- Exchanges by which nothing is handed over to a negotiator's manager but what has a property. -/
def RestNegotiator.HandsOnly (n : RestNegotiator) (P : Exchange → Prop) (sent : List Exchange) :
    Prop :=
  ∀ e ∈ sent, e.IsTo n.manager.address .apps → P e

section Handing

variable {n : RestNegotiator} {P : Exchange → Prop} {sent more : List Exchange}

theorem RestNegotiator.HandsOnly.nil : n.HandsOnly P [] := by
  intro e he
  cases he

theorem RestNegotiator.HandsOnly.of_none (h : ∀ e ∈ sent, ¬ e.IsTo n.manager.address .apps) :
    n.HandsOnly P sent :=
  fun e he hto => absurd hto (h e he)

theorem RestNegotiator.HandsOnly.append (h : n.HandsOnly P sent) (hmore : n.HandsOnly P more) :
    n.HandsOnly P (sent ++ more) := by
  intro e he hto
  rcases List.mem_append.mp he with he | he
  · exact h e he hto
  · exact hmore e he hto

end Handing

theorem Run.of_debug_ok {m : String} {w w' : World} {u : Unit}
    (h : Run.debug m w = (.ok u, w')) : w = w' := by
  rcases Run.debug_cases m w with hd | ⟨f, hd, -⟩ <;> rw [hd] at h <;> cases h
  rfl

/-- An operation that leaves the tokens and the loggers alone. -/
def Run.KeepsTokens {α : Type} (x : Run α) : Prop :=
  ∀ w, ClusterSubmission.KeepsTokens w (x w).2

section Keeping

variable {α β : Type} {x : Run α} {f : α → Run β} {id : Nat} {w w' : World} {sent : List Exchange}

theorem Run.StaysIn.keepsTokens (h : x.StaysIn id) : x.KeepsTokens := fun w => (h w).toKeepsTokens

theorem Run.KeepsTokens.bind (hx : x.KeepsTokens) (hf : ∀ a, (f a).KeepsTokens) :
    (x >>= f).KeepsTokens := by
  intro w
  have hfirst := hx w
  rcases hw : x w with ⟨e | a, v⟩ <;> rw [hw] at hfirst
  · rw [Run.bind_of_error hw]
    exact hfirst
  · rw [Run.bind_of_ok hw]
    exact hfirst.trans (hf a v)

theorem Run.KeepsTokens.onFailure {finish : Run Unit} (hx : x.KeepsTokens)
    (he : finish.KeepsTokens) : (x.onFailure finish).KeepsTokens := by
  intro w
  have hbody := hx w
  unfold Run.onFailure
  rcases hw : x w with ⟨f | a, v⟩ <;> rw [hw] at hbody
  · have hend := he v
    dsimp only
    rcases hv : finish v with ⟨g | _, v₁⟩ <;> rw [hv] at hend
    · exact hbody.trans hend
    · exact hbody.trans hend
  · exact hbody

theorem Talks.keepsTokens (h : Talks id w sent w') (hstores : w'.tokenStores = w.tokenStores)
    (hsinks : w'.tokenSinks = w.tokenSinks) : KeepsTokens w w' :=
  ⟨hstores, hsinks, h.loggers, h.count.ge⟩

theorem Asks.keepsTokens (h : Asks id w sent w') : KeepsTokens w w' :=
  h.toTalks.keepsTokens h.tokenStores h.tokenSinks

theorem RestNegotiator.close_keepsTokens (n : RestNegotiator) : n.close.KeepsTokens := by
  intro w
  have hcall := n.perform_spares .close w
  rcases hclose : n.close w with ⟨r, w'⟩
  rw [perform_close_eq hclose] at hcall
  exact hcall.toKeepsTokens

end Keeping

namespace Submission

variable {n : RestNegotiator} {s s' : Submission} {w w' : World}

/-- A submission over a negotiator, whose session may be closed. -/
structure IsOf (n : RestNegotiator) (s : Submission) (w : World) : Prop where
  negotiator : s.negotiator = n.operations
  connected : n.IsConnected w
  named : ApplicationId.isValid s.handle = true

theorem IsOf.isOver (h : s.IsOf n w) (ho : n.isOpen w = true) : s.IsOver n w :=
  ⟨h.negotiator, h.connected, h.named, fun _ => ho⟩

theorem IsOver.isOf (h : s.IsOver n w) : s.IsOf n w := ⟨h.negotiator, h.connected, h.named⟩

theorem IsOf.of_count (h : s.IsOf n w) (hcount : w.sessions.length ≤ w'.sessions.length) :
    s.IsOf n w' :=
  ⟨h.negotiator, ⟨h.connected.address, h.connected.known.trans_le hcount⟩, h.named⟩

theorem IsOf.of_talks {sent : List Exchange} (h : s.IsOf n w)
    (ht : Talks n.manager.session w sent w') : s.IsOf n w' := h.of_count ht.count.ge

theorem start_keepsTokens (n : RestNegotiator) (plan : SubmissionPlan) :
    (start n.operations plan).KeepsTokens := by
  have hlog : ∀ level m, (Run.log level m).KeepsTokens := fun level m =>
    (Run.StaysIn.log level m : (Run.log level m).StaysIn 0).keepsTokens
  exact .bind (hlog _ _) fun _ => .bind (.onFailure n.createApplication_staysIn.keepsTokens
    n.close_keepsTokens) fun _ => .bind (Run.StaysIn.ofExcept _ : Run.StaysIn 0 _).keepsTokens
    fun _ => .bind (hlog _ _) fun _ => (Run.StaysIn.pure _ : Run.StaysIn 0 _).keepsTokens

theorem tokens_of_start {plan : SubmissionPlan} (h : start n.operations plan w = (.ok s, w')) :
    s.manager = plan.manager ∧ s.sink = plan.sink := by
  unfold start at h
  obtain ⟨_, _, -, h⟩ := Run.of_bind_ok h
  obtain ⟨⟨id, ceiling⟩, _, -, h⟩ := Run.of_bind_ok h
  obtain ⟨_, _, -, h⟩ := Run.of_bind_ok h
  obtain ⟨_, _, -, h⟩ := Run.of_bind_ok h
  cases h
  exact ⟨rfl, rfl⟩

theorem close_keepsTokens (hs : s.negotiator = n.operations) (w : World) :
    KeepsTokens w (s.close w).2 := by
  unfold close
  by_cases hclosed : s.state = .closed
  · rw [if_pos hclosed]
    exact .refl w
  rw [if_neg hclosed, hs]
  have hd : KeepsTokens w (Run.debug ("Closing YARN application: " ++ s.handle) w).2 :=
    (Run.StaysIn.debug _ : Run.StaysIn 0 _).keepsTokens w
  rcases hw : Run.debug ("Closing YARN application: " ++ s.handle) w with ⟨f | _, v⟩ <;>
    rw [hw] at hd
  · exact hd
  · exact hd.trans (n.close_keepsTokens v)

/-- Calls besides submitting leave the tokens alone, and keep what the submission is of. -/
theorem perform_keepsTokens {c : Call} {r : Except Failure Unit} (hs : s.IsOf n w)
    (hc : c ≠ .submit) (h : s.perform c w = ((r, s'), w')) :
    KeepsTokens w w' ∧ s'.negotiator = s.negotiator ∧ s'.handle = s.handle ∧
      s'.manager = s.manager ∧ s'.sink = s.sink := by
  cases c with
  | submit => exact absurd rfl hc
  | change c =>
    rcases hchange : s.change c with f | s₁
    · simp only [perform, hchange] at h
      cases h
      exact ⟨.refl w, rfl, rfl, rfl, rfl⟩
    · obtain ⟨p, rfl⟩ := change_ok hchange
      simp only [perform, hchange] at h
      cases h
      exact ⟨.refl w, rfl, rfl, rfl, rfl⟩
  | close =>
    have hkeeps := close_keepsTokens hs.negotiator w
    change s.close w = _ at h
    rw [h] at hkeeps
    refine ⟨hkeeps, ?_⟩
    unfold close at h
    split at h
    · cases h
      exact ⟨rfl, rfl, rfl, rfl⟩
    · split at h <;> cases h <;> exact ⟨rfl, rfl, rfl, rfl⟩

section Attempt

variable {o : SubmissionOrder}

theorem attemptPolicy_isChoice_of (hs : s.IsOf n w) {r : Except Failure AttemptPolicy}
    (h : s.attemptPolicy w = (r, w')) : ∃ info, IsChoice n s w info r w' := by
  rcases ho : n.isOpen w with _ | _
  · -- Over a closed session the version cannot be asked for, and nothing else is.
    have hkeep : ∃ r₁, s.keepsContainers w = (r₁, w) ∧ ∀ f, r₁ = .error f → f.IsBare := by
      unfold keepsContainers
      split
      · exact ⟨_, rfl, by simp⟩
      · have hrefused : s.negotiator.clusterVersion w =
            (.error Reason.sessionClosed.failure, w) := by
          rw [hs.negotiator]
          exact Run.bind_of_error (RestNegotiator.checkOpen_of_closed ho)
        exact ⟨_, Run.bind_of_error hrefused, fun f hf => by cases hf; rfl⟩
    obtain ⟨r₁, hr₁, hbare⟩ := hkeep
    have hchoice : IsChoice n s w none r₁ w := .none (Asks.refl _ w) hbare
    unfold attemptPolicy at h
    refine ⟨none, hchoice.bind hr₁ (fun v => ?_) h⟩
    dsimp only
    split
    · exact .bind (.warn _ _) fun _ => .pure _
    · exact .pure _
  · exact attemptPolicy_isChoice (hs.isOver ho) ho h

/-- Choosing the attempt policy hands nothing over. -/
theorem attemptPolicy_sends (hs : s.IsOf n w) {r : Except Failure AttemptPolicy}
    (h : s.attemptPolicy w = (r, w')) : ∃ sent, Talks n.manager.session w sent w' ∧
      KeepsTokens w w' ∧ ∀ e ∈ sent, ¬ e.IsTo n.manager.address .apps := by
  obtain ⟨info, hchoice⟩ := attemptPolicy_isChoice_of hs h
  refine ⟨_, hchoice.talks, hchoice.talks.keepsTokens hchoice.tokenStores hchoice.tokenSinks,
    fun e he hto => ?_⟩
  cases hto.eq_apps (hchoice.info_to e (Option.mem_toList.mp he))

/-- Handing over sends what the order is, and only over an open session. -/
theorem handOver_posts (hs : s.IsOf n w) {r : Except Failure Unit}
    (h : s.handOver o w = (r, w')) : ∃ sent, Talks n.manager.session w sent w' ∧
      KeepsTokens w w' ∧ (∀ e ∈ sent, e.IsTo n.manager.address .apps →
        o.body = .ok e.request.data) ∧ (r = .ok () → n.isOpen w = true) := by
  rcases ho : n.isOpen w with _ | _
  · have hsilent : Run.IsSilent n.manager.session (do
        Run.info ("Submitting application '" ++ s.handle ++ "' to YARN")
        Run.info ("Driver command: " ++ (← Run.ofExcept (Message.lineOf o.spec)))) :=
      .bind (.log _ _) fun _ => .bind (.ofExcept _) fun _ => .log _ _
    have hsteps : s.handOver o = ((do
        Run.info ("Submitting application '" ++ s.handle ++ "' to YARN")
        Run.info ("Driver command: " ++ (← Run.ofExcept (Message.lineOf o.spec)))) >>=
          fun _ => n.submit o) := by
      unfold handOver
      rw [hs.negotiator]
      simp only [bind_assoc]
      rfl
    rw [hsteps] at h
    rcases Run.bind_cases h with ⟨f, hf, rfl⟩ | ⟨_, w₁, hlines, h⟩
    · obtain ⟨hasks, -⟩ := hsilent _ _ _ hf
      exact ⟨[], hasks.toTalks, hasks.keepsTokens, by simp, by simp⟩
    · obtain ⟨hasks, -⟩ := hsilent _ _ _ hlines
      have hclosed : n.isOpen w₁ = false := hasks.isOpen.trans ho
      have hrefused : n.submit o w₁ = (.error Reason.sessionClosed.failure, w₁) :=
        Run.bind_of_error (RestNegotiator.checkOpen_of_closed hclosed)
      rw [hrefused] at h
      cases h
      exact ⟨[], hasks.toTalks, hasks.keepsTokens, by simp, by simp⟩
  · rcases handOver_cases (hs.isOver ho) ho h with
      ⟨f, rfl, -, hasks⟩ | ⟨e, data, hdata, -, rfl, hasks, -⟩
    · exact ⟨[], hasks.toTalks, hasks.keepsTokens, by simp, fun _ => rfl⟩
    · exact ⟨[e], hasks.toTalks, hasks.keepsTokens, by simpa using fun _ => hdata, fun _ => rfl⟩

/-- A launch specification has the tokens that are in the sink. -/
theorem launchSpec_tokens {request : ResourceRequest} {spec : LaunchSpec}
    (h : s.launchSpec request w = (.ok spec, w')) :
    spec.tokens = .mapping (w.tokenSink s.sink).tokens := by
  unfold launchSpec at h
  obtain ⟨tokens, w₂, htokens, h⟩ := Run.of_bind_ok h
  obtain ⟨-, rfl⟩ := Run.of_ofExcept_ok htokens
  obtain ⟨resources, w₃, hresources, h⟩ := Run.of_bind_ok h
  obtain ⟨-, rfl⟩ := Run.of_ofExcept_ok hresources
  obtain ⟨environment, w₄, henvironment, h⟩ := Run.of_bind_ok h
  obtain ⟨-, rfl⟩ := Run.of_ofExcept_ok henvironment
  cases h
  rfl

/-- How an attempt ends behind what was handed over: with a failure, or with a report, which has the
credential of an unmanaged driver. It is delivered over an open session. -/
inductive Delivers (n : RestNegotiator) (s : Submission) (w : World) :
    Except Failure (SubmissionReport × Submission) → World → Prop
  | failed (f : Failure) : Delivers n s w (.error f) w
  | managed (report : SubmissionReport) (hu : s.unmanaged.isSet = false)
      (hc : report.credential = none) :
      Delivers n s w (.ok (report, { s with state := .submitted })) w
  | undelivered (f g : Failure) (w' : World) (ho : n.isOpen w = true)
      (h : s.deliverCredential w = (.error f, w')) : Delivers n s w (.error g) w'
  | delivered (c : Credential) (report : SubmissionReport) (w' : World) (ho : n.isOpen w = true)
      (hu : s.unmanaged.isSet = true) (h : s.deliverCredential w = (.ok c, w'))
      (hc : report.credential = some c) :
      Delivers n s w (.ok (report, { s with state := .submitted })) w'

/-- An exchange that posts an order with given tokens. -/
def Orders (tokens : Value) (e : Exchange) : Prop :=
  ∃ o : SubmissionOrder, o.spec.tokens = tokens ∧ o.body = .ok e.request.data

/-- An attempt at submitting hands over nothing but an order with the tokens of the sink. The tokens
are not touched before the credential is delivered. -/
theorem submit_delivers (hs : s.IsOf n w) {r : Except Failure (SubmissionReport × Submission)}
    (h : s.submit w = (r, w')) : ∃ sent w₁, Talks n.manager.session w sent w₁ ∧
      KeepsTokens w w₁ ∧ n.HandsOnly (Orders (.mapping (w.tokenSink s.sink).tokens)) sent ∧
      Delivers n s w₁ r w' := by
  -- Up to the attempt policy nobody is talked to.
  unfold submit at h
  rcases inStep_bind_cases hs.named h with ⟨f, hf, rfl⟩ | ⟨_, w₁, hvalid, h⟩
  · have hasks : Asks n.manager.session w [] w' := (Run.IsSilent.ofExcept _ _ _ _ hf).1
    exact ⟨[], _, hasks.toTalks, hasks.keepsTokens, .nil, .failed _⟩
  obtain ⟨-, rfl⟩ := Run.of_ofExcept_ok hvalid
  rcases inStep_bind_cases hs.named h with ⟨f, hf, rfl⟩ | ⟨request, w₂, hrequest, h⟩
  · have hasks : Asks n.manager.session w [] w' := (resourceRequest_isSilent _ _ _ hf).1
    exact ⟨[], _, hasks.toTalks, hasks.keepsTokens, .nil, .failed _⟩
  have hasks₂ : Asks n.manager.session w [] w₂ := (resourceRequest_isSilent _ _ _ hrequest).1
  rcases inStep_bind_cases hs.named h with ⟨f, hf, rfl⟩ | ⟨spec, w₃, hlaunch, h⟩
  · have hasks := hasks₂.trans (launchSpec_isSilent _ _ _ _ hf).1
    exact ⟨[], _, hasks.toTalks, hasks.keepsTokens, .nil, .failed _⟩
  have hasks₃ := hasks₂.trans (launchSpec_isSilent _ _ _ _ hlaunch).1
  have htokens : spec.tokens = .mapping (w.tokenSink s.sink).tokens := by
    rw [launchSpec_tokens hlaunch]
    unfold World.tokenSink
    rw [hasks₂.tokenSinks]
  rcases inStep_bind_cases hs.named h with ⟨f, hf, rfl⟩ | ⟨policy, w₄, hpolicy, h⟩
  · obtain ⟨sent, htalks, hkeeps, hnone⟩ :=
      attemptPolicy_sends (hs.of_talks hasks₃.toTalks) hf
    exact ⟨_, _, hasks₃.toTalks.trans htalks, hasks₃.keepsTokens.trans hkeeps, .of_none hnone,
      .failed _⟩
  obtain ⟨sent, htalks, hkeeps, hnone⟩ :=
    attemptPolicy_sends (hs.of_talks hasks₃.toTalks) hpolicy
  have htalks₄ := hasks₃.toTalks.trans htalks
  have hkeeps₄ := hasks₃.keepsTokens.trans hkeeps
  have hs₄ := hs.of_talks htalks₄
  simp only [pure_bind] at h
  -- From here on the order is handed over, at most once.
  rcases inStep_bind_cases hs.named h with ⟨f, hf, rfl⟩ | ⟨_, w₅, hpost, h⟩
  · obtain ⟨more, hmore, hkeeps₅, hbody, -⟩ := handOver_posts hs₄ hf
    exact ⟨_, _, htalks₄.trans hmore, hkeeps₄.trans hkeeps₅,
      (RestNegotiator.HandsOnly.of_none hnone).append fun e he hto => ⟨_, htokens, hbody e he hto⟩,
      .failed _⟩
  obtain ⟨more, hmore, hkeeps₅, hbody, hopen⟩ := handOver_posts hs₄ hpost
  have ho : n.isOpen w₅ = true := hmore.isOpen.trans (hopen rfl)
  refine ⟨_, w₅, htalks₄.trans hmore, hkeeps₄.trans hkeeps₅,
    (RestNegotiator.HandsOnly.of_none hnone).append fun e he hto =>
      ⟨_, htokens, hbody e he hto⟩, ?_⟩
  by_cases hu : s.unmanaged.isSet = true
  · rw [if_pos hu] at h
    rcases inStep_bind_cases hs.named h with ⟨f, hf, rfl⟩ | ⟨c, w₆, hc, h⟩
    · exact .undelivered f _ _ ho hf
    · cases h
      exact .delivered c _ _ ho hu hc rfl
  · rw [if_neg hu] at h
    cases h
    exact .managed _ (by simpa using hu) rfl

end Attempt

/-- What delivering a credential does: the credential is added to those of the user, and its token
put into the sink under the service, or under a running number if there is none. -/
structure Hands (s : Submission) (w : World) (c : Credential) (w' : World) : Prop where
  texts : ∃ token service, c.token = .text token ∧ c.service = .text service
  tokenStores : ∃ store, (w.tokenStore s.manager.store).add s.manager.user c = .ok store ∧
    w'.tokenStores = w.tokenStores.set s.manager.store store
  tokenSinks : w'.tokenSinks = w.tokenSinks.set s.sink ⟨Value.insert (w.tokenSink s.sink).tokens
    ((w.tokenSink s.sink).aliasFor c.service) c.token⟩

theorem recordCredential_ok {store : Nat} {user : Value} {c : Credential}
    (h : recordCredential store user c w = (.ok (), w')) :
    ∃ kept, (w.tokenStore store).add user c = .ok kept ∧
      w' = { w with tokenStores := w.tokenStores.set store kept } := by
  unfold recordCredential at h
  rw [Run.get_bind] at h
  rcases hadd : (w.tokenStore store).add user c with x | kept <;> rw [hadd] at h <;> cases h
  exact ⟨kept, rfl, rfl⟩

theorem addCredential_ok {sink : Nat} {c : Credential} (h : addCredential sink c w = (.ok (), w')) :
    w' = { w with tokenSinks := w.tokenSinks.set sink ⟨Value.insert (w.tokenSink sink).tokens
      ((w.tokenSink sink).aliasFor c.service) c.token⟩ } := by
  unfold addCredential at h
  rw [Run.get_bind] at h
  obtain ⟨_, w₁, hline, h⟩ := Run.of_bind_ok h
  obtain rfl := Run.of_debug_ok hline
  unfold putToken at h
  rw [Run.get_bind] at h
  obtain ⟨kept, w₂, hput, h⟩ := Run.of_bind_ok h
  obtain ⟨hput, rfl⟩ := Run.of_ofExcept_ok hput
  cases h
  unfold CredentialSink.put at hput
  split at hput
  · cases hput
    rfl
  · cases hput

/-- A credential is delivered as a whole or not at all, where no record fails. Its delivery hands no
application over. -/
theorem deliverCredential_hands (hs : s.IsOver n w) (ho : n.isOpen w = true)
    (hquiet : w.isTalkative = false) {r : Except Failure Credential}
    (h : s.deliverCredential w = (r, w')) : ∃ sent, Talks n.manager.session w sent w' ∧
      (∀ e ∈ sent, ¬ e.IsTo n.manager.address .apps) ∧
      ((∃ f, r = .error f ∧ KeepsTokens w w') ∨ ∃ c, r = .ok c ∧ s.Hands w c w') := by
  obtain ⟨looks, token, hd⟩ := deliverCredential_spec hs ho h
  refine ⟨_, hd.talks, fun e he hto => ?_, ?_⟩
  · rcases List.mem_append.mp he with he | he
    · cases hto.eq_apps (hd.looks_to e he)
    · cases hto.eq_apps (hd.token_to e (Option.mem_toList.mp he))
  cases r with
  | error f =>
    obtain ⟨hstores, hsinks⟩ := hd.tokens f rfl hquiet
    exact Or.inl ⟨f, rfl, hd.talks.keepsTokens hstores hsinks⟩
  | ok c =>
    refine Or.inr ⟨c, rfl, ?_⟩
    unfold deliverCredential TokenManager.issue at h
    rw [hs.negotiator] at h
    obtain ⟨c₁, w₁, hissue, h⟩ := Run.of_bind_ok h
    obtain ⟨c₂, w₂, hobtain, hissue⟩ := Run.of_bind_ok hissue
    obtain ⟨_, w₃, hrecord, hissue⟩ := Run.of_bind_ok hissue
    obtain ⟨handle, w₄, hhandle, hissue⟩ := Run.of_bind_ok hissue
    obtain ⟨-, rfl⟩ := Run.of_ofExcept_ok hhandle
    obtain ⟨_, w₅, hline, hissue⟩ := Run.of_bind_ok hissue
    obtain ⟨_, w₆, hadd, h⟩ := Run.of_bind_ok h
    cases hissue
    cases h
    obtain ⟨sent, hasks, hobtains⟩ :=
      RestNegotiator.obtainCredential_spec hs.connected ho hs.named hobtain
    obtain ⟨token, htoken⟩ := RestNegotiator.token_of_obtains hobtains
    obtain ⟨service, hservice⟩ := service_of_obtains hobtains
    obtain ⟨kept, hkept, rfl⟩ := recordCredential_ok hrecord
    obtain rfl := Run.of_debug_ok hline
    obtain rfl := addCredential_ok hadd
    refine ⟨⟨token, service, htoken, hservice⟩, ⟨kept, ?_, ?_⟩, ?_⟩
    · unfold World.tokenStore at hkept ⊢
      rwa [hasks.tokenStores] at hkept
    · change w₂.tokenStores.set _ _ = _
      rw [hasks.tokenStores]
    · change w₂.tokenSinks.set _ ⟨Value.insert (w₂.tokenSinks[s.sink]?.getD {}).tokens
        (CredentialSink.aliasFor (w₂.tokenSinks[s.sink]?.getD {}) c.service) c.token⟩ = _
      rw [hasks.tokenSinks]
      rfl

end Submission

end ClusterSubmission
