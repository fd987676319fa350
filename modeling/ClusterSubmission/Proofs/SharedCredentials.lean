import ClusterSubmission.Proofs.CredentialDelivery
import ClusterSubmission.Proofs.PostedTokens

/-!
# Submissions that share a store and a sink

However the calls of such submissions follow one another, the store has what their reports say, in
order, and each attempt at submitting hands over what the sink held before it. Each call keeps a
ledger of this, from which the sharing is seen to be right.
-/
namespace ClusterSubmission

open Message

section Stores

variable {store store' : TokenStore} {user : String} {c : Credential} {known : List Credential}

/-- A credential that is added to a store comes last among those of its user. -/
theorem TokenStore.get_add (h : store.add (.text user) c = .ok store')
    (hknown : store.get (.text user) = .ok known) :
    store'.get (.text user) = .ok (known ++ [c]) := by
  have hget : ∀ s : TokenStore, s.get (.text user) =
      .ok (((s.recorded.find? fun e => e.1 == .text user).map (·.2)).getD []) := fun _ => rfl
  have hadd : store.add (.text user) c = .ok (if store.users.any (· == .text user) then
      ⟨store.recorded.map fun e => if e.1 == .text user then (e.1, e.2 ++ [c]) else e⟩
      else ⟨store.recorded ++ [(.text user, [c])]⟩) := by
    unfold TokenStore.add
    rcases hany : store.users.any (· == .text user) with _ | _ <;>
      simp [TokenStore.contains, TokenStore.checkUser, Value.isKey, hany, bind, Except.bind, pure,
        Except.pure]
  rw [hget] at hknown ⊢
  rw [hadd] at h
  cases h
  cases hknown
  rcases hany : store.users.any (· == .text user) with _ | _
  · have hnone : store.recorded.find? (fun e => e.1 == .text user) = none := by
      rw [TokenStore.users, List.any_map, List.any_eq_false] at hany
      exact List.find?_eq_none.mpr fun e he => by simpa using hany e he
    simp [hnone, Value.text_beq_self]
  · obtain ⟨e, he⟩ : ∃ e, store.recorded.find? (fun e => e.1 == .text user) = some e := by
      rw [TokenStore.users, List.any_map] at hany
      exact Option.isSome_iff_exists.mp ((List.find?_isSome).mpr (by simpa using hany))
    have hsame : (fun e : Value × List Credential => e.1 == .text user) ∘
        (fun e => if e.1 == .text user then (e.1, e.2 ++ [c]) else e) =
        fun e => e.1 == .text user := by
      funext e
      by_cases h : (e.1 == .text user) = true <;> simp [h]
    have hfound : (e.1 == .text user) = true := by simpa using List.find?_some he
    rw [if_pos rfl, List.find?_map, hsame, he, Option.map_some, Option.map_some, Option.map_some,
      if_pos hfound]
    rfl

end Stores

/-- A sink whose aliases and tokens are texts. -/
def CredentialSink.HoldsTexts (sink : CredentialSink) : Prop :=
  ∃ es : List (String × String), sink.tokens = rawEntries .text es

/-- Where submissions that share a store and a sink can get, with the credentials that the reports
had, in order. They begin with nothing recorded for the user of the store. Between the calls,
sessions may be opened and closed, and texts put into the sink. -/
inductive Sharing (store sink : Nat) (user : String) :
    List (RestNegotiator × Submission) → List Credential → World → Prop
  | nothing {w : World} (hstore : store < w.tokenStores.length) (hsink : sink < w.tokenSinks.length)
      (hnone : (w.tokenStore store).get (.text user) = .ok [])
      (htexts : (w.tokenSink sink).HoldsTexts) (hlevel : w.levelFor libraryName = warningLevel) :
      Sharing store sink user [] [] w
  | start {all : List (RestNegotiator × Submission)} {given : List Credential} {n : RestNegotiator}
      {plan : SubmissionPlan} {s : Submission} {w w' : World}
      (hall : Sharing store sink user all given w) (hc : n.IsConnected w)
      (hmanager : plan.manager = ⟨store, .text user⟩) (hsink : plan.sink = sink)
      (h : Submission.start n.operations plan w = (.ok s, w')) :
      Sharing store sink user (all ++ [(n, s)]) given w'
  | unstarted {all : List (RestNegotiator × Submission)} {given : List Credential}
      {n : RestNegotiator} {plan : SubmissionPlan} {f : Failure} {w w' : World}
      (hall : Sharing store sink user all given w)
      (h : Submission.start n.operations plan w = (.error f, w')) :
      Sharing store sink user all given w'
  | call {before after : List (RestNegotiator × Submission)} {given : List Credential}
      {n : RestNegotiator} {c : Call} {r : Except Failure Unit} {s s' : Submission} {w w' : World}
      (hall : Sharing store sink user (before ++ (n, s) :: after) given w) (hc : c ≠ .submit)
      (h : s.perform c w = ((r, s'), w')) :
      Sharing store sink user (before ++ (n, s') :: after) given w'
  | submitted {before after : List (RestNegotiator × Submission)} {given : List Credential}
      {n : RestNegotiator} {report : SubmissionReport} {s s' : Submission} {w w' : World}
      (hall : Sharing store sink user (before ++ (n, s) :: after) given w)
      (h : s.submit w = (.ok (report, s'), w')) :
      Sharing store sink user (before ++ (n, s') :: after) (given ++ report.credential.toList) w'
  | unsubmitted {before after : List (RestNegotiator × Submission)} {given : List Credential}
      {n : RestNegotiator} {f : Failure} {s : Submission} {w w' : World}
      (hall : Sharing store sink user (before ++ (n, s) :: after) given w)
      (h : s.submit w = (.error f, w')) :
      Sharing store sink user (before ++ (n, s) :: after) given w'
  | elsewhere {all : List (RestNegotiator × Submission)} {given : List Credential} {w w' : World}
      (hall : Sharing store sink user all given w)
      (hsessions : w.sessions.length ≤ w'.sessions.length) (hloggers : w'.loggers = w.loggers)
      (hstores : w'.tokenStores = w.tokenStores) (hsink : sink < w'.tokenSinks.length)
      (htexts : (w'.tokenSink sink).HoldsTexts) : Sharing store sink user all given w'

/-- How an attempt at submitting leaves the store and the sink: as they were, if it fails or the
driver is managed; else with one more credential of the user, and its token in the sink. -/
inductive Submission.Settles (store sink : Nat) (user : String) (given : List Credential)
    (s : Submission) (w : World) : Except Failure (SubmissionReport × Submission) → World → Prop
  | failed (f : Failure) (w' : World) (hstores : w'.tokenStores = w.tokenStores)
      (hsinks : w'.tokenSinks = w.tokenSinks) : Settles store sink user given s w (.error f) w'
  | managed (report : SubmissionReport) (w' : World) (hu : s.unmanaged.isSet = false)
      (hc : report.credential = none) (hstores : w'.tokenStores = w.tokenStores)
      (hsinks : w'.tokenSinks = w.tokenSinks) :
      Settles store sink user given s w (.ok (report, { s with state := .submitted })) w'
  | unmanaged (report : SubmissionReport) (w' : World) (c : Credential) (service : String)
      (hu : s.unmanaged.isSet = true) (hc : report.credential = some c)
      (hrecorded : (w'.tokenStore store).get (.text user) = .ok (given ++ [c]))
      (hservice : c.service = .text service)
      (hput : (w'.tokenSink sink).tokens = Value.insert (w.tokenSink sink).tokens
        ((w.tokenSink sink).aliasFor c.service) c.token)
      (hfound : service ≠ "" →
        Value.lookup? (w'.tokenSink sink).tokens (.text service) = some c.token) :
      Settles store sink user given s w (.ok (report, { s with state := .submitted })) w'

/-- What holds of submissions that share a store and a sink. -/
structure Ledger (store sink : Nat) (user : String) (all : List (RestNegotiator × Submission))
    (given : List Credential) (w : World) : Prop where
  recorded : (w.tokenStore store).get (.text user) = .ok given
  store_known : store < w.tokenStores.length
  sink_known : sink < w.tokenSinks.length
  texts : (w.tokenSink sink).HoldsTexts
  quiet : w.isTalkative = false
  members : ∀ p ∈ all, p.2.IsOf p.1 w ∧ p.2.manager = ⟨store, .text user⟩ ∧ p.2.sink = sink

section Ledgers

variable {store sink : Nat} {user : String} {all before after : List (RestNegotiator × Submission)}
  {given : List Credential} {n : RestNegotiator} {s s' : Submission} {w w' : World}

theorem KeepsTokens.tokenStore (h : KeepsTokens w w') (id : Nat) :
    w'.tokenStore id = w.tokenStore id := by
  unfold World.tokenStore
  rw [h.tokenStores]

theorem KeepsTokens.tokenSink (h : KeepsTokens w w') (id : Nat) :
    w'.tokenSink id = w.tokenSink id := by
  unfold World.tokenSink
  rw [h.tokenSinks]

theorem KeepsTokens.isTalkative (h : KeepsTokens w w') : w'.isTalkative = w.isTalkative :=
  World.isLogged_congr h.loggers _ _

theorem Ledger.kept (h : Ledger store sink user all given w) (hkeeps : KeepsTokens w w') :
    Ledger store sink user all given w' where
  recorded := by
    rw [hkeeps.tokenStore]
    exact h.recorded
  store_known := by
    rw [hkeeps.tokenStores]
    exact h.store_known
  sink_known := by
    rw [hkeeps.tokenSinks]
    exact h.sink_known
  texts := by
    rw [hkeeps.tokenSink]
    exact h.texts
  quiet := hkeeps.isTalkative.trans h.quiet
  members p hp := by
    obtain ⟨hof, hsame⟩ := h.members p hp
    exact ⟨hof.of_count hkeeps.count, hsame⟩

/-- A submission can take the place of another one of the same negotiator. -/
theorem Ledger.replace (h : Ledger store sink user (before ++ (n, s) :: after) given w)
    (hnegotiator : s'.negotiator = s.negotiator) (hhandle : s'.handle = s.handle)
    (hmanager : s'.manager = s.manager) (hsink : s'.sink = s.sink) :
    Ledger store sink user (before ++ (n, s') :: after) given w := by
  obtain ⟨⟨hof, hconnected, hnamed⟩, hm, hk⟩ := h.members (n, s) (by simp)
  refine ⟨h.recorded, h.store_known, h.sink_known, h.texts, h.quiet, fun p hp => ?_⟩
  rcases List.mem_append.mp hp with hp | hp
  · exact h.members p (List.mem_append_left _ hp)
  rcases List.mem_cons.mp hp with rfl | hp
  · exact ⟨⟨hnegotiator.trans hof, hconnected, by rw [hhandle]; exact hnamed⟩,
      hmanager.trans hm, hsink.trans hk⟩
  · exact h.members p (List.mem_append_right _ (List.mem_cons_of_mem _ hp))

/-- A credential that is handed over is recorded once, and its token put into the sink. -/
theorem Ledger.hands {c : Credential} {id : Nat} {sent : List Exchange}
    (h : Ledger store sink user all given w) (hm : s.manager = ⟨store, .text user⟩)
    (hk : s.sink = sink) (htalks : Talks id w sent w') (hhands : s.Hands w c w') :
    Ledger store sink user all (given ++ [c]) w' ∧
      (w'.tokenSink sink).tokens = Value.insert (w.tokenSink sink).tokens
        ((w.tokenSink sink).aliasFor c.service) c.token := by
  obtain ⟨token, service, htoken, hservice⟩ := hhands.texts
  obtain ⟨kept, hkept, hstores⟩ := hhands.tokenStores
  have hsinks := hhands.tokenSinks
  rw [hm] at hkept hstores
  rw [hk] at hsinks
  have hnew : w'.tokenStore store = kept := by
    unfold World.tokenStore
    rw [hstores, List.getElem?_set_self h.store_known]
    rfl
  have hput : (w'.tokenSink sink).tokens = Value.insert (w.tokenSink sink).tokens
      ((w.tokenSink sink).aliasFor c.service) c.token := by
    rw [World.tokenSink, hsinks, List.getElem?_set_self h.sink_known]
    rfl
  obtain ⟨name, hname⟩ : ∃ name, (w.tokenSink sink).aliasFor c.service = .text name := by
    unfold CredentialSink.aliasFor Value.orElse
    rw [hservice]
    split <;> exact ⟨_, rfl⟩
  obtain ⟨es, hes⟩ := h.texts
  refine ⟨⟨?_, ?_, ?_, ⟨putEntry es name token, ?_⟩, htalks.isTalkative.trans h.quiet, ?_⟩, hput⟩
  · rw [hnew]
    exact TokenStore.get_add hkept h.recorded
  · rw [hstores, List.length_set]
    exact h.store_known
  · rw [hsinks, List.length_set]
    exact h.sink_known
  · rw [hput, hes, hname, htoken, insert_rawEntries]
  · intro p hp
    obtain ⟨hof, hsame⟩ := h.members p hp
    exact ⟨hof.of_count htalks.count.ge, hsame⟩

/-- The credential that an attempt at submitting reports, if there is one. -/
def reportedCredentials (r : Except Failure (SubmissionReport × Submission)) : List Credential :=
  match r with
  | .ok (report, _) => report.credential.toList
  | .error _ => []

theorem reportedCredentials_none {report : SubmissionReport} (h : report.credential = none) :
    reportedCredentials (.ok (report, s)) = [] := by
  rw [reportedCredentials, h]
  rfl

theorem reportedCredentials_some {report : SubmissionReport} {c : Credential}
    (h : report.credential = some c) : reportedCredentials (.ok (report, s)) = [c] := by
  rw [reportedCredentials, h]
  rfl

/-- The orders that are handed over have the tokens that are in the sink. -/
theorem Ledger.posts {sent : List Exchange} (h : Ledger store sink user all given w)
    (hk : s.sink = sink)
    (horders : n.HandsOnly (Submission.Orders (.mapping (w.tokenSink s.sink).tokens)) sent) :
    n.HandsOnly (·.PostsTokens (w.tokenSink sink).tokens) sent := by
  obtain ⟨es, hes⟩ := h.texts
  intro e he hto
  obtain ⟨o, htokens, hbody⟩ := horders e he hto
  rw [hk, hes] at htokens
  rw [hes]
  exact o.postsTokens htokens hbody

/-- The token of a credential is found in the sink under its service. -/
theorem lookup?_delivered {sink : CredentialSink} {c : Credential} {service : String}
    (hservice : c.service = .text service) (hne : service ≠ "") :
    Value.lookup? (Value.insert sink.tokens (sink.aliasFor c.service) c.token) (.text service) =
      some c.token := by
  have halias : sink.aliasFor c.service = .text service := by
    unfold CredentialSink.aliasFor Value.orElse
    rw [hservice, if_pos (by simpa [Value.isSet] using hne)]
  rw [halias, lookup?_insert, if_pos rfl]

/-- An attempt at submitting hands over the tokens that are in the sink, and settles. -/
theorem Ledger.submit (h : Ledger store sink user all given w) (hmem : (n, s) ∈ all)
    {r : Except Failure (SubmissionReport × Submission)} (hsubmit : s.submit w = (r, w')) :
    (∃ sent, w'.exchanges = w.exchanges ++ sent ∧ ∀ e ∈ sent, e.IsTo n.manager.address .apps →
      e.PostsTokens (w.tokenSink sink).tokens) ∧
    s.Settles store sink user given w r w' ∧
    Ledger store sink user all (given ++ reportedCredentials r) w' := by
  obtain ⟨hof, hm, hk⟩ := h.members (n, s) hmem
  obtain ⟨sent, w₁, htalks, hkeeps, horders, hdelivers⟩ := Submission.submit_delivers hof hsubmit
  have hafter : Ledger store sink user all given w₁ := h.kept hkeeps
  have hposted := h.posts hk horders
  have hsame : given ++ ([] : List Credential) = given := List.append_nil given
  cases hdelivers with
  | failed f =>
    exact ⟨⟨sent, htalks.exchanges, hposted⟩, .failed f _ hkeeps.tokenStores hkeeps.tokenSinks,
      hsame.symm ▸ hafter⟩
  | managed report hu hc =>
    rw [reportedCredentials_none hc, hsame]
    exact ⟨⟨sent, htalks.exchanges, hposted⟩,
      .managed report _ hu hc hkeeps.tokenStores hkeeps.tokenSinks, hafter⟩
  | undelivered f g w' ho hdeliver =>
    -- What is sent behind handing over is for the credential.
    obtain ⟨more, htalks', hnone, ⟨x, -, hkeeps'⟩ | ⟨c, hc, -⟩⟩ :=
      Submission.deliverCredential_hands ((hof.of_talks htalks).isOver ho) ho hafter.quiet hdeliver
    · have hall := hkeeps.trans hkeeps'
      exact ⟨⟨_, (htalks.trans htalks').exchanges, hposted.append (.of_none hnone)⟩,
        .failed g _ hall.tokenStores hall.tokenSinks, hsame.symm ▸ hafter.kept hkeeps'⟩
    · cases hc
  | delivered c report w' ho hu hdeliver hc =>
    obtain ⟨more, htalks', hnone, ⟨x, hx, -⟩ | ⟨d, hd, hhands⟩⟩ :=
      Submission.deliverCredential_hands ((hof.of_talks htalks).isOver ho) ho hafter.quiet hdeliver
    · cases hx
    · cases hd
      obtain ⟨hledger, hput⟩ := hafter.hands hm hk htalks' hhands
      rw [hkeeps.tokenSink] at hput
      obtain ⟨token, service, htoken, hservice⟩ := hhands.texts
      rw [reportedCredentials_some hc]
      exact ⟨⟨_, (htalks.trans htalks').exchanges, hposted.append (.of_none hnone)⟩,
        .unmanaged report _ c service hu hc hledger.recorded hservice hput fun hne => by
          rw [hput, lookup?_delivered hservice hne], hledger⟩

/-- A submission that begins is one more that shares the store and the sink. -/
theorem Ledger.start {plan : SubmissionPlan} (h : Ledger store sink user all given w)
    (hc : n.IsConnected w) (hmanager : plan.manager = ⟨store, .text user⟩)
    (hsink : plan.sink = sink)
    (hstart : Submission.start n.operations plan w = (.ok s, w')) :
    Ledger store sink user (all ++ [(n, s)]) given w' := by
  have hkeeps := Submission.start_keepsTokens n plan w
  rw [hstart] at hkeeps
  have hkept := h.kept hkeeps
  have ho := Submission.isOpen_of_start hc hstart
  obtain ⟨e, -, -, -, ⟨f, hf, -⟩ | ⟨s', hs', hover, -⟩⟩ := Submission.start_spec hc ho hstart
  · cases hf
  cases hs'
  obtain ⟨hm, hk⟩ := Submission.tokens_of_start hstart
  refine ⟨hkept.recorded, hkept.store_known, hkept.sink_known, hkept.texts, hkept.quiet,
    fun p hp => ?_⟩
  rcases List.mem_append.mp hp with hp | hp
  · exact hkept.members p hp
  · obtain rfl := List.mem_singleton.mp hp
    exact ⟨hover.isOf, hm.trans hmanager, hk.trans hsink⟩

theorem Sharing.ledger (h : Sharing store sink user all given w) :
    Ledger store sink user all given w := by
  induction h with
  | nothing hstore hsink hnone htexts hlevel =>
    exact ⟨hnone, hstore, hsink, htexts, World.not_isTalkative hlevel, by simp⟩
  | start hall hc hmanager hsink h ih => exact ih.start hc hmanager hsink h
  | @unstarted all given n plan f w w' hall h ih =>
    have hkeeps := Submission.start_keepsTokens n plan w
    rw [h] at hkeeps
    exact ih.kept hkeeps
  | call hall hc h ih =>
    obtain ⟨hkeeps, hnegotiator, hhandle, hmanager, hsink⟩ :=
      Submission.perform_keepsTokens (ih.members _ List.mem_append_cons_self).1 hc h
    exact (ih.kept hkeeps).replace hnegotiator hhandle hmanager hsink
  | @submitted before after given n report s s' w w' hall h ih =>
    obtain ⟨-, hsettles, hledger⟩ := ih.submit List.mem_append_cons_self h
    have hsame : s' = { s with state := .submitted } := by
      cases hsettles <;> rfl
    rw [hsame]
    exact hledger.replace rfl rfl rfl rfl
  | @unsubmitted before after given n f s w w' hall h ih =>
    obtain ⟨-, -, hledger⟩ := ih.submit List.mem_append_cons_self h
    rw [reportedCredentials, List.append_nil] at hledger
    exact hledger
  | elsewhere hall hsessions hloggers hstores hsink htexts ih =>
    refine ⟨?_, ?_, hsink, htexts, (World.isLogged_congr hloggers _ _).trans ih.quiet, fun p hp =>
      ?_⟩
    · unfold World.tokenStore
      rw [hstores]
      exact ih.recorded
    · rw [hstores]
      exact ih.store_known
    · obtain ⟨hof, hsame⟩ := ih.members p hp
      exact ⟨hof.of_count hsessions, hsame⟩

/-- However the calls of submissions that share a store and a sink follow one another, the store has
exactly the credentials that the reports had, in order. Each attempt at submitting hands over
exactly the tokens that the sink had before it, and either delivers its own credential or changes
neither the store nor the sink. -/
theorem credentials_delivered (h : Sharing store sink user all given w) :
    (w.tokenStore store).get (.text user) = .ok given ∧
    ∀ n s, (n, s) ∈ all → ∀ r w', s.submit w = (r, w') →
      (∃ sent, w'.exchanges = w.exchanges ++ sent ∧ ∀ e ∈ sent,
        e.IsTo n.manager.address .apps → e.PostsTokens (w.tokenSink sink).tokens) ∧
      s.Settles store sink user given w r w' := by
  refine ⟨h.ledger.recorded, fun n s hmem r w' hsubmit => ?_⟩
  obtain ⟨hposts, hsettles, -⟩ := h.ledger.submit hmem hsubmit
  exact ⟨hposts, hsettles⟩

end Ledgers

/-- An answer to whatever is asked about an application: it is granted and accepted, and there is a
token for it. -/
def sampleAnswer : String :=
  "\x7b\"application-id\":\"application_1_0002\",\"maximum-resource-capability\":\x7b\"memory\":4096\x7d,"
    ++ "\"app\":\x7b\"id\":\"application_1_0002\",\"state\":\"ACCEPTED\"\x7d,\"token\":\"secret\"\x7d"

/-- A plan for an unmanaged driver. -/
def SubmissionPlan.unmanagedSample : SubmissionPlan :=
  { SubmissionPlan.sample with unmanaged := .bool true }

/-- A world with a store and a sink for submissions to share. -/
def World.shared (server : Server) : World :=
  { World.served server with tokenStores := [{}], tokenSinks := [{}] }

/-- The credential that a submission reports after its driver may run anywhere. -/
def Submission.submitAnywhere (s : Submission) (w : World) : Option Credential × World :=
  match s.perform (.change (.node (.text anyHost))) w with
  | ((_, s₁), w₁) =>
    match s₁.submit w₁ with
    | (.ok (report, _), w₂) => (report.credential, w₂)
    | (.error _, w₂) => (none, w₂)

theorem Submission.exists_of_submitAnywhere {s : Submission} {c : Credential} {w w' : World}
    (h : s.submitAnywhere w = (some c, w')) : ∃ r s₁ w₁ report s₂,
      s.perform (.change (.node (.text anyHost))) w = ((r, s₁), w₁) ∧
        s₁.submit w₁ = (.ok (report, s₂), w') ∧ report.credential = some c := by
  unfold submitAnywhere at h
  rcases hchange : s.perform (.change (.node (.text anyHost))) w with ⟨⟨r, s₁⟩, w₁⟩
  rw [hchange] at h
  dsimp only at h
  rcases hsubmit : s₁.submit w₁ with ⟨f | ⟨report, s₂⟩, w₂⟩ <;> rw [hsubmit] at h
  · cases h
  · obtain ⟨hc, rfl⟩ := Prod.mk.inj h
    exact ⟨r, s₁, w₁, report, s₂, rfl, hsubmit, hc⟩

/-- Whether two unmanaged submissions, one behind the other, report their credentials. -/
def bothDeliver (s : Submission) (w : World) : Bool :=
  match s.submitAnywhere w with
  | (none, _) => false
  | (some _, w') =>
    match Submission.start RestNegotiator.sample.operations .unmanagedSample w' with
    | (.error _, _) => false
    | (.ok t, w'') => (t.submitAnywhere w'').1.isSome

/-- A credential that one submission obtained is handed over by the next one. -/
theorem credentials_delivered_next : ∃ (s t t' : Submission) (c d : Credential) (w w' : World)
    (report : SubmissionReport),
    Sharing 0 0 proxyUser [(RestNegotiator.sample, s), (RestNegotiator.sample, t)] [c] w ∧
    (w.tokenStore 0).get (.text proxyUser) = .ok [c] ∧
    t.submit w = (.ok (report, t'), w') ∧ report.credential = some d ∧
    (w'.tokenStore 0).get (.text proxyUser) = .ok [c, d] ∧
    ∃ sent, w'.exchanges = w.exchanges ++ sent ∧ ∀ e ∈ sent,
      e.IsTo RestNegotiator.sample.manager.address .apps →
        e.PostsTokens (w.tokenSink 0).tokens := by
  have hnone : Sharing 0 0 proxyUser [] [] (World.shared (Server.answering sampleAnswer)) :=
    .nothing (by decide) (by decide) rfl ⟨[], rfl⟩ (by decide)
  obtain ⟨⟨haddress, -⟩, -⟩ := RestNegotiator.isConnected_of_connect (n := RestNegotiator.sample)
    (RestNegotiator.connect_sample (Server.answering sampleAnswer))
  obtain ⟨s, w₀, hstart, hboth⟩ := Submission.exists_started RestNegotiator.sample .unmanagedSample
    (World.shared (Server.answering sampleAnswer)) bothDeliver (by decide +kernel)
  have hbegun := hnone.start ⟨haddress, by decide⟩ rfl rfl hstart
  unfold bothDeliver at hboth
  rcases hfirst : s.submitAnywhere w₀ with ⟨_ | c, w₁⟩ <;> rw [hfirst] at hboth
  · cases hboth
  obtain ⟨_, s₁, _, report₁, s₂, hchange, hsubmit, hc⟩ := Submission.exists_of_submitAnywhere hfirst
  have hchanged : Sharing 0 0 proxyUser ([] ++ [(RestNegotiator.sample, s₁)]) [] _ :=
    .call hbegun (by simp) hchange
  have hdelivered : Sharing 0 0 proxyUser ([] ++ [(RestNegotiator.sample, s₂)])
      ([] ++ report₁.credential.toList) w₁ := .submitted hchanged hsubmit
  rw [hc] at hdelivered
  dsimp only at hboth
  rcases hagain : Submission.start RestNegotiator.sample.operations .unmanagedSample w₁ with
    ⟨f | t, w₂⟩ <;> rw [hagain] at hboth
  · cases hboth
  dsimp only at hboth
  rcases hsecond : t.submitAnywhere w₂ with ⟨_ | d, w₃⟩ <;> rw [hsecond] at hboth
  · cases hboth
  obtain ⟨_, t₁, w, report, t₂, hchange', hsubmit', hd⟩ :=
    Submission.exists_of_submitAnywhere hsecond
  have hconnected := (hdelivered.ledger.members _ List.mem_cons_self).1.connected
  have hshared : Sharing 0 0 proxyUser ([(RestNegotiator.sample, s₂)] ++
      [(RestNegotiator.sample, t₁)]) [c] w :=
    .call (hdelivered.start hconnected rfl rfl hagain) (by simp) hchange'
  obtain ⟨hrecorded, hattempts⟩ := credentials_delivered hshared
  obtain ⟨hposts, -⟩ := hattempts _ t₁ List.mem_append_cons_self _ _ hsubmit'
  obtain ⟨hrecorded', -⟩ := credentials_delivered (.submitted hshared hsubmit')
  rw [hd] at hrecorded'
  exact ⟨s₂, t₁, t₂, c, d, w, w₃, report, hshared, hrecorded, hsubmit', hd, hrecorded', hposts⟩

end ClusterSubmission
