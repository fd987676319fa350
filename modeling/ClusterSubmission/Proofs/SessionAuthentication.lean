import ClusterSubmission.Proofs.CookieReuse

/-!
# When a session has its authentication back

While a request carries a kept cookie, the authentication of its session is off. It comes back
however the request ends, with one exception: the address is put together after the authentication
was taken off and before the part of the request that gives it back, so that a session with a kept
cookie loses its authentication for good when its request has an address that cannot be put
together.
-/
namespace ClusterSubmission

/-- The call takes the authentication off a session for a kept cookie, and cannot put its address
together. -/
def Visit.Strips (v : Visit) (id : Nat) : Prop :=
  ∃ url plan, v.call = .request id url plan ∧ (v.before.cachedCookie? id url).isSome = true ∧
    ∃ e, Url.joinValues (.text url) plan.path = .error e

/-- A call that fails before anything is sent, and leaves a session without its authentication. -/
structure Visit.Loses (v : Visit) (id : Nat) : Prop where
  raised : ¬ v.Returned
  unsent : v.after.history = v.before.history
  off : (v.after.session id).auth = none

namespace Visit

variable (v : Visit) {id : Nat}

/-- A request whose address cannot be put together ends where it takes the authentication off. -/
theorem after_of_unjoined {url : String} {plan : RequestPlan} {e : Reason}
    (h : v.call = .request id url plan) (hjoin : Url.joinValues (.text url) plan.path = .error e) :
    v.after = v.before.sending id (v.before.cachedCookie? id url) ∧ ¬ v.Returned := by
  obtain ⟨r, hr, hreturned⟩ := exists_requested h
  have hends := @makeRequest_of_error id url { plan with url := .text url } e rfl hjoin v.before
  obtain ⟨hraised, hafter⟩ := Prod.mk.inj (hr.symm.trans hends)
  refine ⟨hafter, fun hv => ?_⟩
  obtain ⟨a, ha⟩ := hreturned.mp hv
  cases ha.symm.trans hraised

theorem Strips.loses {v : Visit} (h : v.Strips id) : v.Loses id := by
  obtain ⟨url, plan, hcall, hcookie, e, hjoin⟩ := h
  obtain ⟨hafter, hraised⟩ := v.after_of_unjoined hcall hjoin
  constructor
  · exact hraised
  · rw [hafter]
    exact World.sending_history v.before id _
  · rw [hafter, World.auth_sending, if_pos hcookie]

/-- Every other call gives the authentication back, whether it returns or not. -/
theorem auth_after (j : Nat) (h : ¬ v.Strips j) :
    (v.after.session j).auth = (v.before.session j).auth := by
  cases hcall : v.call with
  | forget id =>
    unfold after
    rw [hcall]
    rfl
  | request id url plan =>
    obtain ⟨r, hr, -⟩ := exists_requested hcall
    cases hjoin : Url.joinValues (.text url) plan.path with
    | ok target => exact makeRequest_auth rfl hr hjoin j
    | error e =>
      by_cases hj : j = id
      · subst hj
        have hnone : ¬ (v.before.cachedCookie? j url).isSome = true := by
          intro hsome
          exact h ⟨url, plan, hcall, hsome, e, hjoin⟩
        rw [(v.after_of_unjoined hcall hjoin).1, World.auth_sending, if_neg hnone]
      · have hstays := makeRequest_staysIn id { plan with url := .text url } v.before
        rw [hr] at hstays
        rw [hstays.others j hj]

end Visit

/-- Calls one after the other, where a session had an authentication before the first one. Between
two calls anything may change but the authentication of the session. -/
inductive Uses (id : Nat) (auth : Option AuthHandler) : List Visit → World → Prop
  | start {w : World} (h : (w.session id).auth = auth) : Uses id auth [] w
  | call {vs : List Visit} {w : World} (v : Visit) (h : Uses id auth vs v.before)
      (hkept : (w.session id).auth = (v.after.session id).auth) : Uses id auth (vs ++ [v]) w

/-- No call gives a session an authentication that it has lost. -/
theorem Uses.auth_eq {id : Nat} {auth : Option AuthHandler} {vs : List Visit} {w : World}
    (h : Uses id auth vs w) : ((∀ u ∈ vs, ¬ u.Strips id) → (w.session id).auth = auth) ∧
      ((∃ u ∈ vs, u.Strips id) → (w.session id).auth = none) := by
  induction h with
  | start h => exact ⟨fun _ => h, fun ⟨u, hu, _⟩ => absurd hu List.not_mem_nil⟩
  | @call vs w v h hkept ih =>
    rw [hkept]
    constructor
    · intro hnone
      rw [v.auth_after id (hnone v (by simp))]
      apply ih.1
      intro u hu
      exact hnone u (by simp [hu])
    · rintro ⟨u, hu, hstrips⟩
      by_cases hv : v.Strips id
      · exact hv.loses.off
      · rw [v.auth_after id hv]
        apply ih.2
        rcases List.mem_append.mp hu with hu | hu
        · exact ⟨u, hu, hstrips⟩
        · rw [List.mem_singleton.mp hu] at hstrips
          exact absurd hstrips hv

/-- A call gives every session its authentication back, however it ends, unless it strips the
session. So a request that carries no cookie proves with the authentication that its session had at
first who it is, until the session is stripped, and with none from then on. -/
theorem authentication_given_back {id : Nat} {auth : Option AuthHandler} {vs : List Visit}
    (v : Visit) (h : Uses id auth vs v.before) :
    (∀ j, (¬ v.Strips j → (v.after.session j).auth = (v.before.session j).auth) ∧
      (v.Strips j → v.Loses j)) ∧
    ∀ url plan q, v.Sends id url plan q → q.cookies = [] →
      ((∀ u ∈ vs, ¬ u.Strips id) → q.auth = auth) ∧
        ((∃ u ∈ vs, u.Strips id) → q.auth = none) := by
  refine ⟨fun j => ⟨v.auth_after j, Visit.Strips.loses⟩, ?_⟩
  intro url plan q hsends hempty
  obtain ⟨hcookies, hauth⟩ := hsends.cookies_eq
  have hnone : v.before.cachedCookie? id url = none := by
    rw [hempty] at hcookies
    simpa using hcookies.symm
  rw [hauth, hnone]
  exact h.auth_eq

/-- Where a session that has a cookie for one base asks another one. -/
def Visit.elsewhere : Visit where
  call := .request 0 "http://other:8088/ws/v1/cluster/" { url := .null, path := .text "info" }
  before := Visit.granted.after

theorem authentication_given_back_elsewhere :
    Uses 0 (some (.simple (.text "alice"))) [Visit.granted] Visit.elsewhere.before ∧
      ∃ url plan q, Visit.elsewhere.Sends 0 url plan q ∧ q.cookies = [] ∧
        q.auth = some (.simple (.text "alice")) := by
  have huses : Uses 0 (some (.simple (.text "alice"))) [Visit.granted] Visit.elsewhere.before :=
    .call Visit.granted (.start rfl) rfl
  have hgiven : ∀ u ∈ [Visit.granted], ¬ u.Strips 0 := by
    intro u hu
    rw [List.mem_singleton.mp hu]
    rintro ⟨url, plan, hcall, hcookie, -⟩
    cases hcall
    cases hcookie
  refine ⟨huses, _, _, _, ⟨rfl, rfl⟩, rfl, ?_⟩
  exact ((authentication_given_back Visit.elsewhere huses).2 _ _ _ ⟨rfl, rfl⟩ rfl).1 hgiven

/-- Where this session asks its first base for an address that cannot be put together. -/
def Visit.unjoinable : Visit where
  call := .request 0 "http://rm:8088/ws/v1/cluster/" { url := .null, path := .text "//[" }
  before := Visit.granted.after

/-- The first call once more, after the session was forgotten. -/
def Visit.forgotten : Visit := ⟨Visit.granted.call, Visit.unjoinable.forgetting.after⟩

/-- The session had an authentication, lost it for an address that cannot be put together, and sends
a request with neither a cookie nor an authentication after it was forgotten. -/
theorem authentication_lost :
    (Visit.unjoinable.before.session 0).auth = some (.simple (.text "alice")) ∧
      (Visit.unjoinable.after.session 0).auth = none ∧
      Visit.forgotten.before.history = Visit.granted.after.history ∧
      ∃ url plan q, Visit.forgotten.Sends 0 url plan q ∧ q.cookies = [] ∧ q.auth = none := by
  have hstrips : Visit.unjoinable.Strips 0 := ⟨_, _, rfl, rfl, _, rfl⟩
  exact ⟨rfl, hstrips.loses.off, hstrips.loses.unsent, _, _, _, ⟨rfl, rfl⟩, rfl, rfl⟩

end ClusterSubmission
