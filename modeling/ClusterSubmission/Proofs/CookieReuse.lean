import ClusterSubmission.Proofs.SessionFrame

/-!
# How cookies are reused

A request that returns keeps the authentication cookie of its session for the base that it went to,
until the session is forgotten. Later requests of the session to this base carry the cookie instead
of the session's own authentication, which is in effect otherwise. This holds for runs of any
length, whatever happens to the cookies and the authentication of the sessions between the calls.
-/
namespace ClusterSubmission

section Cache

theorem find?_filter_of_imp {α : Type} {p q : α → Bool} (l : List α)
    (h : ∀ a, p a = true → q a = true) : (l.filter q).find? p = l.find? p := by
  have hboth : (fun a => decide (q a = true ∧ p a = true)) = p := by
    funext a
    by_cases hp : p a = true
    · simp [hp, h a hp]
    · simp [hp]
  rw [List.find?_filter]
  exact congrArg (fun r => List.find? r l) hboth

theorem World.cachedCookie?_cacheCookie (w : World) (id : Nat) (url cookie : String) (j : Nat)
    (u : String) : (w.cacheCookie id url cookie).cachedCookie? j u =
      if (j, u) = (id, url) then some cookie else w.cachedCookie? j u := by
  unfold cachedCookie? cacheCookie
  rw [List.find?_append]
  by_cases h : (j, u) = (id, url)
  · have hnone : (w.cookieCache.filter (·.1 != (id, url))).find? (·.1 == (j, u)) = none := by
      simp [List.find?_eq_none, h]
    rw [hnone, if_pos h, h]
    simp
  · have hkept : ∀ e : (Nat × String) × String, (e.1 == (j, u)) = true →
      (e.1 != (id, url)) = true := by
      intro e he
      rw [eq_of_beq he, bne_iff_ne]
      exact h
    have hother : ((id, url) == (j, u)) = false := beq_eq_false_iff_ne.mpr (Ne.symm h)
    rw [if_neg h, find?_filter_of_imp _ hkept]
    simp [hother]

theorem World.cachedCookie?_filter (w : World) (id j : Nat) (u : String) :
    ({ w with cookieCache := w.cookieCache.filter (·.1.1 != id) } : World).cachedCookie? j u =
      if j = id then none else w.cachedCookie? j u := by
  unfold cachedCookie?
  by_cases h : j = id
  · rw [if_pos h, Option.map_eq_none_iff, List.find?_eq_none]
    intro e he hkey
    have hsession := (List.mem_filter.mp he).2
    rw [eq_of_beq hkey] at hsession
    simp [h] at hsession
  · rw [if_neg h, find?_filter_of_imp]
    intro e he
    rw [eq_of_beq he, bne_iff_ne]
    exact h

end Cache

/-- One request of a session was sent, with a cookie if there is one to send. No cookie was kept
yet. -/
structure SendsWith (id : Nat) (cookie : Option String) (w : World) (q : Request) (w' : World) :
    Prop where
  headers : q.headers = requestHeaders cookie
  auth : q.auth = (w.session id).auth
  history : w'.history = q :: w.history
  cache : w'.cookieCache = w.cookieCache
  count : w'.sessions.length = w.sessions.length

/-- What can keep a request from being sent: headers of its own, or the record about it. -/
def RequestPlan.MayFail (plan : RequestPlan) (w : World) : Prop :=
  plan.others.any (·.1 == "headers") = true ∨ w.isTalkative = true

/-- What a request of a session does: it fails before anything is sent, or it sends one request, and
keeps the cookie of the session if it returns. -/
inductive Attempts (id : Nat) (url : String) (cookie : Option String) (plan : RequestPlan)
    (w : World) : Except Failure Response → World → Prop
  | unsent (f : Failure) (h : plan.MayFail w) : Attempts id url cookie plan w (.error f) w
  | failed (f : Failure) (q : Request) (w' : World) (h : SendsWith id cookie w q w') :
    Attempts id url cookie plan w (.error f) w'
  | returned (a : Response) (q : Request) (w' : World) (h : SendsWith id cookie w q w') :
    Attempts id url cookie plan w (.ok a) (w'.keepJarCookie id url)

theorem send_sendsWith (id : Nat) (cookie : Option String) {w : World} {q : Request}
    (hheaders : q.headers = requestHeaders cookie) (hauth : q.auth = (w.session id).auth) :
    SendsWith id cookie w q (send id q w).2 :=
  ⟨hheaders, hauth, rfl, rfl, List.length_set⟩

/-- What is done with an answer: it is refused for its status, or it returns and its cookie is
kept. -/
def accept (id : Nat) (url target : String) (plan : RequestPlan) (a : Response) : Run Response := do
  Run.debug ("Got response: response.status_code=" ++ Text.intText a.status
    ++ ", response.reason=" ++ a.reason.literal)
  match statusFailure? target a with
  | some f =>
    if plan.raiseForStatus.isSet then fun w =>
      (.error (requestFailure w.environment w.ticketList f (some a) (w.session id).proxies), w)
    else do keepCookie id url; return a
  | none => do keepCookie id url; return a

theorem accept_cases {id : Nat} {url target : String} {plan : RequestPlan} {a : Response}
    {w w' : World} {r : Except Failure Response} (h : accept id url target plan a w = (r, w')) :
    (∃ f, r = .error f ∧ w' = w ∧ (IsConsoleFault w f ∨ plan.raiseForStatus.isSet = true ∧
      ∃ g, statusFailure? target a = some g ∧
        f = requestFailure w.environment w.ticketList g (some a) (w.session id).proxies)) ∨
    r = .ok a ∧ w' = w.keepJarCookie id url ∧
      (plan.raiseForStatus.isSet = true → statusFailure? target a = none) := by
  have hreturns : (do keepCookie id url; return a : Run Response) w =
      (.ok a, w.keepJarCookie id url) := Run.bind_of_ok (keepCookie_eq id url w)
  unfold accept at h
  rcases Run.debug_cases ("Got response: response.status_code=" ++ Text.intText a.status
    ++ ", response.reason=" ++ a.reason.literal) w with hd | ⟨f, hd, hf⟩
  · rw [Run.bind_of_ok hd] at h
    cases hstatus : statusFailure? target a with
    | none =>
      simp only [hstatus, hreturns] at h
      cases h
      exact Or.inr ⟨rfl, rfl, fun _ => rfl⟩
    | some g =>
      simp only [hstatus] at h
      by_cases hraise : plan.raiseForStatus.isSet = true
      · rw [if_pos hraise] at h
        cases h
        exact Or.inl ⟨_, rfl, rfl, Or.inr ⟨hraise, g, rfl, rfl⟩⟩
      · rw [if_neg hraise, hreturns] at h
        cases h
        exact Or.inr ⟨rfl, rfl, fun hset => absurd hset hraise⟩
  · rw [Run.bind_of_error hd] at h
    cases h
    exact Or.inl ⟨f, rfl, rfl, Or.inl hf⟩

/-- The request that is sent for a plan. -/
def RequestPlan.request (plan : RequestPlan) (target : String) (auth : Option AuthHandler)
    (cookie : Option String) : Request :=
  ⟨plan.method, target, auth, plan.data, requestHeaders cookie, plan.timeout, plan.params,
    plan.others⟩

/-- A planned request is not sent, or it is sent and its reply is a failure, or an answer that is
looked at. -/
theorem exchange_cases (id : Nat) (url target : String) (cookie : Option String)
    (plan : RequestPlan) {w w' : World} {r : Except Failure Response}
    (h : exchange id url target cookie plan w = (r, w')) :
    (∃ f, r = .error f ∧ w' = w ∧ (IsConsoleFault w f ∨
      plan.others.any (·.1 == "headers") = true ∧ f = Reason.wrongType.failure)) ∨
    (∃ g w₁, send id (plan.request target (w.session id).auth cookie) w = (.error g, w₁) ∧
      r = .error g ∧ w' = w₁) ∨
    ∃ a w₁, send id (plan.request target (w.session id).auth cookie) w = (.ok a, w₁) ∧
      accept id url target plan a w₁ = (r, w') := by
  unfold exchange at h
  rcases Run.debug_cases ("Sending request to '" ++ target ++ "' with: method="
    ++ plan.method.literal ++ ", params=" ++ plan.params.literal) w with hd | ⟨f, hd, hf⟩
  · rw [Run.bind_of_ok hd] at h
    by_cases hgiven : plan.others.any (·.1 == "headers") = true
    · rw [if_pos hgiven] at h
      cases h
      exact Or.inl ⟨_, rfl, rfl, Or.inr ⟨hgiven, rfl⟩⟩
    · rw [if_neg hgiven] at h
      change (send id (plan.request target (w.session id).auth cookie) >>=
        accept id url target plan) w = _ at h
      rcases Run.bind_cases h with ⟨g, hg, rfl⟩ | ⟨a, w₁, ha, h⟩
      · exact Or.inr (Or.inl ⟨g, w', hg, rfl, rfl⟩)
      · exact Or.inr (Or.inr ⟨a, w₁, ha, h⟩)
  · rw [Run.bind_of_error hd] at h
    cases h
    exact Or.inl ⟨f, rfl, rfl, Or.inl hf⟩

theorem exchange_attempts (id : Nat) (url target : String) (cookie : Option String)
    (plan : RequestPlan) {w w' : World} {r : Except Failure Response}
    (h : exchange id url target cookie plan w = (r, w')) :
    Attempts id url cookie plan w r w' := by
  -- The request is sent, whatever its reply is.
  have hsent : SendsWith id cookie w (plan.request target (w.session id).auth cookie)
      (send id (plan.request target (w.session id).auth cookie) w).2 :=
    send_sendsWith id cookie rfl rfl
  rcases exchange_cases id url target cookie plan h with
    ⟨f, rfl, rfl, hf | ⟨hgiven, -⟩⟩ | ⟨g, w₁, hsend, rfl, rfl⟩ | ⟨a, w₁, hsend, haccept⟩
  · exact .unsent f (Or.inr hf.2.2)
  · exact .unsent f (Or.inl hgiven)
  · rw [hsend] at hsent
    exact .failed g _ _ hsent
  · rw [hsend] at hsent
    rcases accept_cases haccept with ⟨f, rfl, rfl, -⟩ | ⟨rfl, rfl, -⟩
    · exact .failed f _ _ hsent
    · exact .returned a _ _ hsent

section Authentication

variable {w : World} {id : Nat}

theorem World.auth_of_unknown (h : ¬ id < w.sessions.length) : (w.session id).auth = none := by
  unfold session
  rw [List.getElem?_eq_none (Nat.le_of_not_lt h)]
  rfl

theorem World.withAuth_length (auth : Option AuthHandler) :
    (w.withAuth id auth).sessions.length = w.sessions.length := List.length_set

/-- Only a session that exists takes an authentication. -/
theorem World.auth_withAuth (auth : Option AuthHandler) :
    ((w.withAuth id auth).session id).auth = if id < w.sessions.length then auth else none := by
  by_cases h : id < w.sessions.length
  · unfold withAuth
    rw [if_pos h, session_setSession_self h]
  · rw [if_neg h]
    apply auth_of_unknown
    rwa [withAuth_length]

theorem World.jarCookie?_withAuth (auth : Option AuthHandler) :
    ((w.withAuth id auth).session id).jarCookie? = (w.session id).jarCookie? :=
  session_setSession Session.jarCookie? rfl

theorem World.sending_length (cookie : Option String) :
    (w.sending id cookie).sessions.length = w.sessions.length := by
  unfold sending
  split
  · exact withAuth_length none
  · rfl

theorem World.sending_history (w : World) (id : Nat) (cookie : Option String) :
    (w.sending id cookie).history = w.history := by
  unfold sending
  split <;> rfl

theorem World.sending_cookieCache (cookie : Option String) :
    (w.sending id cookie).cookieCache = w.cookieCache := by
  unfold sending
  split <;> rfl

theorem World.sending_isTalkative (cookie : Option String) :
    (w.sending id cookie).isTalkative = w.isTalkative := by
  unfold sending
  split <;> rfl

theorem World.auth_sending (cookie : Option String) : ((w.sending id cookie).session id).auth =
    if cookie.isSome then none else (w.session id).auth := by
  unfold sending
  split
  · rw [auth_withAuth, ite_self]
  · rfl

theorem World.keepJarCookie_history (url : String) :
    (w.keepJarCookie id url).history = w.history := by
  unfold keepJarCookie
  split <;> rfl

theorem World.keepJarCookie_sessions (url : String) :
    (w.keepJarCookie id url).sessions = w.sessions := by
  unfold keepJarCookie
  split <;> rfl

theorem World.jarCookie?_keepJarCookie (url : String) :
    ((w.keepJarCookie id url).session id).jarCookie? = (w.session id).jarCookie? := by
  unfold session
  rw [keepJarCookie_sessions]

/-- The cookie in the jar takes the place of the one that was kept for this base before. -/
theorem World.cachedCookie?_keepJarCookie (url : String) (j : Nat) (u : String) :
    (w.keepJarCookie id url).cachedCookie? j u =
      if (j, u) = (id, url) then ((w.session id).jarCookie?).or (w.cachedCookie? id url)
      else w.cachedCookie? j u := by
  unfold keepJarCookie
  cases (w.session id).jarCookie? with
  | some c => exact cachedCookie?_cacheCookie w id url c j u
  | none =>
    by_cases h : (j, u) = (id, url)
    · obtain ⟨rfl, rfl⟩ := Prod.mk.inj h
      simp
    · rw [if_neg h]

theorem World.cachedCookie?_congr {w w' : World} (h : w'.cookieCache = w.cookieCache) (j : Nat)
    (u : String) : w'.cachedCookie? j u = w.cachedCookie? j u := by
  unfold cachedCookie?
  rw [h]

end Authentication

theorem translateTrouble_cases (id : Nat) {body : Run Response} {w w' : World}
    {r : Except Failure Response} (h : body w = (r, w')) :
    ∃ r', translateTrouble id body w = (r', w') ∧ ∀ a, r' = .ok a ↔ r = .ok a := by
  cases r with
  | ok a =>
    refine ⟨_, translateTrouble_still h ?_, fun b => Iff.rfl⟩
    intro f hf
    cases hf
  | error f => exact ⟨_, translateTrouble_error h, fun b => by simp⟩

/-- A request whose address cannot be put together ends at once; any other one sends and gives the
session its own authentication back. -/
theorem makeRequest_cases {id : Nat} {url : String} {plan : RequestPlan} {w w' : World}
    {r : Except Failure Response} (hurl : plan.url = .text url)
    (h : makeRequest id plan w = (r, w')) :
    (∃ e, Url.joinValues (.text url) plan.path = .error e ∧ r = .error e.failure ∧
      w' = w.sending id (w.cachedCookie? id url)) ∨
    ∃ r₁ w₁, Attempts id url (w.cachedCookie? id url) plan (w.sending id (w.cachedCookie? id url))
        r₁ w₁ ∧
      (∀ a, r = .ok a ↔ r₁ = .ok a) ∧ w' = w₁.withAuth id (w.session id).auth := by
  cases hjoin : Url.joinValues (.text url) plan.path with
  | error e =>
    rw [makeRequest_of_error hurl hjoin] at h
    cases h
    exact Or.inl ⟨e, rfl, rfl, rfl⟩
  | ok target =>
    rcases hsend : exchange id url target.plain (w.cachedCookie? id url) plan
      (w.sending id (w.cachedCookie? id url)) with ⟨r₁, w₁⟩
    obtain ⟨r₂, htranslate, hok⟩ := translateTrouble_cases id hsend
    rw [makeRequest_of_ok hurl hjoin htranslate] at h
    cases h
    exact Or.inr ⟨r₁, w₁, exchange_attempts id url target.plain _ _ hsend, hok, rfl⟩

/-- What one request of a session does to what was sent, and to the cookies that are kept. -/
structure Requested (id : Nat) (url : String) (plan : RequestPlan) (w : World)
    (r : Except Failure Response) (w' : World) : Prop where
  sent : (w'.history = w.history ∧ (∃ f, r = .error f) ∧
      ((∃ e, Url.joinValues (.text url) plan.path = .error e) ∨ plan.MayFail w)) ∨
    ∃ q, w'.history = q :: w.history ∧ q.headers = requestHeaders (w.cachedCookie? id url) ∧
      q.auth = if (w.cachedCookie? id url).isSome then none else (w.session id).auth
  failed : ∀ f, r = .error f → w'.cookieCache = w.cookieCache
  returned : ∀ a, r = .ok a → ∀ j u, w'.cachedCookie? j u =
    if (j, u) = (id, url) then (w'.session id).jarCookie?.or (w.cachedCookie? id url)
    else w.cachedCookie? j u

theorem makeRequest_requested {id : Nat} {url : String} {plan : RequestPlan} {w w' : World}
    {r : Except Failure Response} (hurl : plan.url = .text url)
    (h : makeRequest id plan w = (r, w')) : Requested id url plan w r w' := by
  rcases makeRequest_cases hurl h with ⟨e, he, rfl, rfl⟩ | ⟨r₁, w₁, hattempts, hok, rfl⟩
  · exact ⟨Or.inl ⟨World.sending_history w id _, ⟨_, rfl⟩, Or.inl ⟨e, he⟩⟩,
      fun f _ => World.sending_cookieCache _, fun a ha => by cases ha⟩
  · cases hattempts with
    | unsent f hfails =>
      have hfailed : ∃ g, r = .error g := by
        cases r with
        | error g => exact ⟨g, rfl⟩
        | ok a => cases (hok a).mp rfl
      unfold RequestPlan.MayFail at hfails
      rw [World.sending_isTalkative] at hfails
      exact ⟨Or.inl ⟨World.sending_history w id _, hfailed, Or.inr hfails⟩,
        fun g _ => World.sending_cookieCache _, fun a ha => by cases (hok a).mp ha⟩
    | failed f q w₁ hsent =>
      refine ⟨Or.inr ⟨q, ?_, hsent.headers, ?_⟩, fun g _ => ?_, fun a ha => by cases (hok a).mp ha⟩
      · rw [← World.sending_history w id (w.cachedCookie? id url)]
        exact hsent.history
      · rw [hsent.auth, World.auth_sending]
      · exact hsent.cache.trans (World.sending_cookieCache _)
    | returned a q w₁ hsent =>
      have hr := (hok a).mpr rfl
      refine ⟨Or.inr ⟨q, ?_, hsent.headers, ?_⟩, fun g hg => ?_, fun b hb j u => ?_⟩
      · rw [← World.sending_history w id (w.cachedCookie? id url), ← hsent.history]
        exact World.keepJarCookie_history url
      · rw [hsent.auth, World.auth_sending]
      · rw [hr] at hg
        cases hg
      · have hbefore : ∀ i v, w₁.cachedCookie? i v = w.cachedCookie? i v :=
          World.cachedCookie?_congr (hsent.cache.trans (World.sending_cookieCache _))
        rw [World.jarCookie?_withAuth, World.jarCookie?_keepJarCookie, ← hbefore, ← hbefore]
        exact World.cachedCookie?_keepJarCookie url j u

/-- A request whose address can be put together leaves every session its own authentication. -/
theorem makeRequest_auth {id : Nat} {url : String} {plan : RequestPlan} {w w' : World}
    {r : Except Failure Response} (hurl : plan.url = .text url)
    (h : makeRequest id plan w = (r, w')) {target : Value}
    (hjoin : Url.joinValues (.text url) plan.path = .ok target) (j : Nat) :
    (w'.session j).auth = (w.session j).auth := by
  by_cases hj : j = id
  · rcases makeRequest_cases hurl h with ⟨e, he, -⟩ | ⟨r₁, w₁, hattempts, -, rfl⟩
    · rw [hjoin] at he
      cases he
    · have hcount : w₁.sessions.length = w.sessions.length := by
        cases hattempts with
        | unsent f hfails => exact World.sending_length _
        | failed f q w₁ hsent => exact hsent.count.trans (World.sending_length _)
        | returned a q w₁ hsent =>
          rw [World.keepJarCookie_sessions]
          exact hsent.count.trans (World.sending_length _)
      rw [hj, World.auth_withAuth, hcount]
      by_cases hknown : id < w.sessions.length
      · rw [if_pos hknown]
      · rw [if_neg hknown, World.auth_of_unknown hknown]
  · have hspares := makeRequest_staysIn id plan w
    rw [h] at hspares
    rw [hspares.others j hj]

/-- The cookies that a request carries. -/
def Request.cookies (q : Request) : List String := (q.headers.filter (·.1 == "Cookie")).map (·.2)

theorem Request.cookies_eq {q : Request} {cookie : Option String}
    (h : q.headers = requestHeaders cookie) :
    q.cookies = (cookie.map ("hadoop.auth=" ++ ·)).toList := by
  unfold cookies
  rw [h]
  cases cookie <;> simp [requestHeaders, authCookie]

/-- What is done with the kept cookies: a request of a session to a base, or forgetting a
session. -/
inductive SessionCall where
  | request (id : Nat) (url : String) (plan : RequestPlan)
  | forget (id : Nat)

/-- The response, of a request. -/
def SessionCall.run : SessionCall → Run (Option Response)
  | .request id url plan => some <$> makeRequest id { plan with url := .text url }
  | .forget id => do
    forgetSession id
    return none

/-- Whether a call may touch the cookie that is kept for a session and a base. -/
def SessionCall.Concerns : SessionCall → Nat → String → Prop
  | .request id url _, j, u => j = id ∧ u = url
  | .forget id, j, _ => j = id

/-- A call, and the world that it is made in. -/
structure Visit where
  call : SessionCall
  before : World

namespace Visit

/-- The world after the call. -/
def after (v : Visit) : World := (v.call.run v.before).2

/-- Whether the call returned. -/
def Returned (v : Visit) : Prop := ∃ a, (v.call.run v.before).1 = .ok a

/-- A request of a session to a base that returned, with a cookie in the jar of the session. -/
def Grants (v : Visit) (id : Nat) (url cookie : String) : Prop :=
  (∃ plan, v.call = .request id url plan) ∧ v.Returned ∧
    (v.after.session id).jarCookie? = some cookie

/-- The call forgets a session. -/
def Forgets (v : Visit) (id : Nat) : Prop := v.call = .forget id

/-- The call sends a request of a session to a base, as it is planned. -/
def Sends (v : Visit) (id : Nat) (url : String) (plan : RequestPlan) (q : Request) : Prop :=
  v.call = .request id url plan ∧ v.after.history = q :: v.before.history

end Visit

/-- Calls one after the other, the first with no cookies kept. Between two calls anything may change
but the cookies that are kept: other cookies, sessions, their authentication, the server. -/
inductive Leads : List Visit → World → Prop
  | start {w : World} (h : w.cookieCache = []) : Leads [] w
  | call {vs : List Visit} {w : World} (v : Visit) (h : Leads vs v.before)
      (hkept : w.cookieCache = v.after.cookieCache) : Leads (vs ++ [v]) w

/-- Something was true of a call, and something else of every call since. -/
def Since (p q : Visit → Prop) (vs : List Visit) : Prop :=
  ∃ earlier v later, vs = earlier ++ v :: later ∧ p v ∧ ∀ u ∈ later, q u

/-- A session was granted a cookie for a base and has not been forgotten since. -/
def IsGranted (vs : List Visit) (id : Nat) (url cookie : String) : Prop :=
  Since (·.Grants id url cookie) (fun u => ¬ u.Forgets id) vs

/-- Besides, it was not granted another one since. -/
def IsCurrent (vs : List Visit) (id : Nat) (url cookie : String) : Prop :=
  Since (·.Grants id url cookie) (fun u => ¬ u.Forgets id ∧ ∀ d, ¬ u.Grants id url d) vs

theorem not_since_nil (p q : Visit → Prop) : ¬ Since p q [] := by
  rintro ⟨earlier, v, later, h, -⟩
  simp at h

theorem since_concat (p q : Visit → Prop) (vs : List Visit) (v : Visit) :
    Since p q (vs ++ [v]) ↔ p v ∨ q v ∧ Since p q vs := by
  constructor
  · rintro ⟨earlier, x, later, h, hp, hq⟩
    rcases List.eq_nil_or_concat later with rfl | ⟨later, y, rfl⟩
    · obtain ⟨-, hx⟩ := List.append_inj' h rfl
      cases hx
      exact Or.inl hp
    · rw [List.concat_eq_append, ← List.cons_append, ← List.append_assoc] at h
      obtain ⟨rfl, hy⟩ := List.append_inj' h rfl
      cases hy
      have hlast : q v := hq v (by simp)
      exact Or.inr ⟨hlast, earlier, x, later, rfl, hp, fun u hu => hq u (by simp [hu])⟩
  · rintro (hp | ⟨hq, earlier, x, later, rfl, hp, hlater⟩)
    · exact ⟨vs, v, [], rfl, hp, fun u hu => by cases hu⟩
    · refine ⟨earlier, x, later ++ [v], by simp, hp, fun u hu => ?_⟩
      rcases List.mem_append.mp hu with hu | hu
      · exact hlater u hu
      · rw [List.mem_singleton.mp hu]
        exact hq

theorem exists_isCurrent {vs : List Visit} {id : Nat} {url c : String}
    (h : IsGranted vs id url c) : ∃ d, IsCurrent vs id url d := by
  induction vs using List.reverseRecOn with
  | nil => exact absurd h (not_since_nil _ _)
  | append_singleton vs v ih =>
    by_cases hgrants : ∃ d, v.Grants id url d
    · obtain ⟨d, hd⟩ := hgrants
      exact ⟨d, (since_concat _ _ vs v).mpr (Or.inl hd)⟩
    · rcases (since_concat _ _ vs v).mp h with hv | ⟨hforgets, hvs⟩
      · exact absurd ⟨c, hv⟩ hgrants
      · obtain ⟨d, hd⟩ := ih hvs
        exact ⟨d, (since_concat _ _ vs v).mpr (Or.inr ⟨⟨hforgets, not_exists.mp hgrants⟩, hd⟩)⟩

theorem IsCurrent.isGranted {vs : List Visit} {id : Nat} {url c : String}
    (h : IsCurrent vs id url c) : IsGranted vs id url c := by
  obtain ⟨earlier, v, later, hvs, hgrants, hlater⟩ := h
  exact ⟨earlier, v, later, hvs, hgrants, fun u hu => (hlater u hu).1⟩

namespace Visit

variable {v : Visit} {id : Nat} {url : String} {plan : RequestPlan}

theorem exists_requested (h : v.call = .request id url plan) :
    ∃ r, makeRequest id { plan with url := .text url } v.before = (r, v.after) ∧
      (v.Returned ↔ ∃ a, r = .ok a) := by
  unfold after Returned
  rw [h]
  rcases hr : makeRequest id { plan with url := .text url } v.before with ⟨r, w'⟩
  have hrun : (SessionCall.request id url plan).run v.before =
      (r >>= fun a => .ok (some a), w') := Run.bind_pure hr some
  rw [hrun]
  refine ⟨r, rfl, ?_⟩
  cases r with
  | error f => simp [bind, Except.bind]
  | ok a => simp [bind, Except.bind]

/-- A request that is sent carries the cookie that is kept, in place of the session's own
authentication. -/
theorem Sends.cookies_eq {q : Request} (h : v.Sends id url plan q) :
    q.cookies = ((v.before.cachedCookie? id url).map ("hadoop.auth=" ++ ·)).toList ∧
      q.auth = if (v.before.cachedCookie? id url).isSome then none
        else (v.before.session id).auth := by
  obtain ⟨r, hr, -⟩ := exists_requested h.1
  rcases (makeRequest_requested rfl hr).sent with ⟨hsame, -⟩ | ⟨q₁, hq₁, hheaders, hauth⟩
  · exact absurd (h.2.symm.trans hsame) (List.cons_ne_self _ _)
  · cases h.2.symm.trans hq₁
    exact ⟨Request.cookies_eq hheaders, hauth⟩

/-- A request can only grant the cookie in its own jar, for its own base. -/
theorem grants_request (h : v.call = .request id url plan) (j : Nat) (u d : String) :
    v.Grants j u d ↔
      (j, u) = (id, url) ∧ v.Returned ∧ (v.after.session id).jarCookie? = some d := by
  unfold Grants
  rw [h]
  constructor
  · rintro ⟨⟨p, hp⟩, hreturned, hd⟩
    cases hp
    exact ⟨rfl, hreturned, hd⟩
  · rintro ⟨hkey, hreturned, hd⟩
    cases hkey
    exact ⟨⟨plan, rfl⟩, hreturned, hd⟩

/-- After a request the kept cookies are those from before, but for the one that it grants. -/
theorem cachedCookie?_request (h : v.call = .request id url plan) (j : Nat) (u c : String) :
    v.after.cachedCookie? j u = some c ↔
      v.Grants j u c ∨ (∀ d, ¬ v.Grants j u d) ∧ v.before.cachedCookie? j u = some c := by
  obtain ⟨r, hr, hreturned⟩ := exists_requested h
  have hrequested := makeRequest_requested rfl hr
  simp only [grants_request h, hreturned]
  cases r with
  | error f =>
    rw [World.cachedCookie?_congr (hrequested.failed f rfl)]
    simp
  | ok a =>
    rw [hrequested.returned a rfl j u]
    by_cases hkey : (j, u) = (id, url)
    · rw [if_pos hkey, Option.or_eq_some_iff]
      cases hkey
      simp [Option.eq_none_iff_forall_ne_some]
    · rw [if_neg hkey]
      simp [hkey]

/-- After a session was forgotten, no cookie is kept for it, and the others are those from
before. -/
theorem cachedCookie?_forget (h : v.call = .forget id) (j : Nat) (u : String) :
    v.after.cachedCookie? j u = if j = id then none else v.before.cachedCookie? j u := by
  unfold after
  rw [h]
  exact World.cachedCookie?_filter v.before id j u

/-- The cookie that is kept after a call: the one that the call grants, or else the one that was
kept before, unless the call forgets its session. -/
theorem cachedCookie?_after (v : Visit) (j : Nat) (u c : String) :
    v.after.cachedCookie? j u = some c ↔ v.Grants j u c ∨
      (¬ v.Forgets j ∧ ∀ d, ¬ v.Grants j u d) ∧ v.before.cachedCookie? j u = some c := by
  cases h : v.call with
  | request id url plan =>
    have hforgets : ¬ v.Forgets j := by
      intro hf
      rw [Forgets, h] at hf
      cases hf
    simp only [cachedCookie?_request h, hforgets, not_false_eq_true, true_and]
  | forget id =>
    have hgrants : ∀ d, ¬ v.Grants j u d := by
      rintro d ⟨⟨plan, hp⟩, -⟩
      rw [h] at hp
      cases hp
    have hforgets : v.Forgets j ↔ j = id := by
      rw [Forgets, h, SessionCall.forget.injEq, eq_comm]
    rw [cachedCookie?_forget h]
    simp only [hgrants, hforgets, false_or, not_false_eq_true, implies_true, and_true]
    split
    · simp_all
    · simp_all

theorem cachedCookie?_of_not_concerns {j : Nat} {u : String} (h : ¬ v.call.Concerns j u) :
    v.after.cachedCookie? j u = v.before.cachedCookie? j u := by
  have hforgets : ¬ v.Forgets j := by
    intro hf
    apply h
    rw [hf]
    rfl
  have hgrants : ∀ d, ¬ v.Grants j u d := by
    rintro d ⟨⟨plan, hp⟩, -⟩
    apply h
    rw [hp]
    exact ⟨rfl, rfl⟩
  ext c
  rw [cachedCookie?_after]
  simp [hforgets, hgrants]

end Visit

/-- After any run the cookie that is kept for a session and a base is the one that was granted last
and was not forgotten since. -/
theorem Leads.cachedCookie?_eq_some {vs : List Visit} {w : World} (h : Leads vs w) (id : Nat)
    (url c : String) : w.cachedCookie? id url = some c ↔ IsCurrent vs id url c := by
  induction h with
  | start h =>
    unfold World.cachedCookie?
    rw [h]
    exact ⟨nofun, fun hc => absurd hc (not_since_nil _ _)⟩
  | call v h hkept ih =>
    unfold IsCurrent
    rw [World.cachedCookie?_congr hkept, v.cachedCookie?_after, since_concat, ih]
    rfl

/-- A call leaves the cookies alone that it is not about. A request fails before it is sent, or
sends one request, which carries the cookie that is current, or else none but proves with the
session's own authentication who it is. It leaves the sessions their authentication. -/
theorem cookies_reused {vs : List Visit} (v : Visit) (h : Leads vs v.before) :
    (∀ j u, ¬ v.call.Concerns j u → v.after.cachedCookie? j u = v.before.cachedCookie? j u) ∧
    ∀ id url plan, v.call = .request id url plan →
      ((v.after.history = v.before.history ∧ ¬ v.Returned ∧
          ((∃ e, Url.joinValues (.text url) plan.path = .error e) ∨ plan.MayFail v.before)) ∨
        ∃ q, v.after.history = q :: v.before.history ∧
          ((∃ c, IsCurrent vs id url c ∧ q.cookies = ["hadoop.auth=" ++ c] ∧ q.auth = none) ∨
            (∀ c, ¬ IsGranted vs id url c) ∧ q.cookies = [] ∧
              q.auth = (v.before.session id).auth)) ∧
      ∀ target, Url.joinValues (.text url) plan.path = .ok target → ∀ j,
        (v.after.session j).auth = (v.before.session j).auth := by
  refine ⟨fun j u hconcerns => Visit.cachedCookie?_of_not_concerns hconcerns,
    fun id url plan hcall => ⟨?_, fun target hjoin j => ?_⟩⟩
  · obtain ⟨r, hr, hreturned⟩ := Visit.exists_requested hcall
    rcases (makeRequest_requested rfl hr).sent with
      ⟨hsame, ⟨f, rfl⟩, hwhy⟩ | ⟨q, hhistory, hheaders, hauth⟩
    · refine Or.inl ⟨hsame, fun hv => ?_, hwhy⟩
      obtain ⟨a, ha⟩ := hreturned.mp hv
      cases ha
    · refine Or.inr ⟨q, hhistory, ?_⟩
      rw [Request.cookies_eq hheaders]
      cases hcookie : v.before.cachedCookie? id url with
      | some c =>
        rw [hcookie] at hauth
        exact Or.inl ⟨c, (h.cachedCookie?_eq_some id url c).mp hcookie, rfl, hauth⟩
      | none =>
        rw [hcookie] at hauth
        refine Or.inr ⟨fun c hc => ?_, rfl, hauth⟩
        obtain ⟨d, hd⟩ := exists_isCurrent hc
        rw [(h.cachedCookie?_eq_some id url d).mpr hd] at hcookie
        cases hcookie
  · obtain ⟨r, hr, -⟩ := Visit.exists_requested hcall
    exact makeRequest_auth rfl hr hjoin j

/-- A session that is granted a cookie by its first request, and the request that it sends next. -/
def Visit.granted : Visit where
  call := .request 0 "http://rm:8088/ws/v1/cluster/" { url := .null, path := .text "info" }
  before := {
    sessions := [{ auth := some (.simple (.text "alice")) }]
    server := fun _ _ => ⟨[("hadoop.auth", some "t")], .ok ⟨200, .text "OK", []⟩⟩ }

def Visit.again (v : Visit) : Visit := ⟨v.call, v.after⟩

def Visit.forgetting (v : Visit) : Visit := ⟨.forget 0, v.after⟩

theorem Visit.granted_grants : granted.Grants 0 "http://rm:8088/ws/v1/cluster/" "t" :=
  ⟨⟨_, rfl⟩, ⟨_, rfl⟩, rfl⟩

theorem cookies_reused_again : Leads [Visit.granted] Visit.granted.again.before ∧
    ∃ q, Visit.granted.again.after.history = q :: Visit.granted.after.history ∧
      q.cookies = ["hadoop.auth=t"] ∧ q.auth = none := by
  have hleads : Leads [Visit.granted] Visit.granted.again.before :=
    .call Visit.granted (.start rfl) rfl
  have hcurrent : IsCurrent [Visit.granted] 0 "http://rm:8088/ws/v1/cluster/" "t" :=
    ⟨[], Visit.granted, [], rfl, Visit.granted_grants, nofun⟩
  refine ⟨hleads, ?_⟩
  rcases ((cookies_reused Visit.granted.again hleads).2 _ _ _ rfl).1 with
    ⟨hsame, -⟩ | ⟨q, hq, ⟨c, hc, hcookies, hauth⟩ | ⟨hnone, -⟩⟩
  · exact absurd (congrArg List.length hsame) (by decide +kernel)
  · have hkept := (hleads.cachedCookie?_eq_some 0 _ c).mpr hc
    rw [(hleads.cachedCookie?_eq_some 0 _ "t").mpr hcurrent] at hkept
    cases hkept
    exact ⟨q, hq, hcookies, hauth⟩
  · exact absurd hcurrent.isGranted (hnone "t")

end ClusterSubmission
