import ClusterSubmission.Proofs.Exchange

/-!
# Requests to the services

A request to a service sends exactly one request, to the address of the service, and ends as its
reply says. Nothing is sent once the session is closed.
-/
namespace ClusterSubmission

variable {id : Nat} {w w' : World}

theorem send_spec (id : Nat) (q : Request) (w : World) :
    ∃ e : Exchange, e.request = q ∧ (send id q w).1 = e.reply.outcome ∧
      Sends id w [e] (send id q w).2 := by
  refine ⟨⟨q, w.server w.history q⟩, rfl, rfl,
    ⟨⟨⟨rfl, rfl, rfl, List.length_set, ?_⟩, ?_, rfl, rfl⟩, rfl, rfl⟩⟩
  · exact World.session_setSession Session.isOpen rfl
  · exact World.session_setSession Session.version rfl

/-- The authentication cookie in the jar of a session, if it has one that is not empty. -/
def Session.jarCookie? (s : Session) : Option String :=
  ((s.cookies.find? (·.1 == authCookie)).map (·.2)).filter (· != "")

/-- The world in which the cookie in the jar of a session is kept for a base. -/
def World.keepJarCookie (w : World) (id : Nat) (url : String) : World :=
  match (w.session id).jarCookie? with
  | some c => w.cacheCookie id url c
  | none => w

/-- Keeping the cookie of a session never fails. -/
theorem keepCookie_eq (id : Nat) (url : String) (w : World) :
    keepCookie id url w = (.ok (), w.keepJarCookie id url) := by
  have hline : Log.ClosesNothing "Request session auth cookie stored".toList :=
    Log.closesNothing_of_notMem (by decide)
  unfold keepCookie World.keepJarCookie Session.jarCookie?
  rw [Run.get_bind]
  cases hfind : (w.session id).cookies.find? (·.1 == authCookie) with
  | none => rfl
  | some e =>
    by_cases hc : (e.2 != "") = true
    · simp only [hc, if_true, Run.modify_bind]
      rw [Run.debug_of_closesNothing hline]
      simp [Option.filter, hc]
    · simp [Option.filter, hc]

theorem keepCookie_spec (id : Nat) (url : String) (w : World) :
    ∃ w', keepCookie id url w = (.ok (), w') ∧ Sends id w [] w' := by
  refine ⟨_, keepCookie_eq id url w, ?_⟩
  unfold World.keepJarCookie
  split
  · exact ⟨⟨⟨rfl, (List.append_nil _).symm, rfl, rfl, rfl⟩, rfl, rfl, rfl⟩, rfl, rfl⟩
  · exact Sends.refl id w

/-- What is done with an answer: it is looked at, and the session's cookie is kept. -/
def acceptAnswer (id : Nat) (url target : String) (a : Response) : Run Response := do
  Run.debug ("Got response: response.status_code=" ++ Text.intText a.status
    ++ ", response.reason=" ++ a.reason.literal)
  match statusFailure? target a with
  | some f => fun w =>
    (.error (requestFailure w.environment w.ticketList f (some a) (w.session id).proxies), w)
  | none => do keepCookie id url; return a

/-- A planned request is sent, and its answer is looked at. -/
theorem exchange_eq (id : Nat) (url : String) {target : String} (cookie : Option String)
    {plan : RequestPlan}
    (hline : Log.ClosesNothing ("Sending request to '" ++ target ++ "' with: method="
      ++ plan.method.literal ++ ", params=" ++ plan.params.literal).toList)
    (hothers : plan.others = []) (hraise : plan.raiseForStatus.isSet = true) (w : World) :
    exchange id url target cookie plan w =
      (do
        let a ← send id ⟨plan.method, target, (w.session id).auth, plan.data,
          requestHeaders cookie, plan.timeout, plan.params, plan.others⟩
        acceptAnswer id url target a) w := by
  unfold exchange
  rw [Run.bind_of_ok (Run.debug_of_closesNothing hline w)]
  simp only [hothers, hraise, List.any_nil, if_true]
  rfl

/-- An answer is accepted or refused by its status, unless the record of it fails. -/
theorem acceptAnswer_spec {url target : String} {a : Response} {r : Except Failure Response}
    {e : Exchange} (he : e.reply.outcome = .ok a)
    (h : acceptAnswer id url target a w = (r, w')) :
    Sends id w [] w' ∧ Ends w e .ok r ∧ ∀ f, r = .error f → f.kind.isTransport = false := by
  unfold acceptAnswer at h
  rcases Run.debug_cases ("Got response: response.status_code=" ++ Text.intText a.status
    ++ ", response.reason=" ++ a.reason.literal) w with hd | ⟨f, hd, hf⟩
  · rw [Run.bind_of_ok hd] at h
    rcases hs : statusFailure? target a with _ | g
    · have hrefused : a.isRefused = false := by
        rw [← statusFailure?_isSome target a, hs]
        rfl
      obtain ⟨w₁, hkeep, hsends⟩ := keepCookie_spec id url w
      simp only [hs, Run.bind_of_ok hkeep, Run.pure_apply] at h
      cases h
      exact ⟨hsends, .answered a (by simp [Exchange.answer?, he, hrefused]),
        fun f hf => by cases hf⟩
    · have hrefused : a.isRefused = true := by
        rw [← statusFailure?_isSome target a, hs]
        rfl
      obtain ⟨hkind, hbare⟩ := requestFailure_status w.environment w.ticketList g
        (w.session id).proxies hrefused
      simp only [hs] at h
      cases h
      refine ⟨Sends.refl id w, .refused a _ he hrefused hkind hbare, fun f hf => ?_⟩
      cases hf
      rcases hkind with hkind | hkind <;> rw [hkind] <;> rfl
  · rw [Run.bind_of_error hd] at h
    cases h
    refine ⟨Sends.refl id w, .hidden a f he hf, fun g hg => ?_⟩
    cases hg
    rw [hf.1]
    rfl

/-- Only a failure of the transport is translated. -/
theorem translateTrouble_error {body : Run Response} {f : Failure} (h : body w = (.error f, w')) :
    translateTrouble id body w = (.error (if f.kind.isTransport then
      requestFailure w'.environment w'.ticketList f none (w'.session id).proxies else f), w') := by
  unfold translateTrouble
  rw [h]
  dsimp only
  split <;> rfl

theorem translateTrouble_still {body : Run Response} {r : Except Failure Response}
    (h : body w = (r, w')) (hr : ∀ f, r = .error f → f.kind.isTransport = false) :
    translateTrouble id body w = (r, w') := by
  cases r with
  | ok a =>
    unfold translateTrouble
    rw [h]
  | error f => rw [translateTrouble_error h, hr f rfl, if_neg Bool.false_ne_true]

/-- A planned request whose record can be shown is sent once, and ends as its reply says. -/
theorem exchange_spec {url target : String} {cookie : Option String} {plan : RequestPlan}
    {r : Except Failure Response}
    (hline : Log.ClosesNothing ("Sending request to '" ++ target ++ "' with: method="
      ++ plan.method.literal ++ ", params=" ++ plan.params.literal).toList)
    (hothers : plan.others = []) (hraise : plan.raiseForStatus.isSet = true)
    (h : translateTrouble id (exchange id url target cookie plan) w = (r, w')) :
    ∃ e : Exchange, e.request.method = plan.method ∧ e.request.url = target ∧
      e.request.data = plan.data ∧ Sends id w [e] w' ∧ Ends w e .ok r := by
  have heq := exchange_eq id url cookie hline hothers hraise w
  obtain ⟨e, hq, hout, hsends⟩ := send_spec id ⟨plan.method, target, (w.session id).auth, plan.data,
    requestHeaders cookie, plan.timeout, plan.params, plan.others⟩ w
  refine ⟨e, by rw [hq], by rw [hq], by rw [hq], ?_⟩
  rcases hsent : send id ⟨plan.method, target, (w.session id).auth, plan.data,
    requestHeaders cookie, plan.timeout, plan.params, plan.others⟩ w with ⟨g | a, w₁⟩
  · rw [hsent] at hout hsends
    rw [Run.bind_of_error hsent] at heq
    rw [translateTrouble_error heq] at h
    by_cases hg : g.kind.isTransport = true
    · obtain ⟨hkind, hbare⟩ := requestFailure_transport w₁.environment w₁.ticketList
        (w₁.session id).proxies hg
      rw [if_pos hg] at h
      cases h
      exact ⟨hsends, .unreachable g _ hout.symm hg hkind hbare⟩
    · rw [if_neg hg] at h
      cases h
      exact ⟨hsends, .raised g g hout.symm (by simpa using hg) (Or.inl rfl)⟩
  · rw [hsent] at hout hsends
    rw [Run.bind_of_ok hsent] at heq
    rcases haccept : acceptAnswer id url target a w₁ with ⟨r₁, w₂⟩
    obtain ⟨hrest, hends, hkind⟩ := acceptAnswer_spec (e := e) hout.symm haccept
    -- What fails behind an answer is none of the transport, so it stays as it is.
    cases h.symm.trans (translateTrouble_still (heq.trans haccept) hkind)
    exact ⟨hsends.trans hrest, hends.of_talks hsends.toTalks⟩

/-- The world in which a session proves in another way who it is. -/
def World.withAuth (w : World) (id : Nat) (auth : Option AuthHandler) : World :=
  w.setSession id { w.session id with auth := auth }

/-- The world in which a session sends: its own authentication is off while it has a cookie to
send. -/
def World.sending (w : World) (id : Nat) (cookie : Option String) : World :=
  if cookie.isSome then w.withAuth id none else w

/-- A request puts its address together, while the session sends already, and then sends. -/
theorem makeRequest_eq {id : Nat} {url : String} {plan : RequestPlan} (hurl : plan.url = .text url)
    (w : World) : makeRequest id plan w = (do
      let target ← Run.ofExcept (Url.joinValues (.text url) plan.path)
      Run.andFinally (translateTrouble id (exchange id url target.plain (w.cachedCookie? id url)
          plan)) (setSessionAuth id (w.session id).auth))
        (w.sending id (w.cachedCookie? id url)) := by
  have hkey : ¬ (!(Value.text url).isKey) = true := nofun
  unfold makeRequest World.sending
  rw [hurl, if_neg hkey]
  dsimp only
  rw [Run.get_bind, show (Value.text url).plain = url from rfl]
  by_cases hcookie : (w.cachedCookie? id url).isSome = true
  · rw [if_pos hcookie, if_pos hcookie]
    rfl
  · rw [if_neg hcookie, if_neg hcookie]

theorem makeRequest_of_error {id : Nat} {url : String} {plan : RequestPlan} {e : Reason}
    (hurl : plan.url = .text url) (hjoin : Url.joinValues (.text url) plan.path = .error e)
    (w : World) :
    makeRequest id plan w = (.error e.failure, w.sending id (w.cachedCookie? id url)) := by
  rw [makeRequest_eq hurl, hjoin, Run.ofExcept_error_bind]

theorem makeRequest_of_ok {id : Nat} {url : String} {plan : RequestPlan} {target : Value}
    {w w₁ : World} {r : Except Failure Response} (hurl : plan.url = .text url)
    (hjoin : Url.joinValues (.text url) plan.path = .ok target)
    (h : translateTrouble id (exchange id url target.plain (w.cachedCookie? id url) plan)
      (w.sending id (w.cachedCookie? id url)) = (r, w₁)) :
    makeRequest id plan w = (r, w₁.withAuth id (w.session id).auth) := by
  rw [makeRequest_eq hurl, hjoin, Run.ofExcept_ok_bind]
  unfold Run.andFinally
  rw [h]
  rfl

/-- A request of a session to a service: one request is sent, and the session's own authentication
is set again afterwards. -/
theorem makeRequest_spec {address : String} {s : Service} {plan : RequestPlan} {m : String}
    {r : Except Failure Response} (ha : IsServiceAddress address) (hs : s.IsNamed)
    (hurl : plan.url = .text address) (hpath : plan.path = .text s.path)
    (hmethod : plan.method = .text m) (hm : m ∈ ["GET", "POST"]) (hparams : plan.params = .null)
    (hothers : plan.others = []) (hraise : plan.raiseForStatus.isSet = true)
    (h : makeRequest id plan w = (r, w')) :
    ∃ e : Exchange, e.request.method = .text m ∧ e.request.url = s.url address ∧
      e.request.data = plan.data ∧ Sends id w [e] w' ∧ Ends w e .ok r := by
  have hjoin : Url.joinValues (.text address) plan.path = .ok (.text (s.url address)) := by
    rw [hpath]
    exact Service.joinValues_path ha hs
  have hline : Log.ClosesNothing ("Sending request to '" ++ s.url address ++ "' with: method="
      ++ plan.method.literal ++ ", params=" ++ plan.params.literal).toList := by
    have hafter : ∀ t ∈ ["GET", "POST"], '[' ∉ ("' with: method=" ++ (Value.text t).literal
        ++ ", params=" ++ Value.null.literal).toList ∧ ']' ∉ ("' with: method="
        ++ (Value.text t).literal ++ ", params=" ++ Value.null.literal).toList := by
      decide +kernel
    have hclean := closesNothing_url ha hs (show '[' ∉ "Sending request to '".toList by decide)
      (hafter m hm)
    rw [hmethod, hparams]
    simpa only [String.append_assoc] using hclean
  -- A cookie that is kept for the address takes the place of the authentication.
  have hbefore : Sends id w [] (w.sending id (w.cachedCookie? id address)) := by
    unfold World.sending
    split
    · exact Sends.setSession rfl rfl
    · exact Sends.refl id w
  rcases hbody : translateTrouble id (exchange id address (s.url address)
    (w.cachedCookie? id address) plan) (w.sending id (w.cachedCookie? id address)) with ⟨r₁, w₂⟩
  obtain ⟨e, hem, heu, hed, hsends, hends⟩ := exchange_spec hline hothers hraise hbody
  cases h.symm.trans (makeRequest_of_ok hurl hjoin hbody)
  refine ⟨e, hem.trans hmethod, heu, hed, ?_, hends.of_talks hbefore.toTalks⟩
  have hafter : Sends id w₂ [] (w₂.withAuth id (w.session id).auth) := Sends.setSession rfl rfl
  simpa using (hbefore.trans hsends).trans hafter

/-- The method that a service is asked with. -/
def Service.method : Service → String
  | .info | .application _ => "GET"
  | .newApplication | .apps | .delegationToken => "POST"

/-- An exchange whose request asks a service. -/
def Exchange.IsTo (e : Exchange) (address : String) (s : Service) : Prop :=
  e.request.method = .text s.method ∧ e.request.url = s.url address

/-- A request asks one service, up to what of its path gets into the address. -/
theorem Exchange.IsTo.unique {address : String} {s s' : Service} {e : Exchange}
    (h : e.IsTo address s) (h' : e.IsTo address s') :
    s.method = s'.method ∧ Url.stripped s.path.toList = Url.stripped s'.path.toList := by
  constructor
  · exact Value.text.inj (h.1.symm.trans h'.1)
  · have hurl := congrArg String.toList (h.2.symm.trans h'.2)
    simpa [Service.url, String.toList_append] using hurl

theorem Exchange.IsTo.eq_apps {address : String} {s : Service} {e : Exchange}
    (h : e.IsTo address .apps) (h' : e.IsTo address s) : s = .apps := by
  obtain ⟨hmethod, hpath⟩ := h.unique h'
  cases s with
  | apps => rfl
  | info | application id => exact absurd hmethod (by simp [Service.method])
  | newApplication | delegationToken => exact absurd hpath (by decide)

theorem Exchange.IsTo.eq_info {address : String} {s : Service} {e : Exchange}
    (h : e.IsTo address .info) (h' : e.IsTo address s) : s = .info := by
  obtain ⟨hmethod, hpath⟩ := h.unique h'
  cases s with
  | info => rfl
  | apps | newApplication | delegationToken => exact absurd hmethod (by simp [Service.method])
  | application id =>
    have hstart : (Url.stripped (Service.application id).path.toList).head? = some 'a' := by
      simp [Service.path, String.toList_append, Url.stripped]
    rw [← hpath] at hstart
    exact absurd hstart (by decide)

namespace ResourceManager

open Message (answerValue)

variable {rm : ResourceManager} {r : Except Failure Value}

/-- The plan of a request to a service. -/
def plan (rm : ResourceManager) (s : Service) (data : Value) : RequestPlan :=
  { url := .text rm.address, path := .text s.path, method := .text s.method, data := data,
    timeout := rm.timeout }

/-- A request to a service of an open session. -/
theorem request_spec {s : Service} {body data : Value} (ha : IsServiceAddress rm.address)
    (hs : s.IsNamed) (hopen : (w.session rm.session).isOpen = true)
    (hdata : requestBody body = .ok data)
    (h : rm.request s.path (.text s.method) body [] w = (r, w')) :
    ∃ e : Exchange, e.IsTo rm.address s ∧ e.request.data = data ∧ Sends rm.session w [e] w' ∧
      Ends w e answerValue r := by
  have hmethod : s.method ∈ ["GET", "POST"] := by
    cases s <;> simp [Service.method]
  have hisOpen : rm.isOpen w = (.ok true, w) := by
    unfold isOpen
    rw [Run.get_bind, hopen]
    rfl
  have hsteps : rm.request s.path (.text s.method) body [] w =
      (makeRequest rm.session (rm.plan s data) >>= fun a => Run.ofExcept (answerContent a)) w := by
    unfold request
    rw [Run.bind_of_ok hisOpen, hdata]
    rfl
  rw [hsteps] at h
  rcases hmake : makeRequest rm.session (rm.plan s data) w with ⟨r₁, w₁⟩
  obtain ⟨e, hem, heu, hed, hsends, hends⟩ := makeRequest_spec ha hs rfl rfl rfl hmethod rfl
    rfl rfl hmake
  have hanswer : r = r₁ >>= answerValue ∧ w' = w₁ := by
    cases r₁ with
    | error f =>
      rw [Run.bind_of_error hmake] at h
      cases h
      exact ⟨rfl, rfl⟩
    | ok a =>
      rw [Run.bind_of_ok hmake] at h
      unfold answerValue
      cases hcontent : answerContent a <;> rw [hcontent] at h <;> cases h
      · exact ⟨by simp [bind, Except.bind, hcontent], rfl⟩
      · exact ⟨by simp [bind, Except.bind, hcontent], rfl⟩
  obtain ⟨rfl, rfl⟩ := hanswer
  exact ⟨e, ⟨hem, heu⟩, hed, hsends, hends.bind answerValue⟩

theorem cluster_spec (ha : IsServiceAddress rm.address)
    (hopen : (w.session rm.session).isOpen = true) (h : rm.cluster [] w = (r, w')) :
    ∃ e : Exchange, e.IsTo rm.address .info ∧ Sends rm.session w [e] w' ∧
      Ends w e answerValue r := by
  obtain ⟨e, hto, -, hsends, hends⟩ := request_spec (s := .info) ha trivial hopen rfl h
  exact ⟨e, hto, hsends, hends⟩

theorem newApplication_spec (ha : IsServiceAddress rm.address)
    (hopen : (w.session rm.session).isOpen = true) (h : rm.newApplication [] w = (r, w')) :
    ∃ e : Exchange, e.IsTo rm.address .newApplication ∧ Sends rm.session w [e] w' ∧
      Ends w e answerValue r := by
  obtain ⟨e, hto, -, hsends, hends⟩ := request_spec (s := .newApplication) ha trivial hopen rfl h
  exact ⟨e, hto, hsends, hends⟩

theorem application_spec {handle : String} (ha : IsServiceAddress rm.address)
    (hid : ApplicationId.isValid handle = true) (hopen : (w.session rm.session).isOpen = true)
    (h : rm.application (.text handle) [] w = (r, w')) :
    ∃ e : Exchange, e.IsTo rm.address (.application handle) ∧ Sends rm.session w [e] w' ∧
      Ends w e answerValue r := by
  obtain ⟨e, hto, -, hsends, hends⟩ := request_spec (s := .application handle) ha hid hopen rfl h
  exact ⟨e, hto, hsends, hends⟩

theorem request_of_body_error {body : Value} {x : Reason} (path : String) (method : Value)
    (hopen : (w.session rm.session).isOpen = true) (hbody : requestBody body = .error x) :
    rm.request path method body [] w = (.error x.failure, w) := by
  have hisOpen : rm.isOpen w = (.ok true, w) := by
    unfold isOpen
    rw [Run.get_bind, hopen]
    rfl
  unfold request
  rw [Run.bind_of_ok hisOpen, hbody]
  rfl

/-- A token is asked for with one request, or not at all if the renewer has no form in a
document. -/
theorem delegationToken_cases {renewer : Value} (ha : IsServiceAddress rm.address)
    (hopen : (w.session rm.session).isOpen = true)
    (h : rm.delegationToken renewer [] w = (r, w')) :
    (∃ x, requestBody (.mapping [(.text "renewer", renewer)]) = .error x ∧
      r = .error x.failure ∧ w' = w) ∨
    ∃ e : Exchange, e.IsTo rm.address .delegationToken ∧ Sends rm.session w [e] w' ∧
      Ends w e answerValue r := by
  rcases hdata : requestBody (.mapping [(.text "renewer", renewer)]) with x | data
  · have herror := request_of_body_error "delegation-token" (.text "POST") hopen hdata
    change rm.request "delegation-token" (.text "POST") _ [] w = (r, w') at h
    rw [herror] at h
    cases h
    exact Or.inl ⟨x, rfl, rfl, rfl⟩
  · obtain ⟨e, hto, -, hsends, hends⟩ :=
      request_spec (s := .delegationToken) ha trivial hopen hdata h
    exact Or.inr ⟨e, hto, hsends, hends⟩

/-- An application is submitted with one request, or none at all. -/
theorem submitApplication_cases {context : Value} (ha : IsServiceAddress rm.address)
    (hopen : (w.session rm.session).isOpen = true)
    (h : rm.submitApplication context [] w = (r, w')) :
    (∃ f, r = .error f ∧ w' = w ∧ (IsConsoleFault w f ∨
      ∃ x, requestBody context = .error x ∧ f = x.failure)) ∨
    ∃ (e : Exchange) (data : Value), requestBody context = .ok data ∧ e.IsTo rm.address .apps ∧
      e.request.data = data ∧ Sends rm.session w [e] w' ∧ Ends w e answerValue r := by
  unfold submitApplication at h
  rcases Run.debug_cases ("Submitting application context: " ++ context.plain) w
    with hd | ⟨f, hd, hf⟩
  · rw [Run.bind_of_ok hd] at h
    rcases hdata : requestBody context with x | data
    · have herror := request_of_body_error "apps" (.text "POST") hopen hdata
      change rm.request "apps" (.text "POST") context [] w = (r, w') at h
      rw [herror] at h
      cases h
      exact Or.inl ⟨_, rfl, rfl, Or.inr ⟨x, rfl, rfl⟩⟩
    · obtain ⟨e, hto, hed, hsends, hends⟩ := request_spec (s := .apps) ha trivial hopen hdata h
      exact Or.inr ⟨e, data, rfl, hto, hed, hsends, hends⟩
  · rw [Run.bind_of_error hd] at h
    cases h
    exact Or.inl ⟨f, rfl, rfl, Or.inl hf⟩

end ResourceManager

end ClusterSubmission
