import ClusterSubmission.Proofs.CookieReuse

/-!
# How a request of a session ends

Once a request was sent, its reply decides how the call ends. An answer is returned unless its
status is that of a failure. Refusals and trouble in the transport become failures of the
submission: their kind follows from the status and from nothing else, and their words are those of
what went wrong, a hint, and the text of the answer. Every other failure is passed on as it is, and
no call that fails touches the cookies that are kept.
-/
namespace ClusterSubmission

/-- The text of an answer behind the words of a failure, where an empty one does not stand. -/
def answerPart (answer : String) : String :=
  if answer == "" then "" else "\n\nOriginal server response:\n" ++ answer

/-- A failure that stands for another one and an answer: it names the kind of the other one as its
cause, and has the words of both. -/
structure Failure.Explains (f : Failure) (k : FailureKind) (original : Failure) (answer : String) :
    Prop where
  kind : f.kind = k
  cause : f.cause = some original.kind
  message : ∃ hint, f.message = original.message ++ "\n\n" ++ hint ++ answerPart answer

section Translation

variable (environment : List (String × String)) (tickets : Option String) (proxies : Value)

/-- A refusal is explained by its status. Only a choice of the server has it as its code. -/
theorem requestFailure_refused (g : Failure) {a : Response} (h : a.isRefused = true) :
    (requestFailure environment tickets g (some a) proxies).Explains
      (refusalKind a.status) g a.text ∧
      (refusalKind a.status = .rejected →
        (requestFailure environment tickets g (some a) proxies).statusCode = .int a.status) := by
  have hstatus : 400 ≤ a.status := of_decide_eq_true (Bool.and_eq_true_iff.mp h).1
  obtain ⟨hint, hhint⟩ := statusHint?_eq (ticketText tickets) hstatus
  unfold requestFailure
  simp only [Option.map_some, Option.bind_some, hhint, Option.getD_some]
  constructor
  · refine ⟨rfl, rfl, hint, ?_⟩
    unfold answerPart
    split
    · exact String.append_empty.symm
    · exact String.append_assoc
  · intro hkind
    rw [hkind]

/-- Trouble in the transport is explained by its own words. -/
theorem requestFailure_unreachable {g : Failure} (h : g.kind.isTransport = true) :
    (requestFailure environment tickets g none proxies).Explains .communication g "" := by
  unfold FailureKind.isTransport at h
  split at h
  · rename_i fault hkind
    unfold requestFailure
    simp only [Option.map_none, Option.bind_none, hkind]
    exact ⟨rfl, by rw [hkind], _, String.append_empty.symm⟩
  · cases h

end Translation

/-- How a call ends whose request was sent, by the reply to it. -/
inductive Classified (plan : RequestPlan) (target : String) (reply : Reply) :
    Except Failure Response → Prop
  | returned (a : Response) (h : reply.outcome = .ok a)
      (hs : plan.raiseForStatus.isSet = true → a.status < 400 ∨ 600 ≤ a.status) :
      Classified plan target reply (.ok a)
  | distrusted (a : Response) (g f : Failure) (h : reply.outcome = .ok a)
      (hraise : plan.raiseForStatus.isSet = true) (hs : a.status = 401 ∨ a.status = 403)
      (hg : statusFailure? target a = some g) (hf : f.Explains .auth g a.text) :
      Classified plan target reply (.error f)
  | declined (a : Response) (g f : Failure) (h : reply.outcome = .ok a)
      (hraise : plan.raiseForStatus.isSet = true)
      (hs : 400 ≤ a.status ∧ a.status < 600 ∧ a.status ≠ 401 ∧ a.status ≠ 403)
      (hg : statusFailure? target a = some g) (hf : f.Explains .rejected g a.text)
      (hcode : f.statusCode = .int a.status) : Classified plan target reply (.error f)
  | unreachable (g f : Failure) (h : reply.outcome = .error g) (hg : g.kind.isTransport = true)
      (hf : f.Explains .communication g "") : Classified plan target reply (.error f)
  | raised (g : Failure) (h : reply.outcome = .error g) (hg : g.kind.isTransport = false) :
      Classified plan target reply (.error g)

section Outcome

variable {id : Nat} {url target : String} {cookie : Option String} {plan : RequestPlan}
  {w w' : World} {r : Except Failure Response}

/-- No call that was sent fails in the transport. -/
theorem Classified.isTransport {reply : Reply} {f : Failure}
    (h : Classified plan target reply (.error f)) : f.kind.isTransport = false := by
  cases h with
  | distrusted a g f h hraise hs hg hf =>
    rw [hf.kind]
    rfl
  | declined a g f h hraise hs hg hf =>
    rw [hf.kind]
    rfl
  | unreachable g f h hg hf =>
    rw [hf.kind]
    rfl
  | raised g h hg => exact hg

theorem IsConsoleFault.isTransport {f : Failure} (h : IsConsoleFault w f) :
    f.kind.isTransport = false := by
  rw [h.1]
  rfl

theorem classified_of_accepted {reply : Reply} {a : Response} (h : reply.outcome = .ok a)
    (hnone : plan.raiseForStatus.isSet = true → statusFailure? target a = none) :
    Classified plan target reply (.ok a) := by
  apply Classified.returned a h
  intro hraise
  have hrefused : a.isRefused = false := by
    rw [← statusFailure?_isSome target a, hnone hraise]
    rfl
  unfold Response.isRefused at hrefused
  simp only [Bool.and_eq_false_iff, decide_eq_false_iff_not] at hrefused
  omega

/-- A refusal is classified by its status. -/
theorem classified_of_refused {reply : Reply} {a : Response} {g : Failure}
    (environment : List (String × String)) (tickets : Option String) (proxies : Value)
    (h : reply.outcome = .ok a) (hraise : plan.raiseForStatus.isSet = true)
    (hg : statusFailure? target a = some g) :
    Classified plan target reply
      (.error (requestFailure environment tickets g (some a) proxies)) := by
  have hrefused : a.isRefused = true := by
    rw [← statusFailure?_isSome target a, hg]
    rfl
  obtain ⟨hf, hcode⟩ := requestFailure_refused environment tickets proxies g hrefused
  obtain ⟨hlow, hhigh⟩ := Bool.and_eq_true_iff.mp hrefused
  unfold refusalKind at hf hcode
  by_cases hs : a.status = 401 ∨ a.status = 403
  · rw [if_pos hs] at hf
    exact .distrusted a g _ h hraise hs hg hf
  · rw [if_neg hs] at hf hcode
    apply Classified.declined a g _ h hraise _ hg hf (hcode rfl)
    have hlow := of_decide_eq_true hlow
    have hhigh := of_decide_eq_true hhigh
    omega

theorem classified_of_trouble {reply : Reply} {g : Failure} (environment : List (String × String))
    (tickets : Option String) (proxies : Value) (h : reply.outcome = .error g) :
    Classified plan target reply (.error (if g.kind.isTransport then
      requestFailure environment tickets g none proxies else g)) := by
  by_cases hg : g.kind.isTransport = true
  · rw [if_pos hg]
    exact .unreachable g _ h hg (requestFailure_unreachable environment tickets proxies hg)
  · rw [if_neg hg]
    exact .raised g h (by simpa using hg)

/-- What keeps a planned request from being sent. -/
def RequestPlan.IsUnsent (plan : RequestPlan) (w : World) (f : Failure) : Prop :=
  IsConsoleFault w f ∨ plan.others.any (·.1 == "headers") = true ∧ f = Reason.wrongType.failure

/-- A request that was sent, and how the call ends then: as the reply says, unless the record of the
answer fails. -/
def SendsAndEnds (plan : RequestPlan) (target : String) (w : World) (r : Except Failure Response)
    (w' : World) : Prop :=
  ∃ q, w'.history = q :: w.history ∧ q.url = target ∧
    ((∃ a f, (w.server w.history q).outcome = .ok a ∧ r = .error f ∧ IsConsoleFault w f) ∨
      Classified plan target (w.server w.history q) r)

/-- A request that is sent has a reply, and changes nothing about the records. -/
theorem send_replied {q : Request} {w₁ : World} (h : send id q w = (r, w₁)) :
    (w.server w.history q).outcome = r ∧ w₁.history = q :: w.history ∧
      ∀ f, IsConsoleFault w₁ f → IsConsoleFault w f := by
  unfold send at h
  cases h
  exact ⟨rfl, rfl, fun f hf => hf⟩

theorem exchange_ends (h : translateTrouble id (exchange id url target cookie plan) w = (r, w')) :
    (∃ f, r = .error f ∧ w' = w ∧ plan.IsUnsent w f) ∨ SendsAndEnds plan target w r w' := by
  rcases hexchange : exchange id url target cookie plan w with ⟨r₁, w₁⟩
  rcases exchange_cases id url target cookie plan hexchange with
    ⟨f, rfl, rfl, hf⟩ | ⟨g, w₂, hsend, rfl, rfl⟩ | ⟨a, w₂, hsend, haccept⟩
  · have hkind : f.kind.isTransport = false := by
      rcases hf with hf | ⟨-, rfl⟩
      · exact hf.isTransport
      · rfl
    cases h.symm.trans (translateTrouble_still hexchange (by simpa using hkind))
    exact Or.inl ⟨f, rfl, rfl, hf⟩
  · obtain ⟨hout, hhistory, -⟩ := send_replied hsend
    cases h.symm.trans (translateTrouble_error hexchange)
    exact Or.inr ⟨_, hhistory, rfl, Or.inr (classified_of_trouble _ _ _ hout)⟩
  · obtain ⟨hout, hhistory, hfault⟩ := send_replied hsend
    -- Neither a refusal nor a record fails in the transport.
    rcases accept_cases haccept with ⟨f, rfl, rfl, hf | ⟨hraise, g, hg, rfl⟩⟩ | ⟨rfl, rfl, hnone⟩
    · cases h.symm.trans (translateTrouble_still hexchange (by simpa using hf.isTransport))
      exact Or.inr ⟨_, hhistory, rfl, Or.inl ⟨a, f, hout, rfl, hfault f hf⟩⟩
    · have hrefused := classified_of_refused w₁.environment w₁.ticketList (w₁.session id).proxies
        hout hraise hg
      cases h.symm.trans (translateTrouble_still hexchange (by simpa using hrefused.isTransport))
      exact Or.inr ⟨_, hhistory, rfl, Or.inr hrefused⟩
    · have hfine : ∀ f : Failure, Except.ok a = .error f → f.kind.isTransport = false := by
        intro f hf
        cases hf
      cases h.symm.trans (translateTrouble_still hexchange hfine)
      exact Or.inr ⟨_, (World.keepJarCookie_history url).trans hhistory, rfl,
        Or.inr (classified_of_accepted hout hnone)⟩

/-- A request of a session fails before it is sent, or is sent and ends as its reply says, unless a
record fails. -/
theorem makeRequest_ends (hurl : plan.url = .text url) (h : makeRequest id plan w = (r, w')) :
    (∃ f, r = .error f ∧ w'.history = w.history ∧ (plan.IsUnsent w f ∨
      ∃ e, Url.joinValues (.text url) plan.path = .error e ∧ f = e.failure)) ∨
    ∃ target, Url.joinValues (.text url) plan.path = .ok target ∧
      SendsAndEnds plan target.plain w r w' := by
  let cookie := w.cachedCookie? id url
  have hhistory : (w.sending id cookie).history = w.history := World.sending_history w id cookie
  have hserver : (w.sending id cookie).server = w.server := by
    unfold World.sending
    split <;> rfl
  have hfault : ∀ f, IsConsoleFault (w.sending id cookie) f → IsConsoleFault w f := by
    intro f hf
    unfold IsConsoleFault at hf
    rwa [World.sending_isTalkative] at hf
  cases hjoin : Url.joinValues (.text url) plan.path with
  | error e =>
    rw [makeRequest_of_error hurl hjoin] at h
    cases h
    exact Or.inl ⟨_, rfl, hhistory, Or.inr ⟨e, rfl, rfl⟩⟩
  | ok target =>
    rcases hbody : translateTrouble id (exchange id url target.plain cookie plan)
      (w.sending id cookie) with ⟨r₁, w₁⟩
    rw [makeRequest_of_ok hurl hjoin hbody] at h
    cases h
    rcases exchange_ends hbody with ⟨f, rfl, rfl, hf⟩ | ⟨q, hq, htarget, hends⟩
    · exact Or.inl ⟨f, rfl, hhistory, Or.inl (hf.imp_left (hfault f))⟩
    · rw [hserver, hhistory] at hends
      refine Or.inr ⟨target, rfl, q, hq.trans (by rw [hhistory]), htarget, hends.imp_left ?_⟩
      rintro ⟨a, f, hout, hr, hf⟩
      exact ⟨a, f, hout, hr, hfault f hf⟩

end Outcome

namespace Url

theorem checkBracketed_error {cs : List Char} {e : Reason} (h : checkBracketed cs = .error e) :
    ∃ text, e = .malformedAddress text := by
  unfold checkBracketed at h
  split at h
  · split at h
    · cases h
    · cases h
      exact ⟨_, rfl⟩
  · split at h
    · cases h
      exact ⟨_, rfl⟩
    · split at h
      · cases h
      · cases h
        exact ⟨_, rfl⟩

theorem checkHost_error {host : List Char} {e : Reason} (h : checkHost host = .error e) :
    ∃ text, e = .malformedAddress text := by
  have hlast : ∀ {e}, (if host.any (fun c => separatorLookalikes.contains c.toNat) = true then
      throw (.malformedAddress ("netloc '" ++ String.ofList host
        ++ "' contains invalid characters under NFKC normalization")) else pure () :
      Except Reason Unit) = .error e → ∃ text, e = .malformedAddress text := by
    intro e h
    split at h <;> cases h
    exact ⟨_, rfl⟩
  unfold checkHost at h
  simp only at h
  split at h
  · cases h
    exact ⟨_, rfl⟩
  · split at h
    · rcases bind_eq_error h with h | ⟨_, -, h⟩
      · exact checkBracketed_error h
      · exact hlast h
    · exact hlast h

/-- An address that cannot be taken apart is malformed. -/
theorem split_error {text scheme : List Char} {e : Reason} (h : split text scheme = .error e) :
    ∃ message, e = .malformedAddress message := by
  rw [split_eq] at h
  simp only at h
  rcases bind_eq_error h with h | ⟨_, -, h⟩
  · exact checkHost_error h
  · cases h

theorem join_error {base reference : List Char} {e : Reason} (h : join base reference = .error e) :
    ∃ message, e = .malformedAddress message := by
  unfold join at h
  split at h
  · cases h
  split at h
  · cases h
  rcases bind_eq_error h with h | ⟨b, -, h⟩
  · exact split_error h
  rcases bind_eq_error h with h | ⟨r, -, h⟩
  · exact split_error h
  split at h
  · cases h
  split at h
  · cases h
  simp only at h
  split at h <;> cases h

/-- Putting an address together never fails in the transport. -/
theorem joinValues_error {base reference : Value} {e : Reason}
    (h : joinValues base reference = .error e) : e.kind.isTransport = false := by
  unfold joinValues at h
  split at h
  · cases h
  split at h
  · cases h
  split at h
  · rcases bind_eq_error h with h | ⟨cs, -, h⟩
    · obtain ⟨message, rfl⟩ := join_error h
      rfl
    · cases h
  · cases h
    rfl

end Url

/-- A request at the level of warnings fails before it is sent, for an address that cannot be put
together or headers of its own, or its reply decides how it ends. No failure is one of the
transport, and whichever it is, the cookies that are kept stay as they are. -/
theorem http_failures_classified {id : Nat} {url : String} {plan : RequestPlan} {w w' : World}
    {r : Except Failure Response} (hlevel : w.levelFor libraryName = warningLevel)
    (hurl : plan.url = .text url) (h : makeRequest id plan w = (r, w')) :
    ((∃ e : Reason, r = .error e.failure ∧ w'.history = w.history ∧
        (Url.joinValues (.text url) plan.path = .error e ∨
          plan.others.any (·.1 == "headers") = true ∧ e = .wrongType)) ∨
      ∃ target q, Url.joinValues (.text url) plan.path = .ok target ∧
        w'.history = q :: w.history ∧ q.url = target.plain ∧
        Classified plan target.plain (w.server w.history q) r) ∧
    ∀ f, r = .error f → f.kind.isTransport = false ∧ w'.cookieCache = w.cookieCache := by
  have hquiet : ∀ f, ¬ IsConsoleFault w f := not_isConsoleFault (World.not_isTalkative hlevel)
  have hkept := (makeRequest_requested hurl h).failed
  rcases makeRequest_ends hurl h with
    ⟨f, rfl, hsame, (hf | ⟨hgiven, rfl⟩) | ⟨e, hjoin, rfl⟩⟩ |
    ⟨target, hjoin, q, hq, htarget, ⟨a, f, -, -, hf⟩ | hends⟩
  · exact absurd hf (hquiet f)
  · refine ⟨Or.inl ⟨_, rfl, hsame, Or.inr ⟨hgiven, rfl⟩⟩, ?_⟩
    intro f hf
    cases hf
    exact ⟨rfl, hkept _ rfl⟩
  · refine ⟨Or.inl ⟨e, rfl, hsame, Or.inl hjoin⟩, ?_⟩
    intro f hf
    cases hf
    exact ⟨Url.joinValues_error hjoin, hkept _ rfl⟩
  · exact absurd hf (hquiet f)
  · refine ⟨Or.inr ⟨target, q, hjoin, hq, htarget, hends⟩, ?_⟩
    intro f hf
    subst hf
    exact ⟨hends.isTransport, hkept f rfl⟩

/-- An answer of a server that has no time, with its words. -/
def busyAnswer : Response := ⟨503, .text "Busy", Text.utf8 "\x7bqueue\x7d is full"⟩

def World.busy : World where
  sessions := [{ auth := some (.simple (.text "alice")) }]
  server := fun _ _ => ⟨[], .ok busyAnswer⟩

def RequestPlan.posting : RequestPlan where
  url := .text "http://rm:8088/ws/v1/cluster/"
  path := .text "apps"
  method := .text "POST"

/-- A refusal has its status, the words for it, and those of the server, braces and all. -/
theorem http_failures_classified_busy : ∃ f, (makeRequest 0 .posting .busy).1 = .error f ∧
    f.kind = .rejected ∧ f.statusCode = .int 503 ∧ f.cause = some (.transport .status) ∧
    ∃ hint, f.message = "503 Server Error: Busy for url: http://rm:8088/ws/v1/cluster/apps"
      ++ "\n\n" ++ hint ++ "\n\nOriginal server response:\n\x7bqueue\x7d is full" := by
  have hsent : (makeRequest 0 .posting .busy).2.history.length = 1 := by decide +kernel
  have hwords : (statusFailure? "http://rm:8088/ws/v1/cluster/apps" busyAnswer).map
      (fun g => (g.kind, g.message)) = some (.transport .status,
        "503 Server Error: Busy for url: http://rm:8088/ws/v1/cluster/apps") := by decide +kernel
  have hanswer : answerPart busyAnswer.text =
      "\n\nOriginal server response:\n\x7bqueue\x7d is full" := by decide +kernel
  rcases h : makeRequest 0 .posting .busy with ⟨r, w'⟩
  rw [h] at hsent
  rcases (http_failures_classified rfl rfl h).1 with
    ⟨e, -, hsame, -⟩ | ⟨target, q, hjoin, hq, htarget, hclass⟩
  · rw [hsame] at hsent
    cases hsent
  cases hjoin.symm.trans (show Url.joinValues (.text "http://rm:8088/ws/v1/cluster/")
    (.text "apps") = .ok (.text "http://rm:8088/ws/v1/cluster/apps") from rfl)
  cases hclass with
  | returned a ha hs =>
    cases ha
    exact absurd (hs rfl) (by decide)
  | distrusted a g f ha hraise hs hg hf =>
    cases ha
    exact absurd hs (by decide)
  | declined a g f ha hraise hs hg hf hcode =>
    cases ha
    obtain ⟨hint, hmessage⟩ := hf.message
    change statusFailure? "http://rm:8088/ws/v1/cluster/apps" busyAnswer = some g at hg
    rw [hg] at hwords
    obtain ⟨hkind, hmessage'⟩ := Prod.mk.inj (Option.some.inj hwords)
    refine ⟨f, rfl, hf.kind, hcode, ?_, hint, ?_⟩
    · rw [hf.cause, hkind]
    · rw [hmessage, hmessage', hanswer]
  | unreachable g f ha hg hf => cases ha
  | raised g ha hg => cases ha

end ClusterSubmission
