import ClusterSubmission.Proofs.Reading
import ClusterSubmission.Proofs.Run
import ClusterSubmission.Proofs.ServiceAddress

/-!
# Exchanges with the server

A world remembers the requests that were sent, and the server's reply to each follows from those
before it. A request of a session adds one exchange and leaves everything else about the session as
it was. How the request ends is decided by the reply alone, as long as no record of the log fails.
-/
namespace ClusterSubmission

/-- Whether an answer has the status of a failure. -/
def Response.isRefused (a : Response) : Bool := 400 ≤ a.status && a.status < 600

/-- A request and the reply to it. -/
structure Exchange where
  request : Request
  reply : Reply

/-- The answer of an exchange, if there is one and it is no failure. -/
def Exchange.answer? (e : Exchange) : Option Response :=
  match e.reply.outcome with
  | .ok a => if a.isRefused then none else some a
  | .error _ => none

/-- The exchanges with a server, in order, by the requests it got, the last one first. -/
def exchangesOf (server : Server) : List Request → List Exchange
  | [] => []
  | q :: older => exchangesOf server older ++ [⟨q, server older q⟩]

/-- The exchanges of a world, in order. -/
def World.exchanges (w : World) : List Exchange := exchangesOf w.server w.history

/-- A server that answers, or fails in the transport. -/
def Server.IsHonest (server : Server) : Prop :=
  ∀ history q f, (server history q).outcome = .error f → f.kind.isTransport = true

/-- A server that always answers with the same text. -/
def Server.answering (text : String) : Server :=
  fun _ _ => ⟨[], .ok ⟨200, .text "OK", Text.utf8 text⟩⟩

theorem Server.isHonest_answering (text : String) : (Server.answering text).IsHonest := by
  intro history q f h
  cases h

theorem mem_exchangesOf {server : Server} {history : List Request} {e : Exchange}
    (h : e ∈ exchangesOf server history) : ∃ older, e.reply = server older e.request := by
  induction history with
  | nil => cases h
  | cons q older ih =>
    rcases List.mem_append.mp h with h | h
    · exact ih h
    · rw [List.mem_singleton.mp h]
      exact ⟨older, rfl⟩

/-- What an operation of a session may do: send requests, while the server, the loggers and the
sessions stay, and this session stays open or closed. -/
structure Talks (id : Nat) (w : World) (sent : List Exchange) (w' : World) : Prop where
  server : w'.server = w.server
  exchanges : w'.exchanges = w.exchanges ++ sent
  loggers : w'.loggers = w.loggers
  count : w'.sessions.length = w.sessions.length
  isOpen : (w'.session id).isOpen = (w.session id).isOpen

/-- What looking around may do: besides, the version of the cluster and all tokens stay. -/
structure Asks (id : Nat) (w : World) (sent : List Exchange) (w' : World) : Prop
    extends Talks id w sent w' where
  version : (w'.session id).version = (w.session id).version
  tokenStores : w'.tokenStores = w.tokenStores
  tokenSinks : w'.tokenSinks = w.tokenSinks

/-- What a request may do: no time passes either, and nothing is waited for. -/
structure Sends (id : Nat) (w : World) (sent : List Exchange) (w' : World) : Prop
    extends Asks id w sent w' where
  clock : w'.clock = w.clock
  sleeps : w'.sleeps = w.sleeps

variable {id : Nat} {w w' w₁ : World} {sent more : List Exchange}

theorem Talks.refl (id : Nat) (w : World) : Talks id w [] w :=
  ⟨rfl, (List.append_nil _).symm, rfl, rfl, rfl⟩

theorem Talks.trans (h : Talks id w sent w₁) (h' : Talks id w₁ more w') :
    Talks id w (sent ++ more) w' := by
  refine ⟨h'.server.trans h.server, ?_, h'.loggers.trans h.loggers, h'.count.trans h.count,
    h'.isOpen.trans h.isOpen⟩
  rw [h'.exchanges, h.exchanges, List.append_assoc]

theorem Asks.refl (id : Nat) (w : World) : Asks id w [] w := ⟨Talks.refl id w, rfl, rfl, rfl⟩

theorem Asks.trans (h : Asks id w sent w₁) (h' : Asks id w₁ more w') :
    Asks id w (sent ++ more) w' :=
  ⟨h.toTalks.trans h'.toTalks, h'.version.trans h.version, h'.tokenStores.trans h.tokenStores,
    h'.tokenSinks.trans h.tokenSinks⟩

theorem Sends.refl (id : Nat) (w : World) : Sends id w [] w := ⟨Asks.refl id w, rfl, rfl⟩

theorem Sends.trans (h : Sends id w sent w₁) (h' : Sends id w₁ more w') :
    Sends id w (sent ++ more) w' :=
  ⟨h.toAsks.trans h'.toAsks, h'.clock.trans h.clock, h'.sleeps.trans h.sleeps⟩

theorem Talks.isHonest (h : Talks id w sent w') (hs : w.server.IsHonest) {e : Exchange}
    (he : e ∈ sent) {g : Failure} (hg : e.reply.outcome = .error g) :
    g.kind.isTransport = true := by
  have hmem : e ∈ w'.exchanges := by
    rw [h.exchanges]
    exact List.mem_append_right _ he
  obtain ⟨older, hreply⟩ := mem_exchangesOf hmem
  rw [hreply, h.server] at hg
  exact hs older e.request g hg

theorem Talks.isTalkative (h : Talks id w sent w') : w'.isTalkative = w.isTalkative :=
  World.isLogged_congr h.loggers _ _

theorem Talks.isConsoleFault (h : Talks id w sent w') {f : Failure} :
    IsConsoleFault w' f ↔ IsConsoleFault w f := by
  unfold IsConsoleFault
  rw [h.isTalkative]

/-- A part of a session that a change keeps, also where there is no such session. -/
theorem World.session_setSession {α : Type} (g : Session → α) {s : Session}
    (h : g s = g (w.session id)) : g ((w.setSession id s).session id) = g (w.session id) := by
  unfold World.session World.setSession at *
  -- Where there is no such session, nothing is set, and a new one is read on both sides.
  by_cases hid : id < w.sessions.length
  · rw [List.getElem?_set_self hid]
    exact h
  · have hnone : w.sessions[id]? = none := List.getElem?_eq_none (Nat.le_of_not_lt hid)
    rw [List.getElem?_eq_none (by simpa using hid), hnone]

theorem World.session_setSession_self {s : Session} (h : id < w.sessions.length) :
    (w.setSession id s).session id = s := by
  unfold World.session World.setSession
  rw [List.getElem?_set_self h]
  rfl

theorem Talks.setSession {s : Session} (ho : s.isOpen = (w.session id).isOpen) :
    Talks id w [] (w.setSession id s) :=
  ⟨rfl, (List.append_nil _).symm, rfl, List.length_set,
    World.session_setSession Session.isOpen ho⟩

theorem Sends.setSession {s : Session} (ho : s.isOpen = (w.session id).isOpen)
    (hv : s.version = (w.session id).version) : Sends id w [] (w.setSession id s) :=
  ⟨⟨Talks.setSession ho, World.session_setSession Session.version hv, rfl, rfl⟩, rfl, rfl⟩

/-- How a request ends, by its reply: an answer is read, a refusal and trouble in the transport
become failures of the submission, and any other failure stays what it is. The record of the answer
may fail on the console. -/
inductive Ends {α : Type} (w : World) (e : Exchange) (read : Response → Except Failure α) :
    Except Failure α → Prop
  | answered (a : Response) (h : e.answer? = some a) : Ends w e read (read a)
  | refused (a : Response) (f : Failure) (h : e.reply.outcome = .ok a) (ha : a.isRefused = true)
      (hf : f.kind = .rejected ∨ f.kind = .auth) (hb : f.IsBare) : Ends w e read (.error f)
  | unreachable (g f : Failure) (h : e.reply.outcome = .error g) (hg : g.kind.isTransport = true)
      (hf : f.kind = .communication) (hb : f.IsBare) : Ends w e read (.error f)
  | raised (g f : Failure) (h : e.reply.outcome = .error g) (hg : g.kind.isTransport = false)
      (hf : f = g ∨ g.kind = .rejected ∧ f.kind = .auth ∧ f.IsBare) : Ends w e read (.error f)
  | hidden (a : Response) (f : Failure) (h : e.reply.outcome = .ok a) (hf : IsConsoleFault w f) :
      Ends w e read (.error f)

theorem FailureKind.not_isInterrupt_of_isTransport {k : FailureKind} (h : k.isTransport = true) :
    k.isInterrupt = false := by
  cases k with
  | interrupt => cases h
  | _ => rfl

namespace Ends

variable {α β : Type} {e : Exchange} {read : Response → Except Failure α}

theorem bind {r : Except Failure α} (h : Ends w e read r) (g : α → Except Failure β) :
    Ends w e (fun a => read a >>= g) (r >>= g) := by
  cases h with
  | answered a h => exact .answered a h
  | refused a f h ha hf hb => exact .refused a f h ha hf hb
  | unreachable x f h hx hf hb => exact .unreachable x f h hx hf hb
  | raised x f h hx hf => exact .raised x f h hx hf
  | hidden a f h hf => exact .hidden a f h hf

theorem of_talks {r : Except Failure α} (h : Ends w₁ e read r) (ht : Talks id w sent w₁) :
    Ends w e read r := by
  cases h with
  | answered a h => exact .answered a h
  | refused a f h ha hf hb => exact .refused a f h ha hf hb
  | unreachable x f h hx hf hb => exact .unreachable x f h hx hf hb
  | raised x f h hx hf => exact .raised x f h hx hf
  | hidden a f h hf => exact .hidden a f h (ht.isConsoleFault.mp hf)

theorem ok {v : α} (h : Ends w e read (.ok v)) : ∃ a, e.answer? = some a ∧ read a = .ok v := by
  generalize hr : (.ok v : Except Failure α) = r at h
  cases h with
  | answered a h => exact ⟨a, h, rfl⟩
  | refused | unreachable | raised | hidden => cases hr

/-- A record after a request may fail, too. -/
theorem record {v : α} {f : Failure} (h : Ends w e read (.ok v)) (hf : IsConsoleFault w f)
    (read' : Response → Except Failure β) : Ends w e read' (.error f) := by
  obtain ⟨a, ha, -⟩ := h.ok
  unfold Exchange.answer? at ha
  split at ha
  · rename_i b hb
    exact .hidden b f hb hf
  · cases ha

theorem of_answer {r : Except Failure α} {a : Response} (h : Ends w e read r)
    (ha : e.answer? = some a) : r = read a ∨ ∃ f, r = .error f ∧ IsConsoleFault w f := by
  unfold Exchange.answer? at ha
  cases h with
  | answered b h =>
    unfold Exchange.answer? at h
    rw [ha] at h
    exact Or.inl (congrArg read (Option.some.inj h).symm)
  | refused b f h hb => simp [h, hb] at ha
  | unreachable x f h => simp [h] at ha
  | raised x f h => simp [h] at ha
  | hidden b f h hf => exact Or.inr ⟨f, rfl, hf⟩

/-- With an honest server, a request only fails with a failure of the submission, through a record,
or because its answer cannot be read. -/
theorem error_cases {f : Failure} (h : Ends w e read (.error f))
    (he : ∀ g, e.reply.outcome = .error g → g.kind.isTransport = true) :
    f.kind.isSubmission = true ∨ IsConsoleFault w f ∨
      ∃ a, e.answer? = some a ∧ read a = .error f := by
  generalize hr : (.error f : Except Failure α) = r at h
  cases h with
  | answered a h => exact Or.inr (Or.inr ⟨a, h, rfl⟩)
  | refused a f h ha hf hb =>
    cases hr
    exact Or.inl (by rcases hf with hf | hf <;> rw [hf] <;> rfl)
  | unreachable x f h hx hf hb =>
    cases hr
    exact Or.inl (by rw [hf]; rfl)
  | raised x f h hx hf =>
    rw [he x h] at hx
    cases hx
  | hidden a f h hf =>
    cases hr
    exact Or.inr (Or.inl hf)

end Ends

/-- A result shows what happened on the side of the server: an interrupt there ends the operation as
it is, and a failure that was noted on already is the server's own. -/
structure Passes {α : Type} (sent : List Exchange) (r : Except Failure α) : Prop where
  own : ∀ f, r = .error f → f.IsBare ∨ ∃ e ∈ sent, e.reply.outcome = .error f
  interrupt : ∀ e ∈ sent, ∀ g, e.reply.outcome = .error g → g.kind.isInterrupt = true → r = .error g

theorem Exchange.outcome_of_answer {e : Exchange} {a : Response} (h : e.answer? = some a) :
    e.reply.outcome = .ok a := by
  unfold Exchange.answer? at h
  split at h
  · rename_i b hb
    split at h
    · cases h
    · cases h
      exact hb
  · cases h

namespace Passes

variable {α β : Type} {r : Except Failure α}

theorem of_answered (hsent : ∀ e ∈ sent, e.answer?.isSome = true)
    (hr : ∀ f, r = .error f → f.IsBare) : Passes sent r := by
  refine ⟨fun f hf => Or.inl (hr f hf), fun e he g hg => ?_⟩
  obtain ⟨a, ha⟩ := Option.isSome_iff_exists.mp (hsent e he)
  rw [Exchange.outcome_of_answer ha] at hg
  cases hg

theorem nil (hr : ∀ f, r = .error f → f.IsBare) : Passes [] r := of_answered (by simp) hr

theorem append {b : β} (h : Passes sent (.ok b : Except Failure β)) (h' : Passes more r) :
    Passes (sent ++ more) r := by
  constructor
  · intro f hf
    rcases h'.own f hf with hbare | ⟨e, he, hout⟩
    · exact Or.inl hbare
    · exact Or.inr ⟨e, List.mem_append_right _ he, hout⟩
  · intro e he g hg hi
    rcases List.mem_append.mp he with he | he
    · have hnever := h.interrupt e he g hg hi
      cases hnever
    · exact h'.interrupt e he g hg hi

theorem error {f : Failure} (h : Passes sent (.error f : Except Failure β)) :
    Passes sent (.error f : Except Failure α) :=
  ⟨fun g hg => h.own g (congrArg Except.error (Except.error.inj hg)),
    fun e he g hg hi => congrArg Except.error (Except.error.inj (h.interrupt e he g hg hi))⟩

end Passes

theorem Ends.passes {α : Type} {e : Exchange} {read : Response → Except Failure α}
    {r : Except Failure α} (h : Ends w e read r) (hread : ∀ a f, read a = .error f → f.IsBare) :
    Passes [e] r := by
  have hsame : ∀ {x : Except Failure Response}, e.reply.outcome = x →
      ∀ e' ∈ [e], ∀ g, e'.reply.outcome = .error g → x = .error g := by
    rintro x rfl e' he' g hg
    rw [List.mem_singleton.mp he'] at hg
    exact hg
  cases h with
  | answered a h =>
    exact .of_answered (by simp [h]) (hread a)
  | refused a f h ha hf hb =>
    refine ⟨fun x hx => Or.inl (Except.error.inj hx ▸ hb), fun e' he' g hg => ?_⟩
    cases hsame h e' he' g hg
  | unreachable x f h hx hf hb =>
    refine ⟨fun y hy => Or.inl (Except.error.inj hy ▸ hb), fun e' he' g hg hi => ?_⟩
    cases hsame h e' he' g hg
    rw [FailureKind.not_isInterrupt_of_isTransport hx] at hi
    cases hi
  | raised x f h hx hf =>
    rcases hf with rfl | ⟨hrejected, -, hb⟩
    · exact ⟨fun y hy => Or.inr ⟨e, by simp, Except.error.inj hy ▸ h⟩,
        fun e' he' g hg _ => by rw [Except.error.inj (hsame h e' he' g hg)]⟩
    · refine ⟨fun y hy => Or.inl (Except.error.inj hy ▸ hb), fun e' he' g hg hi => ?_⟩
      cases hsame h e' he' g hg
      rw [hrejected] at hi
      cases hi
  | hidden a f h hf =>
    refine ⟨fun y hy => Or.inl (Except.error.inj hy ▸ hf.2.1), fun e' he' g hg => ?_⟩
    cases hsame h e' he' g hg

/-- The kind of failure that a refusal is: without trust in the caller, or else by choice. -/
def refusalKind (status : Int) : FailureKind :=
  if status = 401 ∨ status = 403 then .auth else .rejected

theorem statusHint?_eq (tickets : String) {status : Int} (h : 400 ≤ status) :
    ∃ hint, statusHint? tickets status = some (refusalKind status, hint) := by
  unfold statusHint? refusalKind
  by_cases h401 : status = 401
  · subst h401
    exact ⟨_, rfl⟩
  by_cases h403 : status = 403
  · subst h403
    exact ⟨_, rfl⟩
  simp only [h401, h403, or_self, if_false, h, if_true]
  split
  · exact ⟨_, rfl⟩
  · split
    · exact ⟨_, rfl⟩
    · exact ⟨_, rfl⟩

theorem requestFailure_status (environment : List (String × String)) (tickets : Option String)
    (f : Failure) {a : Response} (proxies : Value) (h : a.isRefused = true) :
    ((requestFailure environment tickets f (some a) proxies).kind = .rejected ∨
      (requestFailure environment tickets f (some a) proxies).kind = .auth) ∧
    (requestFailure environment tickets f (some a) proxies).IsBare := by
  have hstatus : 400 ≤ a.status := of_decide_eq_true (Bool.and_eq_true_iff.mp h).1
  obtain ⟨hint, hhint⟩ := statusHint?_eq (ticketText tickets) hstatus
  have hkind : refusalKind a.status = .rejected ∨ refusalKind a.status = .auth := by
    unfold refusalKind
    split
    · exact Or.inr rfl
    · exact Or.inl rfl
  unfold requestFailure
  simp only [Option.map_some, Option.bind_some, hhint]
  exact ⟨hkind, rfl⟩

theorem requestFailure_transport (environment : List (String × String)) (tickets : Option String)
    {f : Failure} (proxies : Value) (h : f.kind.isTransport = true) :
    (requestFailure environment tickets f none proxies).kind = .communication ∧
      (requestFailure environment tickets f none proxies).IsBare := by
  unfold FailureKind.isTransport at h
  split at h
  · rename_i fault hkind
    unfold requestFailure
    simp only [Option.map_none, Option.bind_none, hkind]
    exact ⟨rfl, rfl⟩
  · cases h

theorem statusFailure?_isSome (url : String) (a : Response) :
    (statusFailure? url a).isSome = a.isRefused := by
  unfold statusFailure? Response.isRefused
  by_cases h : 400 ≤ a.status
  · by_cases h5 : a.status < 500
    · have h6 : a.status < 600 := by omega
      simp [h, h5, h6]
    · have h5' : 500 ≤ a.status := by omega
      simp [h, h5, h5']
      split <;> simp_all
  · have h5 : ¬ 500 ≤ a.status := by omega
    simp [h, h5]

end ClusterSubmission
