import ClusterSubmission.Proofs.Negotiation
import ClusterSubmission.Proofs.SoundText

/-!
# Whether a credential is obtained

The first reply that is no message decides how obtaining a credential fails, and if there is none,
the last report decides. A refusal of any kind is taken for distrust on the way, so that nothing is
rejected in the end.
-/
namespace ClusterSubmission

open Message

/-- What the reply to a request comes to, where a message is asked for: a message, a status of
failure, or neither. -/
inductive Verdict where
  | message
  | refused
  | broken
  deriving DecidableEq, Repr

def Exchange.verdict (m : Model) (e : Exchange) : Verdict :=
  match e.reply.outcome with
  | .error _ => .broken
  | .ok a =>
    if a.isRefused then .refused
    else match readAnswer m a with
      | .ok _ => .message
      | .error _ => .broken

/-- A server whose answers are objects. -/
def Server.AnswersObjects (server : Server) : Prop :=
  ∀ history q a, (server history q).outcome = .ok a → a.IsObject

variable {w w' : World} {e : Exchange}

theorem Talks.exists_reply {session : Nat} {sent : List Exchange} (h : Talks session w sent w')
    (he : e ∈ sent) : ∃ older, e.reply = w.server older e.request := by
  have hmem : e ∈ w'.exchanges := by
    rw [h.exchanges]
    exact List.mem_append_right _ he
  obtain ⟨older, hreply⟩ := mem_exchangesOf hmem
  exact ⟨older, by rw [hreply, h.server]⟩

theorem Exchange.verdict_of_answer {m : Model} {a : Response} (h : e.answer? = some a) :
    e.verdict m = match readAnswer m a with
      | .ok _ => .message
      | .error _ => .broken := by
  have hout := Exchange.outcome_of_answer h
  unfold Exchange.answer? at h
  rw [hout] at h
  dsimp only at h
  split at h
  · cases h
  · rename_i hnot
    unfold Exchange.verdict
    rw [hout]
    simp only [hnot]
    rfl

theorem Exchange.verdict_of_report {p : Part} (h : e.report? = some p) :
    e.verdict .reportEnvelope = .message := by
  obtain ⟨a, ha, hread⟩ := Exchange.report?_eq_some.mp h
  obtain ⟨q, hq, -⟩ := bind_eq_ok hread
  rw [Exchange.verdict_of_answer ha, hq]

theorem Exchange.not_isAccepted_of_verdict (h : e.verdict .reportEnvelope ≠ .message) :
    ¬ e.IsAccepted := by
  rintro ⟨p, hp, -⟩
  exact h (Exchange.verdict_of_report hp)

theorem Exchange.not_isAccepted_of_report {p : Part} (hp : e.report? = some p)
    (hnot : isAccepted p = false) : ¬ e.IsAccepted := by
  rintro ⟨q, hq, haccepted⟩
  obtain rfl : p = q := Option.some.inj (hp.symm.trans hq)
  rw [hnot] at haccepted
  cases haccepted

/-- How a request for a message fails, by what its reply comes to. -/
def FailsAs (v : Verdict) (f : Failure) : Prop :=
  v = .refused ∧ (f.kind = .rejected ∨ f.kind = .auth) ∨ v = .broken ∧ f.kind = .communication

theorem FailsAs.ne_message {v : Verdict} {f : Failure} (h : FailsAs v f) : v ≠ .message := by
  rcases h with ⟨rfl, -⟩ | ⟨rfl, -⟩ <;> decide

/-- A request for a message ends as its reply comes to, where nothing is recorded and every answer
is an object. -/
theorem Ends.verdict_cases {α : Type} {m : Model} {g : Part → α} {r : Except Failure α}
    (hquiet : w.isTalkative = false)
    (hhonest : ∀ f, e.reply.outcome = .error f → f.kind.isTransport = true)
    (hobject : ∀ a, e.reply.outcome = .ok a → a.IsObject)
    (h : Ends w e (fun a => readAnswer m a >>= fun p => .ok (g p)) r) :
    (e.verdict m = .message ∧ ∃ a p, e.answer? = some a ∧ readAnswer m a = .ok p ∧ r = .ok (g p)) ∨
      ∃ f, r = .error f ∧ FailsAs (e.verdict m) f := by
  cases h with
  | answered a ha =>
    rcases hread : readAnswer m a with f | p
    · refine Or.inr ⟨f, rfl, Or.inr ⟨?_, ?_⟩⟩
      · rw [Exchange.verdict_of_answer ha, hread]
      · rcases readAnswer_error hread with hf | ⟨-, hu⟩
        · exact hf
        · have hisObject := hobject a (Exchange.outcome_of_answer ha)
          exact absurd hu (not_isUnreadable_of_isObject m hisObject)
    · refine Or.inl ⟨?_, a, p, ha, hread, rfl⟩
      rw [Exchange.verdict_of_answer ha, hread]
  | refused a f ha hrefused hf hb =>
    refine Or.inr ⟨f, rfl, Or.inl ⟨?_, hf⟩⟩
    simp [Exchange.verdict, ha, hrefused]
  | unreachable x f hx hg hf hb =>
    refine Or.inr ⟨f, rfl, Or.inr ⟨?_, hf⟩⟩
    simp [Exchange.verdict, hx]
  | raised x f hx hg hf =>
    rw [hhonest x hx] at hg
    cases hg
  | hidden a f ha hf => exact absurd hf (not_isConsoleFault hquiet f)

/-- An operation that is never rejected, however it fails. -/
def Run.NeverRejects {α : Type} (x : Run α) : Prop :=
  ∀ w f w', x w = (.error f, w') → f.kind ≠ .rejected

namespace Run.NeverRejects

variable {α β : Type} {x : Run α} {f : α → Run β}

theorem of_ok (h : ∀ w, ∃ a w', x w = (.ok a, w')) : x.NeverRejects := by
  intro w f w' hf
  obtain ⟨a, v, hok⟩ := h w
  rw [hok] at hf
  cases hf

theorem pure (a : α) : (Pure.pure a : Run α).NeverRejects := of_ok fun w => ⟨a, w, rfl⟩

theorem fail {r : Reason} (h : r.kind ≠ .rejected) : (Run.fail r : Run α).NeverRejects := by
  intro w f w' hf
  cases hf
  exact h

theorem bind (hx : x.NeverRejects) (hf : ∀ a, (f a).NeverRejects) : (x >>= f).NeverRejects := by
  intro w e w' h
  rcases Run.bind_cases h with ⟨g, hg, hr⟩ | ⟨a, v, -, h⟩
  · exact Except.error.inj hr ▸ hx w g w' hg
  · exact hf a v e w' h

theorem read {k : World → Run α} (h : ∀ w, (k w).NeverRejects) :
    (MonadState.get >>= k : Run α).NeverRejects := fun w => h w w

theorem guarded {c : Prop} [Decidable c] {r : Reason} {k : Unit → Run α} (hr : r.kind ≠ .rejected)
    (hk : ∀ a, (k a).NeverRejects) : (if c then Run.fail r >>= k else k ()).NeverRejects := by
  split
  · exact bind (fail hr) hk
  · exact hk ()

theorem debug (m : String) : (Run.debug m).NeverRejects := by
  intro w f w' h
  rcases Run.debug_cases m w with hd | ⟨g, hd, hg⟩
  · rw [hd] at h
    cases h
  · rw [hd] at h
    cases h
    rw [hg.1]
    decide

end Run.NeverRejects

namespace RestNegotiator

open Run.NeverRejects

variable {n : RestNegotiator} {id : String}

theorem whenDeclined_neverRejects {α : Type} (body : Run α) {other : Failure → Reason}
    (hother : ∀ f, (other f).kind = .auth) : (whenDeclined body other).NeverRejects := by
  intro w f w' h
  unfold whenDeclined at h
  rcases hbody : body w with ⟨g | a, v⟩
  · rw [hbody] at h
    by_cases hg : g.kind = .rejected
    · simp only [hg, if_true] at h
      cases h
      exact fun hkind => absurd ((hother g).symm.trans hkind) (by decide)
    · simp only [hg, if_false] at h
      cases h
      exact hg
  · rw [hbody] at h
    cases h

theorem report_neverRejects : (n.report (.handle (.text id))).NeverRejects :=
  whenDeclined_neverRejects _ fun _ => rfl

theorem quantityOf_neverRejects (v : Value) : (quantityOf v).NeverRejects := by
  unfold quantityOf
  split
  · exact .pure _
  · exact .fail (by decide)

theorem addQuantities_neverRejects (p q : Quantity) : (addQuantities p q).NeverRejects := by
  unfold addQuantities
  split
  · exact .pure _
  · exact .fail (by decide)

theorem sleep_neverRejects (v : Value) : (sleep v).NeverRejects := by
  unfold sleep
  exact .bind (.of_ok fun w => ⟨_, _, rfl⟩) fun _ => .read fun w =>
    .bind (quantityOf_neverRejects v) fun q => .bind (addQuantities_neverRejects _ q) fun now =>
      .of_ok fun w => ⟨_, _, rfl⟩

theorem awaitAcceptance_neverRejects (deadline : Quantity) (fuel : Nat) :
    (n.awaitAcceptance (.handle (.text id)) deadline fuel).NeverRejects := by
  induction fuel with
  | zero => exact report_neverRejects
  | succ fuel ih =>
    unfold awaitAcceptance
    refine .bind report_neverRejects fun report => .read fun w => ?_
    split
    · exact .pure _
    · exact .bind (.pure id) fun _ => .bind (.debug _) fun _ =>
        .bind (sleep_neverRejects _) fun _ => ih

theorem waitForAcceptance_neverRejects :
    (n.waitForAcceptance (.handle (.text id))).NeverRejects := by
  unfold waitForAcceptance
  exact .read fun w => .bind (quantityOf_neverRejects _) fun _ =>
    .bind (addQuantities_neverRejects _ _) fun _ => awaitAcceptance_neverRejects _ _

/-- What the resource manager declines is distrust, whatever it declines. -/
theorem obtainCredential_neverRejects (ha : IsServiceAddress n.manager.address) :
    (n.obtainCredential (.handle (.text id))).NeverRejects := by
  obtain ⟨service, hservice⟩ := hostOf_service ha
  have hopen : n.checkOpen.NeverRejects := by
    unfold checkOpen
    refine .bind (.of_ok fun w => ⟨_, w, rfl⟩) fun isOpen => ?_
    split
    · exact .fail (by decide)
    · exact .pure _
  unfold obtainCredential
  rw [hservice]
  exact .bind hopen fun _ => .bind waitForAcceptance_neverRejects fun report =>
    .bind (.pure id) fun _ => .guarded (fun h => by cases h) fun _ =>
      .bind (whenDeclined_neverRejects _ fun _ => rfl) fun _ => .bind (.debug _) fun _ =>
        .bind (.pure service) fun _ => .pure _

/-- The requests for a credential: looks at the application, all but the last of which found it
pending, and a request for a token exactly if the last one found it accepted. -/
structure IsCourse (n : RestNegotiator) (id : String) (looks : List Exchange) (last : Exchange)
    (token : Option Exchange) : Prop extends IsWait n id looks last where
  asked : ∀ e ∈ token, e.IsTo n.manager.address .delegationToken
  accepted : token.isSome = true ↔ last.IsAccepted

theorem IsWait.isCourse {looks : List Exchange} {last : Exchange} (h : n.IsWait id looks last)
    (hnot : ¬ last.IsAccepted) : n.IsCourse id looks last none := by
  refine ⟨h, by simp, ?_⟩
  simpa using hnot

theorem IsWait.isCourse_token {looks : List Exchange} {last e : Exchange}
    (h : n.IsWait id looks last) (ha : last.IsAccepted)
    (hto : e.IsTo n.manager.address .delegationToken) : n.IsCourse id looks last (some e) := by
  refine ⟨h, ?_, by simpa using ha⟩
  rintro x ⟨⟩
  exact hto

end RestNegotiator

section Outcome

variable {looks : List Exchange} {last : Exchange} {token : Option Exchange}

/-- What the first of the replies that is no message comes to. -/
def firstFailing (looks : List Exchange) (last : Exchange) (token : Option Exchange) :
    Option Verdict :=
  ((looks ++ [last]).map (·.verdict .reportEnvelope) ++
    token.toList.map (·.verdict .delegationToken)).find? (· ≠ .message)

theorem firstFailing_eq_none : firstFailing looks last token = none ↔
    (∀ e ∈ looks ++ [last], e.verdict .reportEnvelope = .message) ∧
      ∀ e ∈ token, e.verdict .delegationToken = .message := by
  unfold firstFailing
  rw [List.find?_append, Option.or_eq_none_iff, List.find?_eq_none, List.find?_eq_none,
    List.forall_mem_map, List.forall_mem_map]
  simp only [decide_eq_true_eq, not_not, Option.mem_toList, Option.mem_def]

/-- Looks that found the application pending do not fail. -/
theorem firstFailing_of_pending (h : ∀ e ∈ looks, e.IsPending) :
    firstFailing looks last token = (last.verdict .reportEnvelope ::
      token.toList.map (·.verdict .delegationToken)).find? (· ≠ .message) := by
  have hlooks : (looks.map (·.verdict .reportEnvelope)).find? (· ≠ .message) = none := by
    rw [List.find?_eq_none]
    intro v hv
    obtain ⟨e, he, rfl⟩ := List.mem_map.mp hv
    obtain ⟨p, hp, -⟩ := h e he
    simp [Exchange.verdict_of_report hp]
  unfold firstFailing
  rw [List.map_append, List.append_assoc, List.find?_append, hlooks, Option.none_or]
  rfl

theorem firstFailing_of_failed (h : ∀ e ∈ looks, e.IsPending)
    (hlast : last.verdict .reportEnvelope ≠ .message) :
    firstFailing looks last token = some (last.verdict .reportEnvelope) := by
  rw [firstFailing_of_pending h, List.find?_cons_of_pos (by simpa using hlast)]

theorem firstFailing_of_report {p : Part} (h : ∀ e ∈ looks, e.IsPending)
    (hp : last.report? = some p) : firstFailing looks last token =
      (token.toList.map (·.verdict .delegationToken)).find? (· ≠ .message) := by
  rw [firstFailing_of_pending h, Exchange.verdict_of_report hp]
  rfl

/-- How obtaining a credential ends, by what the replies come to: with a credential if all of them
are messages and the last report says that the application is accepted, with trouble in the
communication if the first other one is broken, and with distrust in every other case. -/
structure IsOutcome (looks : List Exchange) (last : Exchange) (token : Option Exchange)
    (r : Except Failure Credential) : Prop where
  notRejected : ∀ f, r = .error f → f.kind ≠ .rejected
  obtained : (∃ c, r = .ok c) ↔ (∀ e ∈ looks ++ [last], e.verdict .reportEnvelope = .message) ∧
    last.IsAccepted ∧ ∃ e ∈ token, e.verdict .delegationToken = .message
  fields : ∀ c, r = .ok c → ∃ e ∈ token, ∃ a p, e.answer? = some a ∧
    IsMessage .delegationToken a p ∧ c.token = p.field "token" ∧ c.kind = p.field "kind" ∧
    c.renewer = p.field "renewer" ∧ c.owner = p.field "owner" ∧
    c.expiration = p.field "expiration_time"
  communication : (∃ f, r = .error f ∧ f.kind = .communication) ↔
    firstFailing looks last token = some .broken
  auth : (∃ f, r = .error f ∧ f.kind = .auth) ↔
    firstFailing looks last token = some .refused ∨
      firstFailing looks last token = none ∧ ¬ last.IsAccepted

theorem not_obtained {f : Failure} (h : firstFailing looks last token = none → ¬ last.IsAccepted) :
    (∃ c, (.error f : Except Failure Credential) = .ok c) ↔
      (∀ e ∈ looks ++ [last], e.verdict .reportEnvelope = .message) ∧
        last.IsAccepted ∧ ∃ e ∈ token, e.verdict .delegationToken = .message := by
  constructor
  · rintro ⟨c, hc⟩
    cases hc
  · rintro ⟨hall, haccepted, e, he, hv⟩
    have htoken : ∀ x ∈ token, x.verdict .delegationToken = .message := by
      intro x hx
      rw [Option.mem_unique hx he]
      exact hv
    exact absurd haccepted (h (firstFailing_eq_none.mpr ⟨hall, htoken⟩))

theorem IsOutcome.of_broken {f : Failure} (hf : f.kind = .communication)
    (h : firstFailing looks last token = some .broken) : IsOutcome looks last token (.error f) := by
  constructor
  · rintro g hg
    rw [← Except.error.inj hg, hf]
    decide
  · exact not_obtained fun hnone => by rw [h] at hnone; cases hnone
  · rintro c hc
    cases hc
  · exact ⟨fun _ => h, fun _ => ⟨f, rfl, hf⟩⟩
  · rw [h]
    constructor
    · rintro ⟨g, hg, hkind⟩
      rw [← Except.error.inj hg, hf] at hkind
      cases hkind
    · rintro (hv | ⟨hv, -⟩) <;> cases hv

theorem IsOutcome.of_distrust {f : Failure} (hf : f.kind = .auth)
    (h : firstFailing looks last token = some .refused ∨
      firstFailing looks last token = none ∧ ¬ last.IsAccepted) :
    IsOutcome looks last token (.error f) := by
  constructor
  · rintro g hg
    rw [← Except.error.inj hg, hf]
    decide
  · refine not_obtained fun hnone => ?_
    rcases h with h | ⟨-, h⟩
    · rw [h] at hnone
      cases hnone
    · exact h
  · rintro c hc
    cases hc
  · constructor
    · rintro ⟨g, hg, hkind⟩
      rw [← Except.error.inj hg, hf] at hkind
      cases hkind
    · intro hv
      rcases h with h | ⟨h, -⟩ <;> rw [hv] at h <;> cases h
  · exact ⟨fun _ => h, fun _ => ⟨f, rfl, hf⟩⟩

/-- A failure that is no rejection follows from the first reply that is no message. -/
theorem IsOutcome.of_failing {v : Verdict} {f : Failure}
    (h : firstFailing looks last token = some v) (hf : FailsAs v f) (hnot : f.kind ≠ .rejected) :
    IsOutcome looks last token (.error f) := by
  rcases hf with ⟨rfl, hf⟩ | ⟨rfl, hf⟩
  · exact .of_distrust (hf.resolve_left hnot) (Or.inl h)
  · exact .of_broken hf h

theorem IsOutcome.of_token {e : Exchange} {a : Response} {p : Part} (service : String)
    (haccepted : last.IsAccepted) (h : firstFailing looks last (some e) = none)
    (ha : e.answer? = some a) (hp : readAnswer .delegationToken a = .ok p) :
    IsOutcome looks last (some e) (.ok (Credential.ofToken p service)) := by
  obtain ⟨hall, htoken⟩ := firstFailing_eq_none.mp h
  constructor
  · rintro f hf
    cases hf
  · exact ⟨fun _ => ⟨hall, haccepted, e, rfl, htoken e rfl⟩, fun _ => ⟨_, rfl⟩⟩
  · rintro c hc
    cases hc
    exact ⟨e, rfl, a, p, ha, readAnswer_ok.mp hp, rfl, rfl, rfl, rfl, rfl⟩
  · rw [h]
    constructor
    · rintro ⟨f, hf, -⟩
      cases hf
    · intro hv
      cases hv
  · rw [h]
    constructor
    · rintro ⟨f, hf, -⟩
      cases hf
    · rintro (hv | ⟨-, hv⟩)
      · cases hv
      · exact absurd haccepted hv

end Outcome

namespace RestNegotiator

variable {n : RestNegotiator} {id : String}

/-- Obtaining a credential ends as the replies of the resource manager say, and is never rejected. A
token is asked for only where the application was found accepted. -/
theorem obtainCredential_outcome {renewer : String} {r : Except Failure Credential}
    (hc : n.IsConnected w) (ho : n.isOpen w = true) (hid : ApplicationId.isValid id = true)
    (hlevel : w.levelFor libraryName = warningLevel) (hrenewer : n.renewer = .text renewer)
    (htimeout : n.acceptTimeout.isStep w.clock = true)
    (hinterval : n.pollInterval.isPause w.clock = true) (hserver : w.server.IsHonest)
    (hobjects : w.server.AnswersObjects)
    (h : n.obtainCredential (.handle (.text id)) w = (r, w')) :
    ∃ (looks : List Exchange) (last : Exchange) (token : Option Exchange),
      Asks n.manager.session w (looks ++ [last] ++ token.toList) w' ∧
      n.IsCourse id looks last token ∧ IsOutcome looks last token r := by
  have hquiet := World.not_isTalkative hlevel
  obtain ⟨sent, hasks, hobtains⟩ := obtainCredential_spec hc ho hid h
  have hhonest : ∀ e ∈ sent, ∀ f, e.reply.outcome = .error f → f.kind.isTransport = true :=
    fun e he f hf => hasks.isHonest hserver he hf
  have hobject : ∀ e ∈ sent, ∀ a, e.reply.outcome = .ok a → a.IsObject := by
    intro e he a ha
    obtain ⟨older, hreply⟩ := hasks.exists_reply he
    rw [hreply] at ha
    exact hobjects older e.request a ha
  have hkind : ∀ f, r = .error f → f.kind ≠ .rejected := fun f hf =>
    obtainCredential_neverRejects hc.address w f w' (hf ▸ h)
  cases hobtains with
  | untimed f hf ht =>
    rw [htimeout] at ht
    cases ht
  | looking looks last f hw hends =>
    have hcases := Ends.verdict_cases (m := .reportEnvelope) (g := fun p => p.get "app") hquiet
      (hhonest last (by simp)) (hobject last (by simp)) hends
    rcases hcases with ⟨-, a, p, -, -, hr⟩ | ⟨g, hg, hfails⟩
    · cases hr
    · cases hg
      have hfirst : firstFailing looks last none = some (last.verdict .reportEnvelope) :=
        firstFailing_of_failed hw.pending hfails.ne_message
      exact ⟨looks, last, none, by simpa using hasks,
        hw.isCourse (Exchange.not_isAccepted_of_verdict hfails.ne_message),
        .of_failing hfirst hfails (hkind f rfl)⟩
  | late looks last f hw hp hf ht =>
    rw [Value.isStep_of_isPause hinterval] at ht
    cases ht
  | notAlive looks last p f hw hp hn hf hb =>
    have hnot := Exchange.not_isAccepted_of_report hp hn
    have hfirst : firstFailing looks last none = none := firstFailing_of_report hw.pending hp
    exact ⟨looks, last, none, by simpa using hasks, hw.isCourse hnot,
      .of_distrust hf (Or.inr ⟨hfirst, hnot⟩)⟩
  | unwritable looks last x hw ha hx =>
    rw [hrenewer] at hx
    cases hx
  | token looks last e service r hw ha hto hends =>
    refine ⟨looks, last, some e, hasks, hw.isCourse_token ha hto, ?_⟩
    have ⟨report, hreport, _⟩ := ha
    have hfirst : firstFailing looks last (some e) =
        [e.verdict .delegationToken].find? (· ≠ .message) :=
      firstFailing_of_report hw.pending hreport
    rcases Ends.verdict_cases (m := .delegationToken) (g := fun p => Credential.ofToken p service)
      hquiet (hhonest e (by simp)) (hobject e (by simp)) hends with
      ⟨hv, a, p, hanswer, hp, rfl⟩ | ⟨f, rfl, hfails⟩
    · refine .of_token service ha ?_ hanswer hp
      simp [hfirst, hv]
    · refine .of_failing ?_ hfails (hkind f rfl)
      simp [hfirst, hfails.ne_message]

/-- An answer with a report that the application is accepted, and with a token. -/
def acceptedText : String :=
  "\x7b\"app\":\x7b\"id\":\"application_1_0002\",\"state\":\"ACCEPTED\"\x7d,"
    ++ "\"token\":\"secret\"\x7d"

theorem obtainCredential_outcome_accepted :
    ∃ (c : Credential) (w' : World) (looks : List Exchange) (last : Exchange)
      (token : Option Exchange),
      sample.obtainCredential (.handle (.text "application_1_0002"))
        (World.served (Server.answering acceptedText)) = (.ok c, w') ∧
      sample.IsCourse "application_1_0002" looks last token ∧
      IsOutcome looks last token (.ok c) ∧ c.token.plain = "secret" := by
  have hrun : (match (sample.obtainCredential (.handle (.text "application_1_0002"))
      (World.served (Server.answering acceptedText))).1 with
      | .ok c => c.token.plain == "secret"
      | .error _ => false) = true := by decide +kernel
  have hobjects : (Server.answering acceptedText).AnswersObjects := by
    intro history q a ha
    cases ha
    exact ⟨acceptedText, [], acceptedText.toList.tail, rfl, by decide +kernel, by simp⟩
  obtain ⟨hc, ho, -⟩ := isConnected_of_connect (connect_sample (Server.answering acceptedText))
  rcases h : sample.obtainCredential (.handle (.text "application_1_0002"))
    (World.served (Server.answering acceptedText)) with ⟨f | c, w'⟩
  · rw [h] at hrun
    cases hrun
  · rw [h] at hrun
    obtain ⟨looks, last, token, -, hcourse, houtcome⟩ :=
      obtainCredential_outcome hc ho (by decide) (by decide) rfl (by decide +kernel)
        (by decide +kernel) (Server.isHonest_answering _) hobjects h
    exact ⟨c, w', looks, last, token, rfl, hcourse, houtcome, eq_of_beq hrun⟩

end RestNegotiator
end ClusterSubmission
