import ClusterSubmission.Proofs.Negotiation

/-!
# What an operation of a session leaves alone

The operations of a negotiator leave the other sessions and their cookies alone, and the tokens that
submissions share. All but closing and asking for the version keep what their own session knows,
too. Each is put together from parts that do.
-/
namespace ClusterSubmission

/-- What leaves the tokens and the loggers alone, and keeps every session. -/
structure KeepsTokens (w w' : World) : Prop where
  tokenStores : w'.tokenStores = w.tokenStores
  tokenSinks : w'.tokenSinks = w.tokenSinks
  loggers : w'.loggers = w.loggers
  count : w.sessions.length ≤ w'.sessions.length

/-- What an operation of a session may do: to the other sessions and their cookies, nothing. It
warns of nothing. -/
structure Spares (id : Nat) (w w' : World) : Prop extends KeepsTokens w w' where
  others : ∀ j, j ≠ id → w'.session j = w.session j
  cookies : w'.cookieCache.filter (·.1.1 != id) = w.cookieCache.filter (·.1.1 != id)
  warnings : w'.warnings = w.warnings

/-- Besides, the session itself is open or closed as before, and knows no other version. -/
structure StaysIn (id : Nat) (w w' : World) : Prop extends Spares id w w' where
  isOpen : (w'.session id).isOpen = (w.session id).isOpen
  version : (w'.session id).version = (w.session id).version

variable {id : Nat} {w w₁ w' : World}

theorem KeepsTokens.refl (w : World) : KeepsTokens w w := ⟨rfl, rfl, rfl, Nat.le_refl _⟩

theorem KeepsTokens.trans (h : KeepsTokens w w₁) (h' : KeepsTokens w₁ w') : KeepsTokens w w' :=
  ⟨h'.tokenStores.trans h.tokenStores, h'.tokenSinks.trans h.tokenSinks,
    h'.loggers.trans h.loggers, h.count.trans h'.count⟩

theorem Spares.refl (id : Nat) (w : World) : Spares id w w :=
  ⟨KeepsTokens.refl w, fun _ _ => rfl, rfl, rfl⟩

theorem Spares.trans (h : Spares id w w₁) (h' : Spares id w₁ w') : Spares id w w' :=
  ⟨h.toKeepsTokens.trans h'.toKeepsTokens,
    fun j hj => (h'.others j hj).trans (h.others j hj), h'.cookies.trans h.cookies,
    h'.warnings.trans h.warnings⟩

theorem StaysIn.refl (id : Nat) (w : World) : StaysIn id w w := ⟨Spares.refl id w, rfl, rfl⟩

theorem StaysIn.trans (h : StaysIn id w w₁) (h' : StaysIn id w₁ w') : StaysIn id w w' :=
  ⟨h.toSpares.trans h'.toSpares, h'.isOpen.trans h.isOpen, h'.version.trans h.version⟩

theorem World.session_setSession_of_ne {j : Nat} (s : Session) (h : j ≠ id) :
    (w.setSession id s).session j = w.session j := by
  unfold World.session World.setSession
  rw [List.getElem?_set_ne h.symm]

theorem Spares.setSession (id : Nat) (s : Session) (w : World) : Spares id w (w.setSession id s) :=
  ⟨⟨rfl, rfl, rfl, List.length_set.ge⟩, fun _ hj => World.session_setSession_of_ne s hj, rfl, rfl⟩

theorem StaysIn.setSession {s : Session} (ho : s.isOpen = (w.session id).isOpen)
    (hv : s.version = (w.session id).version) : StaysIn id w (w.setSession id s) :=
  ⟨Spares.setSession id s w, World.session_setSession Session.isOpen ho,
    World.session_setSession Session.version hv⟩

theorem filter_filter_of_imp {α : Type} {p q : α → Bool} (l : List α)
    (h : ∀ a, p a = true → q a = true) : (l.filter q).filter p = l.filter p := by
  rw [List.filter_filter]
  refine List.filter_congr fun a _ => ?_
  rcases hp : p a with _ | _
  · rfl
  · rw [h a hp]
    rfl

theorem StaysIn.cacheCookie (id : Nat) (url cookie : String) (w : World) :
    StaysIn id w (w.cacheCookie id url cookie) := by
  refine ⟨⟨⟨rfl, rfl, rfl, Nat.le_refl _⟩, fun _ _ => rfl, ?_, rfl⟩, rfl, rfl⟩
  unfold World.cacheCookie
  rw [List.filter_append, filter_filter_of_imp]
  · simp
  · rintro ⟨⟨i, u⟩, c⟩ hi
    simp only [bne_iff_ne, ne_eq, Prod.mk.injEq] at hi ⊢
    exact fun h => hi h.1

/-- An operation that stays in a session, however it ends. -/
def Run.StaysIn {α : Type} (id : Nat) (x : Run α) : Prop :=
  ∀ w, ClusterSubmission.StaysIn id w (x w).2

namespace Run.StaysIn

variable {α β : Type} {x : Run α} {f : α → Run β}

/-- What changes nothing. -/
theorem of_still (h : ∀ w, (x w).2 = w) : x.StaysIn id := by
  intro w
  rw [h w]
  exact .refl id w

theorem pure (a : α) : (Pure.pure a : Run α).StaysIn id := of_still fun _ => rfl

theorem fail (r : Reason) : (Run.fail r : Run α).StaysIn id := of_still fun _ => rfl

theorem ofExcept (r : Except Reason α) : (Run.ofExcept r).StaysIn id :=
  of_still fun _ => by cases r <;> rfl

theorem ofResult (r : Except Failure α) : (Run.ofResult r).StaysIn id :=
  of_still fun _ => by cases r <;> rfl

theorem log (level : Int) (m : String) : (Run.log level m).StaysIn id := by
  refine of_still fun w => ?_
  rcases Run.log_cases level m w with h | ⟨r, h, -⟩ <;> rw [h]

theorem debug (m : String) : (Run.debug m).StaysIn id := log debugLevel m

theorem info (m : String) : (Run.info m).StaysIn id := log infoLevel m

theorem bind (hx : x.StaysIn id) (hf : ∀ a, (f a).StaysIn id) : (x >>= f).StaysIn id := by
  intro w
  have hfirst := hx w
  rcases hw : x w with ⟨e | a, v⟩ <;> rw [hw] at hfirst
  · rw [Run.bind_of_error hw]
    exact hfirst
  · rw [Run.bind_of_ok hw]
    exact hfirst.trans (hf a v)

theorem read {k : World → Run α} (h : ∀ w, (k w).StaysIn id) :
    (MonadState.get >>= k : Run α).StaysIn id := fun w => h w w

theorem guarded {c : Prop} [Decidable c] {r : Reason} {k : Unit → Run α}
    (hk : ∀ a, (k a).StaysIn id) : (if c then Run.fail r >>= k else k ()).StaysIn id := by
  split
  · exact bind (fail r) hk
  · exact hk ()

theorem andFinally {finish : Run Unit} (hx : x.StaysIn id) (he : finish.StaysIn id) :
    (Run.andFinally x finish).StaysIn id := by
  intro w
  have hbody := hx w
  rcases hw : x w with ⟨r, v⟩
  rw [hw] at hbody
  have hend := he v
  unfold Run.andFinally
  rw [hw]
  dsimp only
  rcases hv : finish v with ⟨e | _, v₁⟩ <;> rw [hv] at hend
  · exact hbody.trans hend
  · exact hbody.trans hend

theorem of_world_eq {y : Run α} (hx : x.StaysIn id) (h : ∀ w, (y w).2 = (x w).2) :
    y.StaysIn id := by
  intro w
  rw [h w]
  exact hx w

end Run.StaysIn

open Run.StaysIn

theorem send_staysIn (id : Nat) (q : Request) : (send id q).StaysIn id := fun w =>
  have h : StaysIn id w (w.setSession id { w.session id with
      cookies := (w.server w.history q).cookies.foldl (fun jar c => setCookie jar c.1 c.2)
        (w.session id).cookies }) := .setSession rfl rfl
  ⟨⟨⟨rfl, rfl, rfl, h.count⟩, h.others, h.cookies, h.warnings⟩, h.isOpen, h.version⟩

theorem setSessionAuth_staysIn (id : Nat) (auth : Option AuthHandler) :
    (setSessionAuth id auth).StaysIn id := fun _ => .setSession rfl rfl

theorem keepCookie_staysIn (id : Nat) (url : String) : (keepCookie id url).StaysIn id := by
  unfold keepCookie
  refine read fun w => ?_
  split
  · split
    · exact .bind (fun w => .cacheCookie id url _ w) fun _ => .debug _
    · exact .pure _
  · exact .pure _

theorem exchange_staysIn (id : Nat) (url target : String) (cookie : Option String)
    (plan : RequestPlan) : (exchange id url target cookie plan).StaysIn id := by
  have hkeep : ∀ a : Response, (keepCookie id url >>= fun _ => pure a).StaysIn id := fun a =>
    .bind (keepCookie_staysIn id url) fun _ => .pure a
  unfold exchange
  refine .bind (.debug _) fun _ => .guarded fun _ => .read fun w =>
    .bind (send_staysIn id _) fun a => .bind (.debug _) fun _ => ?_
  split
  · split
    · exact .of_still fun _ => rfl
    · exact hkeep a
  · exact hkeep a

theorem translateTrouble_staysIn {body : Run Response} (h : body.StaysIn id) :
    (translateTrouble id body).StaysIn id := by
  refine h.of_world_eq fun w => ?_
  unfold translateTrouble
  rcases body w with ⟨f | a, v⟩
  · dsimp only
    split <;> rfl
  · rfl

theorem makeRequest_staysIn (id : Nat) (plan : RequestPlan) : (makeRequest id plan).StaysIn id := by
  unfold makeRequest
  refine .guarded fun _ => .read fun w => ?_
  have hrest : (do
      let target ← Run.ofExcept (Url.joinValues plan.url plan.path)
      Run.andFinally (translateTrouble id (exchange id plan.url.plain target.plain
          (w.cachedCookie? id plan.url.plain) plan))
        (setSessionAuth id (w.session id).auth)).StaysIn id :=
    .bind (.ofExcept _) fun target => .andFinally (translateTrouble_staysIn
      (exchange_staysIn id _ _ _ plan)) (setSessionAuth_staysIn id _)
  dsimp only
  split
  · exact .bind (setSessionAuth_staysIn id none) fun _ => hrest
  · exact hrest

namespace ResourceManager

variable (rm : ResourceManager)

theorem isOpen_staysIn : rm.isOpen.StaysIn id := .read fun _ => .pure _

theorem request_staysIn (path : String) (method body : Value) (given : List (String × Value)) :
    (rm.request path method body given).StaysIn rm.session := by
  unfold request
  exact .bind rm.isOpen_staysIn fun _ => .guarded fun _ => .bind (.ofExcept _) fun _ =>
    .bind (.ofExcept _) fun _ => .bind (.ofExcept _) fun _ =>
    .bind (makeRequest_staysIn _ _) fun _ => .ofExcept _

theorem ask_staysIn (path : String) (given : List (String × Value)) :
    (rm.ask path given).StaysIn rm.session :=
  .bind (.ofExcept _) fun _ => rm.request_staysIn _ _ _ _

theorem newApplication_staysIn (given : List (String × Value)) :
    (rm.newApplication given).StaysIn rm.session :=
  .bind (.ofExcept _) fun _ => rm.request_staysIn _ _ _ _

theorem submitApplication_staysIn (context : Value) (given : List (String × Value)) :
    (rm.submitApplication context given).StaysIn rm.session :=
  .bind (.debug _) fun _ => .bind (.ofExcept _) fun _ => rm.request_staysIn _ _ _ _

theorem application_staysIn (handle : Value) (given : List (String × Value)) :
    (rm.application handle given).StaysIn rm.session :=
  .bind (.ofExcept _) fun _ => rm.ask_staysIn _ _

theorem delegationToken_staysIn (renewer : Value) (given : List (String × Value)) :
    (rm.delegationToken renewer given).StaysIn rm.session :=
  .bind (.ofExcept _) fun _ => rm.request_staysIn _ _ _ _

end ResourceManager

theorem whenDeclined_staysIn {α : Type} {body : Run α} (other : Failure → Reason)
    (h : body.StaysIn id) : (RestNegotiator.whenDeclined body other).StaysIn id := by
  refine h.of_world_eq fun w => ?_
  unfold RestNegotiator.whenDeclined
  rcases body w with ⟨f | a, v⟩
  · dsimp only
    split <;> rfl
  · rfl

namespace RestNegotiator

variable (n : RestNegotiator)

theorem checkOpen_staysIn : n.checkOpen.StaysIn id := by
  unfold checkOpen
  refine .bind n.manager.isOpen_staysIn fun isOpen => ?_
  split
  · exact .fail _
  · exact .pure _

theorem createApplication_staysIn : n.createApplication.StaysIn n.manager.session :=
  .bind n.checkOpen_staysIn fun _ => .bind (n.manager.newApplication_staysIn _) fun _ =>
    .bind (.ofResult _) fun _ => .bind (.debug _) fun _ => .pure _

theorem submit_staysIn (o : SubmissionOrder) : (n.submit o).StaysIn n.manager.session :=
  .bind n.checkOpen_staysIn fun _ => .bind (.ofExcept _) fun _ => .bind (.ofExcept _) fun _ =>
    .bind (n.manager.submitApplication_staysIn _ _) fun _ => .bind (.ofExcept _) fun _ => .info _

theorem report_staysIn (handle : Value) : (n.report handle).StaysIn n.manager.session :=
  .bind (.ofExcept _) fun _ => whenDeclined_staysIn _
    (.bind (n.manager.application_staysIn _ _) fun _ => .bind (.ofResult _) fun _ => .pure _)

theorem quantityOf_staysIn (v : Value) : (quantityOf v).StaysIn id := by
  unfold quantityOf
  split
  · exact .pure _
  · exact .fail _

theorem addQuantities_staysIn (p q : Quantity) : (addQuantities p q).StaysIn id := by
  unfold addQuantities
  split
  · exact .pure _
  · exact .fail _

theorem sleep_staysIn (v : Value) : (sleep v).StaysIn id := by
  have hpass : ∀ sleeps clock (w : World), ClusterSubmission.StaysIn id w
      { w with sleeps, clock } := fun _ _ _ =>
    ⟨⟨⟨rfl, rfl, rfl, Nat.le_refl _⟩, fun _ _ => rfl, rfl, rfl⟩, rfl, rfl⟩
  unfold sleep
  exact .bind (fun w => hpass (v :: w.sleeps) w.clock w) fun _ => .read fun w =>
    .bind (quantityOf_staysIn v) fun q => .bind (addQuantities_staysIn _ q) fun now w =>
    hpass w.sleeps now w

theorem awaitAcceptance_staysIn (handle : Value) (deadline : Quantity) (fuel : Nat) :
    (n.awaitAcceptance handle deadline fuel).StaysIn n.manager.session := by
  induction fuel with
  | zero => exact n.report_staysIn handle
  | succ fuel ih =>
    unfold awaitAcceptance
    refine .bind (n.report_staysIn handle) fun report => .read fun w => ?_
    split
    · exact .pure _
    · exact .bind (.ofExcept _) fun _ => .bind (.debug _) fun _ =>
        .bind (sleep_staysIn _) fun _ => ih

theorem waitForAcceptance_staysIn (handle : Value) :
    (n.waitForAcceptance handle).StaysIn n.manager.session := by
  unfold waitForAcceptance
  exact .read fun w => .bind (quantityOf_staysIn _) fun _ =>
    .bind (addQuantities_staysIn _ _) fun _ => n.awaitAcceptance_staysIn _ _ _

theorem obtainCredential_staysIn (handle : Value) :
    (n.obtainCredential handle).StaysIn n.manager.session := by
  unfold obtainCredential
  refine .bind n.checkOpen_staysIn fun _ => .bind (n.waitForAcceptance_staysIn _) fun _ =>
    .bind (.ofExcept _) fun _ => .guarded fun _ => ?_
  exact .bind (whenDeclined_staysIn _ (.bind (n.manager.delegationToken_staysIn _ _)
    fun _ => .ofResult _)) fun _ => .bind (.debug _) fun _ => .bind (.ofExcept _) fun _ => .pure _

end RestNegotiator
end ClusterSubmission
