import ClusterSubmission.Negotiator.Connection
import ClusterSubmission.Proofs.LogLevel

/-!
# Services at different levels of the log

The services of the resource manager, the configuration of the site and the steps of submitting all
ignore the level of the log. Each is put together from parts that do.
-/
namespace ClusterSubmission

section Services

open Run.IgnoresLevel

theorem send_ignoresLevel (id : Nat) (q : Request) : (send id q).IgnoresLevel :=
  of_blind (fun _ _ => rfl) fun _ => ⟨List.suffix_cons _ _, List.prefix_refl _⟩

theorem keepCookie_ignoresLevel (id : Nat) (url : String) : (keepCookie id url).IgnoresLevel := by
  unfold keepCookie
  refine read (fun _ _ => rfl) fun w => ?_
  split
  · split
    · exact .bind (.quietly (fun _ _ => rfl) (fun _ => rfl) fun _ => rfl) fun _ => .debug _
    · exact .pure _
  · exact .pure _

theorem exchange_ignoresLevel (id : Nat) (url target : String) (cookie : Option String)
    (plan : RequestPlan) : (exchange id url target cookie plan).IgnoresLevel := by
  have hkeep : ∀ a : Response, (keepCookie id url >>= fun _ => pure a).IgnoresLevel := fun a =>
    .bind (keepCookie_ignoresLevel id url) fun _ => .pure a
  unfold exchange
  refine .bind (.debug _) fun _ => .guarded fun _ => .read (fun _ _ => rfl) fun w =>
    .bind (send_ignoresLevel id _) fun a => .bind (.debug _) fun _ => ?_
  split
  · split
    · exact .of_blind (fun _ _ => rfl) fun w => .refl w
    · exact hkeep a
  · exact hkeep a

theorem translateTrouble_ignoresLevel (id : Nat) {body : Run Response} (h : body.IgnoresLevel) :
    (translateTrouble id body).IgnoresLevel := by
  refine h.mapFailure (y := translateTrouble id body) (g := fun w f =>
    if f.kind.isTransport = true then
      requestFailure w.environment w.ticketList f none (w.session id).proxies
    else f) ?_ ?_ (fun _ _ _ => rfl) ?_
  · intro w a v hw
    unfold translateTrouble
    rw [hw]
  · intro w f v hw
    unfold translateTrouble
    rw [hw]
    dsimp only
    split <;> rfl
  · intro w f hf
    rw [hf.kind]
    exact hf

theorem makeRequest_ignoresLevel (id : Nat) (plan : RequestPlan) :
    (makeRequest id plan).IgnoresLevel := by
  have hauth : ∀ auth, (setSessionAuth id auth).IgnoresLevel := fun auth =>
    .setSession id fun s => { s with auth := auth }
  have hmodest : ∀ auth, (setSessionAuth id auth).IsModest := fun auth =>
    ⟨fun _ => rfl, fun _ => rfl, fun _ _ h => nomatch h⟩
  unfold makeRequest
  refine .guarded fun _ => .read (fun _ _ => rfl) fun w => ?_
  have hrest : (do
      let target ← Run.ofExcept (Url.joinValues plan.url plan.path)
      Run.andFinally (translateTrouble id (exchange id plan.url.plain target.plain
          (w.cachedCookie? id plan.url.plain) plan))
        (setSessionAuth id (w.session id).auth)).IgnoresLevel :=
    .bind (.ofExcept _) fun target => .andFinally (translateTrouble_ignoresLevel id
      (exchange_ignoresLevel id _ _ _ plan)) (hauth _) (hmodest _)
  dsimp only
  split
  · exact .bind (hauth none) fun _ => hrest
  · exact hrest

namespace ResourceManager

variable (rm : ResourceManager)

theorem isOpen_ignoresLevel : rm.isOpen.IgnoresLevel :=
  .read (fun _ _ => rfl) fun _ => .pure _

theorem request_ignoresLevel (path : String) (method body : Value)
    (given : List (String × Value)) : (rm.request path method body given).IgnoresLevel := by
  unfold request
  exact .bind rm.isOpen_ignoresLevel fun _ => .guarded fun _ => .bind (.ofExcept _) fun _ =>
    .bind (.ofExcept _) fun _ => .bind (.ofExcept _) fun _ =>
    .bind (makeRequest_ignoresLevel _ _) fun _ => .ofExcept _

theorem ask_ignoresLevel (path : String) (given : List (String × Value)) :
    (rm.ask path given).IgnoresLevel :=
  .bind (.ofExcept _) fun _ => rm.request_ignoresLevel _ _ _ _

theorem newApplication_ignoresLevel (given : List (String × Value)) :
    (rm.newApplication given).IgnoresLevel :=
  .bind (.ofExcept _) fun _ => rm.request_ignoresLevel _ _ _ _

theorem submitApplication_ignoresLevel (context : Value) (given : List (String × Value)) :
    (rm.submitApplication context given).IgnoresLevel :=
  .bind (.debug _) fun _ => .bind (.ofExcept _) fun _ => rm.request_ignoresLevel _ _ _ _

theorem application_ignoresLevel (id : Value) (given : List (String × Value)) :
    (rm.application id given).IgnoresLevel :=
  .bind (.ofExcept _) fun _ => rm.ask_ignoresLevel _ _

theorem delegationToken_ignoresLevel (renewer : Value) (given : List (String × Value)) :
    (rm.delegationToken renewer given).IgnoresLevel :=
  .bind (.ofExcept _) fun _ => rm.request_ignoresLevel _ _ _ _

theorem close_ignoresLevel : rm.close.IgnoresLevel := by
  unfold close
  refine .bind rm.isOpen_ignoresLevel fun isOpen => ?_
  cases isOpen with
  | false => exact .pure _
  | true =>
    exact .bind (.debug _) fun _ => .bind (.quietly (fun _ _ => rfl) (fun _ => rfl) fun _ => rfl)
      fun _ => .setSession _ fun s => { s with isOpen := false }

/-- Closing a session sends nothing. -/
theorem close_isModest : rm.close.IsModest := by
  have hcases : ∀ w, (∃ v, rm.close w = (.ok (), v) ∧ v.history = w.history ∧
      v.warnings = w.warnings) ∨ ∃ f, rm.close w = (.error f, w) ∧ f.IsOfRecord := by
    intro w
    rcases ho : (w.session rm.session).isOpen with _ | _
    · refine Or.inl ⟨w, ?_, rfl, rfl⟩
      unfold close
      rw [Run.bind_of_ok (show rm.isOpen w = (.ok false, w) by rw [← ho]; rfl)]
      rfl
    · have hopen : rm.isOpen w = (.ok true, w) := by
        rw [← ho]
        rfl
      have hsteps : rm.close w = (Run.debug ("Closing session to " ++ rm.address) >>= fun _ =>
          forgetSession rm.session >>= fun _ => modify fun w =>
            w.setSession rm.session { w.session rm.session with isOpen := false }) w := by
        unfold close
        rw [Run.bind_of_ok hopen]
        rfl
      rcases Run.log_cases debugLevel ("Closing session to " ++ rm.address) w with
        hl | ⟨r, hl, hr, -⟩
      · exact Or.inl ⟨_, (hsteps.trans (Run.bind_of_ok hl)).trans rfl, rfl, rfl⟩
      · exact Or.inr ⟨r.failure, hsteps.trans (Run.bind_of_error hl), _, r, hr, rfl⟩
  refine ⟨fun w => ?_, fun w => ?_, fun w f h => ?_⟩
  · rcases hcases w with ⟨v, hv, hh, -⟩ | ⟨f, hf, -⟩
    · rw [hv]
      exact hh
    · rw [hf]
  · rcases hcases w with ⟨v, hv, -, hw⟩ | ⟨f, hf, -⟩
    · rw [hv]
      exact hw
    · rw [hf]
  · rcases hcases w with ⟨v, hv, -, -⟩ | ⟨g, hg, hof⟩
    · rw [hv] at h
      cases h
    · rw [hg] at h
      cases h
      exact hof

end ResourceManager

theorem whenDeclined_ignoresLevel {α : Type} {body : Run α} (other : Failure → Reason)
    (h : body.IgnoresLevel) : (RestNegotiator.whenDeclined body other).IgnoresLevel := by
  refine h.mapFailure (y := RestNegotiator.whenDeclined body other) (g := fun _ f =>
    if f.kind = .rejected then (other f).failure.causedBy f else f) ?_ ?_ (fun _ _ _ => rfl) ?_
  · intro w a v hw
    unfold RestNegotiator.whenDeclined
    rw [hw]
  · intro w f v hw
    unfold RestNegotiator.whenDeclined
    rw [hw]
    dsimp only
    split <;> rfl
  · intro w f hf
    have hkind : f.kind ≠ .rejected := by
      rw [hf.kind]
      decide
    rw [if_neg hkind]
    exact hf

namespace RestNegotiator

variable (n : RestNegotiator)

theorem checkOpen_ignoresLevel : n.checkOpen.IgnoresLevel := by
  unfold checkOpen
  refine .bind n.manager.isOpen_ignoresLevel fun isOpen => ?_
  split
  · exact .fail _
  · exact .pure _

theorem createApplication_ignoresLevel : n.createApplication.IgnoresLevel :=
  .bind n.checkOpen_ignoresLevel fun _ => .bind (n.manager.newApplication_ignoresLevel _) fun _ =>
    .bind (.ofResult _) fun _ => .bind (.debug _) fun _ => .pure _

theorem askVersion_ignoresLevel : n.askVersion.IgnoresLevel := by
  unfold askVersion
  refine .bind (n.manager.ask_ignoresLevel _ _) fun _ => .bind (.ofResult _) fun _ => ?_
  dsimp only
  refine .guarded fun _ => .bind (.ofExcept _) fun version => ?_
  exact .bind (.setSession _ fun s => { s with version := some version }) fun _ =>
    .bind (.debug _) fun _ => .pure _

theorem clusterVersion_ignoresLevel : n.clusterVersion.IgnoresLevel := by
  unfold clusterVersion
  refine .bind n.checkOpen_ignoresLevel fun _ => .read (fun _ _ => rfl) fun w => ?_
  split
  · exact .pure _
  · exact n.askVersion_ignoresLevel

theorem submit_ignoresLevel (o : SubmissionOrder) : (n.submit o).IgnoresLevel :=
  .bind n.checkOpen_ignoresLevel fun _ => .bind (.ofExcept _) fun _ => .bind (.ofExcept _) fun _ =>
    .bind (n.manager.submitApplication_ignoresLevel _ _) fun _ => .bind (.ofExcept _) fun _ =>
    .info _

theorem report_ignoresLevel (handle : Value) : (n.report handle).IgnoresLevel :=
  .bind (.ofExcept _) fun _ => whenDeclined_ignoresLevel _
    (.bind (n.manager.application_ignoresLevel _ _) fun _ => .bind (.ofResult _) fun _ => .pure _)

theorem quantityOf_ignoresLevel (v : Value) : (quantityOf v).IgnoresLevel := by
  unfold quantityOf
  split
  · exact .pure _
  · exact .fail _

theorem addQuantities_ignoresLevel (p q : Quantity) : (addQuantities p q).IgnoresLevel := by
  unfold addQuantities
  split
  · exact .pure _
  · exact .fail _

theorem sleep_ignoresLevel (v : Value) : (sleep v).IgnoresLevel := by
  unfold sleep
  refine .bind (.quietly (fun _ _ => rfl) (fun _ => rfl) fun _ => rfl) fun _ => ?_
  refine .read (fun _ _ => rfl) fun w => .bind (quantityOf_ignoresLevel v) fun q => ?_
  exact .bind (addQuantities_ignoresLevel _ q) fun _ =>
    .quietly (fun _ _ => rfl) (fun _ => rfl) fun _ => rfl

theorem awaitAcceptance_ignoresLevel (handle : Value) (deadline : Quantity) (fuel : Nat) :
    (n.awaitAcceptance handle deadline fuel).IgnoresLevel := by
  induction fuel with
  | zero => exact n.report_ignoresLevel handle
  | succ fuel ih =>
    unfold awaitAcceptance
    refine .bind (n.report_ignoresLevel handle) fun report => .read (fun _ _ => rfl) fun w => ?_
    split
    · exact .pure _
    · exact .bind (.ofExcept _) fun _ => .bind (.debug _) fun _ =>
        .bind (sleep_ignoresLevel _) fun _ => ih

theorem waitForAcceptance_ignoresLevel (handle : Value) :
    (n.waitForAcceptance handle).IgnoresLevel := by
  unfold waitForAcceptance
  refine .read (fun _ _ => rfl) fun w => .bind (quantityOf_ignoresLevel _) fun _ => ?_
  exact .bind (addQuantities_ignoresLevel _ _) fun _ => n.awaitAcceptance_ignoresLevel _ _ _

theorem obtainCredential_ignoresLevel (handle : Value) :
    (n.obtainCredential handle).IgnoresLevel := by
  unfold obtainCredential
  refine .bind n.checkOpen_ignoresLevel fun _ =>
    .bind (n.waitForAcceptance_ignoresLevel _) fun _ => .bind (.ofExcept _) fun _ => ?_
  refine .guarded fun _ => ?_
  exact .bind (whenDeclined_ignoresLevel _ (.bind (n.manager.delegationToken_ignoresLevel _ _)
    fun _ => .ofResult _)) fun _ => .bind (.debug _) fun _ => .bind (.ofExcept _) fun _ => .pure _

end RestNegotiator

end Services

section Site

variable (c : SiteConfiguration)

theorem environmentValue_ignoresLevel (name : String) :
    (Run.environmentValue? name).IgnoresLevel :=
  .read (fun _ _ => rfl) fun _ => .pure _

theorem variableOrEmpty_ignoresLevel (name : String) : (Run.variableOrEmpty name).IgnoresLevel :=
  .bind (environmentValue_ignoresLevel name) fun _ => .pure _

theorem readFile_ignoresLevel (path : String) : (Site.readFile path).IgnoresLevel := by
  have hkeep : ∀ (isIt : SiteEntry → Bool) (entry : SiteEntry), (modify fun w =>
      { w with siteCache := (entry :: w.siteCache.filter fun e => !isIt e).take Site.keptFiles } :
      Run Unit).IgnoresLevel := fun _ _ =>
    .quietly (fun _ _ => rfl) (fun _ => rfl) fun _ => rfl
  unfold Site.readFile
  refine .read (fun _ _ => rfl) fun w => .bind (.ofExcept _) fun found => ?_
  dsimp only
  split
  · exact .bind (.pure _) fun _ => .bind (hkeep _ _) fun _ => .pure _
  · exact .bind (.ofExcept _) fun _ => .bind (.pure _) fun _ => .bind (hkeep _ _) fun _ => .pure _

namespace SiteConfiguration

theorem directory_ignoresLevel : c.directory.IgnoresLevel := by
  unfold directory
  refine .bind (variableOrEmpty_ignoresLevel _) fun _ =>
    .bind (variableOrEmpty_ignoresLevel _) fun _ => ?_
  split
  · exact .pure _
  · exact .pure _
  · exact .fail _

theorem isAvailable_ignoresLevel : c.isAvailable.IgnoresLevel :=
  .bind c.directory_ignoresLevel fun _ => .read (fun _ _ => rfl) fun _ => .pure _

theorem findIn_ignoresLevel (key : Option String) (paths : List String) :
    (findIn key paths).IgnoresLevel := by
  induction paths with
  | nil => exact .pure _
  | cons path paths ih =>
    unfold findIn
    refine .bind (readFile_ignoresLevel path) fun ps => ?_
    split
    · exact .bind (.debug _) fun _ => .pure _
    · exact ih

theorem fill_ignoresLevel {value : String → Run (Option String)}
    (h : ∀ key, (value key).IgnoresLevel) (ps : List Piece) : (fill value ps).IgnoresLevel := by
  induction ps with
  | nil => exact .pure _
  | cons piece ps ih =>
    cases piece with
    | text c => exact .bind ih fun _ => .pure _
    | reference key => exact .bind (h key) fun _ => .bind ih fun _ => .pure _

theorem resolve_ignoresLevel (fuel : Nat) (resolving : List String) (key : String)
    (default : Option String) : (c.resolve fuel resolving key default).IgnoresLevel := by
  induction fuel generalizing resolving key default with
  | zero => exact .fail _
  | succ fuel ih =>
    unfold resolve
    refine .guarded fun _ => .bind c.directory_ignoresLevel fun _ =>
      .bind c.isAvailable_ignoresLevel fun _ => .guarded fun _ => .read (fun _ _ => rfl) fun w =>
      .bind (findIn_ignoresLevel _ _) fun found => ?_
    split
    · exact .pure _
    · exact .bind (fill_ignoresLevel (fun name => ih _ name none) _) fun _ => .pure _

theorem get_ignoresLevel (key : String) (default : Option String) :
    (c.get? key default).IgnoresLevel :=
  .bind c.directory_ignoresLevel fun _ => .read (fun _ _ => rfl) fun _ =>
    c.resolve_ignoresLevel _ _ _ _

theorem addressesAt_ignoresLevel (scheme : String) (keys : List String) :
    (c.addressesAt scheme keys).IgnoresLevel := by
  induction keys with
  | nil => exact .pure _
  | cons key keys ih =>
    exact .bind (c.get_ignoresLevel key none) fun _ => .bind ih fun _ => .pure _

theorem resourceManagerIds_ignoresLevel : c.resourceManagerIds.IgnoresLevel := by
  unfold resourceManagerIds
  refine .bind (c.get_ignoresLevel _ _) fun _ => ?_
  split <;> exact .pure _

theorem isSecureOnly_ignoresLevel : c.isSecureOnly.IgnoresLevel :=
  .bind (c.get_ignoresLevel _ _) fun _ => .pure _

theorem standbyIds_ignoresLevel : c.standbyIds.IgnoresLevel := by
  unfold standbyIds isHighlyAvailable
  refine .bind (.bind (c.get_ignoresLevel _ _) fun _ => .pure _) fun several => ?_
  split
  · exact .pure _
  · refine .bind c.resourceManagerIds_ignoresLevel fun _ => ?_
    split
    · exact .pure _
    · refine .bind c.resourceManagerIds_ignoresLevel fun _ => ?_
      split
      · exact .pure _
      · exact .fail _

theorem addressBy_ignoresLevel (scheme key : String) : (c.addressBy scheme key).IgnoresLevel := by
  unfold addressBy
  refine .bind (c.get_ignoresLevel _ _) fun _ => ?_
  split
  · exact .pure _
  · exact .pure _
  · exact .bind (c.get_ignoresLevel _ _) fun _ => .pure _

theorem addressByHost_ignoresLevel (scheme : String) : (c.addressByHost scheme).IgnoresLevel := by
  unfold addressByHost
  refine .bind (c.get_ignoresLevel _ _) fun _ => ?_
  split
  · exact .pure _
  · exact .pure _
  · exact .bind c.isSecureOnly_ignoresLevel fun _ =>
      .bind (c.get_ignoresLevel _ _) fun _ => .pure _

theorem addresses_ignoresLevel : c.addresses.IgnoresLevel := by
  unfold addresses
  refine .bind c.isSecureOnly_ignoresLevel fun secure => ?_
  refine .bind c.standbyIds_ignoresLevel fun ids => ?_
  split
  · refine .bind (c.addressesAt_ignoresLevel _ _) fun _ => ?_
    split <;> exact .pure _
  · refine .bind (c.addressBy_ignoresLevel _ _) fun _ => ?_
    split
    · exact .pure _
    · exact .bind (c.addressByHost_ignoresLevel _) fun _ => .pure _

theorem usesKerberos_ignoresLevel : c.usesKerberos.IgnoresLevel := by
  unfold usesKerberos
  refine .bind (variableOrEmpty_ignoresLevel _) fun word => ?_
  dsimp only
  split
  · exact .pure _
  · refine .bind c.isAvailable_ignoresLevel fun _ => ?_
    split
    · exact .pure _
    · refine .bind (c.get_ignoresLevel _ _) fun found => ?_
      split <;> exact .pure _

end SiteConfiguration

theorem makeAuthHandler_ignoresLevel (method user : Value) (options : List (String × Value)) :
    (makeAuthHandler method user options).IgnoresLevel := by
  have huser : defaultUser.IgnoresLevel := .read (fun _ _ => rfl) fun _ => .pure _
  unfold makeAuthHandler
  refine .bind (.ofExcept _) fun family => ?_
  cases family with
  | simple =>
    have hend : ∀ name : Value, (Run.debug ("Using simple HTTP authentication with username '"
        ++ name.plain ++ "'") >>= fun _ => pure (AuthHandler.simple name)).IgnoresLevel :=
      fun _ => .bind (.debug _) fun _ => .pure _
    dsimp only
    unfold simpleHandler
    split
    · exact .bind (.pure _) hend
    · exact .bind huser fun _ => .bind (.pure _) hend
  | kerberos => exact .bind (.debug _) fun _ => .bind (.ofExcept _) fun _ => .pure _

theorem connect_ignoresLevel (address : Value) (auth : Option AuthHandler)
    (timeout verify proxies : Value) :
    (ResourceManager.connect address auth timeout verify proxies).IgnoresLevel := by
  have hopened : ∀ session, (newSession session).IgnoresLevel := fun _ =>
    .of_blind (fun _ _ => rfl) fun _ => .of_eq rfl rfl
  exact .bind (.ofExcept _) fun _ => .bind (hopened _) fun _ => .pure _

theorem ofNamed_ignoresLevel (auth : Option AuthHandler) (given : List (String × Value)) :
    (RestNegotiator.ofNamed auth given).IgnoresLevel :=
  .bind (connect_ignoresLevel _ _ _ _ _) fun _ => .pure _

theorem ofSettings_ignoresLevel (settings : Settings) :
    (RestNegotiator.ofSettings settings).IgnoresLevel := by
  have haddress : ∀ c, (resourceManagerAddress settings c).IgnoresLevel := by
    intro c
    unfold resourceManagerAddress
    split
    · exact .pure _
    · refine .bind c.addresses_ignoresLevel fun _ => ?_
      split
      · exact .bind (.debug _) fun _ => .pure _
      · exact .fail _
  have hmethod : ∀ c, (authenticationMethod settings c).IgnoresLevel := by
    intro c
    unfold authenticationMethod
    split
    · exact .pure _
    · exact .bind c.usesKerberos_ignoresLevel fun _ => .pure _
  exact .bind (haddress _) fun _ => .bind (hmethod _) fun _ =>
    .bind (makeAuthHandler_ignoresLevel _ _ _) fun _ => .bind (connect_ignoresLevel _ _ _ _ _)
    fun _ => .pure _

end Site

namespace Submission

variable {n : RestNegotiator} {s : Submission}

theorem start_ignoresLevel (n : RestNegotiator) (plan : SubmissionPlan) :
    (start n.operations plan).IgnoresLevel :=
  .bind (.debug _) fun _ => .bind (.onFailure n.createApplication_ignoresLevel
    n.manager.close_ignoresLevel n.manager.close_isModest) fun _ => .bind (.ofExcept _) fun _ =>
    .bind (.info _) fun _ => .pure _

theorem inStep_ignoresLevel {α : Type} (step : SubmissionStep) {body : Run α}
    (h : body.IgnoresLevel) : (s.inStep step body).IgnoresLevel := by
  refine .bind (.debug _) fun _ => h.mapFailure (g := fun _ f => f.inStep s.handle step)
    ?_ ?_ (fun _ _ _ => rfl) fun _ f hf => hf.inStep s.handle step
  · intro w a v hw
    rw [hw]
  · intro w f v hw
    rw [hw]

theorem resourceRequest_ignoresLevel : s.resourceRequest.IgnoresLevel := by
  unfold resourceRequest
  refine .bind (.ofExcept _) fun memory => .bind (.ofExcept _) fun capped => ?_
  cases capped with
  | false => exact .pure _
  | true =>
    exact .bind (.ofExcept _) fun _ => .bind (.ofExcept _) fun _ => .bind (.warn _ _) fun _ =>
      .pure _

theorem launchSpec_ignoresLevel (r : ResourceRequest) : (s.launchSpec r).IgnoresLevel := by
  unfold launchSpec
  exact .bind (.ofExcept _) fun _ => .bind (.ofExcept _) fun _ => .bind (.ofExcept _) fun _ =>
    .read (fun _ _ => rfl) fun _ => .pure _

theorem keepsContainers_ignoresLevel (hs : s.negotiator = n.operations) :
    s.keepsContainers.IgnoresLevel := by
  have hversion : s.negotiator.clusterVersion.IgnoresLevel := by
    rw [hs]
    exact n.clusterVersion_ignoresLevel
  unfold keepsContainers
  dsimp only
  split
  · exact .pure _
  · refine .bind hversion fun version => ?_
    split
    · exact .bind (.debug _) fun _ => .pure _
    · exact .bind (.warn _ _) fun _ => .pure _

theorem attemptPolicy_ignoresLevel (hs : s.negotiator = n.operations) :
    s.attemptPolicy.IgnoresLevel := by
  unfold attemptPolicy
  refine .bind (keepsContainers_ignoresLevel hs) fun keep => ?_
  dsimp only
  split
  · exact .bind (.warn _ _) fun _ => .pure _
  · exact .pure _

theorem handOver_ignoresLevel (hs : s.negotiator = n.operations) (o : SubmissionOrder) :
    (s.handOver o).IgnoresLevel := by
  have hsubmit : (s.negotiator.submit o).IgnoresLevel := by
    rw [hs]
    exact n.submit_ignoresLevel o
  exact .bind (.info _) fun _ => .bind (.ofExcept _) fun _ => .bind (.info _) fun _ => hsubmit

theorem putToken_ignoresLevel (sink : Nat) (name token : Value) :
    (putToken sink name token).IgnoresLevel :=
  .read (fun _ _ => rfl) fun _ => .bind (.ofExcept _) fun _ =>
    .quietly (fun _ _ => rfl) (fun _ => rfl) fun _ => rfl

theorem recordCredential_ignoresLevel (store : Nat) (user : Value) (c : Credential) :
    (recordCredential store user c).IgnoresLevel :=
  .read (fun _ _ => rfl) fun _ => .bind (.ofExcept _) fun _ =>
    .quietly (fun _ _ => rfl) (fun _ => rfl) fun _ => rfl

theorem deliverCredential_ignoresLevel (hs : s.negotiator = n.operations) :
    s.deliverCredential.IgnoresLevel := by
  have hobtain : (s.negotiator.obtainCredential s.handleValue).IgnoresLevel := by
    rw [hs]
    exact n.obtainCredential_ignoresLevel _
  have hissue : (s.manager.issue s.negotiator s.handleValue).IgnoresLevel :=
    .bind hobtain fun _ => .bind (recordCredential_ignoresLevel _ _ _) fun _ =>
      .bind (.ofExcept _) fun _ => .bind (.debug _) fun _ => .pure _
  have hadd : ∀ c, (addCredential s.sink c).IgnoresLevel := fun c =>
    .read (fun _ _ => rfl) fun _ => .bind (.debug _) fun _ => putToken_ignoresLevel _ _ _
  exact .bind hissue fun c => .bind (hadd c) fun _ => .pure _

theorem submit_ignoresLevel (hs : s.negotiator = n.operations) : s.submit.IgnoresLevel := by
  unfold submit
  refine .bind (inStep_ignoresLevel _ (.ofExcept _)) fun _ => ?_
  refine .bind (inStep_ignoresLevel _ resourceRequest_ignoresLevel) fun request => ?_
  refine .bind (inStep_ignoresLevel _ (launchSpec_ignoresLevel request)) fun spec => ?_
  refine .bind (inStep_ignoresLevel _ (attemptPolicy_ignoresLevel hs)) fun policy => ?_
  refine .bind (inStep_ignoresLevel _ (handOver_ignoresLevel hs _)) fun _ => ?_
  dsimp only
  split
  · exact .bind (inStep_ignoresLevel _ (deliverCredential_ignoresLevel hs)) fun _ =>
      .bind (.pure _) fun _ => .pure _
  · exact .bind (.pure _) fun _ => .pure _

end Submission
end ClusterSubmission
