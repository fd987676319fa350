import ClusterSubmission.Proofs.JsonText
import ClusterSubmission.Proofs.SessionFrame

/-!
# Runs of operations over sessions

A run opens sessions and makes calls on negotiators, in any order. A negotiator that was closed
refuses every call and sends nothing, and none of its cookies is kept. One that is open asks for the
version until it got one, and repeats it then.
-/
namespace ClusterSubmission

/-- The calls on a negotiator, with what they are given. -/
inductive ServiceCall where
  | create
  | version
  | submit (o : SubmissionOrder)
  | credential (handle : Value)
  | close

/-- What a call on a negotiator gives. -/
inductive ServiceValue where
  | grant (handle : Value) (ceiling : Ceiling)
  | version (v : Version)
  | credential (c : Credential)
  | nothing

/-- Makes a call on a negotiator. -/
def RestNegotiator.perform (n : RestNegotiator) : ServiceCall → Run ServiceValue
  | .create => do let g ← n.createApplication; return .grant g.1 g.2
  | .version => do return .version (← n.clusterVersion)
  | .submit o => do n.submit o; return .nothing
  | .credential handle => do return .credential (← n.obtainCredential handle)
  | .close => do n.close; return .nothing

/-- A step of a run: a session is opened, or a call is made on a negotiator. -/
inductive SessionStep where
  | opens (address : Value) (auth : Option AuthHandler) (timeout verify proxies : Value)
  | call (n : RestNegotiator) (c : ServiceCall)

/-- Makes a step. -/
def SessionStep.run : SessionStep → Run ServiceValue
  | .opens address auth timeout verify proxies => do
    let _ ← ResourceManager.connect address auth timeout verify proxies
    return .nothing
  | .call n c => n.perform c

/-- A step of a run and the world it was made in. -/
structure SessionTurn where
  step : SessionStep
  world : World

namespace SessionTurn

def result (t : SessionTurn) : Except Failure ServiceValue := (t.step.run t.world).1

def nextWorld (t : SessionTurn) : World := (t.step.run t.world).2

end SessionTurn

namespace World

/-- The steps of a run with their worlds. -/
def sessionTurns (w : World) : List SessionStep → List SessionTurn
  | [] => []
  | s :: steps => ⟨s, w⟩ :: sessionTurns (s.run w).2 steps

/-- The world after the steps of a run. -/
def afterSteps (w : World) : List SessionStep → World
  | [] => w
  | s :: steps => afterSteps (s.run w).2 steps

/-- The world with a session closed and its cookies forgotten. -/
def closeSession (w : World) (id : Nat) : World :=
  ({ w with cookieCache := w.cookieCache.filter (·.1.1 != id) }).setSession id
    { w.session id with isOpen := false }

theorem afterSteps_append (w : World) (steps more : List SessionStep) :
    w.afterSteps (steps ++ more) = (w.afterSteps steps).afterSteps more := by
  induction steps generalizing w with
  | nil => rfl
  | cons s steps ih => exact ih (s.run w).2

/-- What every step of a run keeps holds in each of its turns, and after it. -/
theorem lasting {p : World → Prop} {steps : List SessionStep} {w : World}
    (hkeep : ∀ s ∈ steps, ∀ w, p w → p (s.run w).2) (h : p w) :
    (∀ t ∈ w.sessionTurns steps, p t.world) ∧ p (w.afterSteps steps) := by
  induction steps generalizing w with
  | nil => exact ⟨by simp [sessionTurns], h⟩
  | cons s steps ih =>
    obtain ⟨hturns, hafter⟩ := ih (fun t ht => hkeep t (List.mem_cons_of_mem _ ht))
      (hkeep s List.mem_cons_self w h)
    refine ⟨fun t ht => ?_, hafter⟩
    rcases List.mem_cons.mp ht with rfl | ht
    · exact h
    · exact hturns t ht

end World

/-- An integer is written with digits and at most a minus sign. -/
theorem Text.mem_intText {c : Char} {i : Int} (h : c ∈ (Text.intText i).toList) :
    c = '-' ∨ 48 ≤ c.toNat ∧ c.toNat ≤ 57 := by
  rcases i with n | n
  · rw [Json.intText_ofNat] at h
    exact Or.inr (Json.ascii_digits h)
  · rw [Json.intText_negSucc] at h
    exact (List.mem_cons.mp h).imp_right Json.ascii_digits

theorem Text.notMem_intText (i : Int) : '[' ∉ (Text.intText i).toList := fun h =>
  absurd (Text.mem_intText h) (by decide)

/-- A version is written with digits, points and minus signs only. -/
theorem Version.notMem_text (v : Version) : '[' ∉ v.text.toList := by
  unfold Version.text
  simp [String.toList_append, Text.notMem_intText]

namespace RestNegotiator

variable {n : RestNegotiator} {w w' : World}

/-- A negotiator that was closed: its calls fail and change nothing, closing it again changes
nothing either, and its cookies are forgotten. -/
structure IsSilent (n : RestNegotiator) (w : World) : Prop where
  refuses : ∀ c, c ≠ .close → ∃ f, f.kind = .communication ∧ n.perform c w = (.error f, w)
  again : n.perform .close w = (.ok .nothing, w)
  forgotten : ∀ c ∈ w.cookieCache, c.1.1 ≠ n.manager.session

/-- Closing a negotiator sends nothing and leaves the other sessions and their cookies alone. -/
structure ClosesAlone (n : RestNegotiator) (w w' : World) : Prop where
  closes : n.perform .close w = (.ok .nothing, w')
  exchanges : w'.exchanges = w.exchanges
  cookies : w'.cookieCache = w.cookieCache.filter (·.1.1 != n.manager.session)
  others : ∀ id, id ≠ n.manager.session → w'.session id = w.session id

/-- A negotiator that repeats a version, whatever the server is now. -/
def Repeats (n : RestNegotiator) (v : Version) (w : World) : Prop :=
  ∀ server : Server, n.perform .version { w with server } =
    (.ok (.version v), { w with server })

/-- A negotiator that asks for the version with one request, and knows one afterwards if and only
if it got one. -/
def AsksAgain (n : RestNegotiator) (w : World) : Prop :=
  ∃ e r w', n.perform .version w = (r, w') ∧ e.IsTo n.manager.address .info ∧
    w'.exchanges = w.exchanges ++ [e] ∧
    ((∃ f, r = .error f ∧ n.version? w' = none) ∨
      ∃ v, r = .ok (.version v) ∧ n.version? w' = some v)

theorem perform_of_closed (ho : n.isOpen w = false) {c : ServiceCall} (hc : c ≠ .close) :
    n.perform c w = (.error Reason.sessionClosed.failure, w) := by
  have hcheck := checkOpen_of_closed ho
  cases c with
  | close => exact absurd rfl hc
  | create => exact Run.bind_of_error (Run.bind_of_error hcheck)
  | version => exact Run.bind_of_error (Run.bind_of_error hcheck)
  | submit o => exact Run.bind_of_error (Run.bind_of_error hcheck)
  | credential handle => exact Run.bind_of_error (Run.bind_of_error hcheck)

theorem close_of_closed (ho : n.isOpen w = false) : n.close w = (.ok (), w) := by
  have hisOpen : n.manager.isOpen w = (.ok false, w) := by
    rw [← ho]
    rfl
  unfold close ResourceManager.close
  rw [Run.bind_of_ok hisOpen]
  rfl

/-- An open negotiator is closed, unless the record of it fails. -/
theorem close_of_open (ho : n.isOpen w = true) :
    n.close w = (.ok (), w.closeSession n.manager.session) ∨ ∃ f, n.close w = (.error f, w) := by
  have hisOpen : n.manager.isOpen w = (.ok true, w) := by
    rw [← ho]
    rfl
  have hsteps : n.close w = (Run.debug ("Closing session to " ++ n.manager.address) >>= fun _ =>
      forgetSession n.manager.session >>= fun _ => modify fun w =>
        w.setSession n.manager.session { w.session n.manager.session with isOpen := false }) w := by
    unfold close ResourceManager.close
    rw [Run.bind_of_ok hisOpen]
    rfl
  rcases Run.debug_cases ("Closing session to " ++ n.manager.address) w with hd | ⟨f, hd, -⟩
  · exact Or.inl (hsteps.trans (Run.bind_of_ok hd))
  · exact Or.inr ⟨f, hsteps.trans (Run.bind_of_error hd)⟩

theorem spares_closeSession (id : Nat) (w : World) : Spares id w (w.closeSession id) := by
  refine ⟨⟨rfl, rfl, rfl, List.length_set.ge⟩,
    fun j hj => World.session_setSession_of_ne _ hj, ?_, rfl⟩
  exact filter_filter_of_imp _ fun _ h => h

theorem version?_closeSession : n.version? (w.closeSession n.manager.session) = n.version? w :=
  World.session_setSession (w := { w with
    cookieCache := w.cookieCache.filter (·.1.1 != n.manager.session) }) Session.version rfl

/-- The version is asked for and kept, or nothing is. -/
theorem askVersion_cases {r : Except Failure Version} (h : n.askVersion w = (r, w')) :
    ∃ w₁, StaysIn n.manager.session w w₁ ∧ ((∃ f, r = .error f ∧ w' = w₁) ∨
      ∃ v, r = .ok v ∧ w' = w₁.setSession n.manager.session
        { w₁.session n.manager.session with version := some v }) := by
  have hask := n.manager.ask_staysIn "info" [] w
  unfold askVersion at h
  rcases Run.bind_cases h with ⟨f, hf, rfl⟩ | ⟨a, w₁, ha, h⟩
  · refine ⟨w', ?_, Or.inl ⟨f, rfl, rfl⟩⟩
    change StaysIn _ w (n.manager.cluster [] w).2 at hask
    rwa [hf] at hask
  change StaysIn _ w (n.manager.cluster [] w).2 at hask
  rw [ha] at hask
  refine ⟨w₁, hask, ?_⟩
  rcases hp : Message.decode .clusterInfoEnvelope a with f | p
  · rw [hp, Run.ofResult_error_bind] at h
    cases h
    exact Or.inl ⟨f, rfl, rfl⟩
  rw [hp, Run.ofResult_ok_bind] at h
  rcases hnull : (Message.reportedVersion (p.get "clusterInfo")).isNull with _ | _
  · rcases hof : Version.ofValue (Message.reportedVersion (p.get "clusterInfo")) with x | v
    · simp only [hnull, hof] at h
      cases h
      exact Or.inl ⟨_, rfl, rfl⟩
    · have hline : Log.ClosesNothing ("Cluster reports Hadoop version " ++ v.text).toList := by
        refine Log.closesNothing_of_notMem ?_
        rw [String.toList_append, List.mem_append, not_or]
        exact ⟨by decide, v.notMem_text⟩
      simp only [hnull, hof] at h
      change (Run.debug ("Cluster reports Hadoop version " ++ v.text) >>= fun _ => pure v) _ =
        (r, w') at h
      rw [Run.bind_of_ok (Run.debug_of_closesNothing hline _)] at h
      cases h
      exact Or.inr ⟨v, rfl, rfl⟩
  · simp only [hnull, if_true, Run.fail_bind] at h
    cases h
    exact Or.inl ⟨_, rfl, rfl⟩

/-- A call stays in its session, or it asks for the version or closes the negotiator. -/
theorem perform_staysIn {c : ServiceCall} (hv : c ≠ .version) (hc : c ≠ .close) :
    (n.perform c).StaysIn n.manager.session := by
  cases c with
  | version => exact absurd rfl hv
  | close => exact absurd rfl hc
  | create => exact .bind n.createApplication_staysIn fun _ => .pure _
  | submit o => exact .bind (n.submit_staysIn o) fun _ => .pure _
  | credential handle => exact .bind (n.obtainCredential_staysIn handle) fun _ => .pure _

theorem perform_version_eq {r : Except Failure Version} (h : n.clusterVersion w = (r, w')) :
    n.perform .version w = (r.map .version, w') := by
  cases r with
  | error f => exact Run.bind_of_error h
  | ok v => exact Run.bind_of_ok h

theorem perform_close_eq {r : Except Failure Unit} (h : n.close w = (r, w')) :
    n.perform .close w = (r.map fun _ => .nothing, w') := by
  cases r with
  | error f => exact Run.bind_of_error h
  | ok v => exact Run.bind_of_ok h

theorem repeats_of_known {v : Version} (ho : n.isOpen w = true) (hv : n.version? w = some v) :
    n.Repeats v w := fun server =>
  perform_version_eq (clusterVersion_of_known (w := { w with server }) ho hv)

theorem clusterVersion_of_unasked (ho : n.isOpen w = true) (hv : n.version? w = none) :
    n.clusterVersion w = n.askVersion w := by
  unfold clusterVersion
  rw [Run.bind_of_ok (checkOpen_of_open ho), Run.get_bind,
    show (w.session n.manager.session).version = none from hv]

/-- How a call for the version ends: nothing changes, or the version is asked for. -/
theorem perform_version_cases (n : RestNegotiator) (w : World) :
    (n.isOpen w = false ∧ n.perform .version w = (.error Reason.sessionClosed.failure, w)) ∨
    (∃ v, n.version? w = some v ∧ n.perform .version w = (.ok (.version v), w)) ∨
    n.version? w = none ∧ ∃ w₁, StaysIn n.manager.session w w₁ ∧
      ((∃ f, n.perform .version w = (.error f, w₁)) ∨
        ∃ v, n.perform .version w = (.ok (.version v), w₁.setSession n.manager.session
          { w₁.session n.manager.session with version := some v })) := by
  rcases ho : n.isOpen w with _ | _
  · exact Or.inl ⟨rfl, perform_of_closed ho (by simp)⟩
  rcases hv : n.version? w with _ | v
  · refine Or.inr (Or.inr ⟨rfl, ?_⟩)
    rcases hask : n.askVersion w with ⟨r, w'⟩
    have hcall := perform_version_eq ((clusterVersion_of_unasked ho hv).trans hask)
    obtain ⟨w₁, hstays, ⟨f, rfl, rfl⟩ | ⟨v, rfl, rfl⟩⟩ := askVersion_cases hask
    · exact ⟨w', hstays, Or.inl ⟨f, hcall⟩⟩
    · exact ⟨w₁, hstays, Or.inr ⟨v, hcall⟩⟩
  · exact Or.inr (Or.inl ⟨v, rfl, perform_version_eq (clusterVersion_of_known ho hv)⟩)

theorem perform_close_cases (n : RestNegotiator) (w : World) :
    (n.perform .close w).2 = w ∨ (n.perform .close w).2 = w.closeSession n.manager.session := by
  rcases ho : n.isOpen w with _ | _
  · rw [perform_close_eq (close_of_closed ho)]
    exact Or.inl rfl
  · rcases close_of_open ho with h | ⟨f, h⟩ <;> rw [perform_close_eq h]
    · exact Or.inr rfl
    · exact Or.inl rfl

/-- Every call spares the other sessions. -/
theorem perform_spares (n : RestNegotiator) (c : ServiceCall) (w : World) :
    Spares n.manager.session w (n.perform c w).2 := by
  by_cases hv : c = .version
  · subst hv
    rcases n.perform_version_cases w with ⟨-, h⟩ | ⟨v, -, h⟩ |
      ⟨-, w₁, hstays, ⟨f, h⟩ | ⟨v, h⟩⟩ <;> rw [h]
    · exact .refl _ w
    · exact .refl _ w
    · exact hstays.toSpares
    · exact hstays.toSpares.trans (.setSession _ _ w₁)
  by_cases hc : c = .close
  · subst hc
    rcases n.perform_close_cases w with h | h <;> rw [h]
    · exact .refl _ w
    · exact spares_closeSession _ w
  · exact (perform_staysIn hv hc w).toSpares

theorem perform_isOpen {c : ServiceCall} (ho : n.isOpen w = true) (hc : c ≠ .close) :
    n.isOpen (n.perform c w).2 = true := by
  by_cases hv : c = .version
  · subst hv
    rcases n.perform_version_cases w with ⟨-, h⟩ | ⟨v, -, h⟩ |
      ⟨-, w₁, hstays, ⟨f, h⟩ | ⟨v, h⟩⟩ <;> rw [h]
    · exact ho
    · exact ho
    · exact hstays.isOpen.trans ho
    · have hset : n.isOpen (w₁.setSession n.manager.session
          { w₁.session n.manager.session with version := some v }) = n.isOpen w₁ :=
        World.session_setSession Session.isOpen rfl
      exact hset.trans (hstays.isOpen.trans ho)
  · exact (perform_staysIn hv hc w).isOpen.trans ho

/-- A version that is known stays known. -/
theorem perform_version? {v : Version} (c : ServiceCall) (hv : n.version? w = some v) :
    n.version? (n.perform c w).2 = some v := by
  by_cases hversion : c = .version
  · subst hversion
    rcases n.perform_version_cases w with ⟨-, h⟩ | ⟨x, -, h⟩ | ⟨hnone, -⟩
    · rw [h]
      exact hv
    · rw [h]
      exact hv
    · rw [hv] at hnone
      cases hnone
  by_cases hc : c = .close
  · subst hc
    rcases n.perform_close_cases w with h | h <;> rw [h]
    · exact hv
    · exact version?_closeSession.trans hv
  · exact (perform_staysIn hversion hc w).version.trans hv

/-- Without a version, the next call for it asks the server again. -/
theorem asksAgain_of_unknown (hc : n.IsConnected w) (ho : n.isOpen w = true)
    (hv : n.version? w = none) : n.AsksAgain w := by
  rcases hask : n.clusterVersion w with ⟨r, w'⟩
  obtain ⟨e, hto, hasks⟩ := clusterVersion_of_unknown hc ho hv hask
  refine ⟨e, _, w', perform_version_eq hask, hto, hasks.talks.exchanges, ?_⟩
  rw [clusterVersion_of_unasked ho hv] at hask
  obtain ⟨w₁, hstays, ⟨f, rfl, rfl⟩ | ⟨v, rfl, rfl⟩⟩ := askVersion_cases hask
  · exact Or.inl ⟨f, rfl, hstays.version.trans hv⟩
  · refine Or.inr ⟨v, rfl, ?_⟩
    unfold version?
    rw [World.session_setSession_self (hc.known.trans_le hstays.count)]

theorem closesAlone (hc : n.IsConnected w) (ho : n.isOpen w = true) :
    n.ClosesAlone w (w.closeSession n.manager.session) := by
  obtain ⟨w', hclose, -⟩ := close_spec hc
  rcases close_of_open ho with h | ⟨f, h⟩
  · exact ⟨perform_close_eq h, rfl, rfl, fun id hid => World.session_setSession_of_ne _ hid⟩
  · rw [hclose] at h
    cases h

/-- A session that was closed, with its cookies forgotten. -/
def IsClosed (n : RestNegotiator) (w : World) : Prop :=
  n.isOpen w = false ∧ ∀ c ∈ w.cookieCache, c.1.1 ≠ n.manager.session

theorem IsClosed.isSilent (h : n.IsClosed w) : n.IsSilent w :=
  ⟨fun _ hc => ⟨_, rfl, perform_of_closed h.1 hc⟩, perform_close_eq (close_of_closed h.1), h.2⟩

theorem isClosed_closeSession (hc : n.IsConnected w) :
    n.IsClosed (w.closeSession n.manager.session) := by
  refine ⟨?_, fun c h => ?_⟩
  · unfold isOpen World.closeSession
    rw [World.session_setSession_self (w := { w with
      cookieCache := w.cookieCache.filter (·.1.1 != n.manager.session) }) hc.known]
  · simpa using (List.mem_filter.mp h).2

theorem IsClosed.of_spares {id : Nat} (h : n.IsClosed w) (hid : n.manager.session ≠ id)
    (hs : Spares id w w') : n.IsClosed w' := by
  refine ⟨?_, fun c hc => ?_⟩
  · unfold isOpen
    rw [hs.others _ hid]
    exact h.1
  · by_cases hown : c.1.1 = n.manager.session
    · have hkept : c ∈ w'.cookieCache.filter (·.1.1 != id) :=
        List.mem_filter.mpr ⟨hc, by simpa [hown] using hid⟩
      rw [hs.cookies] at hkept
      exact h.2 c (List.mem_filter.mp hkept).1
    · exact hown

end RestNegotiator

/-- The session that a step is about. -/
def SessionStep.session (w : World) : SessionStep → Nat
  | .opens .. => w.sessions.length
  | .call n _ => n.manager.session

theorem SessionStep.spares (s : SessionStep) (w : World) : Spares (s.session w) w (s.run w).2 := by
  cases s with
  | call n c => exact n.perform_spares c w
  | opens address auth timeout verify proxies =>
    have hconnect : ∀ r w', ResourceManager.connect address auth timeout verify proxies w =
        (r, w') → w' = w ∨ ∃ s, w' = { w with sessions := w.sessions ++ [s] } := by
      intro r w' h
      unfold ResourceManager.connect at h
      rcases hjoin : Url.joinValues address (.text ResourceManager.root) with x | base <;>
        rw [hjoin] at h <;> cases h
      · exact Or.inl rfl
      · exact Or.inr ⟨_, rfl⟩
    have hrun : (SessionStep.run (.opens address auth timeout verify proxies) w).2 =
        (ResourceManager.connect address auth timeout verify proxies w).2 := by
      rcases h : ResourceManager.connect address auth timeout verify proxies w with ⟨f | m, w'⟩
      · exact congrArg Prod.snd (Run.bind_of_error h)
      · exact congrArg Prod.snd (Run.bind_of_ok h)
    rcases h : ResourceManager.connect address auth timeout verify proxies w with ⟨r, w'⟩
    rw [hrun, h]
    rcases hconnect r w' h with rfl | ⟨s, rfl⟩
    · exact .refl _ _
    · refine ⟨⟨rfl, rfl, rfl, by simp⟩, fun j hj => ?_, rfl, rfl⟩
      unfold World.session
      rw [List.getElem?_append]
      split
      · rfl
      · rename_i hlt
        change j ≠ w.sessions.length at hj
        rw [List.getElem?_eq_none (by simp; omega), List.getElem?_eq_none (by omega)]

section Runs

variable {n : RestNegotiator} {w : World} {steps : List SessionStep}

/-- The negotiators of a run besides a given one are over sessions of their own. -/
def IsOwner (n : RestNegotiator) (steps : List SessionStep) : Prop :=
  ∀ m c, .call m c ∈ steps → m.manager.session = n.manager.session → m = n

theorem IsOwner.cases (h : IsOwner n steps) {s : SessionStep} (hs : s ∈ steps)
    (hc : n.IsConnected w) : (∃ c, s = .call n c) ∨ n.manager.session ≠ s.session w := by
  cases s with
  | opens => exact Or.inr hc.known.ne
  | call m c =>
    by_cases hown : m.manager.session = n.manager.session
    · exact Or.inl ⟨c, by rw [h m c hs hown]⟩
    · exact Or.inr fun hsame => hown hsame.symm

theorem IsOwner.of_subset (h : IsOwner n steps) {more : List SessionStep} (hsub : more ⊆ steps) :
    IsOwner n more := fun m c hm => h m c (hsub hm)

theorem isConnected_run (hc : n.IsConnected w) (s : SessionStep) : n.IsConnected (s.run w).2 :=
  ⟨hc.address, hc.known.trans_le (s.spares w).count⟩

theorem isConnected_afterSteps (hc : n.IsConnected w) (steps : List SessionStep) :
    n.IsConnected (w.afterSteps steps) :=
  (World.lasting (p := n.IsConnected) (fun s _ _ h => isConnected_run h s) hc).2

/-- A negotiator that is open stays so until it is closed. -/
theorem isOpen_afterSteps (hown : IsOwner n steps) (hc : n.IsConnected w) (ho : n.isOpen w = true)
    (hnever : .call n .close ∉ steps) : n.isOpen (w.afterSteps steps) = true := by
  refine (World.lasting (p := fun w => n.IsConnected w ∧ n.isOpen w = true)
    (fun s hs w h => ⟨isConnected_run h.1 s, ?_⟩) ⟨hc, ho⟩).2.2
  rcases hown.cases hs h.1 with ⟨c, rfl⟩ | hother
  · exact RestNegotiator.perform_isOpen h.2 fun hclose => hnever (hclose ▸ hs)
  · unfold RestNegotiator.isOpen
    rw [(s.spares w).others _ hother]
    exact h.2

theorem isClosed_afterSteps (hown : IsOwner n steps) (hc : n.IsConnected w) (h : n.IsClosed w) :
    n.IsClosed (w.afterSteps steps) := by
  refine (World.lasting (p := fun w => n.IsConnected w ∧ n.IsClosed w)
    (fun s hs w h => ⟨isConnected_run h.1 s, ?_⟩) ⟨hc, h⟩).2.2
  rcases hown.cases hs h.1 with ⟨c, rfl⟩ | hother
  · have hstill : (n.perform c w).2 = w := by
      by_cases hclose : c = .close
      · rw [hclose, h.2.isSilent.again]
      · obtain ⟨f, -, hf⟩ := h.2.isSilent.refuses c hclose
        rw [hf]
    change n.IsClosed (n.perform c w).2
    rw [hstill]
    exact h.2
  · exact h.2.of_spares hother (s.spares w)

/-- Closing an open or closed negotiator leaves it closed. -/
theorem isClosed_close (hc : n.IsConnected w) (h : n.isOpen w = true ∨ n.IsClosed w) :
    n.IsClosed (n.perform .close w).2 := by
  rcases h with ho | h
  · rw [(RestNegotiator.closesAlone hc ho).closes]
    exact RestNegotiator.isClosed_closeSession hc
  · rw [h.isSilent.again]
    exact h

theorem isOpen_or_isClosed (hown : IsOwner n steps) (hc : n.IsConnected w)
    (ho : n.isOpen w = true) :
    n.isOpen (w.afterSteps steps) = true ∨ n.IsClosed (w.afterSteps steps) := by
  refine (World.lasting (p := fun w => n.IsConnected w ∧ (n.isOpen w = true ∨ n.IsClosed w))
    (fun s hs w h => ⟨isConnected_run h.1 s, ?_⟩) ⟨hc, Or.inl ho⟩).2.2
  obtain ⟨hc, h⟩ := h
  by_cases hclose : s = .call n .close
  · rw [hclose]
    exact Or.inr (isClosed_close hc h)
  have hone : IsOwner n [s] := hown.of_subset (by simpa using hs)
  change n.isOpen (World.afterSteps _ [s]) = true ∨ n.IsClosed (World.afterSteps _ [s])
  rcases h with ho | h
  · exact Or.inl (isOpen_afterSteps hone hc ho (by simpa using Ne.symm hclose))
  · exact Or.inr (isClosed_afterSteps hone hc h)

/-- After the first close, a negotiator is closed for good. -/
theorem isClosed_of_mem (hown : IsOwner n steps) (hc : n.IsConnected w) (ho : n.isOpen w = true)
    (hclose : .call n .close ∈ steps) : n.IsClosed (w.afterSteps steps) := by
  obtain ⟨before, rest, rfl⟩ := List.append_of_mem hclose
  have hbefore := isOpen_or_isClosed (hown.of_subset (List.subset_append_left _ _)) hc ho
  have hc₁ := isConnected_afterSteps hc before
  have hrest : IsOwner n rest :=
    hown.of_subset fun s hs => List.mem_append_right _ (List.mem_cons_of_mem _ hs)
  rw [World.afterSteps_append]
  change n.IsClosed (World.afterSteps (n.perform .close _).2 rest)
  exact isClosed_afterSteps hrest (isConnected_run hc₁ (.call n .close))
    (isClosed_close hc₁ hbefore)

/-- A version that a negotiator knows, it knows in every turn of a run, and after it. -/
theorem version?_lasting (hown : IsOwner n steps) (hc : n.IsConnected w) {v : Version}
    (hv : n.version? w = some v) :
    (∀ t ∈ w.sessionTurns steps, n.version? t.world = some v) ∧
      n.version? (w.afterSteps steps) = some v := by
  have hkeep : ∀ s ∈ steps, ∀ w, n.IsConnected w ∧ n.version? w = some v →
      n.IsConnected (s.run w).2 ∧ n.version? (s.run w).2 = some v := by
    rintro s hs w ⟨hc, hv⟩
    refine ⟨isConnected_run hc s, ?_⟩
    rcases hown.cases hs hc with ⟨c, rfl⟩ | hother
    · exact RestNegotiator.perform_version? c hv
    · unfold RestNegotiator.version?
      rw [(s.spares w).others _ hother]
      exact hv
  obtain ⟨hturns, hafter⟩ := World.lasting hkeep ⟨hc, hv⟩
  exact ⟨fun t ht => (hturns t ht).2, hafter.2⟩

/-- A call that gave a version made it known. -/
theorem version?_of_given (hc : n.IsConnected w) {v : Version}
    (h : (n.perform .version w).1 = .ok (.version v)) :
    n.version? (n.perform .version w).2 = some v := by
  rcases n.perform_version_cases w with ⟨-, hw⟩ | ⟨x, hx, hw⟩ |
    ⟨-, w₁, hstays, ⟨f, hw⟩ | ⟨x, hw⟩⟩ <;> rw [hw] at h ⊢ <;> cases h
  · exact hx
  · unfold RestNegotiator.version?
    rw [World.session_setSession_self (hc.known.trans_le hstays.count)]

/-- Once a call gave a version, no later one for it sends anything or gives another version. -/
theorem version_settled (hown : IsOwner n steps) (hc : n.IsConnected w) {v : Version}
    (hv : n.version? w = some v) {t : SessionTurn} (ht : t ∈ w.sessionTurns steps)
    (hcall : t.step = .call n .version) : t.nextWorld = t.world ∧
      ∀ x, t.result = .ok x → x = .version v := by
  have hknown := (version?_lasting hown hc hv).1 t ht
  unfold SessionTurn.nextWorld SessionTurn.result
  rw [hcall]
  rcases n.perform_version_cases t.world with ⟨-, hw⟩ | ⟨x, hx, hw⟩ | ⟨hnone, -⟩
  · change (n.perform .version t.world).2 = _ ∧ ∀ x, (n.perform .version t.world).1 = _ → _
    rw [hw]
    exact ⟨rfl, fun x hx => by cases hx⟩
  · change (n.perform .version t.world).2 = _ ∧ ∀ x, (n.perform .version t.world).1 = _ → _
    rw [hw]
    rw [hknown] at hx
    cases hx
    exact ⟨rfl, fun x hx => by cases hx; rfl⟩
  · rw [hknown] at hnone
    cases hnone

theorem pairwise_settled (hown : IsOwner n steps) (hc : n.IsConnected w) :
    (w.sessionTurns steps).Pairwise fun t u => ∀ v, t.step = .call n .version →
      u.step = .call n .version → t.result = .ok (.version v) →
        u.nextWorld = u.world ∧ ∀ x, u.result = .ok x → x = .version v := by
  induction steps generalizing w with
  | nil => exact .nil
  | cons s steps ih =>
    have hrest := hown.of_subset (List.subset_cons_self s steps)
    have hc₁ := isConnected_run hc s
    refine .cons (fun u hu v hs hcall hgiven => ?_) (ih hrest hc₁)
    cases hs
    exact version_settled hrest hc₁ (version?_of_given hc hgiven) hu hcall

/-- Until a call gave a version, none is known. -/
theorem version?_of_ungiven (hown : IsOwner n steps) (hc : n.IsConnected w)
    (hv : n.version? w = none) (hnone : ∀ t ∈ w.sessionTurns steps, t.step = .call n .version →
      ∀ x, t.result ≠ .ok x) : n.version? (w.afterSteps steps) = none := by
  induction steps generalizing w with
  | nil => exact hv
  | cons s steps ih =>
    refine ih (hown.of_subset (List.subset_cons_self s steps)) (isConnected_run hc s) ?_
      fun t ht => hnone t (List.mem_cons_of_mem _ ht)
    have hfirst := hnone ⟨s, w⟩ List.mem_cons_self
    rcases hown.cases List.mem_cons_self hc with ⟨c, rfl⟩ | hother
    · by_cases hversion : c = .version
      · subst hversion
        change n.version? (n.perform .version w).2 = none
        have hfailed : ∀ x, (n.perform .version w).1 ≠ .ok x := hfirst rfl
        rcases n.perform_version_cases w with ⟨-, hw⟩ | ⟨x, hx, -⟩ |
          ⟨-, w₁, hstays, ⟨f, hw⟩ | ⟨x, hw⟩⟩
        · rw [hw]
          exact hv
        · rw [hv] at hx
          cases hx
        · rw [hw]
          exact hstays.version.trans hv
        · rw [hw] at hfailed
          exact absurd rfl (hfailed _)
      by_cases hclose : c = .close
      · subst hclose
        change n.version? (n.perform .close w).2 = none
        rcases n.perform_close_cases w with h | h <;> rw [h]
        · exact hv
        · exact RestNegotiator.version?_closeSession.trans hv
      · exact (RestNegotiator.perform_staysIn hversion hclose w).version.trans hv
    · unfold RestNegotiator.version?
      rw [(s.spares w).others _ hother]
      exact hv

/-- The version that a turn gave is known after the run. -/
theorem version?_of_turn (hown : IsOwner n steps) (hc : n.IsConnected w) {t : SessionTurn}
    (ht : t ∈ w.sessionTurns steps) (hcall : t.step = .call n .version) {v : Version}
    (hgiven : t.result = .ok (.version v)) : n.version? (w.afterSteps steps) = some v := by
  induction steps generalizing w with
  | nil => cases ht
  | cons s steps ih =>
    have hrest := hown.of_subset (List.subset_cons_self s steps)
    have hc₁ := isConnected_run hc s
    rcases List.mem_cons.mp ht with rfl | ht
    · cases hcall
      exact (version?_lasting hrest hc₁ (version?_of_given hc hgiven)).2
    · exact ih hrest hc₁ ht

end Runs

/-- A negotiator over a fresh session, behind any run of calls on it and on others. Once it was
closed, it is silent. Until then, closing it leaves all others alone, it repeats a version that it
gave, and it asks again as long as it gave none. So at most one of its calls for the version sends
a request and gives one. -/
theorem session_run {address timeout verify proxies : Value} {auth : Option AuthHandler}
    {n : RestNegotiator} {w₀ w : World} (steps : List SessionStep)
    (hconnect : ResourceManager.connect address auth timeout verify proxies w₀ =
      (.ok n.manager, w))
    (hown : IsOwner n steps) :
    (.call n .close ∈ steps → n.IsSilent (w.afterSteps steps)) ∧
    (.call n .close ∉ steps →
      (∃ w', n.ClosesAlone (w.afterSteps steps) w') ∧
      (∀ t ∈ w.sessionTurns steps, t.step = .call n .version → ∀ v,
        t.result = .ok (.version v) → n.Repeats v (w.afterSteps steps)) ∧
      ((∀ t ∈ w.sessionTurns steps, t.step = .call n .version → ∀ x, t.result ≠ .ok x) →
        n.AsksAgain (w.afterSteps steps))) ∧
    (w.sessionTurns steps).Pairwise fun t u => ∀ v, t.step = .call n .version →
      u.step = .call n .version → t.result = .ok (.version v) →
        u.nextWorld = u.world ∧ ∀ x, u.result = .ok x → x = .version v := by
  obtain ⟨hc, ho, hv⟩ := RestNegotiator.isConnected_of_connect hconnect
  refine ⟨fun hclose => (isClosed_of_mem hown hc ho hclose).isSilent, fun hnever => ?_,
    pairwise_settled hown hc⟩
  have hc' := isConnected_afterSteps hc steps
  have ho' := isOpen_afterSteps hown hc ho hnever
  refine ⟨⟨_, RestNegotiator.closesAlone hc' ho'⟩, fun t ht hcall v hgiven => ?_, fun hnone => ?_⟩
  · exact RestNegotiator.repeats_of_known ho' (version?_of_turn hown hc ht hcall hgiven)
  · exact RestNegotiator.asksAgain_of_unknown hc' ho' (version?_of_ungiven hown hc hv hnone)

/-- What a cluster says about itself. -/
def sampleInfo : String :=
  "\x7b\"clusterInfo\":\x7b\"hadoopVersion\":\"3.3.6\"\x7d\x7d"

/-- A negotiator on a second session with the same server. -/
def RestNegotiator.second : RestNegotiator := { manager := { sample.manager with session := 1 } }

/-- The version is asked for, and a second session opened and used. -/
def sampleSteps : List SessionStep :=
  [.call .sample .version, .opens (.text "http://rm:8088") none .null .null .null,
    .call .second .version]

theorem isOwner_sampleSteps (more : List ServiceCall) :
    IsOwner .sample (sampleSteps ++ more.map (.call .sample)) := by
  intro m c hm hown
  simp only [sampleSteps, List.cons_append, List.nil_append, List.mem_cons, List.mem_map,
    reduceCtorEq, false_or, SessionStep.call.injEq] at hm
  rcases hm with ⟨rfl, -⟩ | ⟨rfl, -⟩ | ⟨d, -, rfl, -⟩
  · rfl
  · cases hown
  · rfl

/-- The version that a result gives. -/
def givenVersion? : Except Failure ServiceValue → Option Version
  | .ok (.version v) => some v
  | _ => none

theorem eq_of_givenVersion? {r : Except Failure ServiceValue} {v : Version}
    (h : givenVersion? r = some v) : r = .ok (.version v) := by
  unfold givenVersion? at h
  split at h
  · cases h
    rfl
  · cases h

/-- A cluster's version is repeated while another session is used, and no more once closed. -/
theorem session_run_sampled :
    ResourceManager.connect (.text "http://rm:8088") none .null .null .null
        { server := Server.answering sampleInfo } =
      (.ok RestNegotiator.sample.manager, World.served (Server.answering sampleInfo)) ∧
    RestNegotiator.sample.Repeats ⟨3, 3, 6⟩
      ((World.served (Server.answering sampleInfo)).afterSteps sampleSteps) ∧
    RestNegotiator.sample.IsSilent ((World.served (Server.answering sampleInfo)).afterSteps
      (sampleSteps ++ [.call .sample .close, .call .sample .version])) := by
  have hconnect := RestNegotiator.connect_sample (Server.answering sampleInfo)
  have hgiven : givenVersion? (RestNegotiator.sample.perform .version
      (World.served (Server.answering sampleInfo))).1 = some ⟨3, 3, 6⟩ := by
    decide +kernel
  refine ⟨hconnect, ?_, ?_⟩
  · obtain ⟨-, hopen, -⟩ := session_run (n := .sample) sampleSteps hconnect
      (by simpa using isOwner_sampleSteps [])
    obtain ⟨-, hrepeats, -⟩ := hopen (by simp [sampleSteps])
    exact hrepeats ⟨.call .sample .version, _⟩ List.mem_cons_self rfl ⟨3, 3, 6⟩
      (eq_of_givenVersion? hgiven)
  · obtain ⟨hclosed, -⟩ := session_run (n := .sample)
      (sampleSteps ++ [.call .sample .close, .call .sample .version]) hconnect
      (isOwner_sampleSteps [.close, .version])
    exact hclosed (by simp [sampleSteps])

end ClusterSubmission
