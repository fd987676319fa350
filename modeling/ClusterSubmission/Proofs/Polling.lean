import ClusterSubmission.Proofs.ExactTime
import ClusterSubmission.Proofs.Negotiation
import Mathlib.Data.ENat.Lattice

/-!
# Looking again and again

Waiting for an application is looks at it with a pause between each two of them. It goes on while
the reports say that the application is pending and its time is not up, so that the number of looks
follows from the reports, the time and the pause.
-/
namespace ClusterSubmission

open Message

theorem requests_exchangesOf (server : Server) (history : List Request) :
    (exchangesOf server history).map Exchange.request = history.reverse := by
  induction history with
  | nil => rfl
  | cons q older ih => simp [exchangesOf, ih]

theorem Talks.history {session : Nat} {w w' : World} {sent : List Exchange}
    (h : Talks session w sent w') :
    w'.history = (sent.map Exchange.request).reverse ++ w.history := by
  have hrequests := congrArg (List.map Exchange.request) h.exchanges
  unfold World.exchanges at hrequests
  rw [List.map_append, requests_exchangesOf, requests_exchangesOf] at hrequests
  simpa using congrArg List.reverse hrequests

/-- A request that was sent got the server's reply to it. -/
theorem Talks.reply_eq {session : Nat} {w w' : World} {e : Exchange}
    (h : Talks session w [e] w') : e.reply = w.server w.history e.request := by
  have hexchanges := h.exchanges
  unfold World.exchanges at hexchanges
  rw [h.server, h.history] at hexchanges
  have hlast := List.append_cancel_left hexchanges
  exact congrArg Exchange.reply (List.singleton_inj.mp hlast).symm

theorem Message.inState_iff {report : Part} {states : List String} :
    inState report states = true ↔ ∃ s, report.field "state" = .text s ∧ s ∈ states := by
  unfold inState
  split
  · rename_i s hs
    simp [hs]
  · rename_i hno
    constructor
    · intro h
      cases h
    · rintro ⟨s, hs, -⟩
      exact absurd hs (hno s)

theorem Exchange.report?_of_answer {e : Exchange} {a : Response} (h : e.answer? = some a) :
    e.report? = (readReport a).toOption := by
  rw [Exchange.report?, h, Option.bind_some]

/-- The number of the first report that is not pending, counted from one; there may be none. -/
noncomputable def firstSettled (reports : Nat → Part) : ℕ∞ :=
  ⨅ (k : Nat) (_ : isPending (reports k) = false), ((k + 1 : Nat) : ℕ∞)

/-- The last look is the first one whose report is not pending, or behind which it is late. -/
theorem exists_lastLook (reports : Nat → Part) (most : Nat) :
    ∃ last ≤ most, (∀ k < last, isPending (reports k) = true ∧ k < most) ∧
      (isPending (reports last) = true → most ≤ last) := by
  have hexists : ∃ k, isPending (reports k) = true → most ≤ k := ⟨most, fun _ => Nat.le_refl _⟩
  obtain ⟨last, hlast, hfirst⟩ := Nat.findX hexists
  refine ⟨last, ?_, fun k hk => ?_, hlast⟩
  · by_contra hlate
    exact hfirst _ (Nat.lt_of_not_le hlate) fun _ => Nat.le_refl _
  · obtain ⟨hpending, hearly⟩ := Classical.not_imp.mp (hfirst k hk)
    exact ⟨hpending, Nat.lt_of_not_le hearly⟩

/-- The looks end with the first report that is not pending, or when there were enough of them. -/
theorem firstSettled_min {reports : Nat → Part} {last most : Nat} (hle : last ≤ most)
    (hbefore : ∀ k < last, isPending (reports k) = true)
    (hlast : isPending (reports last) = true → most ≤ last) :
    ((last + 1 : Nat) : ℕ∞) = min (firstSettled reports) ((most + 1 : Nat) : ℕ∞) := by
  apply le_antisymm
  · refine le_min (le_iInf₂ fun k hk => ?_) (Nat.cast_le.mpr (Nat.succ_le_succ hle))
    have hlate : last ≤ k := by
      by_contra hk'
      rw [hbefore k (Nat.lt_of_not_le hk')] at hk
      cases hk
    exact Nat.cast_le.mpr (Nat.succ_le_succ hlate)
  · rcases hpending : isPending (reports last) with _ | _
    · exact (min_le_left _ _).trans (iInf₂_le last hpending)
    · exact (min_le_right _ _).trans (Nat.cast_le.mpr (Nat.succ_le_succ (hlast hpending)))

namespace RestNegotiator

/-- The world behind a look at an application. -/
def look (n : RestNegotiator) (id : String) (w : World) : World :=
  (n.report (.handle (.text id)) w).2

/-- The world behind some looks at an application, with a pause behind each. -/
def afterLooks (n : RestNegotiator) (id : String) (w : World) : Nat → World
  | 0 => w
  | k + 1 => (sleep n.pollInterval (n.look id (n.afterLooks id w k))).2

/-- What the reports on an application say, were it looked at for as long as it is pending. -/
def Reports (n : RestNegotiator) (id : String) (w : World) (reports : Nat → Part) : Prop :=
  ∀ k, (∀ j < k, isPending (reports j) = true) →
    (n.report (.handle (.text id)) (n.afterLooks id w k)).1 = .ok (reports k)

variable {n : RestNegotiator} {w w' : World} {id : String} {reports : Nat → Part}

theorem look_spec (hc : n.IsConnected w) (ho : n.isOpen w = true)
    (hid : ApplicationId.isValid id = true) :
    ∃ e : Exchange, e.IsTo n.manager.address (.application id) ∧
      Sends n.manager.session w [e] (n.look id w) ∧
      Ends w e readReport (n.report (.handle (.text id)) w).1 := report_spec hc ho hid rfl

theorem sleep_sleeps (v : Value) (w : World) : (sleep v w).2.sleeps = v :: w.sleeps := by
  unfold sleep quantityOf addQuantities
  rw [Run.modify_bind, Run.get_bind]
  rcases v.quantity? with _ | q
  · rfl
  · rw [Run.pure_bind_apply]
    rcases Quantity.add? _ q with _ | now <;> rfl

theorem sleep_asks (session : Nat) (v : Value) (w : World) :
    Asks session w [] (sleep v w).2 := by
  rcases sleep_cases session v w with ⟨w', h, hasks, -⟩ | ⟨f, w', h, hasks, -⟩ <;>
    exact h ▸ hasks

theorem sleep_of_add {v : Value} {q now : Quantity} (hv : v.quantity? = some q)
    (hadd : Quantity.add? w.clock q = some now) :
    (sleep v w).1 = .ok () ∧ (sleep v w).2.clock = now := by
  unfold sleep quantityOf addQuantities
  rw [Run.modify_bind, Run.get_bind, hv, Run.pure_bind_apply, hadd]
  exact ⟨rfl, rfl⟩

theorem asks_afterLooks (hc : n.IsConnected w) (ho : n.isOpen w = true)
    (hid : ApplicationId.isValid id = true) (k : Nat) :
    ∃ looks : List Exchange, looks.length = k ∧
      Asks n.manager.session w looks (n.afterLooks id w k) := by
  induction k with
  | zero => exact ⟨[], rfl, Asks.refl _ w⟩
  | succ k ih =>
    obtain ⟨looks, hlength, hasks⟩ := ih
    obtain ⟨e, -, hsends, -⟩ :=
      look_spec (hc.of_talks hasks.toTalks) (isOpen_of_talks ho hasks.toTalks) hid
    exact ⟨looks ++ [e] ++ [], by simp [hlength],
      (hasks.trans hsends.toAsks).trans (sleep_asks _ n.pollInterval _)⟩

/-- Where nothing is recorded, the looks find what a server reports in its answers. -/
theorem reports_of_server (hc : n.IsConnected w) (ho : n.isOpen w = true)
    (hid : ApplicationId.isValid id = true) (hquiet : w.isTalkative = false)
    (hserver : ∀ k older q, older.length = k + w.history.length →
      (Exchange.mk q (w.server older q)).report? = some (reports k)) :
    n.Reports id w reports := by
  intro k _
  obtain ⟨looks, hlength, hasks⟩ := asks_afterLooks hc ho hid k
  obtain ⟨e, -, hsends, hends⟩ :=
    look_spec (hc.of_talks hasks.toTalks) (isOpen_of_talks ho hasks.toTalks) hid
  have hreport : e.report? = some (reports k) := by
    have hreply := hsends.reply_eq
    rw [hasks.server] at hreply
    rw [← hserver k (n.afterLooks id w k).history e.request (by simp [hasks.history, hlength]),
      ← hreply]
  obtain ⟨a, ha, hread⟩ := Exchange.report?_eq_some.mp hreport
  rcases hends.of_answer ha with hends | ⟨f, -, hf⟩
  · exact hends.trans hread
  · exact absurd hf (not_isConsoleFault (hasks.isTalkative.trans hquiet) f)

/-- What looks at an application and pauses did: each look found the report that was next. -/
structure HasLooked (n : RestNegotiator) (id : String) (w : World) (reports : Nat → Part)
    (looks : List Exchange) (pauses : Nat) (w' : World) : Prop where
  asks : Asks n.manager.session w looks w'
  target : ∀ e ∈ looks, e.IsTo n.manager.address (.application id)
  found : looks.map Exchange.report? = (List.range looks.length).map fun k => some (reports k)
  sleeps : w'.sleeps = List.replicate pauses n.pollInterval ++ w.sleeps

theorem HasLooked.start : n.HasLooked id w reports [] 0 w :=
  ⟨Asks.refl _ w, by simp, rfl, rfl⟩

theorem HasLooked.look {looks : List Exchange} {pauses : Nat} (hc : n.IsConnected w)
    (ho : n.isOpen w = true) (hid : ApplicationId.isValid id = true)
    (hreport : (n.report (.handle (.text id)) w').1 = .ok (reports looks.length))
    (h : n.HasLooked id w reports looks pauses w') :
    ∃ e, n.HasLooked id w reports (looks ++ [e]) pauses (n.look id w') := by
  obtain ⟨e, hto, hsends, hends⟩ :=
    look_spec (hc.of_talks h.asks.toTalks) (isOpen_of_talks ho h.asks.toTalks) hid
  rw [hreport] at hends
  refine ⟨e, h.asks.trans hsends.toAsks, ?_, ?_, hsends.sleeps.trans h.sleeps⟩
  · intro x hx
    rcases List.mem_append.mp hx with hx | hx
    · exact h.target x hx
    · exact List.mem_singleton.mp hx ▸ hto
  · simp [h.found, Exchange.report?_of_ok hends, List.range_succ]

theorem HasLooked.sleep {looks : List Exchange} {pauses : Nat}
    (h : n.HasLooked id w reports looks pauses w') :
    n.HasLooked id w reports looks (pauses + 1) (sleep n.pollInterval w').2 := by
  refine ⟨?_, h.target, h.found, ?_⟩
  · simpa using h.asks.trans (sleep_asks n.manager.session n.pollInterval w')
  · rw [sleep_sleeps, h.sleeps, List.replicate_succ, List.cons_append]

theorem hasLooked_afterLooks (hc : n.IsConnected w) (ho : n.isOpen w = true)
    (hid : ApplicationId.isValid id = true) (hreports : n.Reports id w reports) {k : Nat}
    (hpending : ∀ j < k, isPending (reports j) = true) :
    ∃ looks : List Exchange, looks.length = k ∧
      n.HasLooked id w reports looks k (n.afterLooks id w k) := by
  induction k with
  | zero => exact ⟨[], rfl, .start⟩
  | succ k ih =>
    have hbefore : ∀ j < k, isPending (reports j) = true := fun j hj =>
      hpending j (Nat.lt_succ_of_lt hj)
    obtain ⟨looks, hlength, h⟩ := ih hbefore
    obtain ⟨e, hlook⟩ := h.look hc ho hid (hlength ▸ hreports k hbefore)
    exact ⟨looks ++ [e], by simp [hlength], hlook.sleep⟩

theorem clock_look (hc : n.IsConnected w) (ho : n.isOpen w = true)
    (hid : ApplicationId.isValid id = true) (k : Nat) :
    (n.look id (n.afterLooks id w k)).clock = (n.afterLooks id w k).clock := by
  obtain ⟨looks, -, hasks⟩ := asks_afterLooks hc ho hid k
  obtain ⟨e, -, hsends, -⟩ :=
    look_spec (hc.of_talks hasks.toTalks) (isOpen_of_talks ho hasks.toTalks) hid
  exact hsends.clock

theorem debug_waiting {report : Part} (hid : ApplicationId.isValid id = true)
    (h : isPending report = true) (w : World) :
    Run.debug ("Application '" ++ id ++ "' is " ++ (report.field "state").plain
      ++ ", waiting to be accepted") w = (.ok (), w) := by
  refine Run.debug_of_closesNothing ?_ w
  have hstate : '[' ∉ (report.field "state").plain.toList := by
    obtain ⟨state, hstate, hmem⟩ := inState_iff.mp h
    have hnames : ∀ s ∈ ["NEW", "NEW_SAVING", "SUBMITTED"], '[' ∉ s.toList := by decide
    rw [hstate]
    exact hnames state hmem
  have happend : "Application '" ++ id ++ "' is " ++ (report.field "state").plain
      ++ ", waiting to be accepted" = "Application '" ++ id ++ ("' is "
      ++ (report.field "state").plain ++ ", waiting to be accepted") := by
    simp [String.append_assoc]
  rw [happend]
  exact closesNothing_handle hid (by decide) (by simp [String.toList_append, hstate])

/-- A look that is not the last one is one round of waiting: the pause behind it succeeds. -/
theorem awaitAcceptance_pause {deadline : Quantity} {report : Part} (fuel : Nat)
    (hid : ApplicationId.isValid id = true)
    (hreport : (n.report (.handle (.text id)) w).1 = .ok report)
    (hpending : isPending report = true) (hearly : Quantity.le deadline (n.look id w).clock = false)
    (hslept : (sleep n.pollInterval (n.look id w)).1 = .ok ()) :
    n.awaitAcceptance (.handle (.text id)) deadline (fuel + 1) w =
      n.awaitAcceptance (.handle (.text id)) deadline fuel
        (sleep n.pollInterval (n.look id w)).2 := by
  have hlook : n.report (.handle (.text id)) w = (.ok report, n.look id w) := Prod.ext hreport rfl
  have hsleep : sleep n.pollInterval (n.look id w) =
      (.ok (), (sleep n.pollInterval (n.look id w)).2) := Prod.ext hslept rfl
  rw [awaitAcceptance, Run.bind_of_ok hlook, Run.get_bind]
  simp only [hpending, hearly, Bool.not_true, Bool.or_self, Bool.false_eq_true, if_false,
    Value.handleText, Run.ofExcept_ok_bind]
  rw [Run.bind_of_ok (debug_waiting hid hpending _), Run.bind_of_ok hsleep]

theorem awaitAcceptance_last {deadline : Quantity} {report : Part} (fuel : Nat)
    (hreport : (n.report (.handle (.text id)) w).1 = .ok report)
    (hlast : isPending report = true → Quantity.le deadline (n.look id w).clock = true) :
    n.awaitAcceptance (.handle (.text id)) deadline fuel w = (.ok report, n.look id w) := by
  have hlook : n.report (.handle (.text id)) w = (.ok report, n.look id w) := Prod.ext hreport rfl
  cases fuel with
  | zero => exact hlook
  | succ fuel =>
    rw [awaitAcceptance, Run.bind_of_ok hlook, Run.get_bind]
    cases hpending : isPending report with
    | false => simp
    | true => simp [hlast hpending]

/-- Waiting goes from one look to the next one until the last. -/
theorem awaitAcceptance_afterLooks {deadline : Quantity} {last : Nat}
    (hid : ApplicationId.isValid id = true) (hreports : n.Reports id w reports)
    (hbefore : ∀ k < last, isPending (reports k) = true ∧
      Quantity.le deadline (n.look id (n.afterLooks id w k)).clock = false ∧
      (sleep n.pollInterval (n.look id (n.afterLooks id w k))).1 = .ok ())
    (hlast : isPending (reports last) = true →
      Quantity.le deadline (n.look id (n.afterLooks id w last)).clock = true)
    (fuel : Nat) : ∀ k ≤ last, last ≤ k + fuel →
    n.awaitAcceptance (.handle (.text id)) deadline fuel (n.afterLooks id w k) =
      (.ok (reports last), n.look id (n.afterLooks id w last)) := by
  have hreport : ∀ k ≤ last, (n.report (.handle (.text id)) (n.afterLooks id w k)).1 =
      .ok (reports k) := fun k hk => hreports k fun j hj => (hbefore j (hj.trans_le hk)).1
  -- By induction on the looks that may still follow: one of them is the last.
  induction fuel with
  | zero =>
    intro k hk hfuel
    obtain rfl : k = last := Nat.le_antisymm hk hfuel
    exact awaitAcceptance_last 0 (hreport k hk) hlast
  | succ fuel ih =>
    intro k hk hfuel
    rcases Nat.lt_or_eq_of_le hk with hlt | rfl
    · obtain ⟨hpending, hearly, hslept⟩ := hbefore k hlt
      rw [awaitAcceptance_pause fuel hid (hreport k hk) hpending hearly hslept]
      exact ih (k + 1) hlt (by omega)
    · exact awaitAcceptance_last _ (hreport k hk) hlast

theorem le_lookLimit {timeout step : Quantity} {t p : Nat} (hp : 0 < p)
    (htimeout : n.acceptTimeout.quantity? = some timeout)
    (hstep : n.pollInterval.quantity? = some step) (ht : units? timeout = some (t : Int))
    (hs : units? step = some (p : Int)) :
    t ⌈/⌉ p ≤ lookLimit n.acceptTimeout n.pollInterval := by
  unfold lookLimit
  rw [htimeout, hstep, Option.bind_some, Option.bind_some, ht, hs]
  have hmany : t ⌈/⌉ p ≤ t / p + 1 := by
    rw [Nat.ceilDiv_eq_add_pred_div]
    calc (t + p - 1) / p ≤ (t + p) / p := Nat.div_le_div_right (Nat.sub_le _ _)
      _ = t / p + 1 := Nat.add_div_right t hp
  have hpos : (0 : Int) < (p : Int) := Int.natCast_pos.mpr hp
  simp only [hpos, if_true]
  rw [← Int.natCast_div, Int.toNat_natCast]
  exact hmany.trans (Nat.le_add_left _ _)

theorem mul_lt_of_le_ceilDiv {t p k : Nat} (hp : 0 < p) (hk : k ≤ t ⌈/⌉ p) : k * p < t + p := by
  cases k with
  | zero => omega
  | succ k =>
    have hbefore : p * k < t := by
      by_contra hle
      exact Nat.not_succ_le_self k
        (hk.trans ((ceilDiv_le_iff_le_mul hp).mpr (Nat.le_of_not_lt hle)))
    rw [Nat.succ_mul, mul_comm]
    omega

section Exact

variable {timeout step : Quantity} {c : Int} {t p : Nat}
variable (hc : n.IsConnected w) (ho : n.isOpen w = true) (hid : ApplicationId.isValid id = true)
variable (hstep : n.pollInterval.quantity? = some step)
variable (hexact : Quantity.IsExact w.clock timeout step c t p)
include hc ho hid hstep hexact

/-- While time is reckoned with exactly, the clock passes by the pauses. -/
theorem clock_afterLooks {k : Nat} (hk : k ≤ t ⌈/⌉ p) :
    Quantity.clockAfter w.clock step k = some (n.afterLooks id w k).clock ∧
      ∀ j < k, (sleep n.pollInterval (n.look id (n.afterLooks id w j))).1 = .ok () := by
  induction k with
  | zero => exact ⟨rfl, by simp⟩
  | succ k ih =>
    obtain ⟨hclock, hslept⟩ := ih (Nat.le_of_succ_le hk)
    obtain ⟨now, hnow, -⟩ := Option.bind_eq_some_iff.mp (hexact.passing (k + 1) hk)
    have hadd : Quantity.add? (n.look id (n.afterLooks id w k)).clock step = some now := by
      rw [clock_look hc ho hid]
      rwa [Quantity.clockAfter, hclock, Option.bind_some] at hnow
    obtain ⟨hok, hpassed⟩ := sleep_of_add hstep hadd
    refine ⟨hnow.trans (congrArg some hpassed.symm), fun j hj => ?_⟩
    rcases Nat.lt_succ_iff_lt_or_eq.mp hj with hj | rfl
    · exact hslept j hj
    · exact hok

theorem units_afterLooks {k : Nat} (hk : k ≤ t ⌈/⌉ p) :
    units? (n.look id (n.afterLooks id w k)).clock = some (c + k * p) := by
  obtain ⟨hclock, -⟩ := clock_afterLooks hc ho hid hstep hexact hk
  have hpassing := hexact.passing k hk
  rwa [hclock, Option.bind_some, ← clock_look hc ho hid] at hpassing

/-- The time is up behind enough pauses, and not before. -/
theorem le_clock_iff {deadline : Quantity} (hdeadline : units? deadline = some (c + t)) (hp : 0 < p)
    {k : Nat} (hk : k ≤ t ⌈/⌉ p) :
    Quantity.le deadline (n.look id (n.afterLooks id w k)).clock = true ↔ t ⌈/⌉ p ≤ k := by
  rw [Quantity.le_iff_of_units hdeadline
    (units_afterLooks hc ho hid hstep hexact hk), ceilDiv_le_iff_le_mul hp, mul_comm p,
    Int.add_le_add_iff_left]
  exact_mod_cast Iff.rfl

theorem waitForAcceptance_eq (htimeout : n.acceptTimeout.quantity? = some timeout)
    (hreports : n.Reports id w reports) {last : Nat} (hp : 0 < p) (hle : last ≤ t ⌈/⌉ p)
    (hbefore : ∀ k < last, isPending (reports k) = true ∧ k < t ⌈/⌉ p)
    (hlast : isPending (reports last) = true → t ⌈/⌉ p ≤ last) :
    n.waitForAcceptance (.handle (.text id)) w =
      (.ok (reports last), n.look id (n.afterLooks id w last)) := by
  obtain ⟨deadline, hadd, hdeadline⟩ := Option.bind_eq_some_iff.mp hexact.deadline
  have hlate := fun {k} => le_clock_iff hc ho hid hstep hexact hdeadline hp (k := k)
  obtain ⟨-, hslept⟩ := clock_afterLooks hc ho hid hstep hexact hle
  unfold waitForAcceptance quantityOf addQuantities
  rw [Run.get_bind, htimeout, Run.pure_bind_apply, hadd, Run.pure_bind_apply]
  refine awaitAcceptance_afterLooks hid hreports (fun k hk => ?_) (fun h => ?_) _ 0
    (Nat.zero_le _) ?_
  · obtain ⟨hpending, hearly⟩ := hbefore k hk
    refine ⟨hpending, ?_, hslept k hk⟩
    rw [← Bool.not_eq_true, hlate hearly.le]
    exact Nat.not_le_of_lt hearly
  · exact (hlate hle).mpr (hlast h)
  · rw [Nat.zero_add]
    exact hle.trans (le_lookLimit hp htimeout hstep hexact.timeout_eq hexact.step_eq)

end Exact

/-- Waiting for an application ends, whatever its reports say: with the first one that is not
pending, or once its time is up. It pauses between each two looks, and not behind the last. -/
theorem waitForAcceptance_polls {timeout step : Quantity} {c : Int} {t p : Nat}
    (hc : n.IsConnected w) (ho : n.isOpen w = true) (hid : ApplicationId.isValid id = true)
    (htimeout : n.acceptTimeout.quantity? = some timeout)
    (hstep : n.pollInterval.quantity? = some step)
    (hexact : Quantity.IsExact w.clock timeout step c t p) (hp : 0 < p)
    (hreports : n.Reports id w reports) :
    ∃ (last : Nat) (looks : List Exchange),
      n.waitForAcceptance (.handle (.text id)) w =
        (.ok (reports last), n.look id (n.afterLooks id w last)) ∧
      looks.length = last + 1 ∧
      n.HasLooked id w reports looks last (n.look id (n.afterLooks id w last)) ∧
      (looks.length : ℕ∞) = min (firstSettled reports) ((t ⌈/⌉ p + 1 : Nat) : ℕ∞) ∧
      last * p < t + p ∧
      units? (n.look id (n.afterLooks id w last)).clock = some (c + last * p) ∧
      (isPending (reports last) = true → t ≤ last * p) := by
  obtain ⟨last, hle, hbefore, hlast⟩ := exists_lastLook reports (t ⌈/⌉ p)
  have hpending : ∀ k < last, isPending (reports k) = true := fun k hk => (hbefore k hk).1
  obtain ⟨looks, hlength, hlooked⟩ := hasLooked_afterLooks hc ho hid hreports hpending
  obtain ⟨e, hlooked⟩ := hlooked.look hc ho hid (hlength ▸ hreports last hpending)
  refine ⟨last, looks ++ [e],
    waitForAcceptance_eq hc ho hid hstep hexact htimeout hreports hp hle hbefore hlast,
    by simp [hlength], hlooked, ?_, mul_lt_of_le_ceilDiv hp hle,
    units_afterLooks hc ho hid hstep hexact hle, fun h => ?_⟩
  · rw [List.length_append, hlength]
    exact firstSettled_min hle hpending hlast
  · rw [mul_comm, ← ceilDiv_le_iff_le_mul hp]
    exact hlast h

/-- An answer with a report that is still pending. -/
def submittedText : String :=
  "\x7b\"app\":\x7b\"id\":\"application_1_0002\",\"state\":\"SUBMITTED\"\x7d\x7d"

/-- Half a minute of looking twice a second, while nothing happens. -/
theorem waitForAcceptance_polls_submitted :
    ∃ (report : Part) (looks : List Exchange) (w' : World),
      sample.waitForAcceptance (.handle (.text "application_1_0002"))
        (World.served (Server.answering submittedText)) = (.ok report, w') ∧
      isPending report = true ∧ w'.exchanges = looks ∧ looks.length = 61 ∧
      w'.sleeps = List.replicate 60 (.float (Binary64.ofDecimal false 5 (-1))) := by
  have hread : (readReport ⟨200, .text "OK", Text.utf8 submittedText⟩).toOption.any isPending =
      true := by decide +kernel
  obtain ⟨report, hreport, hpending⟩ := (Option.any_eq_true _ _).mp hread
  obtain ⟨hc, ho, -⟩ := isConnected_of_connect (connect_sample (Server.answering submittedText))
  have hid : ApplicationId.isValid "application_1_0002" = true := by decide
  have hserver : ∀ older q, (Exchange.mk q (Server.answering submittedText older q)).report? =
      some report := fun older q => (Exchange.report?_of_answer rfl).trans hreport
  have hreports : sample.Reports "application_1_0002"
      (World.served (Server.answering submittedText)) fun _ => report :=
    reports_of_server hc ho hid (by decide) fun k older q _ => hserver older q
  have hstep : sample.pollInterval.quantity? = some (.float (Binary64.ofDecimal false 5 (-1))) :=
    rfl
  have hexact : Quantity.IsExact (.int 1000) (.int 30) (.float (Binary64.ofDecimal false 5 (-1)))
      (1000 * Binary64.scale) (30 * Binary64.scale : Nat) (Nat.pow 2 1073) := by
    constructor <;> decide +kernel
  obtain ⟨last, looks, hrun, hlength, hlooked, hcount, -⟩ :=
    waitForAcceptance_polls hc ho hid rfl hstep hexact (by decide +kernel) hreports
  have hnever : firstSettled (fun _ => report) = ⊤ := by
    simp [firstSettled, hpending]
  have hmany : (30 * Binary64.scale) ⌈/⌉ Nat.pow 2 1073 + 1 = 61 := by decide +kernel
  rw [hnever, min_eq_right le_top, Nat.cast_inj, hmany] at hcount
  obtain rfl : last = 60 := by omega
  exact ⟨report, looks, _, hrun, hpending, hlooked.asks.exchanges, hcount,
    hlooked.sleeps.trans (List.append_nil _)⟩

end RestNegotiator
end ClusterSubmission
