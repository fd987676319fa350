import ClusterSubmission.Proofs.Polling
import Mathlib.Algebra.Order.Floor.Semiring

/-!
# Waiting by an exact clock

The clock of a world shows integers and floats, whose sums can be rounded. The looks and pauses of
waiting do not depend on this. Here the same loop runs by a watch that shows exact numbers, and the
number of looks is the one that the reports, the time and the pause give, whatever these are.
-/
namespace ClusterSubmission

open Message

/-- Looks at a report until it is no longer pending or time is up, with a pause behind every look
but the last. The number bounds how often. -/
def awaitReport {m : Type → Type} [Monad m] (look : m Part) (isUp : m Bool)
    (pause : Part → m Unit) : Nat → m Part
  | 0 => look
  | fuel + 1 => do
    let report ← look
    if !isPending report || (← isUp) then return report
    pause report
    awaitReport look isUp pause fuel

/-- What a watch shows, and the pauses that it passed by so far. -/
structure Watch (K : Type) where
  clock : K
  pauses : List K := []

namespace Watch

def pass {K : Type} [Add K] (u : Watch K) (step : K) : Watch K :=
  ⟨u.clock + step, step :: u.pauses⟩

variable {K : Type} [Field K]

/-- The watch after some pauses. -/
def after (clock step : K) (k : Nat) : Watch K := ⟨clock + k * step, List.replicate k step⟩

theorem after_zero (clock step : K) : after clock step 0 = ⟨clock, []⟩ := by
  simp [after]

theorem pass_after (clock step : K) (k : Nat) :
    (after clock step k).pass step = after clock step (k + 1) := by
  unfold pass after
  rw [List.replicate_succ]
  congr 1
  push_cast
  ring

variable [LinearOrder K] [IsStrictOrderedRing K] [FloorSemiring K] {timeout step : K}

theorem isUp_after_iff (clock : K) (hp : 0 < step) (k : Nat) :
    clock + timeout ≤ (after clock step k).clock ↔ ⌈timeout / step⌉₊ ≤ k := by
  rw [after, add_le_add_iff_left, Nat.ceil_le, div_le_iff₀ hp]

end Watch

namespace RestNegotiator

/-- Waiting by the clock of the world is the same loop. -/
theorem awaitAcceptance_eq (n : RestNegotiator) (id : String) (deadline : Quantity) (fuel : Nat) :
    n.awaitAcceptance (.handle (.text id)) deadline fuel =
      awaitReport (n.report (.handle (.text id)))
        (do return Quantity.le deadline (← get).clock)
        (fun report => do
          Run.debug ("Application '" ++ id ++ "' is " ++ (report.field "state").plain
            ++ ", waiting to be accepted")
          sleep n.pollInterval) fuel := by
  have hid : Run.ofExcept (.ok id) = pure id := rfl
  induction fuel with
  | zero => rfl
  | succ fuel ih =>
    simp only [awaitAcceptance, awaitReport, ih, Value.handleText, hid, bind_assoc, pure_bind]

variable {K : Type}

/-- What follows an operation of the world goes on with the same watch. -/
theorem lift_bind {α β : Type} {x : Run α} {a : α} {w w' : World} (h : x w = (.ok a, w'))
    (f : α → StateT (Watch K) Run β) (u : Watch K) :
    ((liftM x : StateT (Watch K) Run α) >>= f) u w = f a u w' := by
  change ((x >>= fun a => pure (a, u)) >>= fun p => f p.1 p.2) w = _
  rw [bind_assoc, Run.bind_of_ok h]
  rfl

variable [Field K] [LinearOrder K]

/-- Waiting by a watch, which the pauses set and nothing else. -/
def awaitByWatch (n : RestNegotiator) (id : String) (deadline step : K) :
    Nat → StateT (Watch K) Run Part :=
  awaitReport (n.report (.handle (.text id)))
    (do return decide (deadline ≤ (← get).clock))
    (fun report => do
      Run.debug ("Application '" ++ id ++ "' is " ++ (report.field "state").plain
        ++ ", waiting to be accepted")
      modify fun u => u.pass step)

/-- What the reports on an application say, one look right behind the other. -/
def ReportsInTurn (n : RestNegotiator) (id : String) (w : World) (reports : Nat → Part) : Prop :=
  ∀ k, (∀ j < k, isPending (reports j) = true) →
    (n.report (.handle (.text id)) ((n.look id)^[k] w)).1 = .ok (reports k)

variable {n : RestNegotiator} {w : World} {id : String} {reports : Nat → Part}
variable {deadline step : K} {report : Part} {u : Watch K}

theorem awaitByWatch_pause (fuel : Nat) (hid : ApplicationId.isValid id = true)
    (hreport : (n.report (.handle (.text id)) w).1 = .ok report)
    (hpending : isPending report = true) (hearly : ¬ deadline ≤ u.clock) :
    n.awaitByWatch id deadline step (fuel + 1) u w =
      n.awaitByWatch id deadline step fuel (u.pass step) (n.look id w) := by
  have hlook : n.report (.handle (.text id)) w = (.ok report, n.look id w) := Prod.ext hreport rfl
  have hwaits := debug_waiting hid hpending (n.look id w)
  have hgoes : (!isPending report || decide (deadline ≤ u.clock)) = false := by
    rw [hpending, decide_eq_false hearly]
    rfl
  unfold awaitByWatch
  rw [awaitReport, lift_bind hlook]
  simp only [bind_assoc, pure_bind]
  change (ite _ (pure report : StateT (Watch K) Run Part) _ : StateT (Watch K) Run Part) u _ = _
  rw [hgoes, if_neg Bool.false_ne_true, lift_bind hwaits]
  rfl

theorem awaitByWatch_last (fuel : Nat)
    (hreport : (n.report (.handle (.text id)) w).1 = .ok report)
    (hlast : isPending report = true → deadline ≤ u.clock) :
    n.awaitByWatch id deadline step fuel u w = (.ok (report, u), n.look id w) := by
  have hlook : n.report (.handle (.text id)) w = (.ok report, n.look id w) := Prod.ext hreport rfl
  unfold awaitByWatch
  cases fuel with
  | zero =>
    have hread := lift_bind hlook (pure : Part → StateT (Watch K) Run Part) u
    rwa [bind_pure] at hread
  | succ fuel =>
    have hends : (!isPending report || decide (deadline ≤ u.clock)) = true := by
      cases hpending : isPending report with
      | false => rfl
      | true => exact decide_eq_true (hlast hpending)
    rw [awaitReport, lift_bind hlook]
    change (ite _ (pure report : StateT (Watch K) Run Part) _ : StateT (Watch K) Run Part) u _ = _
    rw [hends, if_pos rfl]
    rfl

/-- Looks, one right behind the other, send a request each. -/
theorem hasLooked_inTurn (hc : n.IsConnected w) (ho : n.isOpen w = true)
    (hid : ApplicationId.isValid id = true) (hreports : n.ReportsInTurn id w reports) {k : Nat}
    (hpending : ∀ j < k, isPending (reports j) = true) :
    ∃ looks : List Exchange, looks.length = k ∧
      n.HasLooked id w reports looks 0 ((n.look id)^[k] w) := by
  induction k with
  | zero => exact ⟨[], rfl, .start⟩
  | succ k ih =>
    have hbefore : ∀ j < k, isPending (reports j) = true := fun j hj =>
      hpending j (Nat.lt_succ_of_lt hj)
    obtain ⟨looks, hlength, h⟩ := ih hbefore
    obtain ⟨e, hlook⟩ := h.look hc ho hid (hlength ▸ hreports k hbefore)
    rw [← Function.iterate_succ_apply' (n.look id)] at hlook
    exact ⟨looks ++ [e], by simp [hlength], hlook⟩

variable [IsStrictOrderedRing K] [FloorSemiring K] {timeout : K}

/-- Waiting goes from one look to the next one until the last. -/
theorem awaitByWatch_inTurn (clock : K) (hp : 0 < step) (hid : ApplicationId.isValid id = true)
    (hreports : n.ReportsInTurn id w reports) {last : Nat}
    (hbefore : ∀ k < last, isPending (reports k) = true ∧ k < ⌈timeout / step⌉₊)
    (hlast : isPending (reports last) = true → ⌈timeout / step⌉₊ ≤ last) (fuel : Nat) :
    ∀ k ≤ last, last ≤ k + fuel →
      n.awaitByWatch id (clock + timeout) step fuel (.after clock step k) ((n.look id)^[k] w) =
        (.ok (reports last, .after clock step last), (n.look id)^[last + 1] w) := by
  have hreport : ∀ k ≤ last, (n.report (.handle (.text id)) ((n.look id)^[k] w)).1 =
      .ok (reports k) := fun k hk => hreports k fun j hj => (hbefore j (hj.trans_le hk)).1
  have hend : ∀ fuel, n.awaitByWatch id (clock + timeout) step fuel (.after clock step last)
      ((n.look id)^[last] w) =
        (.ok (reports last, .after clock step last), (n.look id)^[last + 1] w) := by
    intro fuel
    rw [Function.iterate_succ_apply']
    exact awaitByWatch_last fuel (hreport last (Nat.le_refl _)) fun h =>
      (Watch.isUp_after_iff clock hp last).mpr (hlast h)
  -- By induction on the looks that may still follow: one of them is the last.
  induction fuel with
  | zero =>
    intro k hk hfuel
    obtain rfl : k = last := Nat.le_antisymm hk hfuel
    exact hend 0
  | succ fuel ih =>
    intro k hk hfuel
    rcases Nat.lt_or_eq_of_le hk with hlt | rfl
    · obtain ⟨hpending, hearly⟩ := hbefore k hlt
      have hnot : ¬ clock + timeout ≤ (Watch.after clock step k).clock := by
        rw [Watch.isUp_after_iff clock hp]
        exact Nat.not_le_of_lt hearly
      rw [awaitByWatch_pause fuel hid (hreport k hk) hpending hnot, Watch.pass_after,
        ← Function.iterate_succ_apply' (n.look id)]
      exact ih (k + 1) hlt (by omega)
    · exact hend _

/-- Waiting by exact numbers ends, whatever the time, the pause and the reports: with the first
report that is not pending, or once the time is up. It pauses between each two looks, and not behind
the last, and a higher bound on the looks changes nothing. -/
theorem awaitByWatch_polls (clock : K) (ht : 0 ≤ timeout) (hp : 0 < step) (hc : n.IsConnected w)
    (ho : n.isOpen w = true) (hid : ApplicationId.isValid id = true)
    (hreports : n.ReportsInTurn id w reports) :
    ∃ (last : Nat) (looks : List Exchange),
      (∀ fuel, ⌈timeout / step⌉₊ ≤ fuel →
        n.awaitByWatch id (clock + timeout) step fuel ⟨clock, []⟩ w =
          (.ok (reports last, .after clock step last), (n.look id)^[last + 1] w)) ∧
      looks.length = last + 1 ∧
      n.HasLooked id w reports looks 0 ((n.look id)^[last + 1] w) ∧
      (looks.length : ℕ∞) =
        min (firstSettled reports) ((⌈timeout / step⌉₊ + 1 : Nat) : ℕ∞) ∧
      last * step < timeout + step ∧
      (isPending (reports last) = true → timeout ≤ last * step) := by
  obtain ⟨last, hle, hbefore, hlast⟩ := exists_lastLook reports ⌈timeout / step⌉₊
  have hpending : ∀ k < last, isPending (reports k) = true := fun k hk => (hbefore k hk).1
  obtain ⟨looks, hlength, hlooked⟩ := hasLooked_inTurn hc ho hid hreports hpending
  obtain ⟨e, hlooked⟩ := hlooked.look hc ho hid (hlength ▸ hreports last hpending)
  rw [← Function.iterate_succ_apply' (n.look id)] at hlooked
  refine ⟨last, looks ++ [e], fun fuel hfuel => ?_, by simp [hlength], hlooked, ?_, ?_, fun h => ?_⟩
  · rw [← Watch.after_zero clock step]
    exact awaitByWatch_inTurn clock hp hid hreports hbefore hlast fuel 0 (Nat.zero_le _)
      (by omega)
  · rw [List.length_append, hlength]
    exact firstSettled_min hle hpending hlast
  · have hceil : (⌈timeout / step⌉₊ : K) < timeout / step + 1 :=
      Nat.ceil_lt_add_one (div_nonneg ht hp.le)
    have hcount : (last : K) < timeout / step + 1 := lt_of_le_of_lt (Nat.cast_le.mpr hle) hceil
    calc last * step < (timeout / step + 1) * step := mul_lt_mul_of_pos_right hcount hp
      _ = timeout + step := by rw [add_mul, div_mul_cancel₀ _ hp.ne', one_mul]
  · rw [← div_le_iff₀ hp, ← Nat.ceil_le]
    exact hlast h

end RestNegotiator
end ClusterSubmission
