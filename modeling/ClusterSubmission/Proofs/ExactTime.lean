import ClusterSubmission.Negotiator.Rest
import Mathlib.Algebra.Order.Floor.Div
import Mathlib.Order.Compare
import Mathlib.Tactic.Ring

/-!
# Exact time

A finite quantity is a whole number of the smallest units, and quantities are compared by these
numbers. A clock that passes by steps is exact as long as no sum is rounded, as sums of integers
never are.
-/
namespace ClusterSubmission

open RestNegotiator (units?)

namespace Quantity

variable {p q : Quantity} {a b : Int}

theorem units?_int (n : Int) : units? (.int n) = some (n * (Binary64.scale : Int)) := rfl

theorem scale_pos : (0 : Int) < (Binary64.scale : Int) := by
  have hpow : ∀ n, (0 : Int) < (Nat.pow 2 n : Nat) := fun n =>
    Int.natCast_pos.mpr (Nat.pow_pos (by decide))
  unfold Binary64.scale
  exact hpow 1074

theorem compare_mul_scale (m n : Int) :
    compare (m * (Binary64.scale : Int)) (n * (Binary64.scale : Int)) = compare m n := by
  have hpos := scale_pos
  rcases lt_trichotomy m n with h | rfl | h
  · rw [compare_lt_iff_lt.mpr h, compare_lt_iff_lt.mpr (Int.mul_lt_mul_of_pos_right h hpos)]
  · rw [compare_eq_iff_eq.mpr rfl, compare_eq_iff_eq.mpr rfl]
  · rw [compare_gt_iff_gt.mpr h, compare_gt_iff_gt.mpr (Int.mul_lt_mul_of_pos_right h hpos)]

theorem compareInt_of_scaled {x : Binary64} (h : x.scaled? = some a) (n : Int) :
    compareInt x n = some (compare a (n * (Binary64.scale : Int))) := by
  cases x with
  | finite s m e =>
    unfold compareInt
    rw [h, Option.map_some]
  | infinite s => cases h
  | nan => cases h

theorem compare?_floats {x y : Binary64} (hx : x.scaled? = some a) (hy : y.scaled? = some b) :
    compare? (.float x) (.float y) = some (compare a b) := by
  have hlt : ∀ {x y : Binary64} {a b : Int}, x.scaled? = some a → y.scaled? = some b →
      x.lt y = decide (a < b) ∧ x.beq y = (some a == some b) := by
    intro x y a b hx hy
    cases x with
    | finite s m e =>
      cases y with
      | finite t n f =>
        simp only [Binary64.lt, Binary64.beq, hx, hy, and_self]
      | infinite t => cases hy
      | nan => cases hy
    | infinite s => cases hx
    | nan => cases hx
  obtain ⟨hxy, hbeq⟩ := hlt hx hy
  obtain ⟨hyx, -⟩ := hlt hy hx
  rw [compare?, hxy, hyx, hbeq]
  rcases lt_trichotomy a b with h | rfl | h
  · rw [compare_lt_iff_lt.mpr h]
    simp [h]
  · rw [compare_eq_iff_eq.mpr rfl]
    simp
  · rw [compare_gt_iff_gt.mpr h]
    simp [h, not_lt_of_gt h]

/-- Finite quantities are compared by their units. -/
theorem compare?_of_units (hp : units? p = some a) (hq : units? q = some b) :
    compare? p q = some (compare a b) := by
  cases p with
  | int m =>
    cases hp
    cases q with
    | int n =>
      cases hq
      rw [compare_mul_scale]
      rfl
    | float y =>
      have hy : y.scaled? = some b := hq
      rw [compare?, compareInt_of_scaled hy, Option.map_some]
      exact congrArg some (Std.OrientedCmp.eq_swap).symm
  | float x =>
    have hx : x.scaled? = some a := hp
    cases q with
    | int n =>
      cases hq
      exact compareInt_of_scaled hx n
    | float y => exact compare?_floats hx hq

theorem le_iff_of_units (hp : units? p = some a) (hq : units? q = some b) :
    le p q = true ↔ a ≤ b := by
  unfold le
  rw [compare?_of_units hp hq, ← compare_le_iff_le]
  cases compare a b <;> decide

/-- What a clock shows after a number of steps. -/
def clockAfter (clock step : Quantity) : Nat → Option Quantity
  | 0 => some clock
  | k + 1 => (clockAfter clock step k).bind fun now => add? now step

/-- A clock, a time from now on and a step that are reckoned with exactly, as numbers of units: so
are the end of the time, and what the clock shows at each step until then. -/
structure IsExact (clock timeout step : Quantity) (c : Int) (t p : Nat) : Prop where
  timeout_eq : units? timeout = some (t : Int)
  step_eq : units? step = some (p : Int)
  deadline : (add? clock timeout).bind units? = some (c + t)
  passing : ∀ k ≤ t ⌈/⌉ p, (clockAfter clock step k).bind units? = some (c + k * p)

theorem clockAfter_int (c p : Int) (k : Nat) :
    clockAfter (.int c) (.int p) k = some (.int (c + k * p)) := by
  induction k with
  | zero => simp [clockAfter]
  | succ k ih =>
    rw [clockAfter, ih, Option.bind_some, add?]
    congr 2
    push_cast
    ring

/-- Sums of integers are never rounded. -/
theorem isExact_int (c : Int) (t p : Nat) :
    IsExact (.int c) (.int t) (.int p) (c * Binary64.scale) (t * Binary64.scale)
      (p * Binary64.scale) := by
  refine ⟨?_, ?_, ?_, fun k _ => ?_⟩
  · rw [units?_int, Nat.cast_mul]
  · rw [units?_int, Nat.cast_mul]
  · rw [add?, Option.bind_some, units?_int, add_mul, Nat.cast_mul]
  · rw [clockAfter_int, Option.bind_some, units?_int, add_mul, Nat.cast_mul, mul_assoc]

end Quantity

end ClusterSubmission
