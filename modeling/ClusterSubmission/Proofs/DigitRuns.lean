import ClusterSubmission.Proofs.JsonText
import ClusterSubmission.Version.Reader
import Mathlib.Data.List.TakeWhile

/-!
# Runs of digits

Versions and application ids hold numbers as runs of decimal digits. A run ends where the text goes
on with something else, so a text determines its runs, and the notation of a number is one of the
runs that denote it.
-/
namespace ClusterSubmission

namespace Text

variable {ds rest cs : List Char} {n : Nat}

/-- At least one digit, and nothing but digits. -/
structure IsDigitRun (ds : List Char) : Prop where
  nonempty : ds ≠ []
  digits : ∀ c ∈ ds, isDigit c = true

/-- A text that does not go on with a digit. -/
def EndsDigits (rest : List Char) : Prop := ∀ c, rest.head? = some c → isDigit c = false

theorem endsDigits_nil : EndsDigits [] := by
  intro c hc
  cases hc

theorem endsDigits_cons {c : Char} (h : isDigit c = false) : EndsDigits (c :: cs) := by
  intro d hd
  cases hd
  exact h

theorem IsDigitRun.exists_cons (h : IsDigitRun ds) :
    ∃ d tail, ds = d :: tail ∧ isDigit d = true := by
  obtain ⟨d, tail, rfl⟩ := List.exists_cons_of_ne_nil h.nonempty
  exact ⟨d, tail, rfl, h.digits d (by simp)⟩

/-- Reading digits takes all that are there and stops where the text goes on with something else. -/
theorem span_digits (hd : ∀ c ∈ ds, isDigit c = true) (hr : EndsDigits rest) :
    (ds ++ rest).span isDigit = (ds, rest) := by
  have hstop : rest.takeWhile isDigit = [] ∧ rest.dropWhile isDigit = rest := by
    cases rest with
    | nil => simp
    | cons c tail => simp [hr c rfl]
  rw [List.span_eq_takeWhile_dropWhile, List.takeWhile_append_of_pos hd,
    List.dropWhile_append_of_pos hd, hstop.1, hstop.2, List.append_nil]

/-- What was read are digits, and what is left does not go on with one. -/
theorem of_span_digits (h : cs.span isDigit = (ds, rest)) :
    cs = ds ++ rest ∧ (∀ c ∈ ds, isDigit c = true) ∧ EndsDigits rest := by
  rw [List.span_eq_takeWhile_dropWhile] at h
  obtain ⟨rfl, rfl⟩ := Prod.mk.inj h
  refine ⟨List.takeWhile_append_dropWhile.symm, ?_, ?_⟩
  · intro c hc
    exact List.mem_takeWhile_imp hc
  · intro c hc
    have hhead := List.head?_dropWhile_not isDigit cs
    rw [hc] at hhead
    simpa using hhead

theorem not_isBlank_of_isDigit {c : Char} (h : isDigit c = true) : isBlank c = false := by
  have hapart : ∀ z ∈ digitZeros, ∀ r ∈ blankRanges, z + 10 ≤ r.1 ∨ r.2 < z := by decide
  simp only [isDigit, List.any_eq_true, Bool.and_eq_true, decide_eq_true_eq] at h
  obtain ⟨z, hz, hlow, hhigh⟩ := h
  simp only [isBlank, List.any_eq_false, Bool.and_eq_true, decide_eq_true_eq]
  intro r hr
  have hz := hapart z hz r hr
  omega

/-- The digits of the notation of numbers are the first run. -/
theorem digitValue?_ascii {c : Char} (hlow : 48 ≤ c.toNat) (hhigh : c.toNat ≤ 57) :
    digitValue? c = some (c.toNat - 48) := by
  have hfirst : (48 ≤ c.toNat && c.toNat < 48 + 10) = true := by
    simp only [Bool.and_eq_true, decide_eq_true_eq]
    omega
  simp [digitValue?, digitZeros, hfirst]

theorem digitsValue_toDigits (n : Nat) : digitsValue (Nat.toDigits 10 n) = n := by
  have hfold : ∀ (cs : List Char) (a : Nat), (∀ c ∈ cs, 48 ≤ c.toNat ∧ c.toNat ≤ 57) →
      cs.foldl (fun n c => 10 * n + (digitValue? c).getD 0) a = Nat.ofDigitChars 10 cs a := by
    intro cs
    induction cs with
    | nil =>
      intro a _
      rfl
    | cons c cs ih =>
      intro a hcs
      obtain ⟨hlow, hhigh⟩ := hcs c (by simp)
      rw [List.foldl_cons, digitValue?_ascii hlow hhigh, ih _ fun d hd => hcs d (by simp [hd]),
        Nat.ofDigitChars_cons]
      rfl
  unfold digitsValue
  rw [hfold _ 0 fun c hc => Json.ascii_digits hc]
  exact Nat.ofDigitChars_ten_toDigits

theorem isDigitRun_toDigits (n : Nat) : IsDigitRun (Nat.toDigits 10 n) where
  nonempty := by
    intro hnil
    have hpos := Nat.length_toDigits_pos (b := 10) (n := n)
    simp [hnil] at hpos
  digits := by
    intro c hc
    obtain ⟨hlow, hhigh⟩ := Json.ascii_digits hc
    rw [isDigit_eq_isSome, digitValue?_ascii hlow hhigh]
    rfl

/-- Digits of any script that denote a number, as many as a number may have. -/
structure Denotes (ds : List Char) (n : Nat) : Prop where
  run : IsDigitRun ds
  short : ds.length ≤ 4300
  value : digitsValue ds = n

theorem denotes_natText (h : (natText n).length ≤ 4300) : Denotes (natText n).toList n := by
  have hdigits : (natText n).toList = Nat.toDigits 10 n := String.toList_ofList
  constructor
  · rw [hdigits]
    exact isDigitRun_toDigits n
  · exact String.length_toList.trans_le h
  · rw [hdigits]
    exact digitsValue_toDigits n

theorem Denotes.readInteger_eq (h : Denotes ds n) : readInteger ds = .ok n := by
  simp [readInteger, h.short, h.value]

theorem denotes_of_readInteger {i : Int} (hrun : IsDigitRun ds) (h : readInteger ds = .ok i) :
    ∃ n, Denotes ds n ∧ i = n := by
  unfold readInteger at h
  split at h
  · cases h
  · cases h
    exact ⟨_, ⟨hrun, by omega, rfl⟩, rfl⟩

end Text
end ClusterSubmission
