import ClusterSubmission.Text.Base64
import Mathlib.Data.List.Basic

/-!
# Base64 that is read back

An alphabet reads back the numbers that it writes, and fills up with a character that is none of its
letters. So a group of letters is read back as the bytes that it was made of, whether it is complete
or not. Text in the URL-safe alphabet has letters that need no escapes in an address.
-/
namespace ClusterSubmission.Text

/-- An alphabet that reads back the numbers of its letters, none of which fills up a group. -/
structure Base64Alphabet.IsLawful (a : Base64Alphabet) : Prop where
  number : ∀ n < 64, a.number? (a.letter n) = some n
  noPad : ∀ n < 64, a.letter n ≠ '='

theorem Base64Alphabet.urlSafe_isLawful : Base64Alphabet.urlSafe.IsLawful :=
  ⟨by decide, by decide⟩

/-- A character of URL-safe base64 text. -/
def IsUrlSafe (c : Char) : Prop := c.isAlphanum = true ∨ c = '-' ∨ c = '_' ∨ c = '='

instance (c : Char) : Decidable (IsUrlSafe c) :=
  inferInstanceAs (Decidable (_ ∨ _ ∨ _ ∨ _))

theorem isUrlSafe_letter {n : Nat} (h : n < 64) : IsUrlSafe (Base64Alphabet.urlSafe.letter n) := by
  have hall : ∀ n < 64, IsUrlSafe (Base64Alphabet.urlSafe.letter n) := by decide
  exact hall n h

section Groups

variable {a : Base64Alphabet} {group : List Nat} {n p q r pads : Nat} {cs : List Char}

/-- A letter of an incomplete group. -/
theorem base64Bytes?_letter (ha : a.IsLawful) (hn : n < 64) (hgroup : group.length < 3) :
    base64Bytes? a group pads (a.letter n :: cs) = base64Bytes? a (group ++ [n]) 0 cs := by
  rw [base64Bytes?.eq_def]
  simp only [if_neg (ha.noPad n hn), ha.number n hn]
  match group, hgroup with
  | [], _ | [_], _ | [_, _], _ => rfl

/-- The last letter of a group gives its bytes. -/
theorem base64Bytes?_last (ha : a.IsLawful) (hn : n < 64) :
    base64Bytes? a [p, q, r] pads (a.letter n :: cs) = (base64Bytes? a [] 0 cs).map fun bs =>
      UInt8.ofNat (p * 4 + q / 16) :: UInt8.ofNat (q % 16 * 16 + r / 4) ::
        UInt8.ofNat (r % 4 * 64 + n) :: bs := by
  rw [base64Bytes?.eq_def]
  simp only [if_neg (ha.noPad n hn), ha.number n hn]

theorem base64Bytes?_two (ha : a.IsLawful) (hp : p < 64) (hq : q < 64) :
    base64Bytes? a [] 0 (a.letter p :: a.letter q :: cs) = base64Bytes? a [p, q] 0 cs := by
  rw [base64Bytes?_letter ha hp (by simp), base64Bytes?_letter ha hq (by simp)]
  rfl

theorem base64Bytes?_three (ha : a.IsLawful) (hp : p < 64) (hq : q < 64) (hr : r < 64) :
    base64Bytes? a [] 0 (a.letter p :: a.letter q :: a.letter r :: cs) =
      base64Bytes? a [p, q, r] 0 cs := by
  rw [base64Bytes?_two ha hp hq, base64Bytes?_letter ha hr (by simp)]
  rfl

theorem ofNat_toNat_of_eq {x : UInt8} (h : n = x.toNat) : UInt8.ofNat n = x := by
  rw [h, UInt8.ofNat_toNat]

/-- The bytes of a text are those that it was made of. -/
theorem base64Bytes?_base64Chars (ha : a.IsLawful) (bs : List UInt8) :
    base64Bytes? a [] 0 (base64Chars a bs) = some bs := by
  -- By induction on the groups of three bytes; the last group may be incomplete.
  induction bs using base64Chars.induct with
  | case1 => rfl
  | case2 x =>
    have hx := x.toNat_lt
    rw [base64Chars, base64Bytes?_two ha (by omega) (by omega)]
    simp only [base64Bytes?, if_true, Nat.zero_ne_one, if_false]
    have hbyte : UInt8.ofNat (x.toNat * 16 / 64 * 4 + x.toNat * 16 % 64 / 16) = x :=
      ofNat_toNat_of_eq (by omega)
    rw [hbyte]
  | case3 x y =>
    have hx := x.toNat_lt
    have hy := y.toNat_lt
    rw [base64Chars, base64Bytes?_three ha (by omega) (by omega) (by omega)]
    simp only [base64Bytes?, if_true]
    rw [ofNat_toNat_of_eq (x := x) (by omega), ofNat_toNat_of_eq (x := y) (by omega)]
  | case4 x y z rest ih =>
    have hx := x.toNat_lt
    have hy := y.toNat_lt
    have hz := z.toNat_lt
    rw [base64Chars, base64Bytes?_three ha (by omega) (by omega) (by omega),
      base64Bytes?_last ha (by omega), ih, Option.map_some]
    rw [ofNat_toNat_of_eq (x := x) (by omega), ofNat_toNat_of_eq (x := y) (by omega),
      ofNat_toNat_of_eq (x := z) (by omega)]

end Groups

theorem isUrlSafe_of_mem_base64Chars {bs : List UInt8} {c : Char}
    (h : c ∈ base64Chars .urlSafe bs) : IsUrlSafe c := by
  have hpad : IsUrlSafe '=' := by decide
  induction bs using base64Chars.induct with
  | case1 => cases h
  | case2 x =>
    have hx := x.toNat_lt
    simp only [base64Chars, List.mem_cons, List.not_mem_nil, or_false] at h
    rcases h with rfl | rfl | rfl | rfl
    · exact isUrlSafe_letter (by omega)
    · exact isUrlSafe_letter (by omega)
    · exact hpad
    · exact hpad
  | case3 x y =>
    have hx := x.toNat_lt
    have hy := y.toNat_lt
    simp only [base64Chars, List.mem_cons, List.not_mem_nil, or_false] at h
    rcases h with rfl | rfl | rfl | rfl
    · exact isUrlSafe_letter (by omega)
    · exact isUrlSafe_letter (by omega)
    · exact isUrlSafe_letter (by omega)
    · exact hpad
  | case4 x y z rest ih =>
    have hx := x.toNat_lt
    have hy := y.toNat_lt
    have hz := z.toNat_lt
    simp only [base64Chars, List.mem_cons] at h
    rcases h with rfl | rfl | rfl | rfl | h
    · exact isUrlSafe_letter (by omega)
    · exact isUrlSafe_letter (by omega)
    · exact isUrlSafe_letter (by omega)
    · exact isUrlSafe_letter (by omega)
    · exact ih h

/-- Base64 text is made of whole groups. -/
theorem four_dvd_length_base64Chars (a : Base64Alphabet) (bs : List UInt8) :
    4 ∣ (base64Chars a bs).length := by
  induction bs using base64Chars.induct with
  | case1 => simp [base64Chars]
  | case2 x => simp [base64Chars]
  | case3 x y => simp [base64Chars]
  | case4 x y z rest ih =>
    simp only [base64Chars, List.length_cons]
    omega

/-- A URL-safe text for bytes: whole groups of safe characters, which are read back as the bytes. -/
structure IsSafeTextOf (bs : List UInt8) (s : String) : Prop where
  safe : ∀ c ∈ s.toList, IsUrlSafe c
  whole : 4 ∣ s.length
  read : base64Bytes? .urlSafe [] 0 s.toList = some bs

theorem isSafeTextOf_base64 (bs : List UInt8) : IsSafeTextOf bs (base64 .urlSafe bs) := by
  have hchars : (base64 .urlSafe bs).toList = base64Chars .urlSafe bs := String.toList_ofList
  constructor
  · intro c hc
    rw [hchars] at hc
    exact isUrlSafe_of_mem_base64Chars hc
  · rw [← String.length_toList, hchars]
    exact four_dvd_length_base64Chars .urlSafe bs
  · rw [hchars]
    exact base64Bytes?_base64Chars Base64Alphabet.urlSafe_isLawful bs

end ClusterSubmission.Text
