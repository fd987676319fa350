import ClusterSubmission.Text.Unicode
import Mathlib.Data.List.Basic

/-!
# Text that is written and read back

The bytes of a text are those of its characters, and the bytes of a character begin with a lead that
promises the others. So reading takes the characters off one by one, and gives back what was
written.
-/
namespace ClusterSubmission.Text

variable {rest : List UInt8} {n bits need : Nat} {b lo hi : UInt8}

theorem toNat_byte (h : n < 256) : (UInt8.ofNat n).toNat = n := by
  rw [UInt8.toNat_ofNat']
  omega

theorem utf8Tail_next (hlo : lo.toNat ≤ b.toNat) (hhi : b.toNat ≤ hi.toNat) :
    utf8Tail (need + 1) lo hi bits (b :: rest) =
      utf8Tail need 0x80 0xbf (bits * 64 + (b.toNat - 0x80)) rest := by
  have hin : (decide (lo ≤ b) && decide (b ≤ hi)) = true := by
    simp [UInt8.le_iff_toNat_le, hlo, hhi]
  rw [utf8Tail, if_pos hin]

/-- A byte that continues a character, after which any continuation is allowed. -/
theorem utf8Tail_continue (h : n < 64) :
    utf8Tail (need + 1) 0x80 0xbf bits (UInt8.ofNat (n + 128) :: rest) =
      utf8Tail need 0x80 0xbf (bits * 64 + n) rest := by
  have hbyte : (UInt8.ofNat (n + 128)).toNat = n + 128 := toNat_byte (by omega)
  have hlo : (0x80 : UInt8).toNat = 128 := rfl
  have hhi : (0xbf : UInt8).toNat = 191 := rfl
  rw [utf8Tail_next (by omega) (by omega), hbyte, Nat.add_sub_cancel]

theorem utf8Lead?_byte (h : n < 256) : utf8Lead? (UInt8.ofNat n) =
    if 0xc2 ≤ n ∧ n ≤ 0xdf then some (1, 0x80, 0xbf, n - 0xc0)
    else if n = 0xe0 then some (2, 0xa0, 0xbf, 0)
    else if n = 0xed then some (2, 0x80, 0x9f, 0xd)
    else if 0xe1 ≤ n ∧ n ≤ 0xef then some (2, 0x80, 0xbf, n - 0xe0)
    else if n = 0xf0 then some (3, 0x90, 0xbf, 0)
    else if n = 0xf4 then some (3, 0x80, 0x8f, 4)
    else if 0xf1 ≤ n ∧ n ≤ 0xf3 then some (3, 0x80, 0xbf, n - 0xf0)
    else none := by
  have hbyte := toNat_byte h
  unfold utf8Lead?
  simp only [UInt8.le_iff_toNat_le, ← UInt8.toNat_inj, hbyte, Bool.and_eq_true, decide_eq_true_eq]
  rfl

theorem utf8First_lead (hn : n < 256) (h : 128 ≤ n)
    (hlead : utf8Lead? (UInt8.ofNat n) = some (need, lo, hi, bits)) :
    utf8First (UInt8.ofNat n) rest =
      ((utf8Tail need lo hi bits rest).1.map Char.ofNat, (utf8Tail need lo hi bits rest).2) := by
  have hhigh : ¬ UInt8.ofNat n < 0x80 := by
    have hlimit : (0x80 : UInt8).toNat = 128 := rfl
    rw [UInt8.lt_iff_toNat_lt, toNat_byte hn]
    omega
  unfold utf8First
  rw [if_neg hhigh, hlead]

/-- The lead of three bytes decides which may follow: no longer form than needed, and no
surrogate. -/
theorem utf8Lead?_of_three {v : Nat} (hlow : 0x7ff < v) (hhigh : v ≤ 0xffff)
    (hvalid : v < 0xd800 ∨ 0xdfff < v) : ∃ lo hi : UInt8,
    utf8Lead? (UInt8.ofNat (v / 4096 % 16 + 224)) = some (2, lo, hi, v / 4096) ∧
      lo.toNat ≤ v / 64 % 64 + 128 ∧ v / 64 % 64 + 128 ≤ hi.toNat := by
  have hlos : (0x80 : UInt8).toNat = 128 ∧ (0xa0 : UInt8).toNat = 160 := ⟨rfl, rfl⟩
  have hhis : (0x9f : UInt8).toNat = 159 ∧ (0xbf : UInt8).toNat = 191 := ⟨rfl, rfl⟩
  rw [utf8Lead?_byte (by omega), if_neg (by omega)]
  by_cases hzero : v / 4096 = 0
  · refine ⟨0xa0, 0xbf, ?_, by omega, by omega⟩
    rw [if_pos (by omega), hzero]
  rw [if_neg (by omega)]
  by_cases hsurrogate : v / 4096 = 13
  · refine ⟨0x80, 0x9f, ?_, by omega, by omega⟩
    rw [if_pos (by omega), hsurrogate]
  · have hbits : v / 4096 % 16 + 224 - 0xe0 = v / 4096 := by omega
    refine ⟨0x80, 0xbf, ?_, by omega, by omega⟩
    rw [if_neg (by omega), if_pos (by omega), hbits]

/-- The lead of four bytes allows no longer form than needed, and nothing past the last
character. -/
theorem utf8Lead?_of_four {v : Nat} (hlow : 0xffff < v) (hhigh : v < 0x110000) : ∃ lo hi : UInt8,
    utf8Lead? (UInt8.ofNat (v / 262144 % 8 + 240)) = some (3, lo, hi, v / 262144) ∧
      lo.toNat ≤ v / 4096 % 64 + 128 ∧ v / 4096 % 64 + 128 ≤ hi.toNat := by
  have hlos : (0x80 : UInt8).toNat = 128 ∧ (0x90 : UInt8).toNat = 144 := ⟨rfl, rfl⟩
  have hhis : (0x8f : UInt8).toNat = 143 ∧ (0xbf : UInt8).toNat = 191 := ⟨rfl, rfl⟩
  rw [utf8Lead?_byte (by omega), if_neg (by omega), if_neg (by omega), if_neg (by omega),
    if_neg (by omega)]
  by_cases hzero : v / 262144 = 0
  · refine ⟨0x90, 0xbf, ?_, by omega, by omega⟩
    rw [if_pos (by omega), hzero]
  rw [if_neg (by omega)]
  by_cases hlast : v / 262144 = 4
  · refine ⟨0x80, 0x8f, ?_, by omega, by omega⟩
    rw [if_pos (by omega), hlast]
  · have hbits : v / 262144 % 8 + 240 - 0xf0 = v / 262144 := by omega
    refine ⟨0x80, 0xbf, ?_, by omega, by omega⟩
    rw [if_neg (by omega), if_pos (by omega), hbits]

/-- The first character of what begins with the bytes of a character. -/
theorem utf8First_encode (c : Char) (rest : List UInt8) :
    ∃ b tail, String.utf8EncodeChar c = b :: tail ∧
    utf8First b (tail ++ rest) = (some c, rest) := by
  have hvalid : c.toNat < 0xd800 ∨ 0xdfff < c.toNat ∧ c.toNat < 0x110000 := c.valid
  have hchar : Char.ofNat c.toNat = c := Char.ofNat_toNat c
  have hv : c.val.toNat = c.toNat := rfl
  unfold String.utf8EncodeChar
  rw [hv]
  generalize c.toNat = v at hvalid hchar
  dsimp only
  -- One case for each number of bytes.
  split
  · refine ⟨_, [], rfl, ?_⟩
    have hlow : UInt8.ofNat v < 0x80 := by
      have hlimit : (0x80 : UInt8).toNat = 128 := rfl
      rw [UInt8.lt_iff_toNat_lt, toNat_byte (by omega)]
      omega
    unfold utf8First
    rw [if_pos hlow, toNat_byte (by omega), hchar]
    rfl
  split
  · refine ⟨_, [_], rfl, ?_⟩
    have hlead : utf8Lead? (UInt8.ofNat (v / 64 % 32 + 192)) =
        some (1, 0x80, 0xbf, v / 64 % 32 + 192 - 0xc0) := by
      rw [utf8Lead?_byte (by omega), if_pos (by omega)]
    have hback : (v / 64 % 32 + 192 - 0xc0) * 64 + v % 64 = v := by omega
    rw [utf8First_lead (by omega) (by omega) hlead, List.singleton_append,
      utf8Tail_continue (by omega), hback]
    simp [utf8Tail, hchar]
  split
  · refine ⟨_, [_, _], rfl, ?_⟩
    have hback : (v / 4096 * 64 + v / 64 % 64) * 64 + v % 64 = v := by omega
    have hbyte : (UInt8.ofNat (v / 64 % 64 + 128)).toNat = v / 64 % 64 + 128 :=
      toNat_byte (by omega)
    obtain ⟨lo, hi, hlead, hlo, hhi⟩ :=
      utf8Lead?_of_three (v := v) (by omega) (by omega) (by omega)
    rw [utf8First_lead (by omega) (by omega) hlead, List.cons_append, List.singleton_append,
      utf8Tail_next (by omega) (by omega), hbyte, Nat.add_sub_cancel, utf8Tail_continue (by omega),
      hback]
    simp [utf8Tail, hchar]
  · refine ⟨_, [_, _, _], rfl, ?_⟩
    have hback : ((v / 262144 * 64 + v / 4096 % 64) * 64 + v / 64 % 64) * 64 + v % 64 = v := by
      omega
    have hbyte : (UInt8.ofNat (v / 4096 % 64 + 128)).toNat = v / 4096 % 64 + 128 :=
      toNat_byte (by omega)
    obtain ⟨lo, hi, hlead, hlo, hhi⟩ := utf8Lead?_of_four (v := v) (by omega) (by omega)
    rw [utf8First_lead (by omega) (by omega) hlead, List.cons_append, List.cons_append,
      List.singleton_append, utf8Tail_next (by omega) (by omega), hbyte, Nat.add_sub_cancel,
      utf8Tail_continue (by omega), utf8Tail_continue (by omega), hback]
    simp [utf8Tail, hchar]

theorem utf8Units_encode (c : Char) (rest : List UInt8) :
    utf8Units (String.utf8EncodeChar c ++ rest) = some c :: utf8Units rest := by
  obtain ⟨b, tail, henc, hfirst⟩ := utf8First_encode c rest
  rw [henc, List.cons_append, utf8Units, hfirst]

theorem utf8Units_flatMap (cs : List Char) :
    utf8Units (cs.flatMap String.utf8EncodeChar) = cs.map some := by
  induction cs with
  | nil => rw [List.flatMap_nil, utf8Units, List.map_nil]
  | cons c cs ih => rw [List.flatMap_cons, utf8Units_encode, ih, List.map_cons]

/-- The text of the bytes of a text is that text. -/
theorem ofUtf8?_utf8 (s : String) : ofUtf8? (utf8 s) = some s := by
  have hall : ∀ cs : List Char, (cs.map some).mapM id = some cs := by
    intro cs
    induction cs with
    | nil => rfl
    | cons c cs ih => simp [ih]
  unfold ofUtf8? utf8
  rw [utf8Units_flatMap, hall, Option.map_some, String.ofList_toList]

end ClusterSubmission.Text
