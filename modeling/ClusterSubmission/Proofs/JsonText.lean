import ClusterSubmission.Message.Answer
import ClusterSubmission.Proofs.Utf8
import Mathlib.Data.List.TakeDrop

/-!
# Documents that are written and read back

What is written of a value is read back as the document of the value, whatever stands behind it that
ends a value. This goes for every value that documents can hold: text is escaped where it has to be,
and an integer is read back if it is not too long.
-/
namespace ClusterSubmission.Json

open Message (documentOf documentsOf entryDocuments)

/-- The bytes of characters. -/
def bytesOf (cs : List Char) : List UInt8 := cs.flatMap String.utf8EncodeChar

section Bytes

variable {cs ds : List Char} {c : Char}

@[simp] theorem bytesOf_nil : bytesOf [] = [] := rfl

@[simp] theorem bytesOf_append : bytesOf (cs ++ ds) = bytesOf cs ++ bytesOf ds :=
  List.flatMap_append

theorem bytesOf_cons : bytesOf (c :: cs) = String.utf8EncodeChar c ++ bytesOf cs :=
  List.flatMap_cons

theorem utf8_eq (s : String) : Text.utf8 s = bytesOf s.toList := rfl

theorem encode_ascii (h : c.toNat < 128) : String.utf8EncodeChar c = [byte c] := by
  have hle : c.val.toNat ≤ 127 := Nat.le_of_lt_succ h
  unfold String.utf8EncodeChar
  rw [if_pos hle]
  rfl

theorem bytesOf_ascii (h : ∀ c ∈ cs, c.toNat < 128) : bytesOf cs = cs.map byte := by
  induction cs with
  | nil => rfl
  | cons c cs ih =>
    rw [bytesOf_cons, encode_ascii (h c (List.mem_cons_self ..)),
      ih fun d hd => h d (List.mem_cons_of_mem _ hd)]
    rfl

theorem bytesOf_cons_ascii (h : c.toNat < 128) : bytesOf (c :: cs) = byte c :: bytesOf cs := by
  rw [bytesOf_cons, encode_ascii h]
  rfl

theorem toNat_byte_ascii (h : c.toNat < 128) : (byte c).toNat = c.toNat :=
  Text.toNat_byte (by omega)

/-- The bytes of a character that is not ASCII are none of ASCII either. -/
theorem high_of_mem_encode (h : ¬ c.toNat < 128) {b : UInt8} (hb : b ∈ String.utf8EncodeChar c) :
    128 ≤ b.toNat := by
  have hv : ¬ c.val.toNat ≤ 127 := by
    change ¬ c.toNat ≤ 127
    omega
  have hhigh : ∀ n, 128 ≤ n → n < 256 → 128 ≤ (UInt8.ofNat n).toNat := by
    intro n hn hlt
    rw [Text.toNat_byte hlt]
    exact hn
  unfold String.utf8EncodeChar at hb
  rw [if_neg hv] at hb
  split at hb
  · simp only [List.mem_cons, List.not_mem_nil, or_false] at hb
    rcases hb with rfl | rfl <;> exact hhigh _ (by omega) (by omega)
  split at hb
  · simp only [List.mem_cons, List.not_mem_nil, or_false] at hb
    rcases hb with rfl | rfl | rfl <;> exact hhigh _ (by omega) (by omega)
  · simp only [List.mem_cons, List.not_mem_nil, or_false] at hb
    rcases hb with rfl | rfl | rfl | rfl <;> exact hhigh _ (by omega) (by omega)

theorem length_encode_pos (c : Char) : 0 < (String.utf8EncodeChar c).length := by
  obtain ⟨b, tail, henc, -⟩ := Text.utf8First_encode c []
  rw [henc]
  exact Nat.zero_lt_succ _

theorem length_le_bytesOf (cs : List Char) : cs.length ≤ (bytesOf cs).length := by
  induction cs with
  | nil => exact Nat.le_refl 0
  | cons c cs ih =>
    have hc := length_encode_pos c
    rw [bytesOf_cons, List.length_append, List.length_cons]
    omega

end Bytes

section Strings

/-- A byte that stands for itself in a string. -/
def isPlain (b : UInt8) : Bool := b != byte '"' && b != byte '\\' && !(b < 0x20)

theorem isPlain_high {b : UInt8} (h : 128 ≤ b.toNat) : isPlain b = true := by
  have hquote : b ≠ byte '"' := by
    intro heq
    rw [heq] at h
    exact absurd h (by decide)
  have hslash : b ≠ byte '\\' := by
    intro heq
    rw [heq] at h
    exact absurd h (by decide)
  have hcontrol : ¬ b < 0x20 := by
    have hlimit : (0x20 : UInt8).toNat = 32 := rfl
    rw [UInt8.lt_iff_toNat_lt]
    omega
  simp [isPlain, hquote, hslash, hcontrol]

/-- The bytes of a character that is not escaped stand for themselves. -/
theorem isPlain_of_mem_encode {c : Char} (hquote : c ≠ '"') (hslash : c ≠ '\\')
    (hcontrol : ¬ c.toNat < 0x20) {b : UInt8} (h : b ∈ String.utf8EncodeChar c) :
    isPlain b = true := by
  by_cases hascii : c.toNat < 128
  · rw [encode_ascii hascii, List.mem_singleton] at h
    have hb : b.toNat = c.toNat := by
      rw [h, toNat_byte_ascii hascii]
    have hne : ∀ d : Char, d.toNat < 128 → c ≠ d → b ≠ byte d := by
      intro d hd hcd heq
      apply hcd
      apply Char.toNat_inj.mp
      rw [← hb, heq, toNat_byte_ascii hd]
    have hlow : ¬ b < 0x20 := by
      have hlimit : (0x20 : UInt8).toNat = 32 := rfl
      rw [UInt8.lt_iff_toNat_lt]
      omega
    have hq := hne '"' (by decide) hquote
    have hs := hne '\\' (by decide) hslash
    simp [isPlain, hq, hs, hlow]
  · exact isPlain_high (high_of_mem_encode hascii h)

variable {bs tail rest more after : List UInt8} {fuel : Nat}

theorem stringBytes?_plain (hbs : ∀ b ∈ bs, isPlain b = true)
    (h : stringBytes? fuel rest = some (tail, after)) :
    stringBytes? (fuel + bs.length) (bs ++ rest) = some (bs ++ tail, after) := by
  induction bs with
  | nil => exact h
  | cons b bs ih =>
    have hb := hbs b (List.mem_cons_self ..)
    have hrest := ih fun d hd => hbs d (List.mem_cons_of_mem _ hd)
    simp only [isPlain, Bool.and_eq_true, bne_iff_ne, Bool.not_eq_true',
      decide_eq_false_iff_not] at hb
    rw [List.length_cons, ← Nat.add_assoc, List.cons_append]
    unfold stringBytes?
    simp [hb.1.1, hb.1.2, hb.2, hrest]

theorem stringBytes?_escape {e : UInt8} {cs more : List UInt8}
    (he : escape? e rest = some (cs, more))
    (h : stringBytes? fuel more = some (tail, after)) :
    stringBytes? (fuel + 1) (byte '\\' :: e :: rest) = some (cs ++ tail, after) := by
  have hquote : (byte '\\' == byte '"') = false := by decide
  rw [stringBytes?]
  simp [hquote, he, h]

theorem hexQuad?_append {n : Nat} (hlength : bs.length = 4) (h : hexQuad? bs = some (n, [])) :
    hexQuad? (bs ++ rest) = some (n, rest) := by
  match bs, hlength, h with
  | [a, b, c, d], _, h =>
    simp only [hexQuad?, Option.bind_eq_bind, Option.bind_eq_some_iff, List.cons_append,
      List.nil_append, Option.some.injEq, Prod.mk.injEq] at h ⊢
    obtain ⟨a', ha, b', hb, c', hc, d', hd, hn, -⟩ := h
    exact ⟨a', ha, b', hb, c', hc, d', hd, hn, trivial⟩

/-- Control characters are written with four digits, which are those of their code. -/
theorem hexText_control : ∀ n < 0x20, (bytesOf (Text.hexText 4 n)).length = 4 ∧
    hexQuad? (bytesOf (Text.hexText 4 n)) = some (n, []) := by decide

theorem escape?_control {c : Char} (h : c.toNat < 0x20) :
    escape? (byte 'u') (bytesOf (Text.hexText 4 c.toNat) ++ rest) =
      some (String.utf8EncodeChar c, rest) := by
  obtain ⟨hlength, hquad⟩ := hexText_control c.toNat h
  have hcode : codeBytes c.toNat = String.utf8EncodeChar c := by
    unfold codeBytes
    rw [Char.ofNat_toNat]
  have hlow : ¬ (0xdc00 ≤ c.toNat ∧ c.toNat ≤ 0xdfff) := by omega
  have hhigh : ¬ (0xd800 ≤ c.toNat ∧ c.toNat ≤ 0xdbff) := by omega
  change unicodeEscape? _ = _
  unfold unicodeEscape?
  rw [hexQuad?_append hlength hquad]
  simp [hlow, hhigh, hcode]

/-- A character is written as an escape that stands for it, or as it is. -/
theorem stringChar_cases (c : Char) :
    (∃ (e : Char) (ds : List Char), e.toNat < 128 ∧ stringChar c = '\\' :: e :: ds ∧
      ∀ more, escape? (byte e) (bytesOf ds ++ more) = some (String.utf8EncodeChar c, more)) ∨
    stringChar c = [c] ∧ ∀ b ∈ String.utf8EncodeChar c, isPlain b = true := by
  -- The characters that are escaped, in the order in which they are looked for.
  by_cases hquote : c = '"'
  · subst hquote
    exact Or.inl ⟨'"', [], by decide, rfl, fun _ => rfl⟩
  by_cases hslash : c = '\\'
  · subst hslash
    exact Or.inl ⟨'\\', [], by decide, rfl, fun _ => rfl⟩
  by_cases hline : c = '\n'
  · subst hline
    exact Or.inl ⟨'n', [], by decide, rfl, fun _ => rfl⟩
  by_cases hreturn : c = '\r'
  · subst hreturn
    exact Or.inl ⟨'r', [], by decide, rfl, fun _ => rfl⟩
  by_cases htab : c = '\t'
  · subst htab
    exact Or.inl ⟨'t', [], by decide, rfl, fun _ => rfl⟩
  by_cases hback : c.toNat = 0x08
  · obtain rfl : c = Char.ofNat 0x08 := by
      rw [← hback, Char.ofNat_toNat]
    exact Or.inl ⟨'b', [], by decide, rfl, fun _ => rfl⟩
  by_cases hfeed : c.toNat = 0x0c
  · obtain rfl : c = Char.ofNat 0x0c := by
      rw [← hfeed, Char.ofNat_toNat]
    exact Or.inl ⟨'f', [], by decide, rfl, fun _ => rfl⟩
  unfold stringChar
  rw [if_neg hquote, if_neg hslash, if_neg hline, if_neg hreturn, if_neg htab, if_neg hback,
    if_neg hfeed]
  by_cases hcontrol : c.toNat < 0x20
  · rw [if_pos hcontrol]
    exact Or.inl ⟨'u', _, by decide, rfl, fun _ => escape?_control hcontrol⟩
  · rw [if_neg hcontrol]
    exact Or.inr ⟨rfl, fun b hb => isPlain_of_mem_encode hquote hslash hcontrol hb⟩

/-- One character of a string, before a rest that is read with less fuel. -/
theorem stringBytes?_char (c : Char) (h : ∀ fuel, rest.length < fuel →
      stringBytes? fuel (rest ++ more) = some (tail, after)) (hfuel :
    (bytesOf (stringChar c) ++ rest).length < fuel) :
    stringBytes? fuel (bytesOf (stringChar c) ++ rest ++ more) =
      some (String.utf8EncodeChar c ++ tail, after) := by
  rcases stringChar_cases c with ⟨e, ds, he, hc, hescape⟩ | ⟨hc, hplain⟩
  · rw [hc, bytesOf_cons_ascii (by decide), bytesOf_cons_ascii he] at hfuel ⊢
    simp only [List.cons_append, List.length_cons, List.length_append] at hfuel
    obtain ⟨f, rfl⟩ : ∃ f, fuel = f + 1 := ⟨fuel - 1, by omega⟩
    have hrest := h f (by omega)
    rw [List.cons_append, List.cons_append, List.cons_append, List.cons_append, List.append_assoc]
    exact stringBytes?_escape (hescape _) hrest
  · rw [hc, bytesOf_cons, bytesOf_nil, List.append_nil] at hfuel ⊢
    rw [List.length_append] at hfuel
    obtain ⟨f, rfl⟩ : ∃ f, fuel = f + (String.utf8EncodeChar c).length :=
      ⟨fuel - (String.utf8EncodeChar c).length, by omega⟩
    rw [List.append_assoc]
    exact stringBytes?_plain hplain (h f (by omega))

theorem stringBytes?_chars (cs : List Char) (more : List UInt8) {fuel : Nat}
    (hfuel : (bytesOf (cs.flatMap stringChar)).length < fuel) :
    stringBytes? fuel (bytesOf (cs.flatMap stringChar) ++ byte '"' :: more) =
      some (bytesOf cs, more) := by
  induction cs generalizing fuel with
  | nil =>
    obtain ⟨f, rfl⟩ : ∃ f, fuel = f + 1 := ⟨fuel - 1, by
      simp only [List.flatMap_nil, bytesOf_nil, List.length_nil] at hfuel
      omega⟩
    rfl
  | cons c cs ih =>
    rw [List.flatMap_cons, bytesOf_append] at hfuel ⊢
    rw [bytesOf_cons]
    exact stringBytes?_char c (fun f hf => ih hf) hfuel

/-- A string is read up to its closing quote, as the text that it was written for. -/
theorem string_written (s : String) (more : List UInt8) :
    string (bytesOf (s.toList.flatMap stringChar) ++ byte '"' :: more) =
      some (some s, more) := by
  have hfuel : (bytesOf (s.toList.flatMap stringChar)).length <
      (bytesOf (s.toList.flatMap stringChar) ++ byte '"' :: more).length + 1 := by
    rw [List.length_append]
    omega
  unfold string
  rw [stringBytes?_chars s.toList more hfuel, Option.map_some, ← utf8_eq]
  dsimp only
  rw [Text.ofUtf8?_utf8]

end Strings

section Numbers

/-- What can stand behind a value. -/
inductive IsEnd : List UInt8 → Prop
  | nil : IsEnd []
  | comma (bs : List UInt8) : IsEnd (byte ',' :: bs)
  | bracket (bs : List UInt8) : IsEnd (byte ']' :: bs)
  | brace (bs : List UInt8) : IsEnd (byte '\x7d' :: bs)

variable {rest : List UInt8} {n : Nat}

theorem IsEnd.takeDigits (h : IsEnd rest) : takeDigits rest = ([], rest) := by
  cases h <;> rfl

theorem IsEnd.fraction (h : IsEnd rest) : fraction? rest = some (none, rest) := by
  cases h <;> rfl

theorem IsEnd.exponent (h : IsEnd rest) : exponent? rest = some (none, rest) := by
  cases h <;> rfl

theorem takeDigits_append {ds : List UInt8} (hds : ∀ d ∈ ds, isDigit d = true) (h : IsEnd rest) :
    Json.takeDigits (ds ++ rest) = (ds, rest) := by
  have hstop := h.takeDigits
  unfold Json.takeDigits at hstop ⊢
  rw [List.span_eq_takeWhile_dropWhile] at hstop ⊢
  obtain ⟨htake, hdrop⟩ := Prod.mk.inj hstop
  rw [List.takeWhile_append_of_pos hds, List.dropWhile_append_of_pos hds, htake, hdrop,
    List.append_nil]

theorem ascii_digits {c : Char} (h : c ∈ Nat.toDigits 10 n) : 48 ≤ c.toNat ∧ c.toNat ≤ 57 := by
  have hdigit := Nat.isDigit_of_mem_toDigits (by decide) (by decide) h
  have hbounds : '0'.toNat ≤ c.toNat ∧ c.toNat ≤ '9'.toNat := by
    simpa [Char.isDigit, UInt32.le_iff_toNat_le] using hdigit
  exact hbounds

theorem isDigit_byte {c : Char} (h : c ∈ Nat.toDigits 10 n) : isDigit (byte c) = true := by
  obtain ⟨hlow, hhigh⟩ := ascii_digits h
  have hbyte : (byte c).toNat = c.toNat := toNat_byte_ascii (by omega)
  have hzero : (0x30 : UInt8).toNat = 48 := rfl
  have hnine : (0x39 : UInt8).toNat = 57 := rfl
  unfold isDigit
  rw [Bool.and_eq_true, decide_eq_true_eq, decide_eq_true_eq, UInt8.le_iff_toNat_le,
    UInt8.le_iff_toNat_le]
  omega

theorem bytesOf_digits (n : Nat) :
    bytesOf (Nat.toDigits 10 n) = (Nat.toDigits 10 n).map byte := by
  apply bytesOf_ascii
  intro c hc
  have hbounds := ascii_digits hc
  omega

theorem digitsValue_digits (n : Nat) : digitsValue ((Nat.toDigits 10 n).map byte) = n := by
  have hfold : ∀ (cs : List Char) (a : Nat), (∀ c ∈ cs, c.toNat < 128) →
      (cs.map byte).foldl (fun n d => 10 * n + (d.toNat - 0x30)) a = Nat.ofDigitChars 10 cs a := by
    intro cs
    induction cs with
    | nil => exact fun _ _ => rfl
    | cons c cs ih =>
      intro a hcs
      have hc : (byte c).toNat = c.toNat := toNat_byte_ascii (hcs c (List.mem_cons_self ..))
      rw [List.map_cons, List.foldl_cons, hc, ih _ fun d hd => hcs d (List.mem_cons_of_mem _ hd),
        Nat.ofDigitChars_cons]
      rfl
  unfold digitsValue
  rw [hfold _ 0 fun c hc => by
    have hbounds := ascii_digits hc
    omega]
  exact Nat.ofDigitChars_ten_toDigits

/-- The digits of a positive number do not begin with a zero. -/
theorem head_digits (n : Nat) : 0 < n → (Nat.toDigits 10 n).head? ≠ some '0' := by
  induction n using Nat.strongRecOn with
  | ind n ih =>
    intro hn
    by_cases hsmall : n < 10
    · rw [Nat.toDigits_of_lt_base hsmall]
      have hcases : ∀ k < 10, 0 < k → [k.digitChar].head? ≠ some '0' := by decide
      exact hcases n hsmall hn
    · have htens := ih (n / 10) (by omega) (by omega)
      have hne : Nat.toDigits 10 (n / 10) ≠ [] := Nat.toDigits_ne_nil
      rw [Nat.toDigits_of_base_le (by decide) (by omega), List.head?_append_of_ne_nil _ hne]
      exact htens

/-- The digits of a number are read as that number, if there are not too many. -/
theorem number_written (negative : Bool) (hn : (Nat.toDigits 10 n).length ≤ maxDigits)
    (h : IsEnd rest) : number negative (bytesOf (Nat.toDigits 10 n) ++ rest) =
      (.int (if negative then -n else n), rest) := by
  have htake : Json.takeDigits ((Nat.toDigits 10 n).map byte ++ rest) =
      ((Nat.toDigits 10 n).map byte, rest) := by
    apply takeDigits_append _ h
    intro d hd
    obtain ⟨c, hc, rfl⟩ := List.mem_map.mp hd
    exact isDigit_byte hc
  obtain ⟨c, cs, hcs⟩ : ∃ c cs, Nat.toDigits 10 n = c :: cs :=
    List.exists_cons_of_ne_nil Nat.toDigits_ne_nil
  -- More than one digit means that the number is positive, so no zero stands in front.
  have hlead : ¬ (0 < cs.length ∧ byte c = byte '0') := by
    rintro ⟨hlong, hzero⟩
    have hpos : 0 < n := by
      rcases Nat.eq_zero_or_pos n with rfl | hpos
      · rw [Nat.toDigits_zero] at hcs
        cases hcs
        exact absurd hlong (by decide)
      · exact hpos
    have hc : c ∈ Nat.toDigits 10 n := by
      rw [hcs]
      exact List.mem_cons_self ..
    have hbounds := ascii_digits hc
    have heq : c = '0' := by
      apply Char.toNat_inj.mp
      rw [← toNat_byte_ascii (c := c) (by omega), hzero]
      rfl
    exact head_digits n hpos (by rw [hcs, heq]; rfl)
  have hvalue := digitsValue_digits n
  rw [bytesOf_digits]
  rw [hcs] at htake hvalue hn ⊢
  rw [List.map_cons] at htake hvalue ⊢
  have hcount : ¬ maxDigits < cs.length + 1 := Nat.not_lt.mpr hn
  unfold number
  rw [htake]
  simp [hlead, hcount, hvalue, h.fraction, h.exponent]

end Numbers

section Values

mutual
/-- A value that documents can hold, with integers that are not too long to be read. -/
def IsDocument : Value → Prop
  | .null | .bool _ | .text _ => True
  | .int n => (Nat.toDigits 10 n.natAbs).length ≤ maxDigits
  | .list vs => AreDocuments vs
  | .mapping es => AreEntries es
  | _ => False

def AreDocuments : List Value → Prop
  | [] => True
  | v :: vs => IsDocument v ∧ AreDocuments vs

/-- Entries whose names are text. -/
def AreEntries : List (Value × Value) → Prop
  | [] => True
  | (k, v) :: es => (∃ s, k = .text s) ∧ IsDocument v ∧ AreEntries es
end

variable {rest bs : List UInt8} {cs ds : List Char} {fuel n : Nat}

def isBlank (b : UInt8) : Bool := b == 0x20 || b == 0x09 || b == 0x0a || b == 0x0d

theorem skipBlanks_cons {b : UInt8} (h : isBlank b = false) : skipBlanks (b :: bs) = b :: bs := by
  have hb : ¬ isBlank b = true := by
    rw [h]
    exact Bool.false_ne_true
  exact List.dropWhile_cons_of_neg hb

theorem IsEnd.skipBlanks (h : IsEnd rest) : skipBlanks rest = rest := by
  cases h <;> rfl

/-- Bytes that a value or an entry can begin with. -/
def Opens (bs : List UInt8) : Prop :=
  ∃ b tail, bs = b :: tail ∧ isBlank b = false ∧ b ≠ byte ']' ∧ b ≠ byte '\x7d'

theorem Opens.append (h : Opens bs) (more : List UInt8) : Opens (bs ++ more) := by
  obtain ⟨b, tail, rfl, hb⟩ := h
  exact ⟨b, tail ++ more, rfl, hb⟩

theorem opens_digits (n : Nat) : Opens (bytesOf (Nat.toDigits 10 n)) := by
  obtain ⟨c, cs, hcs⟩ : ∃ c cs, Nat.toDigits 10 n = c :: cs :=
    List.exists_cons_of_ne_nil Nat.toDigits_ne_nil
  have hc : c ∈ Nat.toDigits 10 n := by
    rw [hcs]
    exact List.mem_cons_self ..
  have hbounds := ascii_digits hc
  have hbyte : (byte c).toNat = c.toNat := toNat_byte_ascii (by omega)
  have hne : ∀ k : UInt8, k.toNat < 48 ∨ 57 < k.toNat → byte c ≠ k := by
    intro k hk heq
    rw [heq] at hbyte
    omega
  rw [bytesOf_digits, hcs]
  refine ⟨byte c, cs.map byte, rfl, ?_, hne _ (Or.inr (by decide)), hne _ (Or.inr (by decide))⟩
  simp [isBlank, hne 0x20 (Or.inl (by decide)), hne 0x09 (Or.inl (by decide)),
    hne 0x0a (Or.inl (by decide)), hne 0x0d (Or.inl (by decide))]

theorem value_null : value (fuel + 1) (bytesOf "null".toList ++ rest) = (.null, rest) := rfl

theorem value_true : value (fuel + 1) (bytesOf "true".toList ++ rest) = (.bool true, rest) := rfl

theorem value_false : value (fuel + 1) (bytesOf "false".toList ++ rest) = (.bool false, rest) := rfl

theorem bytesOf_stringChars (s : String) : bytesOf (stringChars s) ++ rest =
    byte '"' :: (bytesOf (s.toList.flatMap stringChar) ++ byte '"' :: rest) := by
  have hend : bytesOf ['"'] = [byte '"'] := by decide
  have hbegin : bytesOf ('"' :: s.toList.flatMap stringChar) =
      byte '"' :: bytesOf (s.toList.flatMap stringChar) := bytesOf_cons_ascii (by decide)
  unfold stringChars
  rw [bytesOf_append, hbegin, hend, List.cons_append, List.cons_append, List.append_assoc]
  rfl

theorem value_text (s : String) :
    value (fuel + 1) (bytesOf (stringChars s) ++ rest) = (.text (some s), rest) := by
  rw [bytesOf_stringChars]
  unfold value
  rw [skipBlanks_cons (b := byte '"') (by decide)]
  simp only [beq_self_eq_true, if_true, string_written]

theorem value_digits (hn : (Nat.toDigits 10 n).length ≤ maxDigits) (h : IsEnd rest) :
    value (fuel + 1) (bytesOf (Nat.toDigits 10 n) ++ rest) = (.int n, rest) := by
  have hread := number_written false hn h
  obtain ⟨b, tail, hb, hblank, -⟩ := opens_digits n
  have hdigit : isDigit b = true := by
    have hmem : b ∈ (Nat.toDigits 10 n).map byte := by
      rw [← bytesOf_digits, hb]
      exact List.mem_cons_self ..
    obtain ⟨c, hc, rfl⟩ := List.mem_map.mp hmem
    exact isDigit_byte hc
  have hne : ∀ c : Char, isDigit (byte c) = false → (b == byte c) = false := by
    intro c hc
    rw [beq_eq_false_iff_ne]
    rintro rfl
    rw [hdigit] at hc
    cases hc
  rw [hb, List.cons_append] at hread ⊢
  unfold value
  rw [skipBlanks_cons hblank]
  simp only [hne '"' (by decide), hne '[' (by decide), hne '\x7b' (by decide),
    hne '-' (by decide), hdigit, Bool.false_eq_true, if_false, if_true]
  exact hread

theorem intText_ofNat (n : Nat) : (Text.intText (.ofNat n)).toList = Nat.toDigits 10 n :=
  String.toList_ofList

theorem intText_negSucc (n : Nat) :
    (Text.intText (.negSucc n)).toList = '-' :: Nat.toDigits 10 (n + 1) := by
  have hdigits : (Text.natText (n + 1)).toList = Nat.toDigits 10 (n + 1) := String.toList_ofList
  unfold Text.intText
  rw [String.toList_append, hdigits]
  rfl

theorem value_int {n : Int} (hn : (Nat.toDigits 10 n.natAbs).length ≤ maxDigits) (h : IsEnd rest) :
    value (fuel + 1) (bytesOf (Text.intText n).toList ++ rest) = (.int n, rest) := by
  cases n with
  | ofNat n =>
    rw [intText_ofNat]
    exact value_digits hn h
  | negSucc n =>
    have hstep : ∀ bs, value (fuel + 1) (byte '-' :: bs) = number true bs := fun _ => rfl
    have hread : number true (bytesOf (Nat.toDigits 10 (n + 1)) ++ rest) =
        (.int (-((n + 1 : Nat) : Int)), rest) := number_written true hn h
    rw [intText_negSucc, bytesOf_cons_ascii (by decide), List.cons_append, hstep, hread]
    rfl

theorem value_list (h : Opens bs) : value (fuel + 1) (byte '[' :: bs) = items fuel bs [] := by
  obtain ⟨b, tail, rfl, hblank, hb, -⟩ := h
  have hquote : (byte '[' == byte '"') = false := by decide
  unfold value
  rw [skipBlanks_cons (b := byte '[') (by decide)]
  simp [hquote, skipBlanks_cons hblank, hb]

theorem value_mapping (h : Opens bs) :
    value (fuel + 1) (byte '\x7b' :: bs) = entries fuel bs [] := by
  obtain ⟨b, tail, rfl, hblank, -, hb⟩ := h
  have hquote : (byte '\x7b' == byte '"') = false := by decide
  have hbracket : (byte '\x7b' == byte '[') = false := by decide
  unfold value
  rw [skipBlanks_cons (b := byte '\x7b') (by decide)]
  simp [hquote, hbracket, skipBlanks_cons hblank, hb]

variable {d : Document} {s : String}

theorem items_last {done : List Document} (h : value fuel bs = (d, byte ']' :: rest)) :
    items (fuel + 1) bs done = (.array (done.reverse ++ [d]) true, rest) := by
  unfold items
  rw [h]
  simp only [(IsEnd.bracket rest).skipBlanks, List.reverse_cons]
  rfl

theorem items_next {done : List Document} (h : value fuel bs = (d, byte ',' :: rest)) :
    items (fuel + 1) bs done = items fuel rest (d :: done) := by
  rw [items, h]
  simp only [(IsEnd.comma rest).skipBlanks]
  rfl

/-- What the reader of entries does behind a name. -/
theorem entries_name {done : List (DocumentKey × Document)} :
    entries (fuel + 1) (bytesOf (stringChars s) ++ byte ':' :: bs) done =
      match skipBlanks (value fuel bs).2 with
      | c :: rest =>
        if c == byte ',' then entries fuel rest ((.name (some s), (value fuel bs).1) :: done)
        else (.object ((.name (some s), (value fuel bs).1) :: done).reverse (c == byte '\x7d'),
          rest)
      | [] => (.object ((.name (some s), (value fuel bs).1) :: done).reverse false, []) := by
  have hquote : ∀ cs, skipBlanks (byte '"' :: cs) = byte '"' :: cs := fun _ => rfl
  have hcolon : skipBlanks (byte ':' :: bs) = byte ':' :: bs := rfl
  rw [bytesOf_stringChars, entries, hquote]
  cases hnext : skipBlanks (value fuel bs).2 <;>
    simp only [beq_self_eq_true, if_true, string_written, hcolon, hnext]

theorem entries_last {done : List (DocumentKey × Document)}
    (h : value fuel bs = (d, byte '\x7d' :: rest)) :
    entries (fuel + 1) (bytesOf (stringChars s) ++ byte ':' :: bs) done =
      (.object (done.reverse ++ [(.name (some s), d)]) true, rest) := by
  rw [entries_name, h]
  simp only [(IsEnd.brace rest).skipBlanks, List.reverse_cons]
  rfl

theorem entries_next {done : List (DocumentKey × Document)}
    (h : value fuel bs = (d, byte ',' :: rest)) :
    entries (fuel + 1) (bytesOf (stringChars s) ++ byte ':' :: bs) done =
      entries fuel rest ((.name (some s), d) :: done) := by
  rw [entries_name, h]
  simp only [(IsEnd.comma rest).skipBlanks]
  rfl

end Values

section Written

variable {fuel : Nat} {rest : List UInt8}

/-- Characters that are read back as a document, before whatever ends a value. -/
def ReadsAs (cs : List Char) (d : Document) : Prop :=
  Opens (bytesOf cs) ∧ ∀ fuel rest, cs.length < fuel → IsEnd rest →
    value fuel (bytesOf cs ++ rest) = (d, rest)

theorem ReadsAs.of_succ {cs : List Char} {d : Document} (hopen : Opens (bytesOf cs))
    (h : ∀ fuel rest, cs.length ≤ fuel → IsEnd rest →
      value (fuel + 1) (bytesOf cs ++ rest) = (d, rest)) : ReadsAs cs d := by
  refine ⟨hopen, fun fuel rest hfuel hrest => ?_⟩
  obtain ⟨f, rfl⟩ : ∃ f, fuel = f + 1 := ⟨fuel - 1, by omega⟩
  exact h f rest (Nat.le_of_lt_succ hfuel) hrest

theorem opens_int (n : Int) : Opens (bytesOf (Text.intText n).toList) := by
  cases n with
  | ofNat n =>
    rw [intText_ofNat]
    exact opens_digits n
  | negSucc n =>
    rw [intText_negSucc, bytesOf_cons_ascii (by decide)]
    exact ⟨byte '-', _, rfl, by decide, by decide, by decide⟩

theorem opens_name (s : String) (ds : List Char) : Opens (bytesOf (stringChars s ++ ds)) := by
  have hquote : bytesOf (stringChars s) = byte '"' :: _ := bytesOf_cons_ascii (by decide)
  rw [bytesOf_append, hquote]
  exact ⟨byte '"', _, rfl, by decide, by decide, by decide⟩

mutual
theorem value_written : ∀ v : Value, IsDocument v →
    ∃ cs, chars? v = some cs ∧ ReadsAs cs (documentOf v)
  | .null, _ =>
    ⟨"null".toList, rfl, .of_succ ⟨byte 'n', _, rfl, by decide, by decide, by decide⟩
      fun _ _ _ _ => value_null⟩
  | .bool true, _ =>
    ⟨"true".toList, rfl, .of_succ ⟨byte 't', _, rfl, by decide, by decide, by decide⟩
      fun _ _ _ _ => value_true⟩
  | .bool false, _ =>
    ⟨"false".toList, rfl, .of_succ ⟨byte 'f', _, rfl, by decide, by decide, by decide⟩
      fun _ _ _ _ => value_false⟩
  | .int n, h =>
    ⟨(Text.intText n).toList, rfl, .of_succ (opens_int n) fun _ _ _ hrest => value_int h hrest⟩
  | .text s, _ => by
    have hopen : Opens (bytesOf (stringChars s)) := by
      have hname := opens_name s []
      rwa [List.append_nil] at hname
    exact ⟨stringChars s, rfl, .of_succ hopen fun _ _ _ _ => value_text s⟩
  | .list [], _ => by
    refine ⟨"[]".toList, rfl, .of_succ ⟨byte '[', _, rfl, by decide, by decide, by decide⟩ ?_⟩
    intro fuel rest _ _
    rfl
  | .list (v :: vs), h => by
    obtain ⟨cs, hcs, hopen, hread⟩ := items_written (v :: vs) (List.cons_ne_nil _ _) h
    refine ⟨'[' :: cs ++ [']'], by simp [chars?, hcs], .of_succ ?_ ?_⟩
    · rw [List.cons_append, bytesOf_cons_ascii (by decide)]
      exact ⟨byte '[', _, rfl, by decide, by decide, by decide⟩
    · intro fuel rest hfuel _
      have hclose : bytesOf [']'] = [byte ']'] := by decide
      rw [List.cons_append, bytesOf_cons_ascii (by decide), List.cons_append, bytesOf_append,
        hclose,
        List.append_assoc, value_list (hopen.append _)]
      simp only [List.cons_append, List.length_cons, List.length_append, List.length_nil] at hfuel
      exact hread fuel rest [] (by omega)
  | .mapping [], _ => by
    refine ⟨"\x7b\x7d".toList, rfl, .of_succ ⟨byte '\x7b', _, rfl, by decide, by decide, by decide⟩ ?_⟩
    intro fuel rest _ _
    rfl
  | .mapping (e :: es), h => by
    obtain ⟨cs, hcs, hopen, hread⟩ := entries_written (e :: es) (List.cons_ne_nil _ _) h
    refine ⟨'\x7b' :: cs ++ ['\x7d'], by simp [chars?, hcs], .of_succ ?_ ?_⟩
    · rw [List.cons_append, bytesOf_cons_ascii (by decide)]
      exact ⟨byte '\x7b', _, rfl, by decide, by decide, by decide⟩
    · intro fuel rest hfuel _
      have hclose : bytesOf ['\x7d'] = [byte '\x7d'] := by decide
      rw [List.cons_append, bytesOf_cons_ascii (by decide), List.cons_append, bytesOf_append,
        hclose,
        List.append_assoc, value_mapping (hopen.append _)]
      simp only [List.cons_append, List.length_cons, List.length_append, List.length_nil] at hfuel
      exact hread fuel rest [] (by omega)

theorem items_written : ∀ vs : List Value, vs ≠ [] → AreDocuments vs →
    ∃ cs, itemChars? vs = some cs ∧ Opens (bytesOf cs) ∧
      ∀ fuel rest done, cs.length + 1 < fuel →
        items fuel (bytesOf cs ++ byte ']' :: rest) done =
          (.array (done.reverse ++ documentsOf vs) true, rest)
  | [], h, _ => absurd rfl h
  -- A separator is read with the member before it, so the last member is a case of its own.
  | [v], _, h => by
    obtain ⟨cs, hcs, hopen, hread⟩ := value_written v h.1
    refine ⟨cs, hcs, hopen, fun fuel rest done hfuel => ?_⟩
    obtain ⟨f, rfl⟩ : ∃ f, fuel = f + 1 := ⟨fuel - 1, by omega⟩
    exact items_last (hread f _ (by omega) (.bracket rest))
  | v :: w :: vs, _, h => by
    obtain ⟨cs, hcs, hopen, hread⟩ := value_written v h.1
    obtain ⟨ds, hds, -, hrest⟩ := items_written (w :: vs) (List.cons_ne_nil _ _) h.2
    refine ⟨cs ++ ',' :: ds, by simp [itemChars?, hcs, hds], ?_, fun fuel rest done hfuel => ?_⟩
    · rw [bytesOf_append]
      exact hopen.append _
    · rw [List.length_append, List.length_cons] at hfuel
      obtain ⟨f, rfl⟩ : ∃ f, fuel = f + 1 := ⟨fuel - 1, by omega⟩
      have hcomma : bytesOf (',' :: ds) = byte ',' :: bytesOf ds := bytesOf_cons_ascii (by decide)
      rw [bytesOf_append, hcomma, List.append_assoc, List.cons_append,
        items_next (hread f _ (by omega) (.comma _)), hrest f rest _ (by omega),
        List.reverse_cons, List.append_assoc]
      rfl

theorem entries_written : ∀ es : List (Value × Value), es ≠ [] → AreEntries es →
    ∃ cs, entryChars? es = some cs ∧ Opens (bytesOf cs) ∧
      ∀ fuel rest done, cs.length + 1 < fuel →
        entries fuel (bytesOf cs ++ byte '\x7d' :: rest) done =
          (.object (done.reverse ++ entryDocuments es) true, rest)
  | [], h, _ => absurd rfl h
  | [(k, v)], _, h => by
    obtain ⟨⟨s, rfl⟩, hv, -⟩ := h
    obtain ⟨cs, hcs, -, hread⟩ := value_written v hv
    refine ⟨stringChars s ++ ':' :: cs, by simp [entryChars?, keyChars?, hcs],
      opens_name s _, fun fuel rest done hfuel => ?_⟩
    rw [List.length_append, List.length_cons] at hfuel
    obtain ⟨f, rfl⟩ : ∃ f, fuel = f + 1 := ⟨fuel - 1, by omega⟩
    have hcolon : bytesOf (':' :: cs) = byte ':' :: bytesOf cs := bytesOf_cons_ascii (by decide)
    rw [bytesOf_append, hcolon, List.append_assoc, List.cons_append,
      entries_last (hread f _ (by omega) (.brace rest))]
    rfl
  | (k, v) :: e :: es, _, h => by
    obtain ⟨⟨s, rfl⟩, hv, hes⟩ := h
    obtain ⟨cs, hcs, -, hread⟩ := value_written v hv
    obtain ⟨ds, hds, -, hrest⟩ := entries_written (e :: es) (List.cons_ne_nil _ _) hes
    refine ⟨stringChars s ++ ':' :: cs ++ ',' :: ds, by simp [entryChars?, keyChars?, hcs, hds],
      ?_, fun fuel rest done hfuel => ?_⟩
    · rw [List.append_assoc]
      exact opens_name s _
    rw [List.length_append, List.length_append, List.length_cons, List.length_cons] at hfuel
    obtain ⟨f, rfl⟩ : ∃ f, fuel = f + 1 := ⟨fuel - 1, by omega⟩
    have hcolon : bytesOf (':' :: cs) = byte ':' :: bytesOf cs := bytesOf_cons_ascii (by decide)
    have hcomma : bytesOf (',' :: ds) = byte ',' :: bytesOf ds := bytesOf_cons_ascii (by decide)
    rw [bytesOf_append, bytesOf_append, hcolon, hcomma, List.append_assoc, List.append_assoc,
      List.cons_append, List.cons_append, entries_next (hread f _ (by omega) (.comma _)),
      hrest f rest _ (by omega), List.reverse_cons, List.append_assoc]
    rfl
end

/-- What is written of a value that documents can hold is read back, as the whole of a text. -/
theorem read_written {v : Value} (h : IsDocument v) :
    ∃ text, write? v = some text ∧ Json.read (Text.utf8 text) = (documentOf v, true) := by
  obtain ⟨cs, hcs, -, hread⟩ := value_written v h
  refine ⟨String.ofList cs, by rw [write?, hcs, Option.map_some], ?_⟩
  have hbytes : Text.utf8 (String.ofList cs) = bytesOf cs := by
    rw [utf8_eq, String.toList_ofList]
  have hlength := length_le_bytesOf cs
  have hvalue := hread (2 * (bytesOf cs).length + 2) [] (by omega) .nil
  rw [List.append_nil] at hvalue
  rw [hbytes]
  unfold Json.read
  rw [hvalue]
  rfl

end Written
end ClusterSubmission.Json
