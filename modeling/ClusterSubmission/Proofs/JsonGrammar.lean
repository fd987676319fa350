import ClusterSubmission.Proofs.JsonText

/-!
# The grammar of what is written

A strict reader of documents takes the texts of a grammar, which leaves nothing open: strings escape
quotes, backslashes and control characters, numbers have no leading zeros, and members are separated
by single commas. What is written of a value that documents can hold is one text of this grammar. It
has no white space and no numbers but integers.
-/
namespace ClusterSubmission.Json

section Grammar

def IsHexDigit (c : Char) : Prop :=
  c.isDigit = true ∨ 'a' ≤ c ∧ c ≤ 'f' ∨ 'A' ≤ c ∧ c ≤ 'F'

instance (c : Char) : Decidable (IsHexDigit c) := inferInstanceAs (Decidable (_ ∨ _ ∨ _))

/-- One character of a string: as it is, as a short escape, or as its code. -/
inductive IsStringUnit : List Char → Prop
  | plain {c : Char} (hcontrol : 0x20 ≤ c.toNat) (hquote : c ≠ '"') (hslash : c ≠ '\\') :
      IsStringUnit [c]
  | escape {c : Char} (h : c ∈ ['"', '\\', '/', 'b', 'f', 'n', 'r', 't']) : IsStringUnit ['\\', c]
  | code {cs : List Char} (hlength : cs.length = 4) (h : ∀ c ∈ cs, IsHexDigit c) :
      IsStringUnit ('\\' :: 'u' :: cs)

/-- What stands between the quotes of a string. -/
inductive IsStringBody : List Char → Prop
  | nil : IsStringBody []
  | cons {unit cs : List Char} (hunit : IsStringUnit unit) (h : IsStringBody cs) :
      IsStringBody (unit ++ cs)

/-- A string with its quotes. -/
inductive IsString : List Char → Prop
  | quoted {body : List Char} (h : IsStringBody body) : IsString ('"' :: body ++ ['"'])

/-- The digits of a number, with no zero in front. -/
structure IsNatural (cs : List Char) : Prop where
  some : cs ≠ []
  digits : ∀ c ∈ cs, c.isDigit = true
  leading : cs.head? = .some '0' → cs = ['0']

inductive IsInteger : List Char → Prop
  | natural {cs : List Char} (h : IsNatural cs) : IsInteger cs
  | negative {cs : List Char} (h : IsNatural cs) : IsInteger ('-' :: cs)

mutual
/-- The text of one value. -/
inductive IsText : List Char → Prop
  | null : IsText "null".toList
  | true : IsText "true".toList
  | false : IsText "false".toList
  | number {cs : List Char} (h : IsInteger cs) : IsText cs
  | string {cs : List Char} (h : IsString cs) : IsText cs
  | emptyArray : IsText "[]".toList
  | array {cs : List Char} (h : AreMembers cs) : IsText ('[' :: cs ++ [']'])
  | emptyObject : IsText "\x7b\x7d".toList
  | object {cs : List Char} (h : AreNamed cs) : IsText ('\x7b' :: cs ++ ['\x7d'])

/-- The members of an array. -/
inductive AreMembers : List Char → Prop
  | last {cs : List Char} (h : IsText cs) : AreMembers cs
  | next {cs ds : List Char} (h : IsText cs) (hrest : AreMembers ds) : AreMembers (cs ++ ',' :: ds)

/-- The members of an object, each behind its name. -/
inductive AreNamed : List Char → Prop
  | last {name cs : List Char} (hname : IsString name) (h : IsText cs) :
      AreNamed (name ++ ':' :: cs)
  | next {name cs ds : List Char} (hname : IsString name) (h : IsText cs) (hrest : AreNamed ds) :
      AreNamed (name ++ ':' :: cs ++ ',' :: ds)
end

end Grammar

section Written

/-- The codes of control characters have four hexadecimal digits. -/
theorem isHexDigit_hexText : ∀ n < 0x20, (Text.hexText 4 n).length = 4 ∧
    ∀ c ∈ Text.hexText 4 n, IsHexDigit c := by
  have hall : ∀ n < 0x20, (Text.hexText 4 n).length = 4 ∧
      (Text.hexText 4 n).all (IsHexDigit ·) = true := by decide
  intro n hn
  obtain ⟨hlength, hdigits⟩ := hall n hn
  exact ⟨hlength, by simpa using hdigits⟩

theorem isStringUnit_stringChar (c : Char) : IsStringUnit (stringChar c) := by
  unfold stringChar
  -- The short escapes come first, in the order in which they are looked for.
  by_cases hquote : c = '"'
  · rw [if_pos hquote]
    exact .escape (by decide)
  rw [if_neg hquote]
  by_cases hslash : c = '\\'
  · rw [if_pos hslash]
    exact .escape (by decide)
  rw [if_neg hslash]
  split
  · exact .escape (by decide)
  split
  · exact .escape (by decide)
  split
  · exact .escape (by decide)
  split
  · exact .escape (by decide)
  split
  · exact .escape (by decide)
  by_cases hcontrol : c.toNat < 0x20
  · rw [if_pos hcontrol]
    obtain ⟨hlength, hdigits⟩ := isHexDigit_hexText c.toNat hcontrol
    exact .code hlength hdigits
  · rw [if_neg hcontrol]
    exact .plain (Nat.le_of_not_lt hcontrol) hquote hslash

theorem isString_stringChars (s : String) : IsString (stringChars s) := by
  have hbody : ∀ cs : List Char, IsStringBody (cs.flatMap stringChar) := by
    intro cs
    induction cs with
    | nil => exact .nil
    | cons c cs ih =>
      rw [List.flatMap_cons]
      exact .cons (isStringUnit_stringChar c) ih
  exact .quoted (hbody s.toList)

theorem isNatural_digits (n : Nat) : IsNatural (Nat.toDigits 10 n) := by
  refine ⟨Nat.toDigits_ne_nil, ?_, ?_⟩
  · intro c hc
    exact Nat.isDigit_of_mem_toDigits (by decide) (by decide) hc
  · intro hzero
    rcases Nat.eq_zero_or_pos n with rfl | hpos
    · rfl
    · exact absurd hzero (head_digits n hpos)

theorem isInteger_intText (n : Int) : IsInteger (Text.intText n).toList := by
  cases n with
  | ofNat n =>
    rw [intText_ofNat]
    exact .natural (isNatural_digits n)
  | negSucc n =>
    rw [intText_negSucc]
    exact .negative (isNatural_digits (n + 1))

-- One theorem for each of the three writers, with the cases of the writers.
mutual
theorem isText_written : ∀ (v : Value) {cs : List Char}, IsDocument v → chars? v = some cs →
    IsText cs
  | .null, _, _, h => by
    cases h
    exact .null
  | .bool true, _, _, h => by
    cases h
    exact .true
  | .bool false, _, _, h => by
    cases h
    exact .false
  | .int n, _, _, h => by
    cases h
    exact .number (isInteger_intText n)
  | .text s, _, _, h => by
    cases h
    exact .string (isString_stringChars s)
  | .list [], _, _, h => by
    cases h
    exact .emptyArray
  | .list (v :: vs), _, hdoc, h => by
    obtain ⟨cs, hcs, rfl⟩ := Option.map_eq_some_iff.mp h
    exact .array (areMembers_written (v :: vs) (List.cons_ne_nil _ _) hdoc hcs)
  | .mapping [], _, _, h => by
    cases h
    exact .emptyObject
  | .mapping (e :: es), _, hdoc, h => by
    obtain ⟨cs, hcs, rfl⟩ := Option.map_eq_some_iff.mp h
    exact .object (areNamed_written (e :: es) (List.cons_ne_nil _ _) hdoc hcs)

theorem areMembers_written : ∀ (vs : List Value) {cs : List Char}, vs ≠ [] → AreDocuments vs →
    itemChars? vs = some cs → AreMembers cs
  | [], _, hne, _, _ => absurd rfl hne
  | [v], _, _, hdoc, h => .last (isText_written v hdoc.1 h)
  | v :: w :: vs, _, _, hdoc, h => by
    obtain ⟨a, ha, h⟩ := Option.bind_eq_some_iff.mp h
    obtain ⟨b, hb, h⟩ := Option.bind_eq_some_iff.mp h
    cases h
    exact .next (isText_written v hdoc.1 ha)
      (areMembers_written (w :: vs) (List.cons_ne_nil _ _) hdoc.2 hb)

theorem areNamed_written : ∀ (es : List (Value × Value)) {cs : List Char}, es ≠ [] →
    AreEntries es → entryChars? es = some cs → AreNamed cs
  | [], _, hne, _, _ => absurd rfl hne
  | [(k, v)], _, _, hdoc, h => by
    obtain ⟨⟨s, rfl⟩, hv, -⟩ := hdoc
    obtain ⟨a, ha, h⟩ := Option.bind_eq_some_iff.mp h
    cases h
    exact .last (isString_stringChars s) (isText_written v hv ha)
  | (k, v) :: e :: es, _, _, hdoc, h => by
    obtain ⟨⟨s, rfl⟩, hv, hes⟩ := hdoc
    obtain ⟨a, ha, h⟩ := Option.bind_eq_some_iff.mp h
    obtain ⟨b, hb, h⟩ := Option.bind_eq_some_iff.mp h
    cases h
    exact .next (isString_stringChars s) (isText_written v hv ha)
      (areNamed_written (e :: es) (List.cons_ne_nil _ _) hes hb)
end

/-- What is written of a value that documents can hold is one text of the grammar, and is read back
as the value. -/
theorem text_written {v : Value} (h : IsDocument v) : ∃ text, write? v = some text ∧
    IsText text.toList ∧ Json.read (Text.utf8 text) = (Message.documentOf v, true) := by
  obtain ⟨text, htext, hread⟩ := read_written h
  refine ⟨text, htext, ?_, hread⟩
  obtain ⟨cs, hcs, rfl⟩ := Option.map_eq_some_iff.mp htext
  rw [String.toList_ofList]
  exact isText_written v h hcs

end Written
end ClusterSubmission.Json
