import ClusterSubmission.Proofs.JsonText
import ClusterSubmission.Proofs.Reading

/-!
# Reading UTF-8

A document that is UTF-8 has no text in it that is not, however broken it is. Reading may stop in
the middle of a character, but whatever it goes on with is ASCII, and stands between characters.
-/
namespace ClusterSubmission.Json

open Message (isSound areSound entriesSound)

variable {bs rest more xs : List UInt8} {b : UInt8} {fuel : Nat}

/-- Bytes of whole characters. -/
def IsChars (bs : List UInt8) : Prop := ∃ cs, bytesOf cs = bs

/-- What is left of characters, perhaps from the middle of one of them on. -/
def IsLeft (bs : List UInt8) : Prop := ∃ before, IsChars (before ++ bs)

theorem IsChars.isLeft (h : IsChars bs) : IsLeft bs := ⟨[], h⟩

theorem IsLeft.of_suffix (h : IsLeft bs) (hs : rest <:+ bs) : IsLeft rest := by
  obtain ⟨before, h⟩ := h
  obtain ⟨skipped, rfl⟩ := hs
  exact ⟨before ++ skipped, by rwa [List.append_assoc]⟩

theorem IsLeft.skipBlanks (h : IsLeft bs) : IsLeft (skipBlanks bs) :=
  h.of_suffix (List.dropWhile_suffix _)

theorem IsLeft.tail (h : IsLeft (b :: bs)) : IsLeft bs := h.of_suffix (List.suffix_cons b bs)

/-- An ASCII byte stands between characters. -/
theorem IsLeft.isChars (h : IsLeft (b :: rest)) (hb : b.toNat < 128) : IsChars rest := by
  obtain ⟨before, cs, h⟩ := h
  induction cs generalizing before with
  | nil => simp at h
  | cons c cs ih =>
    rw [bytesOf_cons] at h
    rcases List.append_eq_append_iff.mp h with ⟨x, rfl, hcs⟩ | ⟨x, hc, hcs⟩
    · exact ih x hcs
    · cases x with
      | nil => exact ih [] hcs.symm
      | cons y ys =>
        obtain ⟨rfl, rfl⟩ := List.cons.inj hcs
        have hascii : c.toNat < 128 := by
          by_contra hnot
          have hhigh := high_of_mem_encode hnot (b := b) (by simp [hc])
          omega
        rw [encode_ascii hascii] at hc
        have hlength := congrArg List.length hc
        simp only [List.length_cons, List.length_nil, List.length_append] at hlength
        obtain rfl : ys = [] := List.eq_nil_of_length_eq_zero (by omega)
        exact ⟨cs, rfl⟩

theorem IsChars.tail (h : IsChars (b :: rest)) (hb : b.toNat < 128) : IsChars rest :=
  h.isLeft.isChars hb

theorem isChars_encode (c : Char) : IsChars (String.utf8EncodeChar c) :=
  ⟨[c], by rw [bytesOf_cons, bytesOf_nil, List.append_nil]⟩

theorem IsChars.append (h : IsChars bs) (h' : IsChars rest) : IsChars (bs ++ rest) := by
  obtain ⟨cs, rfl⟩ := h
  obtain ⟨ds, rfl⟩ := h'
  exact ⟨cs ++ ds, bytesOf_append⟩

section Strings

theorem hexValue?_ascii {n : Nat} (h : hexValue? b = some n) : b.toNat < 128 := by
  unfold hexValue? isDigit at h
  simp only [UInt8.le_iff_toNat_le, Bool.and_eq_true, decide_eq_true_eq] at h
  have hnine : (0x39 : UInt8).toNat = 57 := rfl
  have hsmall : (0x66 : UInt8).toNat = 102 := rfl
  have hlarge : (0x46 : UInt8).toNat = 70 := rfl
  split at h
  · omega
  split at h
  · omega
  split at h
  · omega
  · cases h

theorem IsChars.hexQuad? {n : Nat} (h : IsChars bs) (hquad : hexQuad? bs = some (n, rest)) :
    IsChars rest := by
  match bs, hquad with
  | a :: b :: c :: d :: _, hquad =>
    simp only [Json.hexQuad?, Option.bind_eq_bind, Option.bind_eq_some_iff, Option.some.injEq,
      Prod.mk.injEq] at hquad
    obtain ⟨_, ha, _, hb, _, hc, _, hd, -, rfl⟩ := hquad
    exact (((h.tail (hexValue?_ascii ha)).tail (hexValue?_ascii hb)).tail
      (hexValue?_ascii hc)).tail (hexValue?_ascii hd)

theorem IsChars.unicodeEscape? (h : IsChars bs) (hescape : unicodeEscape? bs = some (xs, rest)) :
    IsChars xs ∧ IsChars rest := by
  unfold Json.unicodeEscape? at hescape
  obtain ⟨⟨n, more⟩, hquad, hescape⟩ := Option.bind_eq_some_iff.mp hescape
  have hmore := h.hexQuad? hquad
  dsimp only at hescape
  split at hescape
  · cases hescape
  split at hescape
  · split at hescape
    · rename_i tail
      obtain ⟨⟨m, after⟩, hlow, hescape⟩ := Option.bind_eq_some_iff.mp hescape
      have hslash : (0x5c : UInt8).toNat < 128 ∧ (0x75 : UInt8).toNat < 128 := by decide
      have htail : IsChars tail := (hmore.tail hslash.1).tail hslash.2
      dsimp only at hescape
      split at hescape
      · obtain ⟨rfl, rfl⟩ := Prod.mk.inj (Option.some.inj hescape)
        exact ⟨isChars_encode _, htail.hexQuad? hlow⟩
      · cases hescape
    · cases hescape
  · cases hescape
    exact ⟨isChars_encode _, hmore⟩

theorem IsChars.escape? (h : IsChars (b :: bs)) (hescape : escape? b bs = some (xs, rest)) :
    IsChars xs ∧ IsChars rest := by
  -- All letters of escapes are ASCII, and so is what the short ones stand for.
  have hshort : ∀ {c d : Char}, (b == byte c) = true → c.toNat < 128 → d.toNat < 128 →
      some ([byte d], bs) = some (xs, rest) → IsChars xs ∧ IsChars rest := by
    intro c d hb hc hd heq
    obtain ⟨rfl, rfl⟩ := Prod.mk.inj (Option.some.inj heq)
    rw [beq_iff_eq] at hb
    subst hb
    exact ⟨encode_ascii hd ▸ isChars_encode d, h.tail (toNat_byte_ascii hc ▸ hc)⟩
  unfold Json.escape? at hescape
  split at hescape
  · rename_i hb
    simp only [Bool.or_eq_true] at hb
    rcases hb with (hb | hb) | hb
    · exact hshort (d := '"') hb (by decide) (by decide) (by rwa [← eq_of_beq hb])
    · exact hshort (d := '\\') hb (by decide) (by decide) (by rwa [← eq_of_beq hb])
    · exact hshort (d := '/') hb (by decide) (by decide) (by rwa [← eq_of_beq hb])
  split at hescape
  · exact hshort (d := Char.ofNat 8) ‹_› (by decide) (by decide) hescape
  split at hescape
  · exact hshort (d := Char.ofNat 12) ‹_› (by decide) (by decide) hescape
  split at hescape
  · exact hshort (d := '\n') ‹_› (by decide) (by decide) hescape
  split at hescape
  · exact hshort (d := '\r') ‹_› (by decide) (by decide) hescape
  split at hescape
  · exact hshort (d := '\t') ‹_› (by decide) (by decide) hescape
  split at hescape
  · rename_i hb
    exact (h.tail (eq_of_beq hb ▸ by decide)).unicodeEscape? hescape
  · cases hescape

/-- Bytes that stand for themselves are passed on one by one. -/
theorem stringBytes?_plain_some (hbs : ∀ b ∈ bs, isPlain b = true)
    (h : stringBytes? fuel (bs ++ rest) = some (xs, more)) :
    ∃ f ys, fuel = f + bs.length ∧ xs = bs ++ ys ∧ stringBytes? f rest = some (ys, more) := by
  induction bs generalizing fuel xs with
  | nil => exact ⟨fuel, xs, rfl, rfl, h⟩
  | cons b bs ih =>
    have hb := hbs b (List.mem_cons_self ..)
    simp only [isPlain, Bool.and_eq_true, bne_iff_ne, Bool.not_eq_true',
      decide_eq_false_iff_not] at hb
    cases fuel with
    | zero => cases h
    | succ fuel =>
      rw [List.cons_append] at h
      unfold Json.stringBytes? at h
      simp only [beq_iff_eq, hb.1.1, hb.1.2, hb.2, if_false] at h
      obtain ⟨⟨tail, after⟩, htail, h⟩ := Option.bind_eq_some_iff.mp h
      obtain ⟨rfl, rfl⟩ := Prod.mk.inj (Option.some.inj h)
      obtain ⟨f, ys, rfl, rfl, hys⟩ := ih (fun d hd => hbs d (List.mem_cons_of_mem _ hd)) htail
      exact ⟨f, ys, by rw [List.length_cons]; omega, rfl, hys⟩

theorem stringBytes?_control (h : b < 0x20) : stringBytes? fuel (b :: rest) = none := by
  have hquote : b ≠ byte '"' := by
    rintro rfl
    exact absurd h (by decide)
  have hslash : b ≠ byte '\\' := by
    rintro rfl
    exact absurd h (by decide)
  cases fuel with
  | zero => rfl
  | succ fuel =>
    unfold Json.stringBytes?
    simp [hquote, hslash, h]

theorem IsChars.stringBytes? (fuel : Nat) : ∀ {bs xs rest : List UInt8}, IsChars bs →
    stringBytes? fuel bs = some (xs, rest) → IsChars xs ∧ IsChars rest := by
  -- By induction on the fuel: a character takes as much of it as it has bytes.
  induction fuel using Nat.strongRecOn with
  | ind fuel ih =>
    rintro _ xs rest ⟨cs, rfl⟩ h
    cases cs with
    | nil => cases fuel <;> cases h
    | cons c cs =>
      by_cases hquote : c = '"'
      · subst hquote
        rw [bytesOf_cons_ascii (by decide)] at h
        cases fuel with
        | zero => cases h
        | succ fuel =>
          cases h
          exact ⟨⟨[], rfl⟩, ⟨cs, rfl⟩⟩
      by_cases hslash : c = '\\'
      · subst hslash
        rw [bytesOf_cons_ascii (by decide)] at h
        cases fuel with
        | zero => cases h
        | succ fuel =>
          have hchars : IsChars (bytesOf cs) := ⟨cs, rfl⟩
          unfold Json.stringBytes? at h
          simp only [show (byte '\\' == byte '"') = false from rfl, beq_self_eq_true, if_true,
            Bool.false_eq_true, if_false] at h
          split at h
          · cases h
          · rename_i e after hafter
            obtain ⟨⟨ys, more⟩, hescape, h⟩ := Option.bind_eq_some_iff.mp h
            obtain ⟨⟨tail, last⟩, htail, h⟩ := Option.bind_eq_some_iff.mp h
            obtain ⟨rfl, rfl⟩ := Prod.mk.inj (Option.some.inj h)
            obtain ⟨hys, hmore⟩ := (hafter ▸ hchars).escape? hescape
            obtain ⟨htail, hlast⟩ := ih fuel (Nat.lt_succ_self _) hmore htail
            exact ⟨hys.append htail, hlast⟩
      by_cases hcontrol : c.toNat < 0x20
      · have hascii : c.toNat < 128 := by omega
        have hlow : byte c < 0x20 := by
          rw [UInt8.lt_iff_toNat_lt, toNat_byte_ascii hascii]
          exact hcontrol
        rw [bytesOf_cons_ascii hascii, stringBytes?_control hlow] at h
        cases h
      · rw [bytesOf_cons] at h
        obtain ⟨f, ys, rfl, rfl, hys⟩ := stringBytes?_plain_some
          (fun b hb => isPlain_of_mem_encode hquote hslash hcontrol hb) h
        have hlength := length_encode_pos c
        obtain ⟨hchars, hrest⟩ := ih f (by omega) ⟨cs, rfl⟩ hys
        exact ⟨(isChars_encode c).append hchars, hrest⟩

/-- The text of a string is UTF-8 where the document is. -/
theorem IsChars.string {s : Option String} (h : IsChars bs) (hs : string bs = some (s, rest)) :
    s.isSome = true ∧ IsChars rest := by
  unfold Json.string at hs
  obtain ⟨⟨xs, more⟩, hread, hs⟩ := Option.map_eq_some_iff.mp hs
  obtain ⟨rfl, rfl⟩ := Prod.mk.inj hs
  obtain ⟨⟨cs, rfl⟩, hmore⟩ := h.stringBytes? _ hread
  refine ⟨?_, hmore⟩
  have hutf8 := Text.ofUtf8?_utf8 (String.ofList cs)
  rw [utf8_eq, String.toList_ofList] at hutf8
  rw [hutf8]
  rfl

end Strings

section Suffixes

theorem takeDigits_suffix (bs : List UInt8) : (takeDigits bs).2 <:+ bs := by
  unfold takeDigits
  rw [List.span_eq_takeWhile_dropWhile]
  exact List.dropWhile_suffix _

theorem fraction?_suffix {part : Option (List UInt8)} (h : fraction? bs = some (part, rest)) :
    rest <:+ bs := by
  unfold fraction? at h
  split at h
  · rename_i c tail
    split at h
    · have hdigits := takeDigits_suffix tail
      split at h
      · cases h
      · rename_i ds after hds
        cases h
        rw [hds] at hdigits
        exact hdigits.trans (List.suffix_cons _ _)
    · cases h
      exact List.suffix_rfl
  · cases h
    exact List.suffix_rfl

theorem exponent?_suffix {power : Option Int} (h : exponent? bs = some (power, rest)) :
    rest <:+ bs := by
  unfold exponent? at h
  split at h
  · rename_i c tail
    split at h
    · split at h
      rename_i sign more hsign
      have hmore : more <:+ tail := by
        split at hsign
        · split at hsign
          · cases hsign
            exact List.suffix_cons _ _
          · split at hsign
            · cases hsign
              exact List.suffix_cons _ _
            · cases hsign
              exact List.suffix_rfl
        · cases hsign
          exact List.suffix_rfl
      have hdigits := takeDigits_suffix more
      split at h
      · cases h
      · rename_i ds after hds
        cases h
        rw [hds] at hdigits
        exact (hdigits.trans hmore).trans (List.suffix_cons _ _)
    · cases h
      exact List.suffix_rfl
  · cases h
    exact List.suffix_rfl

theorem number_suffix (negative : Bool) (bs : List UInt8) : (number negative bs).2 <:+ bs := by
  have hdigits := takeDigits_suffix bs
  unfold number
  split
  · rename_i after hds
    rwa [hds] at hdigits
  · rename_i ds after hds
    rw [hds] at hdigits
    split
    · exact hdigits
    split
    · exact hdigits
    · rename_i part more hpart
      have hfraction := (fraction?_suffix hpart).trans hdigits
      split
      · exact hfraction
      · rename_i power last hpower
        have hexponent := (exponent?_suffix hpower).trans hfraction
        split
        · split <;> exact hexponent
        · dsimp only
          split <;> exact hexponent

theorem keyword?_suffix {word : String} (h : keyword? word bs = some rest) : rest <:+ bs := by
  unfold keyword? at h
  dsimp only at h
  split at h
  · cases h
    exact List.drop_suffix _ _
  · cases h

end Suffixes

theorem isSound_number (negative : Bool) (bs : List UInt8) :
    isSound (number negative bs).1 = true := by
  unfold number
  split
  · rfl
  split
  · rfl
  split
  · rfl
  split
  · rfl
  split
  · split <;> rfl
  · dsimp only
    split <;> rfl

theorem areSound_reverse (ds : List Document) : areSound ds.reverse = areSound ds := by
  have hall : ∀ ds, areSound ds = ds.all isSound := by
    intro ds
    induction ds with
    | nil => rfl
    | cons d ds ih => rw [areSound, ih, List.all_cons]
  rw [hall, hall, List.all_reverse]

theorem entriesSound_cons (e : DocumentKey × Document) (es : List (DocumentKey × Document)) :
    entriesSound (e :: es) = (entriesSound [e] && entriesSound es) := by
  obtain ⟨key, d⟩ := e
  rcases key with s | o
  · cases s <;> simp [entriesSound]
  · simp [entriesSound]

theorem entriesSound_reverse (es : List (DocumentKey × Document)) :
    entriesSound es.reverse = entriesSound es := by
  have hall : ∀ es, entriesSound es = es.all fun e => entriesSound [e] := by
    intro es
    induction es with
    | nil => rfl
    | cons e es ih => rw [entriesSound_cons, ih, List.all_cons]
  rw [hall, hall, List.all_reverse]

/-- With some fuel, what is read of characters is sound, and the rest is what is left of them. -/
structure ReadsSound (fuel : Nat) : Prop where
  value : ∀ {bs}, IsLeft bs → isSound (value fuel bs).1 = true ∧ IsLeft (value fuel bs).2
  items : ∀ {bs done}, IsLeft bs → areSound done = true →
    isSound (items fuel bs done).1 = true ∧ IsLeft (items fuel bs done).2
  entries : ∀ {bs done}, IsLeft bs → entriesSound done = true →
    isSound (entries fuel bs done).1 = true ∧ IsLeft (entries fuel bs done).2

theorem toNat_lt_of_beq {c : Char} (h : (b == byte c) = true) (hc : c.toNat < 128) :
    b.toNat < 128 := by
  rw [eq_of_beq h, toNat_byte_ascii hc]
  exact hc

theorem value_isSound (ih : ReadsSound fuel) (h : IsLeft bs) :
    isSound (value (fuel + 1) bs).1 = true ∧ IsLeft (value (fuel + 1) bs).2 := by
  have hblanks := h.skipBlanks
  unfold value
  split
  · exact ⟨rfl, h.of_suffix (List.nil_suffix ..)⟩
  · rename_i b rest hskip
    rw [hskip] at hblanks
    have hrest := hblanks.tail
    split
    · rename_i hquote
      split
      · rename_i s after hs
        obtain ⟨hsome, hafter⟩ :=
          (hblanks.isChars (toNat_lt_of_beq hquote (by decide))).string hs
        exact ⟨hsome, hafter.isLeft⟩
      · exact ⟨rfl, hrest⟩
    split
    · split
      · rename_i c after hmore
        have hitems := hmore ▸ hrest.skipBlanks
        split
        · exact ⟨rfl, hitems.tail⟩
        · exact ih.items hitems rfl
      · exact ⟨rfl, hrest.of_suffix (List.nil_suffix ..)⟩
    split
    · split
      · rename_i c after hmore
        have hentries := hmore ▸ hrest.skipBlanks
        split
        · exact ⟨rfl, hentries.tail⟩
        · exact ih.entries hentries rfl
      · exact ⟨rfl, hrest.of_suffix (List.nil_suffix ..)⟩
    split
    · exact ⟨isSound_number true rest, hrest.of_suffix (number_suffix true rest)⟩
    split
    · exact ⟨isSound_number false _, hblanks.of_suffix (number_suffix false _)⟩
    split
    · exact ⟨rfl, hblanks.of_suffix (keyword?_suffix ‹_›)⟩
    split
    · exact ⟨rfl, hblanks.of_suffix (keyword?_suffix ‹_›)⟩
    split
    · exact ⟨rfl, hblanks.of_suffix (keyword?_suffix ‹_›)⟩
    · exact ⟨rfl, hrest⟩

theorem items_isSound (ih : ReadsSound fuel) {done : List Document} (h : IsLeft bs)
    (hdone : areSound done = true) :
    isSound (items (fuel + 1) bs done).1 = true ∧ IsLeft (items (fuel + 1) bs done).2 := by
  obtain ⟨hitem, hrest⟩ := ih.value h
  have hmembers : areSound ((value fuel bs).1 :: done) = true := by
    rw [areSound, hitem, hdone]
    rfl
  have hblanks := hrest.skipBlanks
  unfold items
  split
  rename_i item rest hvalue
  rw [hvalue] at hmembers hblanks
  split
  · rename_i c after hskip
    rw [hskip] at hblanks
    split
    · exact ih.items hblanks.tail hmembers
    · exact ⟨(areSound_reverse _).trans hmembers, hblanks.tail⟩
  · rename_i hskip
    rw [hskip] at hblanks
    exact ⟨(areSound_reverse _).trans hmembers, hblanks⟩

theorem entries_isSound (ih : ReadsSound fuel) {done : List (DocumentKey × Document)}
    (h : IsLeft bs) (hdone : entriesSound done = true) :
    isSound (entries (fuel + 1) bs done).1 = true ∧ IsLeft (entries (fuel + 1) bs done).2 := by
  have hbroken : isSound (.object done.reverse false) = true :=
    (entriesSound_reverse done).trans hdone
  have hblanks := h.skipBlanks
  unfold entries
  split
  · rename_i q rest hskip
    rw [hskip] at hblanks
    split
    · rename_i hquote
      split
      · exact ⟨hbroken, hblanks.tail⟩
      · rename_i key after hstring
        obtain ⟨hkey, hafter⟩ :=
          (hblanks.isChars (toNat_lt_of_beq hquote (by decide))).string hstring
        have hentry : ∀ d, isSound d = true → entriesSound ((.name key, d) :: done) = true := by
          intro d hd
          rw [entriesSound_cons, hdone, Bool.and_true]
          cases key with
          | none => cases hkey
          | some s => simp [entriesSound, hd]
        have hcolon := hafter.isLeft.skipBlanks
        split
        · rename_i c more hskip
          rw [hskip] at hcolon
          split
          · obtain ⟨hitem, hrest⟩ := ih.value hcolon.tail
            have hdone := hentry _ hitem
            have hblanks := hrest.skipBlanks
            dsimp only
            split
            · rename_i c last hskip
              rw [hskip] at hblanks
              split
              · exact ih.entries hblanks.tail hdone
              · exact ⟨(entriesSound_reverse _).trans hdone, hblanks.tail⟩
            · rename_i hskip
              rw [hskip] at hblanks
              exact ⟨(entriesSound_reverse _).trans hdone, hblanks⟩
          · exact ⟨(entriesSound_reverse _).trans (hentry _ rfl), hcolon.tail⟩
        · rename_i hskip
          rw [hskip] at hcolon
          exact ⟨(entriesSound_reverse _).trans (hentry _ rfl), hcolon⟩
    · exact ⟨hbroken, hblanks.tail⟩
  · rename_i hskip
    rw [hskip] at hblanks
    exact ⟨hbroken, hblanks⟩

theorem readsSound (fuel : Nat) : ReadsSound fuel := by
  induction fuel with
  | zero =>
    constructor
    · intro bs h
      exact ⟨rfl, h⟩
    · intro bs done h hdone
      exact ⟨(areSound_reverse done).trans hdone, h⟩
    · intro bs done h hdone
      exact ⟨(entriesSound_reverse done).trans hdone, h⟩
  | succ fuel ih => exact ⟨value_isSound ih, items_isSound ih, entries_isSound ih⟩

/-- The tree of a text has no text in it that is no UTF-8. -/
theorem isSound_read (s : String) : isSound (read (Text.utf8 s)).1 = true := by
  have hchars : IsChars (Text.utf8 s) := ⟨s.toList, rfl⟩
  exact ((readsSound (2 * (Text.utf8 s).length + 2)).value hchars.isLeft).1

-- One theorem for each of the functions that take the content of a sound document.
mutual
theorem contentOf_ne_illFormed : ∀ (d : Document), isSound d = true →
    contentOf d ≠ .error .illFormedText
  | .null, _, h | .bool _, _, h | .int _, _, h | .float _, _, h | .text (some _), _, h
  | .hugeInt, _, h | .hugeFloat, _, h | .other _, _, h | .broken, _, h => by cases h
  | .text none, hs, _ => by cases hs
  | .array items closed, hs, h => by
    unfold contentOf at h
    rcases bind_eq_error h with hitems | ⟨vs, -, h⟩
    · exact itemsOf_ne_illFormed items hs hitems
    · cases closed <;> cases h
  | .object entries closed, hs, h => by
    unfold contentOf at h
    rcases bind_eq_error h with hentries | ⟨es, -, h⟩
    · exact entriesOf_ne_illFormed entries [] hs hentries
    · cases closed <;> cases h

theorem itemsOf_ne_illFormed : ∀ (ds : List Document), areSound ds = true →
    itemsOf ds ≠ .error .illFormedText
  | [], _, h => by cases h
  | d :: ds, hs, h => by
    obtain ⟨hd, hds⟩ := Bool.and_eq_true_iff.mp hs
    unfold itemsOf at h
    rcases bind_eq_error h with h | ⟨v, -, h⟩
    · exact contentOf_ne_illFormed d hd h
    · rcases bind_eq_error h with h | ⟨vs, -, h⟩
      · exact itemsOf_ne_illFormed ds hds h
      · cases h

theorem entriesOf_ne_illFormed : ∀ (es : List (DocumentKey × Document))
    (done : List (Value × Value)), entriesSound es = true →
    entriesOf es done ≠ .error .illFormedText
  | [], _, _, h => by cases h
  | (.name none, _) :: _, _, hs, _ => by cases hs
  | (.other _, _) :: _, _, _, h => by cases h
  | (.name (some key), d) :: rest, done, hs, h => by
    obtain ⟨hd, hrest⟩ := Bool.and_eq_true_iff.mp hs
    unfold entriesOf at h
    rcases bind_eq_error h with h | ⟨v, -, h⟩
    · exact contentOf_ne_illFormed d hd h
    · exact entriesOf_ne_illFormed rest _ hrest h
end

theorem content_utf8_ne_illFormed (s : String) :
    content (Text.utf8 s) ≠ .error .illFormedText := by
  intro h
  have hsound := isSound_read s
  unfold content at h
  split at h
  rename_i d finished hread
  rw [hread] at hsound
  rcases bind_eq_error h with h | ⟨v, -, h⟩
  · exact contentOf_ne_illFormed d hsound h
  · cases finished <;> cases h

/-- However it breaks off, an object is an object. -/
theorem entries_isObject (fuel : Nat) : ∀ (bs : List UInt8) (done : List (DocumentKey × Document)),
    ∃ es closed, (entries fuel bs done).1 = .object es closed := by
  induction fuel with
  | zero => exact fun _ done => ⟨done.reverse, false, rfl⟩
  | succ fuel ih =>
    intro bs done
    unfold entries
    split
    · split
      · split
        · exact ⟨_, _, rfl⟩
        · split
          · split
            · dsimp only
              split
              · split
                · exact ih _ _
                · exact ⟨_, _, rfl⟩
              · exact ⟨_, _, rfl⟩
            · exact ⟨_, _, rfl⟩
          · exact ⟨_, _, rfl⟩
      · exact ⟨_, _, rfl⟩
    · exact ⟨_, _, rfl⟩

theorem value_isObject (fuel : Nat) (h : skipBlanks bs = byte '\x7b' :: rest) :
    ∃ es closed, (value (fuel + 1) bs).1 = .object es closed := by
  have hother : (byte '\x7b' == byte '"') = false ∧ (byte '\x7b' == byte '[') = false := by decide
  unfold value
  rw [h]
  simp only [hother.1, hother.2, Bool.false_eq_true, if_false, beq_self_eq_true, if_true]
  split
  · split
    · exact ⟨[], true, rfl⟩
    · exact entries_isObject fuel _ []
  · exact ⟨[], false, rfl⟩

end ClusterSubmission.Json

namespace ClusterSubmission

open Json Message

/-- An answer whose body is a text that begins like an object, behind blanks. Every object is such a
text. -/
def Response.IsObject (a : Response) : Prop :=
  ∃ (s : String) (blanks cs : List Char), a.body = Text.utf8 s ∧ s.toList = blanks ++ '\x7b' :: cs ∧
    ∀ c ∈ blanks, c ∈ [' ', '\t', '\n', '\r']

theorem skipBlanks_bytesOf {blanks : List Char} (cs : List Char)
    (h : ∀ c ∈ blanks, c ∈ [' ', '\t', '\n', '\r']) :
    skipBlanks (bytesOf (blanks ++ '\x7b' :: cs)) = byte '\x7b' :: bytesOf cs := by
  have hascii : ∀ c ∈ [' ', '\t', '\n', '\r'], c.toNat < 128 ∧ isBlank (byte c) = true := by
    simp only [List.forall_mem_cons, List.not_mem_nil, false_implies, implies_true, and_true]
    decide
  rw [bytesOf_append, bytesOf_ascii fun c hc => (hascii c (h c hc)).1,
    bytesOf_cons_ascii (by decide)]
  have hblanks : ∀ b ∈ blanks.map byte, isBlank b = true := by
    intro b hb
    obtain ⟨c, hc, rfl⟩ := List.mem_map.mp hb
    exact (hascii c (h c hc)).2
  exact (List.dropWhile_append_of_pos hblanks).trans (skipBlanks_cons (by decide))

theorem Response.IsObject.exists_text {a : Response} (h : a.IsObject) :
    ∃ s, a.body = Text.utf8 s := by
  obtain ⟨s, -, -, hbody, -⟩ := h
  exact ⟨s, hbody⟩

/-- What an object holds is a mapping. -/
theorem Response.IsObject.content {a : Response} (h : a.IsObject) {v : Value}
    (hv : Json.content a.body = .ok v) : ∃ es, v = .mapping es := by
  obtain ⟨s, blanks, cs, hbody, hs, hblanks⟩ := h
  have hskip : skipBlanks a.body = byte '\x7b' :: bytesOf cs := by
    rw [hbody, utf8_eq, hs, skipBlanks_bytesOf cs hblanks]
  obtain ⟨es, closed, hobject⟩ : ∃ es closed, (read a.body).1 = .object es closed :=
    value_isObject (2 * a.body.length + 1) hskip
  unfold Json.content at hv
  split at hv
  rename_i d finished hread
  rw [hread] at hobject
  obtain rfl : d = .object es closed := hobject
  obtain ⟨w, hw, hv⟩ := bind_eq_ok hv
  unfold contentOf at hw
  obtain ⟨vs, -, hw⟩ := bind_eq_ok hw
  cases closed <;> cases hw
  cases finished <;> cases hv
  exact ⟨vs, rfl⟩

namespace Message

theorem readBytes_utf8_ne_illFormed (mode : Strictness) (m : Model) (s : String) :
    readBytes mode m (Text.utf8 s) ≠ .error .illFormedText := by
  intro h
  have hsound := isSound_read s
  unfold readBytes at h
  split at h
  rename_i d finished hread
  rw [hread] at hsound
  split at h
  · cases finished <;> cases h
  · rename_i x hx
    cases h
    cases read_error _ _ _ _ hx with
    | illFormed hnot => simp [hnot] at hsound

/-- Whether an object is a message can always be told. -/
theorem not_isUnreadable_of_isObject (m : Model) {a : Response} (h : a.IsObject) :
    ¬ IsUnreadable m a := by
  obtain ⟨s, hbody⟩ := h.exists_text
  intro hu
  cases hu with
  | illFormed hcontent =>
    unfold ResourceManager.answerContent at hcontent
    split at hcontent
    · cases hcontent
    · split at hcontent
      · cases hcontent
      · rw [hbody] at hcontent
        exact content_utf8_ne_illFormed s hcontent
  | otherKind v hcontent hm ht =>
    unfold ResourceManager.answerContent at hcontent
    split at hcontent
    · cases hcontent
      exact hm [] rfl
    · split at hcontent
      · cases hcontent
        exact ht _ rfl
      · obtain ⟨es, rfl⟩ := h.content hcontent
        exact hm es rfl
  | illFormedInside t hcontent hs => exact readBytes_utf8_ne_illFormed .lenient m t hs

end Message
end ClusterSubmission
