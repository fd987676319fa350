import ClusterSubmission.Proofs.DigitRuns
import ClusterSubmission.Proofs.ForeseenFailures
import Mathlib.Data.List.Forall2
import Mathlib.Data.Prod.Lex

/-!
# Texts of versions

A text is a version if it begins with blanks, perhaps a `v`, and a number; up to two more numbers
may follow, each after a point. What comes behind them is a suffix, which has no say in what the
version is or how it compares. Parts that are missing are zero, and versions are compared as
numbers, the most significant part first.
-/
namespace ClusterSubmission.Version

open Text

/-- The parts of a version, in the order in which they count. -/
def key (v : Version) : ℤ ×ₗ ℤ ×ₗ ℤ := toLex (v.major, toLex (v.minor, v.patch))

theorem atLeast_iff {v w : Version} : v.atLeast w = true ↔ w.key ≤ v.key := by
  simp only [atLeast, key, Prod.Lex.toLex_le_toLex, Bool.or_eq_true, Bool.and_eq_true,
    decide_eq_true_eq]

/-- What may stand before the first number: blanks, and perhaps a `v` after them. -/
def IsLead (lead : List Char) : Prop :=
  ∃ blanks, (∀ c ∈ blanks, isBlank c = true) ∧ (lead = blanks ∨ lead = blanks ++ ['v'])

/-- A text that begins like a version. -/
def Begins (cs : List Char) : Prop :=
  ∃ lead d rest, IsLead lead ∧ isDigit d = true ∧ cs = lead ++ d :: rest

/-- A text that does not go on with a point and a digit. -/
def EndsParts (rest : List Char) : Prop :=
  ∀ d tail, rest = '.' :: d :: tail → isDigit d = false

/-- The runs of digits that are the parts of a version in a text. After the third one anything may
follow but a further digit; after fewer, no further part either. -/
inductive HasParts : List Char → List (List Char) → Prop
  | major {lead a suffix} (hl : IsLead lead) (ha : IsDigitRun a) (hs : EndsDigits suffix)
      (hp : EndsParts suffix) :
    HasParts (lead ++ (a ++ suffix)) [a]
  | minor {lead a b suffix} (hl : IsLead lead) (ha : IsDigitRun a) (hb : IsDigitRun b)
    (hs : EndsDigits suffix) (hp : EndsParts suffix) :
    HasParts (lead ++ (a ++ '.' :: (b ++ suffix))) [a, b]
  | patch {lead a b c suffix} (hl : IsLead lead) (ha : IsDigitRun a) (hb : IsDigitRun b)
    (hc : IsDigitRun c) (hs : EndsDigits suffix) :
    HasParts (lead ++ (a ++ '.' :: (b ++ '.' :: (c ++ suffix)))) [a, b, c]

/-- A version by its parts; the parts that are missing are zero. -/
def ofParts (parts : List Int) : Version := ⟨parts.getD 0 0, parts.getD 1 0, parts.getD 2 0⟩

/-- A text whose parts denote those of a version. -/
def Spells (cs : List Char) (v : Version) : Prop :=
  ∃ (runs : List (List Char)) (ns : List Nat), HasParts cs runs ∧ List.Forall₂ Denotes runs ns ∧
    v = ofParts (ns.map Nat.cast)

/-- What a text holds behind blanks and a `v`. -/
def afterLead (cs : List Char) : List Char :=
  let cs := cs.dropWhile isBlank
  match cs with
  | 'v' :: rest => rest
  | _ => cs

/-- The parts that a text begins with. -/
def leadingParts (cs : List Char) : List (List Char) :=
  match cs.span isDigit with
  | ([], _) => []
  | (major, rest) =>
    match nextPart? rest with
    | none => [major]
    | some (minor, rest) =>
      match nextPart? rest with
      | none => [major, minor]
      | some (patch, _) => [major, minor, patch]

section Lead

variable {cs lead rest : List Char} {d : Char}

theorem digitRuns_eq (cs : List Char) : digitRuns cs = leadingParts (afterLead cs) := rfl

theorem afterLead_digit (h : isDigit d = true) : afterLead (d :: rest) = d :: rest := by
  have hletter : d ≠ 'v' := by
    rintro rfl
    exact absurd h (by decide)
  unfold afterLead
  rw [List.dropWhile_cons_of_neg (by simp [not_isBlank_of_isDigit h])]
  dsimp only
  split
  · rename_i heq
    exact absurd (List.cons.inj heq).1 hletter
  · rfl

theorem afterLead_append (hl : IsLead lead) (h : isDigit d = true) :
    afterLead (lead ++ d :: rest) = d :: rest := by
  obtain ⟨blanks, hblanks, rfl | rfl⟩ := hl
  · have hskip : afterLead (d :: rest) = d :: rest := afterLead_digit h
    unfold afterLead at hskip ⊢
    rwa [List.dropWhile_append_of_pos hblanks]
  · have hletter : isBlank 'v' = false := by decide
    unfold afterLead
    rw [List.append_assoc, List.dropWhile_append_of_pos hblanks, List.singleton_append,
      List.dropWhile_cons_of_neg (by simp [hletter])]
    rfl

theorem exists_lead (cs : List Char) : ∃ lead, IsLead lead ∧ cs = lead ++ afterLead cs := by
  have hblanks : ∀ c ∈ cs.takeWhile isBlank, isBlank c = true := by
    intro c hc
    exact List.mem_takeWhile_imp hc
  have happ := List.takeWhile_append_dropWhile (p := isBlank) (l := cs)
  unfold afterLead
  dsimp only
  split
  · rename_i rest hrest
    refine ⟨cs.takeWhile isBlank ++ ['v'], ⟨_, hblanks, Or.inr rfl⟩, ?_⟩
    rw [List.append_assoc, List.singleton_append, ← hrest, happ]
  · exact ⟨cs.takeWhile isBlank, ⟨_, hblanks, Or.inl rfl⟩, happ.symm⟩

end Lead

section Parts

variable {cs lead rest a b : List Char} {runs : List (List Char)}

theorem nextPart?_point (hb : IsDigitRun b) (hr : EndsDigits rest) :
    nextPart? ('.' :: (b ++ rest)) = some (b, rest) := by
  obtain ⟨d, tail, rfl, -⟩ := hb.exists_cons
  simp only [nextPart?, span_digits hb.digits hr]

theorem of_nextPart? (h : nextPart? cs = some (b, rest)) :
    cs = '.' :: (b ++ rest) ∧ IsDigitRun b ∧ EndsDigits rest := by
  unfold nextPart? at h
  split at h
  · split at h
    · cases h
    · rename_i after ds rest' hne hspan
      cases h
      obtain ⟨rfl, hdigits, hends⟩ := of_span_digits hspan
      refine ⟨rfl, ⟨?_, hdigits⟩, hends⟩
      rintro rfl
      exact hne rfl
  · cases h

theorem nextPart?_eq_none (h : EndsParts cs) : nextPart? cs = none := by
  rcases hnext : nextPart? cs with _ | ⟨b, rest⟩
  · rfl
  · obtain ⟨rfl, hb, -⟩ := of_nextPart? hnext
    obtain ⟨d, tail, rfl, hd⟩ := hb.exists_cons
    have hno := h d (tail ++ rest) rfl
    simp [hd] at hno

theorem endsParts_of_nextPart? (h : nextPart? cs = none) : EndsParts cs := by
  rintro d tail rfl
  by_contra hd
  have hdigit : isDigit d = true := by simpa using hd
  simp [nextPart?, List.span_eq_takeWhile_dropWhile, hdigit] at h

theorem leadingParts_run (ha : IsDigitRun a) (hr : EndsDigits rest) :
    leadingParts (a ++ rest) =
      match nextPart? rest with
      | none => [a]
      | some (b, rest) =>
        match nextPart? rest with
        | none => [a, b]
        | some (c, _) => [a, b, c] := by
  obtain ⟨d, tail, rfl, -⟩ := ha.exists_cons
  simp only [leadingParts, span_digits ha.digits hr]

theorem endsDigits_point : EndsDigits ('.' :: rest) := endsDigits_cons (by decide)

theorem digitRuns_append (hl : IsLead lead) (ha : IsDigitRun a) :
    digitRuns (lead ++ (a ++ rest)) = leadingParts (a ++ rest) := by
  obtain ⟨d, tail, rfl, hd⟩ := ha.exists_cons
  rw [digitRuns_eq, List.cons_append, afterLead_append hl hd]

theorem HasParts.digitRuns_eq (h : HasParts cs runs) : digitRuns cs = runs := by
  cases h with
  | major hl ha hs hp =>
    rw [digitRuns_append hl ha, leadingParts_run ha hs, nextPart?_eq_none hp]
  | minor hl ha hb hs hp =>
    rw [digitRuns_append hl ha, leadingParts_run ha endsDigits_point, nextPart?_point hb hs]
    simp only [nextPart?_eq_none hp]
  | patch hl ha hb hc hs =>
    rw [digitRuns_append hl ha, leadingParts_run ha endsDigits_point,
      nextPart?_point hb endsDigits_point]
    simp only [nextPart?_point hc hs]

/-- A text begins like a version, and then has parts, or there is nothing to read in it. -/
theorem digitRuns_cases (cs : List Char) :
    Begins cs ∧ HasParts cs (digitRuns cs) ∨ ¬ Begins cs ∧ digitRuns cs = [] := by
  obtain ⟨lead, hl, hcs⟩ := exists_lead cs
  rcases hspan : (afterLead cs).span isDigit with ⟨a, rest⟩
  obtain ⟨hafter, hdigits, hends⟩ := of_span_digits hspan
  by_cases ha : a = []
  · subst ha
    refine Or.inr ⟨?_, ?_⟩
    · rintro ⟨lead', d, rest', hl', hd, rfl⟩
      rw [afterLead_append hl' hd] at hafter
      have hno := hends d (by rw [← List.nil_append rest, ← hafter]; rfl)
      simp [hd] at hno
    · rw [digitRuns_eq, leadingParts, hspan]
  · have hrun : IsDigitRun a := ⟨ha, hdigits⟩
    rw [hafter] at hcs
    refine Or.inl ⟨?_, ?_⟩
    · obtain ⟨d, tail, rfl, hd⟩ := hrun.exists_cons
      exact ⟨lead, d, tail ++ rest, hl, hd, hcs⟩
    · rw [hcs, digitRuns_append hl hrun, leadingParts_run hrun hends]
      rcases hminor : nextPart? rest with _ | ⟨b, rest'⟩
      · exact .major hl hrun hends (endsParts_of_nextPart? hminor)
      · obtain ⟨rfl, hb, hends'⟩ := of_nextPart? hminor
        rcases hpatch : nextPart? rest' with _ | ⟨c, suffix⟩
        · simp only [hpatch]
          exact .minor hl hrun hb hends' (endsParts_of_nextPart? hpatch)
        · obtain ⟨rfl, hc, hs⟩ := of_nextPart? hpatch
          simp only [hpatch]
          exact .patch hl hrun hb hc hs

end Parts

section Reading

variable {s t : String} {v w : Version} {cs : List Char} {runs : List (List Char)}

theorem HasParts.isDigitRun (h : HasParts cs runs) : ∀ ds ∈ runs, IsDigitRun ds := by
  cases h with
  | major _ ha => simpa using ha
  | minor _ ha hb => simpa using ⟨ha, hb⟩
  | patch _ ha hb hc => simpa using ⟨ha, hb, hc⟩

theorem read_of_hasParts (h : HasParts s.toList runs) :
    read s = runs.mapM readInteger >>= fun parts => .ok (ofParts parts) := by
  have hruns := h.digitRuns_eq
  unfold read
  rw [hruns]
  generalize s.toList = cs at h
  cases h <;> simp only [List.mapM_cons, List.mapM_nil, bind_assoc, pure_bind] <;> rfl

/-- Numbers are read from runs of digits that denote them, and from no others. -/
theorem mapM_readInteger {parts : List Int} (h : ∀ ds ∈ runs, IsDigitRun ds) :
    runs.mapM readInteger = .ok parts ↔
      ∃ ns : List Nat, List.Forall₂ Denotes runs ns ∧ parts = ns.map Nat.cast := by
  induction runs generalizing parts with
  | nil =>
    constructor
    · intro hread
      cases hread
      exact ⟨[], .nil, rfl⟩
    · rintro ⟨ns, - | -, rfl⟩
      rfl
  | cons ds runs ih =>
    rw [List.mapM_cons]
    constructor
    · intro hread
      obtain ⟨i, hi, hread⟩ := bind_eq_ok hread
      obtain ⟨more, hmore, hread⟩ := bind_eq_ok hread
      obtain ⟨n, hn, rfl⟩ := denotes_of_readInteger (h ds (by simp)) hi
      obtain ⟨ns, hns, rfl⟩ := (ih fun es hes => h es (by simp [hes])).mp hmore
      cases hread
      exact ⟨n :: ns, .cons hn hns, rfl⟩
    · rintro ⟨ns, - | ⟨hn, hns⟩, rfl⟩
      rw [hn.readInteger_eq, (ih fun es hes => h es (by simp [hes])).mpr ⟨_, hns, rfl⟩]
      rfl

theorem read_iff : read s = .ok v ↔ Spells s.toList v := by
  constructor
  · intro h
    rcases digitRuns_cases s.toList with ⟨-, hparts⟩ | ⟨-, hnone⟩
    · rw [read_of_hasParts hparts] at h
      obtain ⟨parts, hread, h⟩ := bind_eq_ok h
      obtain ⟨ns, hns, rfl⟩ := (mapM_readInteger hparts.isDigitRun).mp hread
      cases h
      exact ⟨_, ns, hparts, hns, rfl⟩
    · unfold read at h
      rw [hnone] at h
      cases h
  · rintro ⟨runs, ns, hparts, hns, rfl⟩
    rw [read_of_hasParts hparts, (mapM_readInteger hparts.isDigitRun).mpr ⟨ns, hns, rfl⟩]
    rfl

/-- Reading fails for want of a version exactly where a text does not begin like one. A number that
is too long is another failure. -/
theorem read_refused_iff : (∃ e, read s = .error e ∧ e.kind = .configuration) ↔
    ¬ Begins s.toList := by
  rcases digitRuns_cases s.toList with ⟨hbegins, hparts⟩ | ⟨hno, hnone⟩
  · constructor
    · rintro ⟨e, h, hkind⟩
      rw [read_of_hasParts hparts] at h
      rcases bind_eq_error h with hlong | ⟨parts, -, h⟩
      · obtain ⟨ds, -, hfails⟩ := mapM_eq_error hlong
        obtain ⟨digits, rfl⟩ := readInteger_error hfails
        cases hkind
      · cases h
    · intro h
      exact absurd hbegins h
  · constructor
    · intro _
      exact hno
    · intro _
      exact ⟨.versionUnreadable s, by simp [read, hnone], rfl⟩

end Reading

/-- Natural numbers of at most 4300 digits as parts. -/
def IsPlain (v : Version) : Prop := ∀ i ∈ v.parts, 0 ≤ i ∧ (intText i).length ≤ 4300

instance (v : Version) : Decidable v.IsPlain :=
  inferInstanceAs (Decidable (∀ i ∈ v.parts, _ ∧ _))

theorem denotes_intText {i : Int} (hi : 0 ≤ i) (h : (intText i).length ≤ 4300) :
    Denotes (intText i).toList i.toNat := by
  obtain ⟨n, rfl⟩ := Int.eq_ofNat_of_zero_le hi
  exact denotes_natText h

/-- The notation of a version spells it, whatever its lead and its suffix are. -/
theorem spells_text {v : Version} {lead suffix : List Char} (hv : v.IsPlain) (hl : IsLead lead)
    (hs : EndsDigits suffix) : Spells (lead ++ (v.text.toList ++ suffix)) v := by
  have hdenotes : ∀ i ∈ v.parts, Denotes (intText i).toList i.toNat := by
    intro i hi
    exact denotes_intText (hv i hi).1 (hv i hi).2
  have hmajor := hdenotes v.major (by simp [parts])
  have hminor := hdenotes v.minor (by simp [parts])
  have hpatch := hdenotes v.patch (by simp [parts])
  have htext : v.text.toList ++ suffix = (intText v.major).toList ++ '.' ::
      ((intText v.minor).toList ++ '.' :: ((intText v.patch).toList ++ suffix)) := by
    simp [text]
  refine ⟨_, [v.major.toNat, v.minor.toNat, v.patch.toNat], ?_,
    .cons hmajor (.cons hminor (.cons hpatch .nil)), ?_⟩
  · rw [htext]
    exact .patch hl hmajor.run hminor.run hpatch.run hs
  · have hnonneg : ∀ i ∈ v.parts, (i.toNat : Int) = i := by
      intro i hi
      exact Int.toNat_of_nonneg (hv i hi).1
    simp [parts] at hnonneg
    simp [ofParts, hnonneg]

/-- A text is read as what it spells, and refused exactly if it does not begin like a version. The
notation of a version is read back with any lead and suffix, and texts compare as the versions that
they spell, part by part. -/
theorem texts_read_and_compared :
    (∀ (s : String) (v : Version), ofValue (.text s) = .ok v ↔ Spells s.toList v) ∧
    (∀ s : String, (∃ e, ofValue (.text s) = .error e ∧ e.kind = .configuration) ↔
      ¬ Begins s.toList) ∧
    (∀ (v : Version) (lead suffix : String), v.IsPlain → IsLead lead.toList →
      EndsDigits suffix.toList → ofValue (.text (lead ++ (v.text ++ suffix))) = .ok v) ∧
    (∀ (s t : String) (v w : Version), Spells s.toList v → Spells t.toList w →
      isAtOrAfter (.text s) (.text t) = .ok (decide (w.key ≤ v.key))) ∧
    ∀ (s : String) (v : Version), Spells s.toList v →
      isAtOrAfter (.text s) (.version keepContainersSince) = .ok v.keepsContainers ∧
        (v.keepsContainers = true ↔ (⟨2, 4, 0⟩ : Version).key ≤ v.key) := by
  have hread : ∀ (s : String) (v : Version), ofValue (.text s) = .ok v ↔ Spells s.toList v := by
    intro s v
    exact read_iff
  have hcompare : ∀ v w : Version, v.atLeast w = decide (w.key ≤ v.key) := by
    intro v w
    rw [Bool.eq_iff_iff, atLeast_iff, decide_eq_true_iff]
  refine ⟨hread, ?_, ?_, ?_, ?_⟩
  · intro s
    exact read_refused_iff
  · intro v lead suffix hv hl hs
    rw [hread, String.toList_append, String.toList_append]
    exact spells_text hv hl hs
  · intro s t v w hv hw
    unfold isAtOrAfter
    rw [(hread s v).mpr hv, (hread t w).mpr hw, ← hcompare]
    rfl
  · intro s v hv
    constructor
    · unfold isAtOrAfter
      rw [(hread s v).mpr hv]
      rfl
    · exact atLeast_iff

/-- A vendor's version with a `v` before it is later than one whose second part has more digits. -/
theorem texts_read_and_compared_vendor :
    ofValue (.text "\t v3.1.1.7.1.7.0-551") = .ok ⟨3, 1, 1⟩ ∧
      isAtOrAfter (.text "\t v3.1.1.7.1.7.0-551") (.text "2.10.0rc1") = .ok true := by
  obtain ⟨hread, -, hplain, hcompare, -⟩ := texts_read_and_compared
  have hvendor := hplain ⟨3, 1, 1⟩ "\t v" ".7.1.7.0-551" (by decide)
    ⟨"\t ".toList, List.all_eq_true.mp (by decide), Or.inr rfl⟩ (endsDigits_cons (by decide))
  have hminimum := hplain ⟨2, 10, 0⟩ "" "rc1" (by decide) ⟨[], nofun, Or.inl rfl⟩
    (endsDigits_cons (by decide))
  have hlater := hcompare _ _ _ _ ((hread _ _).mp hvendor) ((hread _ _).mp hminimum)
  exact ⟨hvendor, hlater⟩

end ClusterSubmission.Version
