import ClusterSubmission.Proofs.DigitRuns
import ClusterSubmission.Proofs.SettingsLayers

/-!
# Application ids

An application id is a leading word and two numbers with underscores between them. Handles and
answers of the resource manager take such texts, and the same ones with a line break behind them,
and nothing else. The two numbers are those that the runs of digits denote.
-/
namespace ClusterSubmission.ApplicationId

open Text Message Settings

variable {cs ds es : List Char} {s : String}

/-- A text that is an application id with given runs of digits. -/
structure Names (cs ds es : List Char) : Prop where
  start : IsDigitRun ds
  sequence : IsDigitRun es
  text : cs = leading ++ (ds ++ '_' :: es)

/-- An application id, or one with a line break behind it. -/
def Accepts (cs ds es : List Char) : Prop :=
  Names cs ds es ∨ ∃ id, Names id ds es ∧ cs = id ++ ['\n']

theorem accepts_iff : Accepts cs ds es ↔ IsDigitRun ds ∧ IsDigitRun es ∧
    ∃ tail, (tail = [] ∨ tail = ['\n']) ∧ cs = leading ++ (ds ++ '_' :: (es ++ tail)) := by
  constructor
  · rintro (⟨hd, he, rfl⟩ | ⟨id, ⟨hd, he, rfl⟩, rfl⟩)
    · exact ⟨hd, he, [], by simp⟩
    · exact ⟨hd, he, ['\n'], by simp⟩
  · rintro ⟨hd, he, tail, rfl | rfl, rfl⟩
    · exact Or.inl ⟨hd, he, by simp⟩
    · exact Or.inr ⟨_, ⟨hd, he, rfl⟩, by simp⟩

/-- The runs of digits are found exactly in what is an application id, but for a line break. -/
theorem split?_iff : split? cs = some (ds, es) ↔ Accepts cs ds es := by
  rw [accepts_iff]
  constructor
  · intro h
    unfold split? at h
    split at h
    · rename_i hleading
      obtain ⟨rest, rfl⟩ := List.isPrefixOf_iff_prefix.mp hleading
      rw [List.drop_left] at h
      split at h
      · rename_i start rest' hstart
        obtain ⟨rfl, hdigits, -⟩ := of_span_digits hstart
        split at h
        rename_i sequence tail hsequence
        obtain ⟨rfl, hdigits', -⟩ := of_span_digits hsequence
        split at h
        · rename_i hcond
          simp only [Bool.and_eq_true, bne_iff_ne, Bool.or_eq_true, beq_iff_eq] at hcond
          obtain ⟨⟨hd, he⟩, htail⟩ := hcond
          cases h
          exact ⟨⟨hd, hdigits⟩, ⟨he, hdigits'⟩, tail, htail, rfl⟩
        · cases h
      · cases h
    · cases h
  · rintro ⟨hd, he, tail, htail, rfl⟩
    have hleading : leading.isPrefixOf (leading ++ (ds ++ '_' :: (es ++ tail))) = true :=
      List.isPrefixOf_iff_prefix.mpr (List.prefix_append _ _)
    have hends : EndsDigits tail := by
      rcases htail with rfl | rfl
      · exact endsDigits_nil
      · exact endsDigits_cons (by decide)
    unfold split?
    rw [if_pos hleading, List.drop_left, span_digits hd.digits (endsDigits_cons (by decide))]
    simp only [span_digits he.digits hends]
    rw [if_pos]
    simpa [hd.nonempty, he.nonempty] using htail

theorem isValid_iff : isValid s = true ↔ ∃ ds es, Accepts s.toList ds es := by
  unfold isValid
  rw [Option.isSome_iff_exists, Prod.exists]
  simp only [split?_iff]

section Numbers

variable {i j : Nat}

theorem clusterTimestamp_eq (h : Accepts s.toList ds es) (hd : Denotes ds i) :
    clusterTimestamp (.text s) = .ok i := by
  unfold clusterTimestamp digits
  simp only [split?_iff.mpr h]
  exact hd.readInteger_eq

theorem sequence_eq (h : Accepts s.toList ds es) (he : Denotes es j) :
    sequence (.text s) = .ok j := by
  unfold sequence digits
  simp only [split?_iff.mpr h]
  exact he.readInteger_eq

end Numbers

section Grant

variable {capability : Value} {p : Part}

/-- The answer that grants an id and containers up to some capability. -/
def grantOfId (s : String) (capability : Value) : Value :=
  .mapping [(.text "application-id", .text s), (.text "maximum-resource-capability", capability)]

/-- A capability that can be read, at its place in a grant. -/
def IsCapability (capability : Value) (p : Part) : Prop :=
  read .lenient [.field "maximum-resource-capability"] (.record .capability)
    (documentOf capability) = .ok p

/-- A grant is read by reading its id. -/
theorem readValue_grantOfId (hp : IsCapability capability p) :
    readValue .lenient .newApplication (grantOfId s capability) =
      (ruledText [.field "application-id"] .applicationId s >>= fun q =>
        .ok (.record .newApplication [some q, some p])) := by
  have hid : Model.newApplication.field? "application-id" =
      some (0, dashedField "application_id" (.text .applicationId)) := rfl
  have hcapability : Model.newApplication.field? "maximum-resource-capability" =
      some (1, dashedField "maximum_resource_capability" (.record .capability)) := rfl
  have htext : read .lenient [.field "application-id"] (.text .applicationId)
      (documentOf (.text s)) = ruledText [.field "application-id"] .applicationId s := rfl
  have hread : readEntries .lenient [] .newApplication
      (entryDocuments [(.text "application-id", .text s),
        (.text "maximum-resource-capability", capability)]) [none, none] =
      (ruledText [.field "application-id"] .applicationId s >>= fun q => .ok [some q, some p]) := by
    rw [readEntries_entry hid]
    refine congrArg₂ _ htext (funext fun q => ?_)
    rw [readEntries_entry hcapability]
    refine (congrArg (· >>= _) hp).trans ?_
    rfl
  change (readEntries .lenient [] .newApplication (entryDocuments _) [none, none] >>= fun slots =>
    finishRecord [] .newApplication slots) = _
  rw [hread]
  rcases ruledText [.field "application-id"] .applicationId s with e | q <;> rfl

/-- A grant is taken exactly if its id is one, and then the handle is that very text. -/
theorem decode_grantOfId (hp : IsCapability capability p) :
    (∃ q, decode .newApplication (grantOfId s capability) = .ok q ∧
      (grantOf q).1 = .handle (.text s)) ↔ isValid s = true := by
  have hread : readValue .lenient .newApplication (grantOfId s capability) = _ :=
    readValue_grantOfId hp
  constructor
  · rintro ⟨q, hq, -⟩
    rw [decode_ok, hread] at hq
    by_contra hs
    simp [ruledText, hs] at hq
    cases hq
  · intro hs
    refine ⟨.record .newApplication [some (.leaf (.text s)), some p], ?_, rfl⟩
    rw [decode_ok, hread, ruledText, if_pos hs]
    rfl

end Grant

theorem parse_of_isValid (h : isValid s = true) : parse (.text s) = .ok s := if_pos h

theorem parse_of_not_isValid (h : isValid s = false) :
    parse (.text s) = .error (.applicationIdInvalid s) := by
  simp [parse, h]

/-- A text is taken for an application id exactly if it is one, but for a line break behind it, and
is refused as a wrong value otherwise. Grants take the same texts. The handle has the text as it
stands, and its numbers are those of the two runs. -/
theorem ids_recognised (s : String) :
    ((∃ id, parse (.text s) = .ok id) ↔ ∃ ds es, Accepts s.toList ds es) ∧
    ((∃ e, parse (.text s) = .error e ∧ e.kind = .value) ↔ ∀ ds es, ¬ Accepts s.toList ds es) ∧
    (∀ capability p, IsCapability capability p →
      ((∃ q, decode .newApplication (grantOfId s capability) = .ok q ∧
        (grantOf q).1 = .handle (.text s)) ↔ ∃ ds es, Accepts s.toList ds es)) ∧
    ∀ (ds es : List Char) (i j : Nat), Accepts s.toList ds es → Denotes ds i → Denotes es j →
      parse (.text s) = .ok s ∧ (Value.handle (.text s)).handleText = .ok s ∧
        clusterTimestamp (.text s) = .ok i ∧ sequence (.text s) = .ok j := by
  have hnone : (∀ ds es, ¬ Accepts s.toList ds es) ↔ isValid s = false := by
    rw [← Bool.not_eq_true, isValid_iff]
    simp only [not_exists]
  refine ⟨?_, ?_, ?_, ?_⟩
  · rw [← isValid_iff]
    constructor
    · rintro ⟨id, hid⟩
      by_contra hs
      rw [parse_of_not_isValid (by simpa using hs)] at hid
      cases hid
    · intro hs
      exact ⟨s, parse_of_isValid hs⟩
  · rw [hnone]
    constructor
    · rintro ⟨e, he, -⟩
      by_contra hs
      rw [parse_of_isValid (by simpa using hs)] at he
      cases he
    · intro hs
      exact ⟨_, parse_of_not_isValid hs, rfl⟩
  · intro capability p hp
    rw [← isValid_iff]
    exact decode_grantOfId hp
  · intro ds es i j h hd he
    exact ⟨parse_of_isValid (isValid_iff.mpr ⟨ds, es, h⟩), rfl, clusterTimestamp_eq h hd,
      sequence_eq h he⟩

/-- Leading zeros and digits of other scripts count. -/
theorem ids_recognised_scripts : parse (.text "application_1700000000000_00٤٢") =
    .ok "application_1700000000000_00٤٢" ∧
      sequence (.text "application_1700000000000_00٤٢") = .ok 42 := by
  obtain ⟨-, -, -, hnumbers⟩ := ids_recognised "application_1700000000000_00٤٢"
  have hstart : Denotes "1700000000000".toList 1700000000000 :=
    ⟨⟨by decide, List.all_eq_true.mp (by decide)⟩, by decide, by decide⟩
  have hsequence : Denotes "00٤٢".toList 42 :=
    ⟨⟨by decide, List.all_eq_true.mp (by decide)⟩, by decide, by decide⟩
  obtain ⟨hparse, -, -, hnumber⟩ := hnumbers _ _ _ _ (Or.inl ⟨hstart.run, hsequence.run, by decide⟩)
    hstart hsequence
  exact ⟨hparse, hnumber⟩

/-- What is taken need not be an application id: there may be a line break behind it. -/
theorem line_break_let_through : (∀ ds es, ¬ Names "application_1_2\n".toList ds es) ∧
    parse (.text "application_1_2\n") = .ok "application_1_2\n" := by
  constructor
  · rintro ds es ⟨hd, he, htext⟩
    have hmem : '\n' ∈ leading ++ (ds ++ '_' :: es) := by
      rw [← htext]
      decide
    have hleading : '\n' ∉ leading := by decide
    simp only [List.mem_append, List.mem_cons, hleading, false_or] at hmem
    rcases hmem with hmem | hmem | hmem
    · exact absurd (hd.digits _ hmem) (by decide)
    · exact absurd hmem (by decide)
    · exact absurd (he.digits _ hmem) (by decide)
  · exact parse_of_isValid (by decide)

end ClusterSubmission.ApplicationId
