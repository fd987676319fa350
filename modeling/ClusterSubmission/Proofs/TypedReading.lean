import ClusterSubmission.Proofs.SettingsRoundTrip

/-!
# The types of what is read

What a lenient reader takes for a shape that is neither a record nor a list has the type that the
shape stands for, in whatever form it was given. A value is a document without broken places, so
reading it can only find that something does not fit.
-/
namespace ClusterSubmission.Message

section Types

variable {way : List PlaceStep} {shape : Shape} {d : Document} {p : Part} {s : String}

theorem ruledText_admits {rule : TextRule} (h : ruledText way rule s = .ok p) :
    (Shape.text rule).Admits p.value := by
  unfold ruledText at h
  split at h
  · cases h
    exact .anyText s
  · split at h <;> cases h
    rename_i hempty
    exact .nonEmptyText (by simpa using hempty)
  · split at h <;> cases h
    rename_i hvalid
    exact .applicationId hvalid

theorem chosenText_ok {names : List String} (h : chosenText way names s = .ok p) :
    s ∈ names ∧ p = .leaf (.text s) := by
  unfold chosenText at h
  split at h <;> cases h
  rename_i hmem
  exact ⟨List.contains_iff_mem.mp hmem, rfl⟩

theorem readText?_admits (h : readText? .lenient way shape s = some (.ok p)) :
    shape.Admits p.value := by
  unfold readText? at h
  split at h
  · exact ruledText_admits (Option.some.inj h)
  · cases h
    exact .optionalText s
  · cases h
    exact .textOfBoolean s
  · cases h
    exact .textOfRecord _ s
  · obtain ⟨hmem, rfl⟩ := chosenText_ok (Option.some.inj h)
    exact .choice hmem
  · split at h
    · cases h
      exact .noChoice _
    · rename_i hnull
      obtain ⟨hmem, rfl⟩ := chosenText_ok (Option.some.inj h)
      exact .optionalChoice hmem (by simpa using hnull)
  · cases h

theorem readBoolean_ok (h : readBoolean .lenient way shape d = .ok p) :
    ∃ b, p = .leaf (.bool b) := by
  unfold readBoolean at h
  split at h
  · cases h
    exact ⟨_, rfl⟩
  · split at h <;> cases h
    exact ⟨_, rfl⟩
  · split at h <;> cases h
    exact ⟨_, rfl⟩
  · cases h

theorem readScalar_admits (h : readScalar .lenient way shape d = .ok p) :
    shape.Admits p.value := by
  have hinteger : ∀ {least d}, readInteger .lenient way (.integer least) least d = .ok p →
      (Shape.integer least).Admits p.value := by
    intro least d h
    obtain ⟨n, rfl, hn⟩ := readInteger_ok h
    exact .integer hn
  have hoptional : ∀ {d}, readInteger .lenient way .optionalInteger none d = .ok p →
      Shape.optionalInteger.Admits p.value := by
    intro d h
    obtain ⟨n, rfl, -⟩ := readInteger_ok h
    exact .optionalInteger n
  unfold readScalar at h
  split at h
  · cases h
  · cases h
  · cases h
  · split at h <;> cases h
  · split at h
    · rename_i r hread
      exact readText?_admits (hread.trans (congrArg some h))
    · split at h
      · exact hinteger h
      · split at h
        · cases h
          exact .noInteger
        · exact hoptional h
      · obtain ⟨b, rfl⟩ := readBoolean_ok h
        exact .boolean b
      · cases h
  · split at h <;> cases h
    · exact .noText
    · exact .noInteger
    · exact .noChoice _
    · exact .noRecord _
  · split at h
    · exact hinteger h
    · exact hoptional h
    · obtain ⟨b, rfl⟩ := readBoolean_ok h
      exact .boolean b
    · obtain ⟨b, rfl⟩ := readBoolean_ok h
      exact .booleanOfText b
    · cases h

/-- A mapping from text to text that was read has every key once. -/
theorem readTextEntries_ok {es : List (DocumentKey × Document)} {done : List (String × String)}
    {vs : List (Value × Value)} (hdone : (done.map Prod.fst).Nodup)
    (h : readTextEntries .lenient way es (rawEntries .text done) = .ok vs) :
    ∃ ts : List (String × String), (ts.map Prod.fst).Nodup ∧ vs = rawEntries .text ts := by
  induction es generalizing done with
  | nil =>
    cases h
    exact ⟨done, hdone, rfl⟩
  | cons e es ih =>
    obtain ⟨key, d⟩ := e
    match key with
    | .other got => cases h
    | .name none => cases h
    | .name (some key) =>
      rw [readTextEntries] at h
      obtain ⟨p, hp, h⟩ := bind_eq_ok h
      obtain ⟨s, rfl⟩ := read_text hp
      rw [Part.value, insert_rawEntries] at h
      exact ih (nodup_putEntry hdone) h

/-- What is read of a document for a shape that is neither a record nor a list is of its type. -/
theorem read_takes (hrecord : shape.recordModel? = none) (hlist : ∀ item, shape ≠ .list item)
    (h : read .lenient way shape d = .ok p) : shape.Takes p.value := by
  cases d with
  | array items closed =>
    unfold read at h
    split at h
    · exact absurd rfl (hlist _)
    · cases h
  | object entries closed =>
    unfold read at h
    rw [hrecord] at h
    dsimp only at h
    split at h
    · obtain ⟨vs, hvs, h⟩ := bind_eq_ok h
      have hempty : (([] : List (String × String)).map Prod.fst).Nodup := List.nodup_nil
      obtain ⟨ts, hts, rfl⟩ := readTextEntries_ok hempty hvs
      cases closed <;> cases h
      exact Or.inr ⟨ts, rfl, hts, rfl⟩
    · cases h
  | _ =>
    unfold read at h
    exact Or.inl (readScalar_admits h)

end Types

section Whole

variable {mode : Strictness} {way : List PlaceStep} {shape : Shape} {d : Document} {e : Reason}

theorem ne_malformed_of_mismatch (h : ∃ m, e = .mismatch m) : e ≠ .malformedDocument := by
  obtain ⟨m, rfl⟩ := h
  exact nofun

theorem readScalar_ne_malformed (hwhole : isWhole d = true) :
    readScalar mode way shape d ≠ .error .malformedDocument := by
  intro h
  unfold readScalar at h
  split at h
  · cases hwhole
  · cases h
  · cases h
  · split at h <;> cases h
  · split at h
    · rename_i r hread
      exact ne_malformed_of_mismatch (readText?_error (hread.trans (congrArg some h))) rfl
    · split at h
      · exact ne_malformed_of_mismatch (readInteger_error h) rfl
      · split at h
        · cases h
        · exact ne_malformed_of_mismatch (readInteger_error h) rfl
      · exact ne_malformed_of_mismatch (readBoolean_error h) rfl
      · cases h
  · split at h <;> cases h
  · split at h
    · exact ne_malformed_of_mismatch (readInteger_error h) rfl
    · exact ne_malformed_of_mismatch (readInteger_error h) rfl
    · exact ne_malformed_of_mismatch (readBoolean_error h) rfl
    · exact ne_malformed_of_mismatch (readBoolean_error h) rfl
    · cases h

-- One theorem for each of the readers, which call each other on the parts of a document.
mutual
/-- Nothing is malformed about a document without broken places. -/
theorem read_ne_malformed : ∀ (mode : Strictness) (way : List PlaceStep) (shape : Shape)
    (d : Document), isWhole d = true → read mode way shape d ≠ .error .malformedDocument
  | mode, way, shape, .array items closed, hwhole, h => by
    obtain ⟨hitems, rfl⟩ := Bool.and_eq_true_iff.mp hwhole
    unfold read at h
    split at h
    · rename_i item
      rcases bind_eq_error h with h | ⟨ps, -, h⟩
      · exact readItems_ne_malformed mode way item 0 items hitems h
      · cases h
    · cases h
  | mode, way, shape, .object entries closed, hwhole, h => by
    obtain ⟨hentries, rfl⟩ := Bool.and_eq_true_iff.mp hwhole
    unfold read at h
    split at h
    · rename_i m hm
      rcases bind_eq_error h with h | ⟨slots, -, h⟩
      · exact readEntries_ne_malformed mode way m entries _ hentries h
      · exact ne_malformed_of_mismatch (finishRecord_error h) rfl
    · split at h
      · rcases bind_eq_error h with h | ⟨es, -, h⟩
        · exact readTextEntries_ne_malformed mode way entries [] hentries h
        · cases h
      · cases h
  | mode, way, shape, .null, hwhole, h | mode, way, shape, .bool _, hwhole, h
  | mode, way, shape, .int _, hwhole, h | mode, way, shape, .hugeInt, hwhole, h
  | mode, way, shape, .float _, hwhole, h | mode, way, shape, .hugeFloat, hwhole, h
  | mode, way, shape, .text _, hwhole, h | mode, way, shape, .other _, hwhole, h
  | mode, way, shape, .broken, hwhole, h => by
    unfold read at h
    exact readScalar_ne_malformed hwhole h

theorem readItems_ne_malformed : ∀ (mode : Strictness) (way : List PlaceStep) (item : Shape)
    (index : Nat) (ds : List Document), areWhole ds = true →
    readItems mode way item index ds ≠ .error .malformedDocument
  | _, _, _, _, [], _, h => by cases h
  | mode, way, item, index, d :: ds, hwhole, h => by
    obtain ⟨hd, hds⟩ := Bool.and_eq_true_iff.mp hwhole
    unfold readItems at h
    rcases bind_eq_error h with h | ⟨p, -, h⟩
    · exact read_ne_malformed mode _ item d hd h
    · rcases bind_eq_error h with h | ⟨ps, -, h⟩
      · exact readItems_ne_malformed mode way item _ ds hds h
      · cases h

theorem readEntries_ne_malformed : ∀ (mode : Strictness) (way : List PlaceStep) (m : Model)
    (es : List (DocumentKey × Document)) (slots : List (Option Part)), entriesWhole es = true →
    readEntries mode way m es slots ≠ .error .malformedDocument
  | _, _, _, [], _, _, h => by cases h
  | _, _, _, (.other _, _) :: _, _, _, h => by cases h
  | mode, way, m, (.name key, d) :: rest, slots, hwhole, h => by
    obtain ⟨hd, hrest⟩ := Bool.and_eq_true_iff.mp hwhole
    unfold readEntries at h
    split at h
    · rename_i index f hfield
      rcases bind_eq_error h with h | ⟨p, -, h⟩
      · exact read_ne_malformed mode _ f.shape d hd h
      · exact readEntries_ne_malformed mode way m rest _ hrest h
    · rw [if_pos hd] at h
      exact readEntries_ne_malformed mode way m rest _ hrest h

theorem readTextEntries_ne_malformed : ∀ (mode : Strictness) (way : List PlaceStep)
    (es : List (DocumentKey × Document)) (done : List (Value × Value)), entriesWhole es = true →
    readTextEntries mode way es done ≠ .error .malformedDocument
  | _, _, [], _, _, h => by cases h
  | _, _, (.other _, _) :: _, _, _, h => by cases h
  | _, _, (.name none, _) :: _, _, _, h => by cases h
  | mode, way, (.name (some key), d) :: rest, done, hwhole, h => by
    obtain ⟨hd, hrest⟩ := Bool.and_eq_true_iff.mp hwhole
    unfold readTextEntries at h
    rcases bind_eq_error h with h | ⟨p, -, h⟩
    · exact read_ne_malformed mode _ _ d hd h
    · exact readTextEntries_ne_malformed mode way rest _ hrest h
end

/-- A mapping that is no message has something in it that does not fit. -/
theorem mismatch_of_readValue {m : Model} {es : List (Value × Value)}
    (h : readValue .lenient m (.mapping es) = .error e) : ∃ x, e = .mismatch x := by
  rcases readValue_mapping_error h with hx | rfl
  · exact hx
  · exact absurd h (read_ne_malformed _ _ _ _ (Settings.isWhole_documentOf (.mapping es)))

end Whole
end ClusterSubmission.Message
