import ClusterSubmission.Proofs.Configuration
import ClusterSubmission.Proofs.Utf8
import ClusterSubmission.Yaml.Content

/-!
# Entries that are stored

An entry that is stored under a text is the one that is found under it, and the others are found as
before. A mapping that was put together by storing has each text at most once among its keys.
-/
namespace ClusterSubmission

theorem Value.text_beq_self (s : String) : (Value.text s == Value.text s) = true := by
  rw [Value.text_beq]
  exact beq_self_eq_true s

section Lookup

variable {es more : List (Value × Value)} {key v : Value} {k j : String}

theorem Value.beq_text_iff : (v == Value.text k) = true ↔ v = .text k := by
  constructor
  · intro h
    cases v with
    | text s =>
      rw [Value.text_beq] at h
      rw [eq_of_beq h]
    | _ => cases h
  · rintro rfl
    exact Value.text_beq_self k

theorem lookup?_cons (k : Value) : Value.lookup? ((k, v) :: es) key =
    if (k == key) = true then some v else Value.lookup? es key := by
  unfold Value.lookup?
  rw [List.find?_cons]
  rcases k == key with _ | _ <;> rfl

theorem lookup?_append : Value.lookup? (es ++ more) key =
    (Value.lookup? es key).or (Value.lookup? more key) := by
  unfold Value.lookup?
  rw [List.find?_append]
  cases es.find? _ <;> rfl

theorem lookup?_eq_none_iff : Value.lookup? es (.text k) = none ↔ ∀ e ∈ es, e.1 ≠ .text k := by
  unfold Value.lookup?
  rw [Option.map_eq_none_iff, List.find?_eq_none]
  simp only [Value.beq_text_iff, ne_eq]

/-- A value that is stored in place of another one. -/
theorem lookup?_replace : Value.lookup? (es.map fun e => if e.1 == .text k then (e.1, v) else e)
    (.text j) = if j = k then (Value.lookup? es (.text k)).map fun _ => v
      else Value.lookup? es (.text j) := by
  induction es with
  | nil =>
    split <;> rfl
  | cons e es ih =>
    obtain ⟨a, b⟩ := e
    by_cases hak : (a == .text k) = true
    · obtain rfl := Value.beq_text_iff.mp hak
      rw [List.map_cons, if_pos hak, lookup?_cons, lookup?_cons, lookup?_cons, if_pos hak, ih]
      by_cases hj : j = k
      · rw [hj, if_pos hak, if_pos rfl]
        rfl
      · have hne : ¬ (Value.text k == .text j) = true := by
          rw [Value.text_beq, beq_iff_eq]
          exact Ne.symm hj
        rw [if_neg hne, if_neg hj, if_neg hj, if_neg hne]
    · rw [List.map_cons, if_neg hak, lookup?_cons, lookup?_cons, lookup?_cons, if_neg hak, ih]
      by_cases hj : j = k
      · rw [if_pos hj, if_pos hj, hj, if_neg hak]
      · rw [if_neg hj, if_neg hj]

theorem lookup?_insert : Value.lookup? (Value.insert es (.text k) v) (.text j) =
    if j = k then some v else Value.lookup? es (.text j) := by
  unfold Value.insert
  by_cases hk : es.any (fun e => e.1 == .text k) = true
  · rw [if_pos hk, lookup?_replace]
    obtain ⟨e, he, hek⟩ := List.any_eq_true.mp hk
    rcases hfound : Value.lookup? es (.text k) with _ | u
    · exact absurd (Value.beq_text_iff.mp hek) (lookup?_eq_none_iff.mp hfound e he)
    · rfl
  · have hnone : Value.lookup? es (.text k) = none :=
      lookup?_eq_none_iff.mpr fun e he hek =>
        hk (List.any_eq_true.mpr ⟨e, he, Value.beq_text_iff.mpr hek⟩)
    rw [if_neg hk, lookup?_append, lookup?_cons, Value.text_beq]
    by_cases hj : j = k
    · simp [hj, hnone]
    · simp [hj, Ne.symm hj, Value.lookup?]

/-- Where no text is stored twice, it is found where it was stored, else where it was before. -/
theorem lookup?_update_rawEntries {given : List (String × Value)}
    (hdistinct : (given.map Prod.fst).Nodup) :
    Value.lookup? (Value.update es (rawEntries (fun v => v) given)) (.text k) =
      (given.lookup k).or (Value.lookup? es (.text k)) := by
  induction given generalizing es with
  | nil => rfl
  | cons g given ih =>
    obtain ⟨a, b⟩ := g
    obtain ⟨hfresh, hrest⟩ := List.nodup_cons.mp hdistinct
    have hstep : Value.update es (rawEntries (fun v => v) ((a, b) :: given)) =
        Value.update (Value.insert es (.text a) b) (rawEntries (fun v => v) given) := rfl
    rw [hstep, ih hrest, lookup?_insert, List.lookup_cons]
    by_cases hk : k = a
    · have hnone : given.lookup k = none := by
        rw [List.lookup_eq_none_iff]
        intro e he
        have hne : a ≠ e.1 := fun h => hfresh (List.mem_map.mpr ⟨e, he, h.symm⟩)
        simpa [hk] using hne
      simp [hk, hk ▸ hnone]
    · have hne : (k == a) = false := beq_eq_false_iff_ne.mpr hk
      simp [hk, hne]

theorem lookup?_rawEntries (gs : List (String × Value)) (k : String) :
    Value.lookup? (rawEntries (fun v => v) gs) (.text k) = gs.lookup k := by
  induction gs with
  | nil => rfl
  | cons g gs ih =>
    have hstep : rawEntries (fun v => v) (g :: gs) =
        (.text g.1, g.2) :: rawEntries (fun v => v) gs :=
      rfl
    rw [hstep, lookup?_cons, Value.text_beq, ih, List.lookup_cons]
    by_cases hk : k = g.1
    · simp [hk]
    · have hne : (k == g.1) = false := beq_eq_false_iff_ne.mpr hk
      simp [hne, Ne.symm hk]

end Lookup

section Keyed

variable {α : Type} {name : α → String} {f : α → Option Value} {l : List α} {a : α}

/-- What some members of a list have, by their names. -/
def keyed (name : α → String) (f : α → Option Value) (l : List α) : List (String × Value) :=
  l.filterMap fun a => (f a).map (name a, ·)

theorem keyed_cons :
    keyed name f (a :: l) = ((f a).map (name a, ·)).toList ++ keyed name f l := by
  unfold keyed
  rw [List.filterMap_cons]
  rcases f a with _ | v <;> rfl

theorem keyed_sublist : ((keyed name f l).map Prod.fst).Sublist (l.map name) := by
  induction l with
  | nil => exact .slnil
  | cons a l ih =>
    rw [keyed_cons]
    rcases f a with _ | v
    · exact ih.cons (name a)
    · exact ih.cons_cons (name a)

/-- Under the name of a member stands what it has. -/
theorem lookup_keyed (hdistinct : (l.map name).Nodup) (ha : a ∈ l) :
    (keyed name f l).lookup (name a) = f a := by
  induction l with
  | nil => cases ha
  | cons b l ih =>
    obtain ⟨hfresh, hrest⟩ := List.nodup_cons.mp hdistinct
    rw [keyed_cons]
    rcases List.mem_cons.mp ha with rfl | ha
    · have hnone : (keyed name f l).lookup (name a) = none := by
        refine List.lookup_eq_none_iff.mpr fun e he => ?_
        have hne : name a ≠ e.1 := fun heq =>
          hfresh (heq ▸ keyed_sublist.subset (List.mem_map_of_mem he))
        simpa using hne
      rcases f a with _ | v
      · exact hnone
      · simp
    · have hne : (name a == name b) = false :=
        beq_eq_false_iff_ne.mpr fun heq => hfresh (heq ▸ List.mem_map_of_mem ha)
      rcases f b with _ | v
      · exact ih hrest ha
      · simp [List.lookup_cons, hne, ih hrest ha]

end Keyed

/-- Entries that have each text at most once among their keys. -/
def HasDistinctTexts (es : List (Value × Value)) : Prop :=
  es.Pairwise fun e e' => ∀ k, e.1 = .text k → e'.1 ≠ .text k

section Distinct

variable {es more : List (Value × Value)} {key v : Value}

/-- The text of the first entry is not found among the others. -/
theorem HasDistinctTexts.lookup?_rest {k : String}
    (h : HasDistinctTexts ((.text k, v) :: es)) : Value.lookup? es (.text k) = none :=
  lookup?_eq_none_iff.mpr fun e he => (List.pairwise_cons.mp h).1 e he k rfl

/-- What is found among the later entries is found among all of them. -/
theorem HasDistinctTexts.lookup?_of_rest {k : String} {u : Value}
    (h : HasDistinctTexts ((key, v) :: es)) (hu : Value.lookup? es (.text k) = some u) :
    Value.lookup? ((key, v) :: es) (.text k) = some u := by
  rw [lookup?_cons, if_neg, hu]
  intro heq
  obtain rfl := Value.beq_text_iff.mp heq
  rw [h.lookup?_rest] at hu
  cases hu

theorem hasDistinctTexts_rawEntries {gs : List (String × Value)} (h : (gs.map Prod.fst).Nodup) :
    HasDistinctTexts (rawEntries (fun v => v) gs) := by
  refine List.pairwise_map.mpr ((List.pairwise_map.mp h).imp ?_)
  intro g g' hne k hk hk'
  exact hne ((Value.text.inj hk).trans (Value.text.inj hk').symm)

theorem HasDistinctTexts.insert (h : HasDistinctTexts es) :
    HasDistinctTexts (Value.insert es key v) := by
  unfold Value.insert
  split
  · refine List.pairwise_map.mpr (h.imp fun {e e'} hne k hk => ?_)
    have hsame : ∀ x : Value × Value, (if x.1 == key then (x.1, v) else x).1 = x.1 := by
      intro x
      split <;> rfl
    rw [hsame] at hk ⊢
    exact hne k hk
  · rename_i hfresh
    refine List.pairwise_append.mpr ⟨h, List.pairwise_singleton _ _, fun e he e' he' k hk hk' => ?_⟩
    obtain rfl := List.mem_singleton.mp he'
    dsimp only at hk'
    subst hk'
    exact hfresh (List.any_eq_true.mpr ⟨e, he, Value.beq_text_iff.mpr hk⟩)

theorem HasDistinctTexts.update (h : HasDistinctTexts es) :
    HasDistinctTexts (Value.update es more) := by
  unfold Value.update
  induction more generalizing es with
  | nil => exact h
  | cons e more ih => exact ih h.insert

namespace Yaml

theorem storeEntries_distinct (h : storeEntries more = .ok es) : HasDistinctTexts es := by
  have hfold : ∀ (more done : List (Value × Value)), HasDistinctTexts done →
      more.foldlM (fun done e => if e.1.isKey then Except.ok (Value.insert done e.1 e.2)
        else .error Reason.malformedDocument) done = .ok es → HasDistinctTexts es := by
    intro more
    induction more with
    | nil =>
      intro done hdone h
      cases h
      exact hdone
    | cons e more ih =>
      intro done hdone h
      rw [List.foldlM_cons] at h
      obtain ⟨next, hnext, h⟩ := bind_eq_ok h
      split at hnext <;> cases hnext
      exact ih _ hdone.insert h
  exact hfold more [] .nil h

theorem Moment.value_eq {m : Moment} (h : m.value = .ok v) :
    ∃ kind text, v = .moment kind text := by
  unfold Moment.value at h
  rcases htime : m.time with _ | t
  · simp only [htime, Option.bind_none] at h
    obtain ⟨_, -, h⟩ := bind_eq_ok h
    obtain ⟨_, -, h⟩ := bind_eq_ok h
    obtain ⟨_, -, h⟩ := bind_eq_ok h
    obtain ⟨_, -, h⟩ := bind_eq_ok h
    cases h
    exact ⟨_, _, rfl⟩
  · simp only [htime, Option.bind_some] at h
    -- With an offset there is one more thing that can go wrong first.
    split at h
    on_goal 1 => obtain ⟨_, -, h⟩ := bind_eq_ok h
    all_goals
      obtain ⟨_, -, h⟩ := bind_eq_ok h
      obtain ⟨_, -, h⟩ := bind_eq_ok h
      obtain ⟨_, -, h⟩ := bind_eq_ok h
      obtain ⟨_, -, h⟩ := bind_eq_ok h
      obtain ⟨_, -, h⟩ := bind_eq_ok h
      obtain ⟨_, -, h⟩ := bind_eq_ok h
      obtain ⟨_, -, h⟩ := bind_eq_ok h
      cases h
      exact ⟨_, _, rfl⟩

theorem scalarValue_ne_mapping {kind : Kind} {s : String} :
    scalarValue kind s ≠ .ok (.mapping es) := by
  intro h
  unfold scalarValue at h
  cases kind with
  | bool =>
    dsimp only at h
    split at h <;> cases h
  | int | float =>
    obtain ⟨n, -, h⟩ := bind_eq_ok h
    cases h
  | binary =>
    dsimp only at h
    split at h
    · cases h
    · split at h <;> cases h
  | moment =>
    dsimp only at h
    split at h
    · obtain ⟨kind, text, hv⟩ := Moment.value_eq h
      cases hv
    · cases h
  | _ => cases h

theorem Node.content_distinct {n : Node} (h : n.content = .ok (.mapping es)) :
    HasDistinctTexts es := by
  cases n with
  | scalar tag isPlain s =>
    unfold Node.content at h
    exact absurd h scalarValue_ne_mapping
  | sequence tag items =>
    unfold Node.content at h
    split at h
    · obtain ⟨vs, -, h⟩ := bind_eq_ok h
      cases h
    · obtain ⟨vs, -, h⟩ := bind_eq_ok h
      cases h
    · obtain ⟨vs, -, h⟩ := bind_eq_ok h
      cases h
    · cases h
  | mapping tag entries =>
    unfold Node.content at h
    split at h
    · obtain ⟨more, -, h⟩ := bind_eq_ok h
      obtain ⟨es', hes, h⟩ := bind_eq_ok h
      cases h
      exact storeEntries_distinct hes
    · obtain ⟨more, -, h⟩ := bind_eq_ok h
      obtain ⟨es', -, h⟩ := bind_eq_ok h
      cases h
    · cases h
    · cases h
    · cases h
    · split at h
      · exact absurd h scalarValue_ne_mapping
      · cases h

theorem content_distinct {bs : List UInt8} (h : content bs = .ok (.mapping es)) :
    HasDistinctTexts es := by
  unfold content at h
  split at h
  · cases h
  · cases h
  · exact Node.content_distinct h

/-- Entries that are stored under different texts stay as they are. -/
theorem storeEntries_rawEntries {gs : List (String × Value)} (h : (gs.map Prod.fst).Nodup) :
    storeEntries (rawEntries (fun v => v) gs) = .ok (rawEntries (fun v => v) gs) := by
  have hfold : ∀ (gs done : List (String × Value)), ((done ++ gs).map Prod.fst).Nodup →
      (rawEntries (fun v => v) gs).foldlM (fun done e => if e.1.isKey then
        Except.ok (Value.insert done e.1 e.2) else .error Reason.malformedDocument)
        (rawEntries (fun v => v) done) = .ok (rawEntries (fun v => v) (done ++ gs)) := by
    intro gs
    induction gs with
    | nil =>
      intro done _
      rw [List.append_nil]
      rfl
    | cons g gs ih =>
      intro done hnodup
      have hfresh : g.1 ∉ done.map Prod.fst := by
        rw [List.map_append, List.nodup_append] at hnodup
        exact fun hg => hnodup.2.2 g.1 hg g.1 (List.mem_cons_self ..) rfl
      have hinsert : Value.insert (rawEntries (fun v => v) done) (.text g.1) g.2 =
          rawEntries (fun v => v) (done ++ [g]) := by
        rw [insert_rawEntries, putEntry, if_neg hfresh]
      have hstep : (rawEntries (fun v => v) (g :: gs)).foldlM (fun done e => if e.1.isKey then
          Except.ok (Value.insert done e.1 e.2) else .error Reason.malformedDocument)
          (rawEntries (fun v => v) done) = (rawEntries (fun v => v) gs).foldlM (fun done e =>
            if e.1.isKey then Except.ok (Value.insert done e.1 e.2)
            else .error Reason.malformedDocument)
          (Value.insert (rawEntries (fun v => v) done) (.text g.1) g.2) := rfl
      rw [hstep, hinsert, ih (done ++ [g]) (by rwa [List.append_assoc]), List.append_assoc]
      rfl
  exact hfold gs [] h

/-- Nodes of texts with texts as their names. -/
def Node.areTexts : List (Node × Node) → List (String × String) → Bool
  | [], [] => true
  | (.scalar none isPlain k, .scalar none isPlain' v) :: ns, e :: es =>
    k == e.1 && v == e.2 && scalarKind none isPlain k == .text &&
      scalarKind none isPlain' v == .text && Node.areTexts ns es
  | _, _ => false

theorem Node.splitContents_texts {ns : List (Node × Node)} {es : List (String × String)}
    (h : Node.areTexts ns es = true) : Node.splitContents ns =
      .ok ([], rawEntries (fun v => v) (es.map fun e => (e.1, .text e.2))) := by
  fun_induction Node.areTexts ns es with
  | case1 => rw [Node.splitContents]; rfl
  | case2 isPlain k isPlain' v ns e es ih =>
    simp only [Bool.and_eq_true, beq_iff_eq] at h
    obtain ⟨⟨⟨⟨rfl, rfl⟩, hk⟩, hv⟩, hrest⟩ := h
    have hkey : (Node.scalar none isPlain e.1).content = .ok (.text e.1) := by
      rw [Node.content, hk]
      rfl
    have hvalue : (Node.scalar none isPlain' e.2).content = .ok (.text e.2) := by
      rw [Node.content, hv]
      rfl
    have hmerge : (Node.scalar none isPlain e.1).isSpecial .merge = false :=
      (congrArg (· == Kind.merge) hk).trans rfl
    have hdefault : (Node.scalar none isPlain e.1).isSpecial .defaultKey = false :=
      (congrArg (· == Kind.defaultKey) hk).trans rfl
    rw [Node.splitContents, hmerge, hdefault, hkey, hvalue, ih hrest]
    rfl
  | case3 => cases h

/-- A document that is a mapping of texts has those texts as its content. -/
theorem content_texts {s : String} {b : UInt8} {rest : List UInt8} {es : List (String × String)}
    (hfirst : Text.utf8 s = b :: rest) (hb : b.toNat < 128) (hall : s.toList.all isAllowed = true)
    (hnames : (es.map Prod.fst).Nodup)
    (h : (match (tokens? s.toList).bind document? with
      | some (some (.mapping none ns)) => Node.areTexts ns es
      | _ => false) = true) :
    content (Text.utf8 s) =
      .ok (.mapping (rawEntries (fun v => v) (es.map fun e => (e.1, .text e.2)))) := by
  have hdecode : decode? (Text.utf8 s) = some s.toList := by
    have htext : decode? (Text.utf8 s) =
        ((Text.ofUtf8? (Text.utf8 s)).map String.toList).bind fun cs =>
          if cs.all isAllowed then some cs else none := by
      rw [hfirst]
      unfold decode?
      split
      -- The first three cases are the marks of other encodings.
      · rename_i heq
        rw [(List.cons.inj heq).1] at hb
        exact absurd hb (by decide)
      · rename_i heq
        rw [(List.cons.inj heq).1] at hb
        exact absurd hb (by decide)
      · rename_i heq
        rw [(List.cons.inj heq).1] at hb
        exact absurd hb (by decide)
      · rfl
    rw [htext, Text.ofUtf8?_utf8, Option.map_some, Option.bind_some, if_pos hall]
  unfold content
  rw [hdecode, Option.bind_some]
  split at h
  · rename_i ns hdocument
    have hnodup : ((es.map fun e => (e.1, Value.text e.2)).map Prod.fst).Nodup := by
      rw [List.map_map]
      exact hnames
    rw [hdocument]
    dsimp only
    rw [Node.content, Node.entryContents, Node.splitContents_texts h]
    change (storeEntries (rawEntries (fun v => v) (es.map fun e => (e.1, .text e.2))) >>=
      fun stored =>
      Except.ok (Value.mapping stored)) = _
    rw [storeEntries_rawEntries hnodup]
    rfl
  · cases h

end Yaml
end Distinct
end ClusterSubmission
