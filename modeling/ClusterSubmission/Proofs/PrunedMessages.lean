import ClusterSubmission.Proofs.ContextForm
import ClusterSubmission.Proofs.MessageRoundTrip

/-!
# Pruned messages

A message is written without the members and entries that say nothing, which are null and empty
collections. What is decided is whether a member says something as it was given. So a collection is
empty in what is written exactly where it had members and none of them says anything; everything
else that says something is there, in its order and at its place.
-/
namespace ClusterSubmission.Message

/-- The way from a collection to one of its members. -/
inductive Step where
  | item (index : Nat)
  | entry (key : Value)

abbrev Place := List Step

/-- Values with their places, one step further down. -/
def inside (s : Step) (found : List (Place × Value)) : List (Place × Value) :=
  found.map fun e => (s :: e.1, e.2)

mutual
/-- The values inside a value with their places, in order. Members that do not count are passed
over, and the items of a list are numbered without them. -/
def below (counts : Value → Bool) : Value → List (Place × Value)
  | .list vs => itemsBelow counts 0 vs
  | .tuple vs => itemsBelow counts 0 vs
  | .mapping es => entriesBelow counts es
  | _ => []

def itemsBelow (counts : Value → Bool) (index : Nat) : List Value → List (Place × Value)
  | [] => []
  | v :: vs =>
    if counts v then
      inside (.item index) (([], v) :: below counts v) ++ itemsBelow counts (index + 1) vs
    else itemsBelow counts index vs

def entriesBelow (counts : Value → Bool) : List (Value × Value) → List (Place × Value)
  | [] => []
  | (k, v) :: es =>
    if counts v then
      inside (.entry k) (([], v) :: below counts v) ++ entriesBelow counts es
    else entriesBelow counts es
end

/-- Whether a value is a collection without members. -/
def isEmpty : Value → Bool
  | .list [] | .tuple [] | .mapping [] => true
  | _ => false

/-- Whether a value is a collection that has members, none of which says anything. -/
def isHollow : Value → Bool
  | .list vs | .tuple vs => !vs.isEmpty && vs.all (!isKept ·)
  | .mapping es => !es.isEmpty && es.all (!isKept ·.2)
  | _ => false

/-- Whether a value stands for itself: no collection, and not null. -/
def isLeaf : Value → Bool
  | .null | .list _ | .tuple _ | .mapping _ => false
  | _ => true

/-- The values that stand for themselves, in a value that may be one, with their places. -/
def leaves (counts : Value → Bool) (v : Value) : List (Place × Value) :=
  (([], v) :: below counts v).filter (isLeaf ·.2)

section Inside

variable {s : Step} {xs : List (Place × Value)}

theorem filter_inside {q : Value → Bool} :
    (inside s xs).filter (q ·.2) = inside s (xs.filter (q ·.2)) := by
  simp [inside, List.filter_map, Function.comp_def]

theorem inside_map {f : Value → Value} :
    inside s (xs.map (Prod.map id f)) = (inside s xs).map (Prod.map id f) := by
  simp [inside]

theorem mem_inside {e : Place × Value} :
    e ∈ inside s xs ↔ ∃ d ∈ xs, e = (s :: d.1, d.2) := by
  simp [inside, eq_comm]

end Inside

section Pruning

abbrev everything : Value → Bool := fun _ => true

mutual
theorem below_prune : ∀ v : Value,
    below everything (prune v) = (below isKept v).map (Prod.map id prune)
  | .list vs => itemsBelow_prune vs 0
  | .tuple vs => itemsBelow_prune vs 0
  | .mapping es => entriesBelow_prune es
  | .null | .bool _ | .int _ | .float _ | .text _ | .bytes _ | .path _ | .version _ | .handle _
  | .resource .. | .moment .. => rfl

theorem itemsBelow_prune : ∀ (vs : List Value) (index : Nat),
    itemsBelow everything index (pruneItems vs) =
      (itemsBelow isKept index vs).map (Prod.map id prune)
  | [], _ => rfl
  | v :: vs, index => by
    by_cases hkept : isKept v = true
    · simp only [pruneItems, itemsBelow, hkept, if_true, List.map_append]
      rw [itemsBelow_prune vs, below_prune v, ← inside_map]
      rfl
    · simp only [pruneItems, itemsBelow, hkept]
      exact itemsBelow_prune vs index

theorem entriesBelow_prune : ∀ es : List (Value × Value),
    entriesBelow everything (pruneEntries es) =
      (entriesBelow isKept es).map (Prod.map id prune)
  | [] => rfl
  | (k, v) :: es => by
    by_cases hkept : isKept v = true
    · simp only [pruneEntries, entriesBelow, hkept, if_true, List.map_append]
      rw [entriesBelow_prune es, below_prune v, ← inside_map]
      rfl
    · simp only [pruneEntries, entriesBelow, hkept]
      exact entriesBelow_prune es
end

-- What was counted says something, wherever it stands.
mutual
theorem isKept_of_mem_below : ∀ (v : Value), ∀ e ∈ below isKept v, isKept e.2 = true
  | .list vs => isKept_of_mem_itemsBelow vs 0
  | .tuple vs => isKept_of_mem_itemsBelow vs 0
  | .mapping es => isKept_of_mem_entriesBelow es
  | .null | .bool _ | .int _ | .float _ | .text _ | .bytes _ | .path _ | .version _ | .handle _
  | .resource .. | .moment .. => by simp [below]

theorem isKept_of_mem_itemsBelow : ∀ (vs : List Value) (index : Nat),
    ∀ e ∈ itemsBelow isKept index vs, isKept e.2 = true
  | [], _ => by simp [itemsBelow]
  | v :: vs, index => by
    intro e he
    rw [itemsBelow] at he
    split at he
    · rename_i hkept
      rcases List.mem_append.mp he with he | he
      · obtain ⟨d, hd, rfl⟩ := mem_inside.mp he
        rcases List.mem_cons.mp hd with rfl | hd
        · exact hkept
        · exact isKept_of_mem_below v d hd
      · exact isKept_of_mem_itemsBelow vs _ e he
    · exact isKept_of_mem_itemsBelow vs _ e he

theorem isKept_of_mem_entriesBelow : ∀ (es : List (Value × Value)),
    ∀ e ∈ entriesBelow isKept es, isKept e.2 = true
  | [] => by simp [entriesBelow]
  | (k, v) :: es => by
    intro e he
    rw [entriesBelow] at he
    split at he
    · rename_i hkept
      rcases List.mem_append.mp he with he | he
      · obtain ⟨d, hd, rfl⟩ := mem_inside.mp he
        rcases List.mem_cons.mp hd with rfl | hd
        · exact hkept
        · exact isKept_of_mem_below v d hd
      · exact isKept_of_mem_entriesBelow es e he
    · exact isKept_of_mem_entriesBelow es e he
end

theorem pruneItems_eq_nil_iff {vs : List Value} :
    pruneItems vs = [] ↔ ∀ v ∈ vs, isKept v = false := by
  induction vs with
  | nil => simp [pruneItems]
  | cons v vs ih => by_cases hkept : isKept v = true <;> simp [pruneItems, hkept, ih]

theorem pruneEntries_eq_nil_iff {es : List (Value × Value)} :
    pruneEntries es = [] ↔ ∀ e ∈ es, isKept e.2 = false := by
  induction es with
  | nil => simp [pruneEntries]
  | cons e es ih =>
    obtain ⟨k, v⟩ := e
    by_cases hkept : isKept v = true <;> simp [pruneEntries, hkept, ih]

theorem isEmpty_list {vs : List Value} : isEmpty (.list vs) = vs.isEmpty := by
  cases vs <;> rfl

theorem isEmpty_tuple {vs : List Value} : isEmpty (.tuple vs) = vs.isEmpty := by
  cases vs <;> rfl

theorem isEmpty_mapping {es : List (Value × Value)} : isEmpty (.mapping es) = es.isEmpty := by
  cases es <;> rfl

theorem isKept_eq (v : Value) : isKept v = (!v.isNull && !isEmpty v) := by
  cases v with
  | list vs => cases vs <;> rfl
  | tuple vs => cases vs <;> rfl
  | mapping es => cases es <;> rfl
  | _ => rfl

/-- What says something becomes empty exactly if it is a collection of what says nothing. -/
theorem isEmpty_prune {v : Value} (h : isKept v = true) : isEmpty (prune v) = isHollow v := by
  rw [Bool.eq_iff_iff]
  cases v with
  | list vs =>
    have hne : vs ≠ [] := by
      rintro rfl
      cases h
    simp [prune, isEmpty_list, isHollow, pruneItems_eq_nil_iff, hne]
  | tuple vs =>
    have hne : vs ≠ [] := by
      rintro rfl
      cases h
    simp [prune, isEmpty_tuple, isHollow, pruneItems_eq_nil_iff, hne]
  | mapping es =>
    have hne : es ≠ [] := by
      rintro rfl
      cases h
    simp [prune, isEmpty_mapping, isHollow, pruneEntries_eq_nil_iff, hne]
  | _ => simp [prune, isEmpty, isHollow]

theorem isNull_prune (v : Value) : (prune v).isNull = v.isNull := by
  cases v <;> rfl

/-- What is below a pruned value, by what said something below the value. -/
theorem mem_below_prune {v : Value} {place : Place} {u : Value} :
    (place, u) ∈ below everything (prune v) ↔ ∃ x, (place, x) ∈ below isKept v ∧ prune x = u := by
  rw [below_prune]
  simp

theorem isNull_of_mem_below_prune {v : Value} {e : Place × Value}
    (h : e ∈ below everything (prune v)) : e.2.isNull = false := by
  obtain ⟨x, hx, hu⟩ := mem_below_prune.mp h
  have hkept := isKept_of_mem_below v _ hx
  rw [isKept_eq, Bool.and_eq_true, Bool.not_eq_true'] at hkept
  rw [← hu, isNull_prune]
  exact hkept.1

/-- The places of the empty collections in what is written. -/
theorem emptyPlaces_prune (v : Value) :
    ((below everything (prune v)).filter (isEmpty ·.2)).map Prod.fst =
      ((below isKept v).filter (isHollow ·.2)).map Prod.fst := by
  have hsame : (below isKept v).filter (fun e => isEmpty (prune e.2)) =
      (below isKept v).filter (isHollow ·.2) := by
    apply List.filter_congr
    intro e he
    exact isEmpty_prune (isKept_of_mem_below v e he)
  rw [below_prune, List.filter_map, List.map_map, ← hsame]
  rfl

theorem length_pruneItems_le (vs : List Value) : (pruneItems vs).length ≤ vs.length := by
  induction vs with
  | nil => simp [pruneItems]
  | cons v vs ih =>
    rw [pruneItems]
    split <;> simp only [List.length_cons] <;> omega

theorem length_pruneEntries_le (es : List (Value × Value)) :
    (pruneEntries es).length ≤ es.length := by
  induction es with
  | nil => simp [pruneEntries]
  | cons e es ih =>
    rw [pruneEntries]
    split <;> simp only [List.length_cons] <;> omega

theorem pruneItems_cons_eq_iff {v : Value} {vs : List Value} :
    pruneItems (v :: vs) = v :: vs ↔ isKept v = true ∧ prune v = v ∧ pruneItems vs = vs := by
  by_cases hkept : isKept v = true
  · simp [pruneItems, hkept]
  · have hlength := length_pruneItems_le vs
    constructor
    · intro h
      rw [pruneItems, if_neg hkept] at h
      rw [h, List.length_cons] at hlength
      omega
    · intro h
      exact absurd h.1 hkept

theorem pruneEntries_cons_eq_iff {k v : Value} {es : List (Value × Value)} :
    pruneEntries ((k, v) :: es) = (k, v) :: es ↔
      isKept v = true ∧ prune v = v ∧ pruneEntries es = es := by
  by_cases hkept : isKept v = true
  · simp [pruneEntries, hkept]
  · have hlength := length_pruneEntries_le es
    constructor
    · intro h
      rw [pruneEntries, if_neg hkept] at h
      rw [h, List.length_cons] at hlength
      omega
    · intro h
      exact absurd h.1 hkept

theorem forall_inside_append {s : Step} {v : Value} {xs : List (Place × Value)} :
    (∀ e ∈ inside s (([], v) :: below everything v) ++ xs, isKept e.2 = true) ↔
      isKept v = true ∧ (∀ e ∈ below everything v, isKept e.2 = true) ∧
        ∀ e ∈ xs, isKept e.2 = true := by
  simp only [inside, List.forall_mem_append, List.forall_mem_map, List.forall_mem_cons, and_assoc]

-- A value is left alone by pruning exactly if everything in it says something.
mutual
theorem prune_eq_iff : ∀ v : Value,
    prune v = v ↔ ∀ e ∈ below everything v, isKept e.2 = true
  | .list vs => by simpa [prune, below] using pruneItems_eq_iff vs 0
  | .tuple vs => by simpa [prune, below] using pruneItems_eq_iff vs 0
  | .mapping es => by simpa [prune, below] using pruneEntries_eq_iff es
  | .null | .bool _ | .int _ | .float _ | .text _ | .bytes _ | .path _ | .version _ | .handle _
  | .resource .. | .moment .. => by simp [prune, below]

theorem pruneItems_eq_iff : ∀ (vs : List Value) (index : Nat),
    pruneItems vs = vs ↔ ∀ e ∈ itemsBelow everything index vs, isKept e.2 = true
  | [], _ => by simp [pruneItems, itemsBelow]
  | v :: vs, index => by
    rw [pruneItems_cons_eq_iff, prune_eq_iff v, pruneItems_eq_iff vs (index + 1)]
    exact forall_inside_append.symm

theorem pruneEntries_eq_iff : ∀ es : List (Value × Value),
    pruneEntries es = es ↔ ∀ e ∈ entriesBelow everything es, isKept e.2 = true
  | [] => by simp [pruneEntries, entriesBelow]
  | (k, v) :: es => by
    rw [pruneEntries_cons_eq_iff, prune_eq_iff v, pruneEntries_eq_iff es]
    exact forall_inside_append.symm
end

/-- Pruning once more changes nothing exactly if nothing that says something is hollow. -/
theorem prune_prune_iff (v : Value) :
    prune (prune v) = prune v ↔ ∀ e ∈ below isKept v, isHollow e.2 = false := by
  have hkept : ∀ e ∈ below isKept v, (isKept (prune e.2) = true ↔ isHollow e.2 = false) := by
    intro e he
    have hsaid := isKept_of_mem_below v e he
    rw [isKept_eq, isNull_prune, isEmpty_prune hsaid]
    rw [isKept_eq, Bool.and_eq_true] at hsaid
    simp [hsaid.1]
  rw [prune_eq_iff, below_prune]
  simp only [List.forall_mem_map, Prod.map_snd]
  exact forall₂_congr hkept

theorem isLeaf_prune (v : Value) : isLeaf (prune v) = isLeaf v := by
  cases v <;> rfl

theorem prune_of_isLeaf {v : Value} (h : isLeaf v = true) : prune v = v := by
  cases v with
  | list | tuple | mapping => cases h
  | _ => rfl

/-- Pruning keeps what stands for itself, and its order. -/
theorem leaves_prune (v : Value) : leaves everything (prune v) = leaves isKept v := by
  have hnodes : ([], prune v) :: below everything (prune v) =
      (([], v) :: below isKept v).map (Prod.map id prune) := by
    rw [below_prune]
    rfl
  have hsame : ∀ e ∈ (([], v) :: below isKept v).filter (isLeaf ·.2), Prod.map id prune e = e := by
    intro e he
    have hleaf : isLeaf e.2 = true := (List.mem_filter.mp he).2
    exact Prod.ext rfl (prune_of_isLeaf hleaf)
  unfold leaves
  rw [hnodes, List.filter_map]
  simp only [Function.comp_def, Prod.map_snd, isLeaf_prune]
  rw [List.map_congr_left hsame, List.map_id']

end Pruning

section Written

theorem leaves_of_not_isKept {v : Value} (h : isKept v = false) : leaves isKept v = [] := by
  cases v with
  | null => rfl
  | list vs =>
    cases vs with
    | nil => rfl
    | cons => cases h
  | tuple vs =>
    cases vs with
    | nil => rfl
    | cons => cases h
  | mapping es =>
    cases es with
    | nil => rfl
    | cons => cases h
  | _ => cases h

theorem leaves_item {index : Nat} {v : Value} {vs : List Value} :
    (itemsBelow isKept index (v :: vs)).filter (isLeaf ·.2) =
      inside (.item index) (leaves isKept v) ++
        (itemsBelow isKept (if isKept v then index + 1 else index) vs).filter (isLeaf ·.2) := by
  rw [itemsBelow]
  split
  · rw [List.filter_append, filter_inside]
    rfl
  · rename_i hkept
    rw [leaves_of_not_isKept (by simpa using hkept)]
    rfl

theorem leaves_entry {k v : Value} {es : List (Value × Value)} :
    (entriesBelow isKept ((k, v) :: es)).filter (isLeaf ·.2) =
      inside (.entry k) (leaves isKept v) ++ (entriesBelow isKept es).filter (isLeaf ·.2) := by
  rw [entriesBelow]
  split
  · rw [List.filter_append, filter_inside]
    rfl
  · rename_i hkept
    rw [leaves_of_not_isKept (by simpa using hkept)]
    rfl

/-- What is written for a field that was not given. -/
def Default.form : Default → Value
  | .value v => v
  | .emptyList => .list []
  | .emptyMapping => .mapping []
  | .required => .null

/-- Whether a part says something in its form on the wire. -/
def Part.isSaid (p : Part) : Bool :=
  match p.wireForm with
  | .ok w => isKept w
  | .error _ => false

mutual
/-- The values of a message that stand for themselves, at their places on the wire. A record has
those of its fields, in their order, but for the fields that are left out because they have their
default; a list numbers the items that say something. -/
def Part.leaves : Part → List (Place × Value)
  | .leaf v =>
    match plainValue v with
    | .ok w => Message.leaves isKept w
    | .error _ => []
  | .list ps => itemLeaves 0 ps
  | .record m slots => slotLeaves m.omitsDefaults m.fields slots

def itemLeaves (index : Nat) : List Part → List (Place × Value)
  | [] => []
  | p :: ps =>
    inside (.item index) p.leaves ++ itemLeaves (if p.isSaid then index + 1 else index) ps

def slotLeaves (sparse : Bool) : List Field → List (Option Part) → List (Place × Value)
  | f :: fs, some p :: slots =>
    if sparse && p.isDefault f.default then slotLeaves sparse fs slots
    else inside (.entry (.text f.wire)) p.leaves ++ slotLeaves sparse fs slots
  | f :: fs, none :: slots =>
    if sparse then slotLeaves sparse fs slots
    else
      inside (.entry (.text f.wire)) (Message.leaves isKept f.default.form)
        ++ slotLeaves sparse fs slots
  | _, _ => []
end

mutual
theorem leaves_wireForm : ∀ (p : Part) {w : Value}, p.wireForm = .ok w →
    leaves isKept w = p.leaves
  | .leaf v, w, h => by
    have hplain : plainValue v = .ok w := h
    simp only [Part.leaves, hplain]
  | .list ps, w, h => by
    obtain ⟨ws, hws, h⟩ := bind_eq_ok h
    cases h
    exact leaves_itemWireForms ps 0 hws
  | .record m slots, w, h => by
    obtain ⟨es, hes, h⟩ := bind_eq_ok h
    cases h
    exact leaves_slotWireForms slots hes

theorem leaves_itemWireForms : ∀ (ps : List Part) (index : Nat) {ws : List Value},
    itemWireForms ps = .ok ws →
      (itemsBelow isKept index ws).filter (isLeaf ·.2) = itemLeaves index ps
  | [], _, _, h => by
    cases h
    rfl
  | p :: ps, index, _, h => by
    obtain ⟨w, hw, h⟩ := bind_eq_ok h
    obtain ⟨ws, hws, h⟩ := bind_eq_ok h
    cases h
    have hsaid : p.isSaid = isKept w := by
      simp only [Part.isSaid, hw]
    rw [leaves_item, leaves_wireForm p hw, leaves_itemWireForms ps _ hws, itemLeaves, hsaid]

theorem leaves_slotWireForms : ∀ (slots : List (Option Part)) {sparse : Bool} {fs : List Field}
    {es : List (Value × Value)}, slotWireForms sparse fs slots = .ok es →
      (entriesBelow isKept es).filter (isLeaf ·.2) = slotLeaves sparse fs slots
  | [], sparse, fs, es, h => by
    cases fs <;> cases h <;> rfl
  | _ :: _, sparse, [], es, h => by
    cases h
    rfl
  | some p :: slots, sparse, f :: fs, es, h => by
    rw [slotWireForms] at h
    rw [slotLeaves]
    split at h
    · rename_i homitted
      rw [if_pos homitted]
      exact leaves_slotWireForms slots h
    · rename_i hgiven
      obtain ⟨w, hw, h⟩ := bind_eq_ok h
      obtain ⟨es', hes', h⟩ := bind_eq_ok h
      cases h
      rw [if_neg hgiven, leaves_entry, leaves_wireForm p hw, leaves_slotWireForms slots hes']
  | none :: slots, sparse, f :: fs, es, h => by
    rw [slotWireForms] at h
    rw [slotLeaves]
    split at h
    · rename_i hsparse
      rw [if_pos hsparse]
      exact leaves_slotWireForms slots h
    · rename_i hgiven
      obtain ⟨es', hes', h⟩ := bind_eq_ok h
      cases h
      rw [if_neg hgiven, leaves_entry, leaves_slotWireForms slots hes']
      rfl
end

end Written

/-- A message with fields of their types is written. Of what is written nothing is null; a
collection in it is empty exactly where it had members and none says anything, and without such a
place pruning once more changes nothing. What stands for itself is there, in its order and at its
place. -/
theorem messages_pruned (m : Model) (p : Part) :
    (p.Fits (.record m) → ∃ w, p.wireForm = .ok w) ∧
    ∀ w, p.wireForm = .ok w → ∃ v, p.toMapping = .ok v ∧
      (∀ e ∈ below everything v, e.2.isNull = false) ∧
      ((below everything v).filter (isEmpty ·.2)).map Prod.fst =
        ((below isKept w).filter (isHollow ·.2)).map Prod.fst ∧
      (prune v = v ↔ ∀ e ∈ below isKept w, isHollow e.2 = false) ∧
      leaves everything v = p.leaves := by
  constructor
  · intro hp
    obtain ⟨es, hes, -⟩ := hp.toMapping_ok
    exact ⟨_, hes⟩
  · intro w hw
    refine ⟨prune w, ?_, ?_, emptyPlaces_prune w, prune_prune_iff w, ?_⟩
    · unfold Part.toMapping
      rw [hw]
      rfl
    · intro e he
      exact isNull_of_mem_below_prune he
    · rw [leaves_prune, leaves_wireForm p hw]

/-- A container with a variable that is set to the empty text, and no tokens where they would be. -/
def sparseContainer : Part :=
  .record .container [some (.record .commands [some (.leaf (.text "run"))]), none,
    some (.record .entries [some (.list [.record .keyValue
      [some (.leaf (.text "DEBUG")), some (.leaf (.text ""))]])]),
    some (.record .credentials [some (.record .entries [some (.list [])]), none])]

/-- The empty text is kept at its place. -/
theorem messages_pruned_text : ∃ v, sparseContainer.toMapping = .ok v ∧ leaves everything v =
    [([.entry (.text "commands"), .entry (.text "command")], .text "run"),
      ([.entry (.text "environment"), .entry (.text "entry"), .item 0, .entry (.text "key")],
        .text "DEBUG"),
      ([.entry (.text "environment"), .entry (.text "entry"), .item 0, .entry (.text "value")],
        .text "")] := by
  obtain ⟨-, hwritten⟩ := messages_pruned .container sparseContainer
  obtain ⟨v, hv, -, -, -, hleaves⟩ := hwritten _ rfl
  exact ⟨v, hv, hleaves⟩

/-- A container that is read with a list of tokens that has none is written with an empty mapping
for its credentials, which pruning once more would take out. -/
theorem empty_collection_written : ∃ p v, decode .container (.mapping
      [(.text "commands", .mapping [(.text "command", .text "run")]),
        (.text "credentials", .mapping [(.text "tokens", .mapping [(.text "entry", .list [])])])]) =
      .ok p ∧ p.toMapping = .ok v ∧
    v = .mapping [(.text "commands", .mapping [(.text "command", .text "run")]),
      (.text "credentials", .mapping [])] ∧
    ([.entry (.text "credentials")], .mapping []) ∈ below everything v ∧ prune v ≠ v := by
  have hmem : ([.entry (.text "credentials")], Value.mapping []) ∈ below everything
      (.mapping [(.text "commands", .mapping [(.text "command", .text "run")]),
        (.text "credentials", .mapping [])]) := by
    apply List.mem_of_getElem? (i := 2)
    rfl
  refine ⟨_, _, rfl, rfl, rfl, hmem, ?_⟩
  intro hsame
  have hkept := (prune_eq_iff _).mp hsame _ hmem
  cases hkept

end ClusterSubmission.Message
