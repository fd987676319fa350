import ClusterSubmission.Proofs.CommandParts
import ClusterSubmission.Proofs.Reading
import ClusterSubmission.Submission.Change

/-!
# What was configured

Changes whose arguments have their declared types make up a configuration: of each parameter that is
set the value given last, of the tags those that were added, of each collection with keys one entry
for each key. The parameters of a submission are those of the configuration that the accepted
changes make up.
-/
namespace ClusterSubmission

section Entries

variable {β : Type} {ps qs es : List (String × β)} {k j : String} {v : β}

/-- The value that was given last for a key. -/
def lastValue (ps : List (String × β)) (k : String) : Option β := ps.reverse.lookup k

/-- One entry for each key, in the order in which the keys came up, with the value given last. -/
def lastEntries (ps : List (String × β)) : List (String × β) :=
  (ps.map Prod.fst).eraseDups.filterMap fun k => (lastValue ps k).map (k, ·)

/-- The entries with a value stored under a key, at its place if the key is there, else last. -/
def putEntry (es : List (String × β)) (k : String) (v : β) : List (String × β) :=
  if k ∈ es.map Prod.fst then es.map fun e => if e.1 = k then (e.1, v) else e else es ++ [(k, v)]

theorem nodup_putEntry (h : (es.map Prod.fst).Nodup) : ((putEntry es k v).map Prod.fst).Nodup := by
  unfold putEntry
  split
  · have hsame : (es.map fun e => if e.1 = k then (e.1, v) else e).map Prod.fst =
      es.map Prod.fst := by
      rw [List.map_map]
      refine List.map_congr_left fun e _ => ?_
      by_cases he : e.1 = k <;> simp [he]
    rw [hsame]
    exact h
  · rename_i hfresh
    rw [List.map_append, List.nodup_append]
    refine ⟨h, by simp, fun a ha b hb hab => ?_⟩
    obtain rfl := List.mem_singleton.mp hb
    exact hfresh (hab ▸ ha)

theorem lastValue_append : lastValue (ps ++ qs) k = (lastValue qs k).or (lastValue ps k) := by
  unfold lastValue
  rw [List.reverse_append, List.lookup_append]

theorem lastValue_concat :
    lastValue (ps ++ [(k, v)]) j = if j = k then some v else lastValue ps j := by
  rw [lastValue_append]
  by_cases h : j = k
  · simp [lastValue, h]
  · have hne : (j == k) = false := beq_eq_false_iff_ne.mpr h
    simp [lastValue, List.lookup_cons, h, hne]

theorem exists_lastValue (h : k ∈ ps.map Prod.fst) : ∃ v, lastValue ps k = some v := by
  apply Option.isSome_iff_exists.mp
  unfold lastValue
  rw [List.lookup_isSome_iff]
  obtain ⟨e, he, rfl⟩ := List.mem_map.mp h
  exact ⟨e, List.mem_reverse.mpr he, beq_self_eq_true _⟩

theorem eraseDups_concat (ks : List String) (k : String) :
    (ks ++ [k]).eraseDups = if k ∈ ks then ks.eraseDups else ks.eraseDups ++ [k] := by
  rw [List.eraseDups_append]
  by_cases h : k ∈ ks <;> simp [List.cons_removeAll, List.eraseDups_cons, h]

theorem keys_lastEntries (ps : List (String × β)) :
    (lastEntries ps).map Prod.fst = (ps.map Prod.fst).eraseDups := by
  have hkeys : ∀ ks : List String, (∀ k ∈ ks, k ∈ ps.map Prod.fst) →
      (ks.filterMap fun k => (lastValue ps k).map (k, ·)).map Prod.fst = ks := by
    intro ks
    induction ks with
    | nil => exact fun _ => rfl
    | cons k ks ih =>
      intro h
      obtain ⟨v, hv⟩ := exists_lastValue (h k (List.mem_cons_self ..))
      rw [List.filterMap_cons, hv]
      simp only [Option.map_some, List.map_cons]
      rw [ih fun j hj => h j (List.mem_cons_of_mem _ hj)]
  exact hkeys _ fun k hk => List.mem_eraseDups.mp hk

/-- Storing a value in the entries of what was given is giving it as well. -/
theorem putEntry_lastEntries : putEntry (lastEntries ps) k v = lastEntries (ps ++ [(k, v)]) := by
  have hold : ∀ j ∈ (ps.map Prod.fst).eraseDups, (lastValue (ps ++ [(k, v)]) j).map (j, ·) =
      ((lastValue ps j).map (j, ·)).map fun e => if e.1 = k then (e.1, v) else e := by
    intro j hj
    obtain ⟨u, hu⟩ := exists_lastValue (List.mem_eraseDups.mp hj)
    rw [lastValue_concat, hu]
    by_cases h : j = k <;> simp [h]
  have hmem : k ∈ (lastEntries ps).map Prod.fst ↔ k ∈ ps.map Prod.fst := by
    rw [keys_lastEntries, List.mem_eraseDups]
  unfold putEntry
  -- A key that came up before keeps its place, and only its value is new.
  by_cases hk : k ∈ ps.map Prod.fst
  · rw [if_pos (hmem.mpr hk)]
    unfold lastEntries
    rw [List.map_filterMap, List.map_append, List.map_singleton, eraseDups_concat, if_pos hk]
    exact (List.filterMap_congr hold).symm
  · rw [if_neg (fun h => hk (hmem.mp h))]
    have hsame : ∀ j ∈ (ps.map Prod.fst).eraseDups,
        (lastValue (ps ++ [(k, v)]) j).map (j, ·) = (lastValue ps j).map (j, ·) := by
      intro j hj
      have hne : j ≠ k := by
        rintro rfl
        exact hk (List.mem_eraseDups.mp hj)
      rw [lastValue_concat, if_neg hne]
    unfold lastEntries
    rw [List.map_append, List.map_singleton, eraseDups_concat, if_neg hk, List.filterMap_append,
      List.filterMap_congr hsame, List.filterMap_cons, lastValue_concat, if_pos rfl]
    rfl

theorem lastEntries_congr (hkeys : (ps.map Prod.fst).eraseDups = (qs.map Prod.fst).eraseDups)
    (hlast : ∀ j, lastValue ps j = lastValue qs j) : lastEntries ps = lastEntries qs := by
  unfold lastEntries
  rw [hkeys]
  exact List.filterMap_congr fun j _ => by rw [hlast]

theorem lastValue_update (hk : k ∈ es.map Prod.fst) :
    lastValue (es.map fun e => if e.1 = k then (e.1, v) else e) j =
      lastValue (es ++ [(k, v)]) j := by
  have hlookup : ∀ l : List (String × β),
      (l.map fun e => if e.1 = k then (e.1, v) else e).lookup j =
        if j = k then (l.lookup k).map fun _ => v else l.lookup j := by
    intro l
    induction l with
    | nil => simp
    | cons e l ih =>
      obtain ⟨a, u⟩ := e
      rw [List.map_cons, List.lookup_cons, List.lookup_cons]
      by_cases hj : j = k
      · rw [if_pos hj] at ih ⊢
        subst hj
        by_cases ha : a = j
        · simp [ha]
        · have hja : (j == a) = false := beq_eq_false_iff_ne.mpr (Ne.symm ha)
          simp only [if_neg ha, hja, ih]
      · rw [if_neg hj] at ih ⊢
        by_cases ha : a = k
        · have hja : (j == a) = false := beq_eq_false_iff_ne.mpr (ha ▸ hj)
          simp only [if_pos ha, hja, ih, List.lookup_cons]
        · simp only [if_neg ha, ih, List.lookup_cons]
  rw [lastValue_concat]
  unfold lastValue
  rw [← List.map_reverse, hlookup]
  by_cases h : j = k
  · obtain ⟨u, hu⟩ := exists_lastValue hk
    unfold lastValue at hu
    rw [if_pos h, if_pos h, hu]
    rfl
  · rw [if_neg h, if_neg h]

/-- Giving entries with a value stored in them is giving the entries and then the value. -/
theorem lastEntries_putEntry :
    lastEntries (ps ++ putEntry es k v) = lastEntries (ps ++ (es ++ [(k, v)])) := by
  unfold putEntry
  by_cases hk : k ∈ es.map Prod.fst
  · rw [if_pos hk]
    apply lastEntries_congr
    · have hkeys : (es.map fun e => if e.1 = k then (e.1, v) else e).map Prod.fst =
          es.map Prod.fst := by
        rw [List.map_map]
        apply List.map_congr_left
        intro e _
        by_cases h : e.1 = k <;> simp [h]
      have hmem : k ∈ ps.map Prod.fst ++ es.map Prod.fst := List.mem_append_right _ hk
      rw [List.map_append, List.map_append, List.map_append, hkeys, List.map_singleton,
        ← List.append_assoc, eraseDups_concat, if_pos hmem]
    · intro j
      rw [lastValue_append, lastValue_append, lastValue_update hk]
  · rw [if_neg hk]

/-- The first entries with the others stored in them, one after another. -/
def putEntries (es more : List (String × β)) : List (String × β) :=
  more.foldl (fun es e => putEntry es e.1 e.2) es

theorem putEntries_lastEntries (more : List (String × β)) :
    putEntries (lastEntries ps) more = lastEntries (ps ++ more) := by
  induction more generalizing ps with
  | nil => rw [List.append_nil]; rfl
  | cons e more ih =>
    have hstep : putEntries (lastEntries ps) (e :: more) =
        putEntries (putEntry (lastEntries ps) e.1 e.2) more := rfl
    rw [hstep, putEntry_lastEntries, ih, List.append_assoc]
    rfl

theorem lastEntries_putEntries (more : List (String × β)) :
    lastEntries (ps ++ putEntries es more) = lastEntries (ps ++ (es ++ more)) := by
  induction more using List.reverseRecOn with
  | nil => rw [List.append_nil]; rfl
  | append_singleton more e ih =>
    have hstep : putEntries es (more ++ [e]) = putEntry (putEntries es more) e.1 e.2 :=
      List.foldl_concat ..
    rw [hstep, lastEntries_putEntry, ← List.append_assoc, ← putEntry_lastEntries, ih,
      putEntry_lastEntries, List.append_assoc, List.append_assoc]

end Entries

theorem Value.text_beq (a b : String) : (Value.text a == Value.text b) = (a == b) := rfl

section Raw

variable {β : Type} (f : β → Value) {ps es : List (String × β)}

/-- Entries as a mapping has them. -/
def rawEntries (es : List (String × β)) : List (Value × Value) := es.map fun e => (.text e.1, f e.2)

theorem insert_rawEntries (k : String) (v : β) :
    Value.insert (rawEntries f es) (.text k) (f v) = rawEntries f (putEntry es k v) := by
  have hany : (rawEntries f es).any (fun e => e.1 == .text k) = true ↔ k ∈ es.map Prod.fst := by
    simp [rawEntries, Value.text_beq, List.any_eq_true]
  unfold Value.insert putEntry
  by_cases hk : k ∈ es.map Prod.fst
  · rw [if_pos (hany.mpr hk), if_pos hk]
    unfold rawEntries
    rw [List.map_map, List.map_map]
    apply List.map_congr_left
    intro e _
    by_cases he : e.1 = k <;> simp [Value.text_beq, he]
  · rw [if_neg (fun h => hk (hany.mp h)), if_neg hk]
    simp [rawEntries]

theorem update_rawEntries (more : List (String × β)) :
    Value.update (rawEntries f es) (rawEntries f more) = rawEntries f (putEntries es more) := by
  induction more generalizing es with
  | nil => rfl
  | cons e more ih =>
    have hstep : Value.update (rawEntries f es) (rawEntries f (e :: more)) =
      Value.update (Value.insert (rawEntries f es) (.text e.1) (f e.2)) (rawEntries f more) := rfl
    rw [hstep, insert_rawEntries, ih]
    rfl

end Raw

/-- A file that is put next to the driver. -/
structure LocalResource where
  location : String
  size : Int
  timestamp : Int
  type : String
  visibility : String

def LocalResource.value (r : LocalResource) : Value :=
  .resource (.text r.location) (.int r.size) (.int r.timestamp) (.text r.type) (.text r.visibility)

/-- A change with arguments of their declared types. -/
inductive Setting where
  | name (s : String)
  | memory (megabytes : Int)
  | node (host : String)
  | localResource (name : String) (r : LocalResource)
  | priority (n : Int)
  | preserveContainers (keep : Bool)
  | maxAttempts (n : Int)
  | queue (s : String)
  | launcher (s : String)
  | configurationPath (path : String)
  | configurationPaths (paths : List String)
  | outputPath (path : String)
  | errorPath (path : String)
  | type (s : String)
  | tags (tags : List String)
  | environment (given : Option (List (String × String))) (named : List (String × String))

/-- A mapping from text to text that may be missing. -/
def optionalMapping (given : Option (List (String × String))) : Value :=
  given.elim .null fun es => .mapping (rawEntries .text es)

def Setting.change : Setting → Change
  | .name s => .name (.text s)
  | .memory n => .memory (.int n)
  | .node s => .node (.text s)
  | .localResource k r => .localResource (.text k) r.value
  | .priority n => .priority (.int n)
  | .preserveContainers b => .preserveContainers (.bool b)
  | .maxAttempts n => .maxAttempts (.int n)
  | .queue s => .queue (.text s)
  | .launcher s => .launcher (.text s)
  | .configurationPath s => .configurationPaths (.text s)
  | .configurationPaths ps => .configurationPaths (.list (ps.map .text))
  | .outputPath s => .outputPath (.text s)
  | .errorPath s => .errorPath (.text s)
  | .type s => .type (.text s)
  | .tags ts => .tags (ts.map .text)
  | .environment given named =>
    .environment (optionalMapping given) (named.map fun e => (e.1, .text e.2))

/-- The tags that a setting adds. -/
def Setting.addedTags : Setting → List String
  | .tags ts => ts
  | _ => []

def Setting.addedResources : Setting → List (String × LocalResource)
  | .localResource k r => [(k, r)]
  | _ => []

/-- The variables that a setting gives. Those given by name come last and win. -/
def Setting.addedVariables : Setting → List (String × String)
  | .environment given named => given.getD [] ++ named
  | _ => []

/-- A value that is a tag is added if it is set and none of those that are there equals it. -/
theorem Change.extendTags_of_cons (items : List Value) (v : Value) (ts : List Tag) :
    extendTags (.list items) (Tag.of v :: ts) =
      extendTags (.list (if v.isSet && !items.any (· == v) then items ++ [v] else items)) ts := by
  have hany : items.anyM (Tag.of v).equals = .ok (items.any (· == v)) := List.anyM_pure
  have hnew : (Tag.of v).isNewIn (.list items) = .ok (v.isSet && !items.any (· == v)) := by
    have htruth : (Tag.of v).truth = .ok v.isSet := rfl
    unfold Tag.isNewIn
    rw [htruth]
    cases hset : v.isSet with
    | false => rfl
    | true =>
      dsimp only
      rw [hany]
      rfl
  rw [extendTags, hnew]
  dsimp only
  cases v.isSet && !items.any (· == v) <;> rfl

/-- What is submitted, apart from what comes from the cluster. -/
structure Configuration where
  name : String
  queue : String
  priority : Int
  type : String
  tags : List String
  memory : Int
  host : Option String
  maxAttempts : Int
  keepContainers : Bool
  launcher : String
  configurationPaths : List String
  outputPath : String
  errorPath : String
  resources : List (String × LocalResource)
  environment : List (String × String)

/-- What was picked last, else the default. -/
def lastSet {α : Type} (xs : List Setting) (default : α) (pick : Setting → Option α) : α :=
  (xs.filterMap pick).getLast?.getD default

theorem lastSet_concat {α : Type} (xs : List Setting) (x : Setting) (default : α)
    (pick : Setting → Option α) :
    lastSet (xs ++ [x]) default pick = (pick x).getD (lastSet xs default pick) := by
  unfold lastSet
  rw [List.filterMap_append]
  cases h : pick x <;> simp [h]

namespace Configuration

/-- The configuration that accepted settings make up. -/
def of (xs : List Setting) : Configuration where
  name := lastSet xs "resubmit-driver" fun | .name s => some s | _ => none
  queue := lastSet xs "default" fun | .queue s => some s | _ => none
  priority := lastSet xs 0 fun | .priority n => some n | _ => none
  type := lastSet xs Message.defaultApplicationType fun | .type s => some s | _ => none
  tags := ((xs.flatMap Setting.addedTags).filter (· ≠ "")).eraseDups
  memory := lastSet xs 512 fun | .memory n => some n | _ => none
  host := lastSet xs none fun | .node s => some (some s) | _ => none
  maxAttempts := lastSet xs 1 fun | .maxAttempts n => some n | _ => none
  keepContainers := lastSet xs false fun | .preserveContainers b => some b | _ => none
  launcher := lastSet xs "org.apache.reef.runtime.common.REEFLauncher" fun
    | .launcher s => some s
    | _ => none
  configurationPaths := lastSet xs [driverConfigurationPath] fun
    | .configurationPath p => some [p]
    | .configurationPaths ps => some ps
    | _ => none
  outputPath := lastSet xs (logDirectoryVariable ++ "/driver.stdout") fun
    | .outputPath s => some s
    | _ => none
  errorPath := lastSet xs (logDirectoryVariable ++ "/driver.stderr") fun
    | .errorPath s => some s
    | _ => none
  resources := lastEntries (xs.flatMap Setting.addedResources)
  environment := lastEntries (xs.flatMap Setting.addedVariables)

/-- The parameters of a submission with a configuration. -/
def parameters (c : Configuration) (wrapper : Value) (renewals : List String) : Parameters where
  applicationName := .text c.name
  applicationType := .text c.type
  applicationTags := .list (c.tags.map .text)
  driverMemory := .int c.memory
  driverHost := c.host.elim .null .text
  priority := .int c.priority
  queue := .text c.queue
  maxAttempts := .int c.maxAttempts
  keepContainers := .bool c.keepContainers
  launcher := .text c.launcher
  configurationPaths := .list (c.configurationPaths.map .text)
  outputPath := .text c.outputPath
  errorPath := .text c.errorPath
  wrapper
  localResources := .mapping (rawEntries LocalResource.value c.resources)
  environment := .mapping (rawEntries .text c.environment)
  renewals

theorem parameters_nil (wrapper : Value) :
    (of []).parameters wrapper [] = { wrapper := wrapper } := rfl

theorem extendTags_eraseDups (ts more : List String) :
    Change.extendTags (.list (ts.eraseDups.map .text)) ((more.map .text).map Tag.of) =
      (.ok (), .list ((ts ++ more.filter (· ≠ "")).eraseDups.map .text)) := by
  induction more generalizing ts with
  | nil => simp [Change.extendTags]
  | cons t more ih =>
    have hseen : (ts.eraseDups.map Value.text).any (· == .text t) = true ↔ t ∈ ts := by
      simp [Value.text_beq, List.mem_eraseDups, List.any_eq_true]
    have hset : (Value.text t).isSet = true ↔ t ≠ "" := by simp [Value.isSet]
    rw [List.map_cons, List.map_cons, Change.extendTags_of_cons]
    by_cases hempty : t = ""
    · have hunset : (Value.text t).isSet = false := by simp [Value.isSet, hempty]
      rw [hunset, Bool.false_and, if_neg Bool.false_ne_true, ih,
        List.filter_cons_of_neg (by simpa using hempty)]
    · rw [hset.mpr hempty, Bool.true_and, List.filter_cons_of_pos (by simpa using hempty)]
      by_cases ht : t ∈ ts
      · have hagain : (t :: more.filter (· ≠ "")).removeAll ts =
            (more.filter (· ≠ "")).removeAll ts := by
          rw [List.cons_removeAll, if_neg (by simpa using ht)]
        rw [hseen.mpr ht, Bool.not_true, if_neg Bool.false_ne_true, ih, List.eraseDups_append,
          List.eraseDups_append, hagain]
      · have hnew : (ts.eraseDups.map Value.text).any (· == .text t) = false := by
          rw [← Bool.not_eq_true, hseen]
          exact ht
        have hconcat : ts.eraseDups.map Value.text ++ [.text t] =
            (ts ++ [t]).eraseDups.map Value.text := by
          rw [eraseDups_concat, if_neg ht, List.map_append, List.map_singleton]
        rw [hnew, Bool.not_false, if_pos rfl, hconcat, ih, List.append_assoc]
        rfl

variable (xs : List Setting)

theorem withTags_of (ts : List String) :
    Change.withTags (.list ((of xs).tags.map .text)) (ts.map .text) =
      .ok (.list ((of (xs ++ [.tags ts])).tags.map .text)) := by
  have htags : (of (xs ++ [.tags ts])).tags =
      ((xs.flatMap Setting.addedTags).filter (· ≠ "") ++ ts.filter (· ≠ "")).eraseDups := by
    simp [of, Setting.addedTags]
  unfold Change.withTags of
  dsimp only
  rw [extendTags_eraseDups, ← htags]
  rfl

theorem storeUnder_of (k : String) (r : LocalResource) :
    Change.storeUnder (.mapping (rawEntries LocalResource.value (of xs).resources)) (.text k)
        r.value =
      .ok (.mapping (rawEntries LocalResource.value
        (of (xs ++ [.localResource k r])).resources)) := by
  have hresources : (of (xs ++ [.localResource k r])).resources =
      putEntry (of xs).resources k r := by
    have hadded : (xs ++ [Setting.localResource k r]).flatMap Setting.addedResources =
        xs.flatMap Setting.addedResources ++ [(k, r)] := by
      rw [List.flatMap_append]
      rfl
    unfold of
    rw [putEntry_lastEntries, hadded]
  rw [hresources, ← insert_rawEntries]
  rfl

theorem withVariables_of (given : Option (List (String × String)))
    (named : List (String × String)) :
    Change.withVariables (.mapping (rawEntries .text (of xs).environment))
        (optionalMapping given) (named.map fun e => (e.1, .text e.2)) =
      .ok (.mapping (rawEntries .text (of (xs ++ [.environment given named])).environment)) := by
  have hgiven : (optionalMapping given).orElse (.mapping []) =
      .mapping (rawEntries .text (given.getD [])) := by
    match given with
    | none => rfl
    | some [] => rfl
    | some (e :: es) => rfl
  have hnamed : (named.map fun e => (e.1, Value.text e.2)).map (fun e => (Value.text e.1, e.2)) =
      rawEntries .text named := by
    rw [List.map_map]
    rfl
  have htexts : ∀ es : List (String × String), Change.textEntries (rawEntries .text es) =
      .ok (rawEntries .text es) := by
    intro es
    unfold Change.textEntries rawEntries
    induction es with
    | nil => rfl
    | cons e es ih =>
      rw [List.map_cons, List.mapM_cons, ih]
      rfl
  have henvironment : (of (xs ++ [.environment given named])).environment =
      putEntries (of xs).environment (putEntries (given.getD []) named) := by
    have hadded : (xs ++ [Setting.environment given named]).flatMap Setting.addedVariables =
        xs.flatMap Setting.addedVariables ++ (given.getD [] ++ named) := by
      rw [List.flatMap_append]
      simp [Setting.addedVariables]
    unfold of
    rw [putEntries_lastEntries, lastEntries_putEntries, hadded]
  unfold Change.withVariables
  rw [hgiven, hnamed]
  change (do
    return Value.mapping (Value.update (rawEntries .text (of xs).environment) (← Change.textEntries
      (Value.update (rawEntries .text (given.getD [])) (rawEntries .text named))))) = _
  rw [update_rawEntries, htexts, henvironment]
  exact congrArg (fun es => Except.ok (Value.mapping es)) (update_rawEntries _ _)

/-- A setting changes the parameters of a configuration into those of the configuration with it. -/
theorem apply_change (x : Setting) (wrapper : Value) (renewals : List String) :
    ∃ renewals', x.change.apply ((of xs).parameters wrapper renewals) =
      .ok ((of (xs ++ [x])).parameters wrapper renewals') := by
  -- Collections grow by what was added; each of the others has one field, in which the last one
  -- wins.
  cases x with
  | tags ts =>
    have hothers : of (xs ++ [.tags ts]) =
        { of xs with tags := (of (xs ++ [.tags ts])).tags } := by
      simp [of, lastSet_concat, Setting.addedTags, Setting.addedResources, Setting.addedVariables]
    refine ⟨renewals, ?_⟩
    change (do
      return { (of xs).parameters wrapper renewals with
        applicationTags := ← Change.withTags (.list ((of xs).tags.map .text)) (ts.map .text) }) = _
    rw [withTags_of, hothers]
    rfl
  | environment given named =>
    have hothers : of (xs ++ [.environment given named]) =
        { of xs with environment := (of (xs ++ [.environment given named])).environment } := by
      simp [of, lastSet_concat, Setting.addedTags, Setting.addedResources, Setting.addedVariables]
    refine ⟨renewals, ?_⟩
    change (do
      return { (of xs).parameters wrapper renewals with
        environment := ← Change.withVariables (.mapping (rawEntries .text (of xs).environment))
          (optionalMapping given) (named.map fun e : String × String => (e.1, Value.text e.2)) }) =
            _
    rw [withVariables_of, hothers]
    rfl
  | localResource k r =>
    have hothers : of (xs ++ [.localResource k r]) =
        { of xs with resources := (of (xs ++ [.localResource k r])).resources } := by
      simp [of, lastSet_concat, Setting.addedTags, Setting.addedResources, Setting.addedVariables]
    refine ⟨renewals, ?_⟩
    change (do
      return { (of xs).parameters wrapper renewals with
        localResources := ← Change.storeUnder
          (.mapping (rawEntries LocalResource.value (of xs).resources)) (.text k) r.value }) = _
    rw [storeUnder_of, hothers]
    rfl
  | configurationPath path =>
    refine ⟨"configuration_paths" :: renewals, ?_⟩
    simp [of, parameters, lastSet_concat, Setting.addedTags, Setting.addedResources,
      Setting.addedVariables, Setting.change, Change.apply, Parameters.replace,
      Parameters.set, Value.asTokens, Value.asSequence, Value.plain]
  | configurationPaths path =>
    refine ⟨"configuration_paths" :: renewals, ?_⟩
    simp [of, parameters, lastSet_concat, Setting.addedTags, Setting.addedResources,
      Setting.addedVariables, Setting.change, Change.apply, Parameters.replace,
      Parameters.set, Value.asTokens, Value.asSequence, Value.plain, Value.members?]
  | _ =>
    refine ⟨renewals, ?_⟩
    simp [of, parameters, lastSet_concat, Setting.addedTags, Setting.addedResources,
      Setting.addedVariables, Setting.change, Change.apply, Value.isSet]

end Configuration
end ClusterSubmission
