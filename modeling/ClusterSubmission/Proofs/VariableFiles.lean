import ClusterSubmission.Proofs.Reading
import ClusterSubmission.Proofs.Run
import ClusterSubmission.Settings.Load
import Mathlib.Data.List.TakeWhile

/-!
# The variables that files add

Variable files only add to the environment: each variable that has a value and is not set yet, in
the order of the files, up to the first one that cannot be set. Which variables of a file have a
value does not depend on the environment, so once they were added, nothing is left to be added.
-/
namespace ClusterSubmission

namespace VariableFile

variable {environment environment' : List (String × String)} {text : String}
  {vs vs' more more' : List (String × Option String)}

/-- The variables by their names, and whether they have a value. -/
def outline (vs : List (String × Option String)) : List (String × Bool) :=
  vs.map fun v => (v.1, v.2.isSome)

theorem outline_store {name : String} {x x' : Option String} (hx : x.isSome = x'.isSome)
    (h : outline vs = outline vs') : outline (store vs name x) = outline (store vs' name x') := by
  have hstore : ∀ (vs : List (String × Option String)) (x : Option String),
      outline (store vs name x) = if (outline vs).any (·.1 == name) then
        (outline vs).map fun e => if e.1 == name then (name, x.isSome) else e
        else outline vs ++ [(name, x.isSome)] := by
    intro vs x
    have hany : (outline vs).any (·.1 == name) = vs.any (·.1 == name) := by
      unfold outline
      rw [List.any_map]
      rfl
    unfold store
    rw [hany]
    split
    · unfold outline
      rw [List.map_map, List.map_map]
      refine List.map_congr_left fun v _ => ?_
      by_cases hv : v.1 = name <;> simp [hv]
    · unfold outline
      rw [List.map_append]
      rfl
  rw [hstore, hstore, h, hx]

/-- Only the values of variables depend on the environment. -/
theorem outline_read : outline (read environment text) = outline (read environment' text) := by
  have hfold : ∀ (bs : List (String × Option (List Char)))
      (done done' : List (String × Option String))
      (f g : List (String × Option String) → List Char → String), outline done = outline done' →
      outline (bs.foldl (fun done b => store done b.1 (b.2.map (f done))) done) =
        outline (bs.foldl (fun done b => store done b.1 (b.2.map (g done))) done') := by
    intro bs
    induction bs with
    | nil => exact fun _ _ _ _ h => h
    | cons b bs ih =>
      intro done done' f g h
      exact ih _ _ f g (outline_store (by rw [Option.isSome_map, Option.isSome_map]) h)
  exact hfold _ _ _ _ _ rfl

/-- The variables of a file with those of a later one, which win. -/
def joined (vs more : List (String × Option String)) : List (String × Option String) :=
  more.foldl (fun done v => store done v.1 v.2) vs

theorem outline_joined (h : outline vs = outline vs') (hmore : outline more = outline more') :
    outline (joined vs more) = outline (joined vs' more') := by
  unfold joined
  induction more generalizing vs vs' more' with
  | nil =>
    obtain rfl := List.map_eq_nil_iff.mp hmore.symm
    exact h
  | cons v more ih =>
    cases more' with
    | nil => cases hmore
    | cons v' more' =>
      obtain ⟨hv, hmore⟩ := List.cons.inj hmore
      obtain ⟨hname, hvalue⟩ := Prod.mk.inj hv
      rw [List.foldl_cons, List.foldl_cons, hname]
      exact ih (outline_store hvalue h) hmore

theorem nodup_store {name : String} {x : Option String} (h : (vs.map Prod.fst).Nodup) :
    ((store vs name x).map Prod.fst).Nodup := by
  unfold store
  split
  · have hsame : (vs.map fun e => if e.1 == name then (name, x) else e).map Prod.fst =
        vs.map Prod.fst := by
      rw [List.map_map]
      refine List.map_congr_left fun v _ => ?_
      by_cases hv : v.1 = name <;> simp [hv]
    rw [hsame]
    exact h
  · rename_i hfresh
    rw [List.map_append, List.nodup_append]
    refine ⟨h, by simp, fun a ha b hb hab => ?_⟩
    obtain ⟨v, hv, rfl⟩ := List.mem_map.mp ha
    obtain rfl := List.mem_singleton.mp hb
    exact hfresh (List.any_eq_true.mpr ⟨v, hv, beq_iff_eq.mpr hab⟩)

theorem nodup_joined (h : (vs.map Prod.fst).Nodup) : ((joined vs more).map Prod.fst).Nodup := by
  unfold joined
  induction more generalizing vs with
  | nil => exact h
  | cons v more ih => exact ih (nodup_store h)

theorem nodup_read : ((read environment text).map Prod.fst).Nodup := by
  have hfold : ∀ (bs : List (String × Option (List Char))) (done : List (String × Option String))
      (f : List (String × Option String) → List Char → String), (done.map Prod.fst).Nodup →
      ((bs.foldl (fun done b => store done b.1 (b.2.map (f done))) done).map Prod.fst).Nodup := by
    intro bs
    induction bs with
    | nil => exact fun _ _ h => h
    | cons b bs ih => exact fun done f h => ih _ f (nodup_store h)
  exact hfold _ _ _ List.nodup_nil

theorem store_of_notMem {name : String} {x : Option String} (h : name ∉ vs.map Prod.fst) :
    store vs name x = vs ++ [(name, x)] := by
  unfold store
  rw [if_neg]
  intro hany
  obtain ⟨v, hv, hname⟩ := List.any_eq_true.mp hany
  exact h (List.mem_map.mpr ⟨v, hv, beq_iff_eq.mp hname⟩)

/-- Variables of different names are as they were given. -/
theorem joined_nil (h : (more.map Prod.fst).Nodup) : joined [] more = more := by
  have hfold : ∀ (more vs : List (String × Option String)), ((vs ++ more).map Prod.fst).Nodup →
      joined vs more = vs ++ more := by
    intro more
    induction more with
    | nil => exact fun vs _ => (List.append_nil vs).symm
    | cons v more ih =>
      intro vs hnodup
      have hfresh : v.1 ∉ vs.map Prod.fst := by
        rw [List.map_append, List.nodup_append] at hnodup
        exact fun hv => hnodup.2.2 v.1 hv v.1 (List.mem_cons_self ..) rfl
      have hstep : joined vs (v :: more) = joined (store vs v.1 v.2) more := rfl
      rw [hstep, store_of_notMem hfresh, ih _ (by rwa [List.append_assoc]), List.append_assoc]
      rfl
  exact hfold more [] h

end VariableFile

namespace Settings

open VariableFile

/-- The variables that are new to an environment, with their values. -/
def additions (environment : List (String × String)) (vs : List (String × Option String)) :
    List (String × String) :=
  vs.filterMap fun v => if environment.any (·.1 == v.1) then none else v.2.map (v.1, ·)

def isSettable (v : String × String) : Bool :=
  !(hasNul v.1 || hasNul v.2) && !v.1.toList.contains '='

/-- Why a variable cannot be set. -/
def variableFault (v : String × String) : Reason :=
  if hasNul v.1 || hasNul v.2 then .variableWithNul else .variableNameInvalid

/-- The world after variables were added to its environment. -/
def withVariables (w : World) (vs : List (String × Option String)) : World :=
  { w with environment := w.environment ++ (additions w.environment vs).takeWhile isSettable }

variable {w w' : World} {vs vs' : List (String × Option String)}

theorem setVariable_of_known {name value : String} (h : w.environment.any (·.1 == name) = true) :
    setVariable name value w = (.ok (), w) := by
  obtain ⟨e, he⟩ := Option.isSome_iff_exists.mp (List.find?_isSome.mpr (List.any_eq_true.mp h))
  unfold setVariable Run.environmentValue?
  rw [bind_assoc, Run.get_bind, pure_bind, he]
  rfl

theorem setVariable_of_new {name value : String} (h : w.environment.any (·.1 == name) = false) :
    setVariable name value w = if isSettable (name, value) then
      (.ok (), { w with environment := w.environment ++ [(name, value)] })
      else (.error (variableFault (name, value)).failure, w) := by
  have hnone : w.environment.find? (·.1 == name) = none := by
    rw [List.find?_eq_none]
    exact List.any_eq_false.mp h
  have hmissing : Run.environmentValue? name w = (.ok none, w) := by
    unfold Run.environmentValue?
    rw [Run.get_bind, hnone]
    rfl
  unfold setVariable isSettable variableFault
  rw [Run.bind_of_ok hmissing]
  rcases hnul : hasNul name || hasNul value with _ | _
  · rcases hsign : name.toList.contains '=' with _ | _ <;> simp
  · simp

/-- Setting variables one after another, each unless it has no value or is set already. -/
def setVariables : List (String × Option String) → Run Unit
  | [] => pure ()
  | v :: vs => do
    match v.2 with
    | some value => setVariable v.1 value
    | none => pure ()
    setVariables vs

@[simp]
theorem additions_nil (environment : List (String × String)) : additions environment [] = [] := rfl

@[simp]
theorem withVariables_nil (w : World) : withVariables w [] = w := by
  unfold withVariables
  rw [additions_nil, List.takeWhile_nil, List.append_nil]

@[simp]
theorem additions_bare (environment : List (String × String)) (name : String) :
    additions environment ((name, none) :: vs) = additions environment vs := by
  unfold additions
  rw [List.filterMap_cons_none]
  split <;> rfl

theorem additions_known {environment : List (String × String)} {name : String}
    (value : Option String) (h : environment.any (·.1 == name) = true) :
    additions environment ((name, value) :: vs) = additions environment vs := by
  unfold additions
  rw [List.filterMap_cons_none]
  rw [if_pos h]

theorem additions_new {environment : List (String × String)} {name : String} (value : String)
    (h : environment.any (·.1 == name) = false) :
    additions environment ((name, some value) :: vs) =
      (name, value) :: additions environment vs := by
  unfold additions
  rw [List.filterMap_cons_some]
  rw [h]
  rfl

theorem additions_concat {name value : String} (h : name ∉ vs.map Prod.fst)
    (environment : List (String × String)) :
    additions (environment ++ [(name, value)]) vs = additions environment vs := by
  unfold additions
  refine List.filterMap_congr fun v hv => ?_
  have hne : (name == v.1) = false :=
    beq_eq_false_iff_ne.mpr fun he => h (List.mem_map.mpr ⟨v, hv, he.symm⟩)
  rw [List.any_append, List.any_cons, hne, List.any_nil, Bool.or_false, Bool.or_false]

/-- A variable that is not set changes nothing, so it may be left out. -/
theorem setVariables_skip {v : String × Option String}
    (hadded : additions w.environment (v :: vs) = additions w.environment vs)
    (hstep : setVariables (v :: vs) w = setVariables vs w)
    (h : setVariables vs w = (match (additions w.environment vs).find? (!isSettable ·) with
      | none => .ok ()
      | some v => .error (variableFault v).failure, withVariables w vs)) :
    setVariables (v :: vs) w = (match (additions w.environment (v :: vs)).find? (!isSettable ·) with
      | none => .ok ()
      | some v => .error (variableFault v).failure, withVariables w (v :: vs)) := by
  unfold withVariables at h ⊢
  rw [hstep, hadded, h]

/-- Variables of different names are set up to the first one that cannot be set. -/
theorem setVariables_eq (h : (vs.map Prod.fst).Nodup) (w : World) :
    setVariables vs w =
      (match (additions w.environment vs).find? (!isSettable ·) with
        | none => .ok ()
        | some v => .error (variableFault v).failure, withVariables w vs) := by
  induction vs generalizing w with
  | nil =>
    rw [withVariables_nil]
    rfl
  | cons v vs ih =>
    obtain ⟨name, value⟩ := v
    obtain ⟨hfresh, hrest⟩ := List.nodup_cons.mp h
    cases value with
    | none => exact setVariables_skip (additions_bare _ name) rfl (ih hrest w)
    | some value =>
      rcases hknown : w.environment.any (·.1 == name) with _ | _
      · have hset := @setVariable_of_new w name value hknown
        unfold withVariables
        rw [additions_new value hknown]
        rcases hs : isSettable (name, value) with _ | _
        · rw [hs, if_neg Bool.false_ne_true] at hset
          have hstep : setVariables ((name, some value) :: vs) w =
              (.error (variableFault (name, value)).failure, w) := Run.bind_of_error hset
          rw [hstep, List.find?_cons_of_pos (by rw [hs]; rfl),
            List.takeWhile_cons_of_neg (by rw [hs]; decide), List.append_nil]
        · rw [hs, if_pos rfl] at hset
          have hstep : setVariables ((name, some value) :: vs) w = setVariables vs
              { w with environment := w.environment ++ [(name, value)] } := Run.bind_of_ok hset
          rw [hstep, ih hrest, List.find?_cons_of_neg (by rw [hs]; decide),
            List.takeWhile_cons_of_pos hs]
          unfold withVariables
          rw [additions_concat hfresh, List.append_assoc]
          rfl
      · exact setVariables_skip (additions_known _ hknown)
          (Run.bind_of_ok (setVariable_of_known hknown)) (ih hrest w)

theorem setVariables_of_loop (vs : List (String × Option String)) :
    (do
      for (name, value) in vs do
        match value with
        | some value => setVariable name value
        | none => pure () : Run Unit) = setVariables vs := by
  induction vs with
  | nil => rfl
  | cons v vs ih =>
    obtain ⟨name, value⟩ := v
    rw [List.forIn_cons, setVariables, ← ih]
    cases value with
    | none => rfl
    | some value => simp only [bind_assoc, pure_bind]

/-- The variables in the files of a world: those of the configuration directory and those of the
working directory. -/
structure HasVariables (w : World) (first second : List (String × Option String)) : Prop where
  first : readVariables (Text.pathBelow configurationDirectory ".env") w = (.ok first, w)
  second : readVariables ".env" w = (.ok second, w)

variable {first second : List (String × Option String)} {path : String}

theorem readVariables_ok (h : readVariables path w = (.ok vs, w')) :
    vs = [] ∨ ∃ text, vs = VariableFile.read w.environment text := by
  unfold readVariables at h
  rw [Run.get_bind] at h
  rcases hread : w.files.read path with r | ⟨bs, stamp⟩ <;> rw [hread] at h
  · cases h
    exact Or.inl rfl
  · rcases htext : Text.ofUtf8? bs with _ | text <;> simp only [htext] at h <;> cases h
    exact Or.inr ⟨text, rfl⟩

/-- The same files give the same variables, apart from what their values refer to. -/
theorem readVariables_again (hfiles : w'.files = w.files)
    (h : readVariables path w = (.ok vs, w)) :
    ∃ vs', readVariables path w' = (.ok vs', w') ∧ outline vs' = outline vs := by
  unfold readVariables at h ⊢
  rw [Run.get_bind] at h ⊢
  rw [hfiles]
  rcases hread : w.files.read path with r | ⟨bs, stamp⟩ <;> rw [hread] at h
  · cases h
    exact ⟨[], rfl, rfl⟩
  · rcases htext : Text.ofUtf8? bs with _ | text <;> simp only [htext] at h ⊢ <;> cases h
    exact ⟨_, rfl, outline_read⟩

theorem HasVariables.again (h : HasVariables w first second) (hfiles : w'.files = w.files) :
    ∃ first' second', HasVariables w' first' second' ∧
      outline (joined first' second') = outline (joined first second) := by
  obtain ⟨first', hfirst, ho⟩ := readVariables_again hfiles h.first
  obtain ⟨second', hsecond, ho'⟩ := readVariables_again hfiles h.second
  exact ⟨first', second', ⟨hfirst, hsecond⟩, outline_joined ho ho'⟩

theorem HasVariables.nodup (h : HasVariables w first second) :
    ((joined first second).map Prod.fst).Nodup := by
  refine nodup_joined ?_
  rcases readVariables_ok h.first with rfl | ⟨text, rfl⟩
  · exact List.nodup_nil
  · exact nodup_read

/-- Loading the variable files adds the variables of both. -/
theorem HasVariables.loadVariables_eq (h : HasVariables w first second) :
    loadVariables w = (match (additions w.environment (joined first second)).find? (!isSettable ·) with
      | none => .ok ()
      | some v => .error (variableFault v).failure, withVariables w (joined first second)) := by
  have hline : Log.ClosesNothing "Loading environment variables from .env files...".toList :=
    Log.closesNothing_of_notMem (by decide)
  have hfiles : variableFiles.mapM readVariables w = (.ok [first, second], w) := by
    unfold variableFiles
    rw [List.mapM_cons, Run.bind_of_ok h.first, List.mapM_cons, bind_assoc, Run.bind_of_ok h.second]
    rfl
  have hfirst : joined [] first = first := by
    refine joined_nil ?_
    rcases readVariables_ok h.first with rfl | ⟨text, rfl⟩
    · exact List.nodup_nil
    · exact nodup_read
  unfold loadVariables
  rw [Run.bind_of_ok (Run.debug_of_closesNothing hline w), Run.bind_of_ok hfiles]
  refine (congrFun (setVariables_of_loop (joined (joined [] first) second)) w).trans ?_
  rw [hfirst, setVariables_eq h.nodup]

/-- What is added has the names of some of the variables, in their order. -/
theorem additions_sublist (environment : List (String × String)) :
    ((additions environment vs).map Prod.fst).Sublist (vs.map Prod.fst) := by
  induction vs with
  | nil => exact .slnil
  | cons v vs ih =>
    obtain ⟨name, _ | value⟩ := v
    · rw [additions_bare]
      exact ih.cons name
    · rcases hknown : environment.any (·.1 == name) with _ | _
      · rw [additions_new value hknown]
        exact ih.cons_cons name
      · rw [additions_known _ hknown]
        exact ih.cons name

/-- What is added to a larger environment is new to both of its parts. -/
theorem additions_append (environment added : List (String × String)) :
    additions (environment ++ added) vs =
      (additions environment vs).filter fun e => !added.any (·.1 == e.1) := by
  unfold additions
  rw [List.filter_filterMap]
  refine List.filterMap_congr fun v _ => ?_
  rw [List.any_append]
  rcases environment.any (·.1 == v.1) with _ | _
  · rcases v.2 with _ | value
    · simp
    · rcases hadded : added.any (·.1 == v.1) with _ | _ <;> simp [Option.filter, hadded]
  · rfl

/-- The variables that were not added yet are left. -/
theorem additions_rest {environment added rest : List (String × String)}
    (hnodup : (vs.map Prod.fst).Nodup) (h : additions environment vs = added ++ rest) :
    additions (environment ++ added) vs = rest := by
  have hnames := hnodup.sublist (additions_sublist environment)
  rw [h, List.map_append, List.nodup_append] at hnames
  rw [additions_append, h, List.filter_append, List.filter_eq_nil_iff.mpr, List.nil_append,
    List.filter_eq_self.mpr]
  · intro e he
    rw [Bool.not_eq_true', List.any_eq_false]
    intro a ha heq
    exact hnames.2.2 a.1 (List.mem_map_of_mem ha) e.1 (List.mem_map_of_mem he) (eq_of_beq heq)
  · intro e he
    rw [Bool.not_eq_true', Bool.not_eq_false, List.any_eq_true]
    exact ⟨e, he, beq_self_eq_true _⟩

/-- Once the variables were added, nothing is left to be added. -/
theorem additions_again {environment : List (String × String)} (h : outline vs' = outline vs) :
    additions (environment ++ additions environment vs) vs' = [] := by
  unfold additions
  rw [List.filterMap_eq_nil_iff]
  intro v hv
  rcases hvalue : v.2 with _ | value
  · split <;> rfl
  rw [if_pos]
  have hmem : (v.1, true) ∈ outline vs := by
    rw [← h]
    exact List.mem_map.mpr ⟨v, hv, by rw [hvalue]; rfl⟩
  obtain ⟨u, hu, heq⟩ := List.mem_map.mp hmem
  obtain ⟨hname, hsome⟩ := Prod.mk.inj heq
  obtain ⟨x, hx⟩ := Option.isSome_iff_exists.mp hsome
  rw [List.any_append, Bool.or_eq_true]
  rcases hknown : environment.any (·.1 == v.1) with _ | _
  · refine Or.inr (List.any_eq_true.mpr
      ⟨(v.1, x), List.mem_filterMap.mpr ⟨u, hu, ?_⟩, beq_self_eq_true _⟩)
    rw [hname, hknown, hx]
    rfl
  · exact Or.inl rfl

theorem withVariables_of_settable (h : ∀ v ∈ additions w.environment vs, isSettable v = true) :
    (withVariables w vs).environment = w.environment ++ additions w.environment vs := by
  unfold withVariables
  rw [List.takeWhile_eq_self_iff.mpr h]

theorem withVariables_again (hsettable : ∀ v ∈ additions w.environment vs, isSettable v = true)
    (h : outline vs' = outline vs) (he : w'.environment = (withVariables w vs).environment) :
    additions w'.environment vs' = [] ∧ withVariables w' vs' = w' := by
  have hnone : additions w'.environment vs' = [] := by
    rw [he, withVariables_of_settable hsettable]
    exact additions_again h
  refine ⟨hnone, ?_⟩
  unfold withVariables
  rw [hnone, List.takeWhile_nil, List.append_nil]

end Settings
end ClusterSubmission
