import ClusterSubmission.Proofs.Run
import ClusterSubmission.Http.Session
import ClusterSubmission.Submission.Submit

/-!
# The level of the log

A record is shown on the console or not, by the level of the logger, and one that is shown can fail,
since the console reads markup in it. That is all that the level can change: two runs that differ in
it agree, operation by operation, until one fails in a record that the quieter one does not show.
-/
namespace ClusterSubmission

/-- Whether records of a level are shown on the console. -/
def World.shows (w : World) (level : Int) : Bool :=
  w.isLogged libraryName level && (w.logger libraryName).handlers.contains .console

/-- The world with another level of the library's own logger. -/
def World.atLevel (w : World) (level : Int) : World :=
  w.setLogger libraryName { w.logger libraryName with level := level }

def World.withLoggers (w : World) (ls : List (String × Logger)) : World := { w with loggers := ls }

/-- A world that differs from another one in its loggers at most, and shows no other records. -/
structure World.IsQuieter (u w : World) : Prop where
  same : u = w.withLoggers u.loggers
  shown : ∀ level, u.shows level = true → w.shows level = true

/-- A world in which no more was sent and warned of than in another one. -/
structure World.Precedes (w u : World) : Prop where
  history : w.history <:+ u.history
  warnings : w.warnings <+: u.warnings

/-- A failure of a record on the console, up to what was noted about it. -/
def Failure.IsOfRecord (f : Failure) : Prop :=
  ∃ m r, Log.renderMarkup ("[bold]" ++ libraryName ++ "[/] - " ++ m) = .error r ∧
    f = { r.failure with notes := f.notes }

/-- How a run ends that shows more records than another one: in the same way, or it has failed in a
record, and has not sent or warned of anything that the other one did not. -/
inductive EndsAlike {α : Type} : Except Failure α × World → Except Failure α × World → Prop
  | same (r : Except Failure α) {w u : World} (h : u.IsQuieter w) : EndsAlike (r, w) (r, u)
  | fault {f : Failure} (r : Except Failure α) {w u : World} (hf : f.IsOfRecord)
      (h : w.Precedes u) : EndsAlike (.error f, w) (r, u)

namespace World

variable {u v w : World}

theorem Precedes.refl (w : World) : w.Precedes w :=
  ⟨List.suffix_refl _, List.prefix_refl _⟩

theorem Precedes.trans (h : w.Precedes v) (h' : v.Precedes u) : w.Precedes u :=
  ⟨h.history.trans h'.history, h.warnings.trans h'.warnings⟩

theorem Precedes.of_eq (hh : u.history = w.history) (hw : u.warnings = w.warnings) :
    w.Precedes u := by
  constructor
  · rw [hh]
  · rw [hw]

theorem IsQuieter.precedes (h : u.IsQuieter w) : w.Precedes u := by
  rw [h.same]
  exact .of_eq rfl rfl

theorem shows_congr (h : u.loggers = w.loggers) (level : Int) : u.shows level = w.shows level := by
  have hlogger : u.logger libraryName = w.logger libraryName := by
    simp only [logger, h]
  unfold shows
  rw [isLogged_congr h, hlogger]

/-- Changes that leave the loggers alone keep a world quieter. -/
theorem IsQuieter.update {g : World → World} (h : u.IsQuieter w)
    (hg : ∀ w ls, g (w.withLoggers ls) = (g w).withLoggers ls) : (g u).IsQuieter (g w) := by
  have hkept : (g w).loggers = w.loggers := by
    have hself : g w = (g w).withLoggers w.loggers := hg w w.loggers
    rw [hself]
    rfl
  have hu : g u = (g w).withLoggers u.loggers := by
    rw [← hg, ← h.same]
  rw [hu]
  refine ⟨rfl, fun level hshown => ?_⟩
  have hshows : ((g w).withLoggers u.loggers).shows level = u.shows level := shows_congr rfl level
  rw [shows_congr hkept]
  rw [hshows] at hshown
  exact h.shown level hshown

theorem logger_setLogger (w : World) (name : String) (l : Logger) :
    (w.setLogger name l).logger name = l := by
  have hnone : (w.loggers.filter (·.1 != name)).find? (·.1 == name) = none := by
    apply List.find?_eq_none.mpr
    intro e he
    have hne := (List.mem_filter.mp he).2
    simpa using hne
  unfold logger setLogger
  rw [List.find?_append, hnone]
  simp

theorem levelFor_atLevel (w : World) {level : Int} (h : 0 < level) :
    (w.atLevel level).levelFor libraryName = level := by
  have hne : level ≠ 0 := by omega
  unfold levelFor atLevel
  rw [logger_setLogger]
  simp [hne]

/-- Where the level is lower, more records are shown. -/
theorem atLevel_isQuieter (w : World) {a b : Int} (ha : 0 < a) (hab : a ≤ b) :
    (w.atLevel b).IsQuieter (w.atLevel a) := by
  refine ⟨rfl, fun level h => ?_⟩
  have hb : 0 < b := by omega
  unfold shows isLogged at h ⊢
  rw [levelFor_atLevel w hb] at h
  rw [levelFor_atLevel w ha]
  have hhandlers : ((w.atLevel a).logger libraryName).handlers =
      ((w.atLevel b).logger libraryName).handlers := by
    unfold atLevel
    rw [logger_setLogger, logger_setLogger]
  rw [hhandlers]
  simp only [Bool.and_eq_true, decide_eq_true_eq] at h ⊢
  exact ⟨⟨h.1.1, by omega⟩, h.2⟩

end World

namespace Failure.IsOfRecord

variable {f : Failure}

theorem kind (h : f.IsOfRecord) : f.kind = .markup := by
  obtain ⟨m, r, hr, hf⟩ := h
  rw [hf]
  exact Log.renderMarkup_error hr

theorem inStep (h : f.IsOfRecord) (handle : String) (step : SubmissionStep) :
    (f.inStep handle step).IsOfRecord := by
  obtain ⟨m, r, hr, hf⟩ := id h
  refine ⟨m, r, hr, ?_⟩
  unfold Failure.inStep
  simp only [h.kind, FailureKind.isInterrupt, FailureKind.isSubmission]
  rw [hf]
  rfl

end Failure.IsOfRecord

/-- An operation for which the level of the log does not matter, up to the first record that fails:
it takes nothing back that was sent or warned of, and ends alike where fewer records are shown. -/
structure Run.IgnoresLevel {α : Type} (x : Run α) : Prop where
  precedes : ∀ w : World, w.Precedes (x w).2
  alike : ∀ w u : World, u.IsQuieter w → EndsAlike (x w) (x u)

/-- An operation that sends nothing and warns of nothing, and can only fail in a record. -/
structure Run.IsModest (x : Run Unit) : Prop where
  history : ∀ w : World, (x w).2.history = w.history
  warnings : ∀ w : World, (x w).2.warnings = w.warnings
  failure : ∀ (w : World) (f : Failure), (x w).1 = .error f → f.IsOfRecord

namespace Run.IgnoresLevel

variable {α β : Type} {x : Run α} {f : α → Run β}

/-- What does not look at the loggers and does not change them. -/
theorem of_blind (hx : ∀ w ls, x (w.withLoggers ls) = ((x w).1, (x w).2.withLoggers ls))
    (hp : ∀ w : World, w.Precedes (x w).2) : x.IgnoresLevel := by
  refine ⟨hp, fun w u h => ?_⟩
  have hresult : (x u).1 = (x w).1 := by
    rw [h.same, hx]
  have hq : (x u).2.IsQuieter (x w).2 :=
    World.IsQuieter.update (g := fun v => (x v).2) h fun v ls => congrArg Prod.snd (hx v ls)
  rcases hw : x w with ⟨r, w₁⟩
  rcases hu : x u with ⟨r', u₁⟩
  rw [hw, hu] at hresult hq
  cases hresult
  exact .same r hq

theorem pure (a : α) : (Pure.pure a : Run α).IgnoresLevel :=
  of_blind (fun _ _ => rfl) fun w => .refl w

theorem ofExcept (r : Except Reason α) : (Run.ofExcept r).IgnoresLevel := by
  cases r <;> exact of_blind (fun _ _ => rfl) fun w => .refl w

theorem ofResult (r : Except Failure α) : (Run.ofResult r).IgnoresLevel := by
  cases r <;> exact of_blind (fun _ _ => rfl) fun w => .refl w

theorem fail (r : Reason) : (Run.fail r : Run α).IgnoresLevel :=
  of_blind (fun _ _ => rfl) fun w => .refl w

theorem update {g : World → World} (hg : ∀ w ls, g (w.withLoggers ls) = (g w).withLoggers ls)
    (hp : ∀ w : World, w.Precedes (g w)) : (modify g : Run Unit).IgnoresLevel := by
  refine of_blind (fun w ls => ?_) hp
  rw [Run.modify_apply, Run.modify_apply, hg]

theorem bind (hx : x.IgnoresLevel) (hf : ∀ a, (f a).IgnoresLevel) : (x >>= f).IgnoresLevel := by
  have hrest : ∀ w, (x w).2.Precedes ((x >>= f) w).2 := by
    intro w
    rcases hxw : x w with ⟨e | a, v⟩
    · rw [Run.bind_of_error hxw]
      exact .refl v
    · rw [Run.bind_of_ok hxw]
      exact (hf a).precedes v
  refine ⟨fun w => (hx.precedes w).trans (hrest w), fun w u h => ?_⟩
  have halike := hx.alike w u h
  rcases hw : x w with ⟨r, w₁⟩
  rcases hu : x u with ⟨r', u₁⟩
  rw [hw, hu] at halike
  cases halike with
  | same _ hq =>
    cases r with
    | error e =>
      rw [Run.bind_of_error hw, Run.bind_of_error hu]
      exact .same _ hq
    | ok a =>
      rw [Run.bind_of_ok hw, Run.bind_of_ok hu]
      exact (hf a).alike w₁ u₁ hq
  | fault _ hf' hp =>
    have hmore := hrest u
    rw [hu] at hmore
    rw [Run.bind_of_error hw]
    exact .fault _ hf' (hp.trans hmore)

/-- Reading the world, except for its loggers. -/
theorem read {k : World → Run α} (hk : ∀ w ls, k (w.withLoggers ls) = k w)
    (he : ∀ w, (k w).IgnoresLevel) : (MonadState.get >>= k : Run α).IgnoresLevel := by
  refine ⟨fun w => (he w).precedes w, fun w u h => ?_⟩
  have hsame : k u = k w := by
    rw [h.same]
    exact hk w u.loggers
  rw [Run.get_bind, Run.get_bind, hsame]
  exact (he w).alike w u h

/-- A record fails in the quieter world only if it fails in the other one as well. -/
theorem log (level : Int) (m : String) : (Run.log level m).IgnoresLevel := by
  have hstays : ∀ w, ∃ r, Run.log level m w = (r, w) := by
    intro w
    rcases Run.log_cases level m w with h | ⟨r, h, -⟩
    · exact ⟨_, h⟩
    · exact ⟨_, h⟩
  constructor
  · intro w
    obtain ⟨r, hr⟩ := hstays w
    rw [hr]
    exact .refl w
  · intro w u h
    rcases hr : Log.renderMarkup ("[bold]" ++ libraryName ++ "[/] - " ++ m) with r | cs
    · have hlog : ∀ v : World, Run.log level m v =
          (if v.shows level = true then .error r.failure else .ok (), v) := by
        intro v
        unfold Run.log
        rw [Run.get_bind, hr]
        change (if v.shows level = true then _ else _ : Run Unit) v = _
        split <;> rfl
      rw [hlog w, hlog u]
      by_cases hw : w.shows level = true
      · rw [if_pos hw]
        exact .fault _ ⟨m, r, hr, rfl⟩ h.precedes
      · have hu : ¬ u.shows level = true := fun hu => hw (h.shown level hu)
        rw [if_neg hw, if_neg hu]
        exact .same _ h
    · have hlog : ∀ v : World, Run.log level m v = (.ok (), v) := by
        intro v
        unfold Run.log
        rw [Run.get_bind, hr]
        change (if v.shows level = true then _ else _ : Run Unit) v = _
        split <;> rfl
      rw [hlog w, hlog u]
      exact .same _ h

theorem debug (m : String) : (Run.debug m).IgnoresLevel := log debugLevel m

theorem info (m : String) : (Run.info m).IgnoresLevel := log infoLevel m

/-- An operation whose failures are put in other words, except for those of records. -/
theorem mapFailure {y : Run α} {g : World → Failure → Failure} (hx : x.IgnoresLevel)
    (hok : ∀ w a v, x w = (.ok a, v) → y w = (.ok a, v))
    (herror : ∀ w f v, x w = (.error f, v) → y w = (.error (g v f), v))
    (hg : ∀ w ls f, g (w.withLoggers ls) f = g w f)
    (hf : ∀ w f, f.IsOfRecord → (g w f).IsOfRecord) : y.IgnoresLevel := by
  constructor
  · intro w
    have hp := hx.precedes w
    rcases hw : x w with ⟨f | a, v⟩ <;> rw [hw] at hp
    · rw [herror w f v hw]
      exact hp
    · rw [hok w a v hw]
      exact hp
  · intro w u h
    have halike := hx.alike w u h
    rcases hw : x w with ⟨r, w₁⟩
    rcases hu : x u with ⟨r', u₁⟩
    rw [hw, hu] at halike
    cases halike with
    | same _ hq =>
      cases r with
      | ok a =>
        rw [hok w a w₁ hw, hok u a u₁ hu]
        exact .same _ hq
      | error f =>
        have hsame : g u₁ f = g w₁ f := by
          rw [hq.same]
          exact hg w₁ u₁.loggers f
        rw [herror w f w₁ hw, herror u f u₁ hu, hsame]
        exact .same _ hq
    | fault _ hof hp =>
      rw [herror w _ w₁ hw]
      cases r' with
      | ok a =>
        rw [hok u a u₁ hu]
        exact .fault _ (hf _ _ hof) hp
      | error f =>
        rw [herror u f u₁ hu]
        exact .fault _ (hf _ _ hof) hp

theorem modest_precedes {finish : Run Unit} (hm : finish.IsModest) {w u : World}
    (h : w.Precedes u) : (finish w).2.Precedes u := by
  constructor
  · rw [hm.history]
    exact h.history
  · rw [hm.warnings]
    exact h.warnings

/-- A failure in a record is followed by another one at most. -/
theorem modest_error {finish : Run Unit} (hm : finish.IsModest) {f : Failure}
    (hf : f.IsOfRecord) (w : World) :
    ∃ g, ((finish w).1 >>= fun _ => (.error f : Except Failure α)) = .error g ∧
      g.IsOfRecord := by
  rcases hw : (finish w).1 with g | _
  · exact ⟨g, rfl, hm.failure w g hw⟩
  · exact ⟨f, rfl, hf⟩

/-- Ends that are alike stay alike with a modest operation after them. -/
theorem finally_alike {finish : Run Unit} (he : finish.IgnoresLevel) (hm : finish.IsModest)
    {r r' : Except Failure α} {w u : World} (h : EndsAlike (r, w) (r', u)) :
    EndsAlike ((finish w).1 >>= fun _ => r, (finish w).2)
      ((finish u).1 >>= fun _ => r', (finish u).2) := by
  cases h with
  | same _ hq =>
    have halike := he.alike w u hq
    rcases hw : finish w with ⟨s, w₁⟩
    rcases hu : finish u with ⟨s', u₁⟩
    rw [hw, hu] at halike
    cases halike with
    | same _ hq₁ => exact .same _ hq₁
    | fault _ hof hp => exact .fault _ hof hp
  | fault _ hof hp =>
    obtain ⟨g, hg, hof'⟩ := modest_error (α := α) hm hof w
    rw [hg]
    exact .fault _ hof' ((modest_precedes hm hp).trans (he.precedes u))

theorem andFinally {finish : Run Unit} (hx : x.IgnoresLevel) (he : finish.IgnoresLevel)
    (hm : finish.IsModest) : (Run.andFinally x finish).IgnoresLevel := by
  have hend : ∀ w, Run.andFinally x finish w =
      ((finish (x w).2).1 >>= fun _ => (x w).1, (finish (x w).2).2) := by
    intro w
    unfold Run.andFinally
    rcases hw : x w with ⟨r, v⟩
    dsimp only
    rcases finish v with ⟨f | _, v₁⟩ <;> rfl
  refine ⟨fun w => ?_, fun w u h => ?_⟩
  · rw [hend]
    exact (hx.precedes w).trans (he.precedes _)
  · rw [hend, hend]
    exact finally_alike he hm (hx.alike w u h)

theorem onFailure {finish : Run Unit} (hx : x.IgnoresLevel) (he : finish.IgnoresLevel)
    (hm : finish.IsModest) : (x.onFailure finish).IgnoresLevel := by
  have hok : ∀ {w a v}, x w = (.ok a, v) → x.onFailure finish w = (.ok a, v) := by
    intro w a v h
    unfold Run.onFailure
    rw [h]
  have herror : ∀ {w f v}, x w = (.error f, v) → x.onFailure finish w =
      ((finish v).1 >>= fun _ => .error f, (finish v).2) := by
    intro w f v h
    unfold Run.onFailure
    rw [h]
    dsimp only
    rcases finish v with ⟨g | _, v₁⟩ <;> rfl
  constructor
  · intro w
    have hp := hx.precedes w
    rcases hw : x w with ⟨f | a, v⟩ <;> rw [hw] at hp
    · rw [herror hw]
      exact hp.trans (he.precedes _)
    · rw [hok hw]
      exact hp
  · intro w u h
    have halike := hx.alike w u h
    rcases hw : x w with ⟨r, w₁⟩
    rcases hu : x u with ⟨r', u₁⟩
    rw [hw, hu] at halike
    cases halike with
    | same _ hq =>
      cases r with
      | error f =>
        rw [herror hw, herror hu]
        exact finally_alike he hm (.same _ hq)
      | ok a =>
        rw [hok hw, hok hu]
        exact .same _ hq
    | fault _ hof hp =>
      rw [herror hw]
      cases r' with
      | error g =>
        rw [herror hu]
        exact finally_alike he hm (.fault _ hof hp)
      | ok a =>
        obtain ⟨g, hg, hof'⟩ := modest_error (α := α) hm hof w₁
        rw [hok hu, hg]
        exact .fault _ hof' (modest_precedes hm hp)

theorem warn (kind : SubmissionWarning) (m : String) : (warn kind m).IgnoresLevel := by
  refine bind (log warningLevel m) fun _ => update (fun _ _ => rfl) fun w => ?_
  exact ⟨List.suffix_refl _, List.prefix_append _ _⟩

/-- A change that touches neither the loggers nor what was sent or warned of. -/
theorem quietly {g : World → World} (hg : ∀ w ls, g (w.withLoggers ls) = (g w).withLoggers ls)
    (hh : ∀ w, (g w).history = w.history) (hw : ∀ w, (g w).warnings = w.warnings) :
    (modify g : Run Unit).IgnoresLevel := update hg fun w => .of_eq (hh w) (hw w)

/-- What is only done unless something is at fault. -/
theorem guarded {c : Prop} [Decidable c] {r : Reason} {k : Unit → Run α}
    (hk : ∀ a, (k a).IgnoresLevel) :
    (if c then Run.fail r >>= k else k ()).IgnoresLevel := by
  split
  · exact bind (fail r) hk
  · exact hk ()

theorem setSession (id : Nat) (g : Session → Session) :
    (modify fun w => w.setSession id (g (w.session id)) : Run Unit).IgnoresLevel :=
  quietly (fun _ _ => rfl) (fun _ => rfl) fun _ => rfl

end Run.IgnoresLevel
end ClusterSubmission
