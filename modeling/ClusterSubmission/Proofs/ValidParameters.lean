import ClusterSubmission.Proofs.Calls
import ClusterSubmission.Proofs.Configuration

/-!
# Valid parameters

A change sets one parameter, if the submission is still being configured and the value passes its
check. So the parameters are valid wherever a submission can get, whatever negotiator it has and
whatever values it is given: numbers are within their limits, names are set, and each collection has
members of its own kind only. The state of a submission only moves forward.
-/
namespace ClusterSubmission

/-- What the parameters of a submission always satisfy. -/
structure Parameters.IsValid (p : Parameters) : Prop where
  driverMemory : ∃ n : Int, p.driverMemory = .int n ∧ 1 ≤ n
  priority : ∃ n : Int, p.priority = .int n ∧ 0 ≤ n
  maxAttempts : ∃ n : Int, p.maxAttempts = .int n ∧ 1 ≤ n
  applicationName : p.applicationName.isSet = true
  applicationType : p.applicationType.isSet = true
  queue : p.queue.isSet = true
  launcher : p.launcher.isSet = true
  driverHost : p.driverHost = .null ∨ p.driverHost.isSet = true
  applicationTags : ∃ ts, p.applicationTags = .list ts ∧ (∀ t ∈ ts, t.isSet = true) ∧
    ts.Pairwise fun t u => (t == u) = false
  localResources : ∃ es, p.localResources = .mapping es ∧
    ∀ e ∈ es, e.1.isSet = true ∧ e.2.isResource = true
  environment : ∃ es, p.environment = .mapping es ∧ ∀ e ∈ es, ∃ k v, e = (.text k, .text v)

/-- Parameters that differ in one of them at most, in its value and in how often it was replaced. -/
def Parameters.DifferOnlyIn (name : String) (p q : Parameters) : Prop :=
  ∀ other, other ≠ name → q.get? other = p.get? other ∧ q.renewalCount other = p.renewalCount other

theorem Parameters.isValid_initial (wrapper : Value) :
    Parameters.IsValid { wrapper := wrapper } where
  driverMemory := ⟨512, rfl, by decide⟩
  priority := ⟨0, rfl, by decide⟩
  maxAttempts := ⟨1, rfl, by decide⟩
  applicationName := rfl
  applicationType := rfl
  queue := rfl
  launcher := rfl
  driverHost := Or.inl rfl
  applicationTags := ⟨[], rfl, by simp, .nil⟩
  localResources := ⟨[], rfl, by simp⟩
  environment := ⟨[], rfl, by simp⟩

namespace Value

theorem isAtLeast_iff {v : Value} {limit : Int} :
    v.isAtLeast limit = true ↔ ∃ n, v = .int n ∧ limit ≤ n := by
  cases v <;> simp [isAtLeast]

/-- What holds of all entries and of a new one holds of all entries with the new one stored. -/
theorem forall_mem_insert {p : Value → Value → Prop} {es : List (Value × Value)} {key v : Value}
    (hes : ∀ e ∈ es, p e.1 e.2) (hnew : p key v) (hold : ∀ e ∈ es, p e.1 v) :
    ∀ e ∈ insert es key v, p e.1 e.2 := by
  intro e he
  unfold insert at he
  split at he
  · obtain ⟨x, hx, rfl⟩ := List.mem_map.mp he
    split
    · exact hold x hx
    · exact hes x hx
  · rcases List.mem_append.mp he with he | he
    · exact hes e he
    · rw [List.mem_singleton.mp he]
      exact hnew

theorem textEntries_update {es more : List (Value × Value)}
    (hes : ∀ e ∈ es, ∃ k v, e = (.text k, .text v))
    (hmore : ∀ e ∈ more, ∃ k v, e = (.text k, .text v)) :
    ∀ e ∈ update es more, ∃ k v, e = (.text k, .text v) := by
  unfold update
  induction more generalizing es with
  | nil => exact hes
  | cons x more ih =>
    refine ih ?_ fun e he => hmore e (List.mem_cons_of_mem _ he)
    obtain ⟨k, v, rfl⟩ := hmore x (List.mem_cons_self ..)
    have hkeep : ∀ e ∈ es, ∃ k w, (e.1, Value.text v) = (.text k, .text w) := by
      intro e he
      obtain ⟨k, w, rfl⟩ := hes e he
      exact ⟨k, v, rfl⟩
    exact forall_mem_insert (p := fun a b => ∃ k w, (a, b) = (.text k, .text w)) hes
      ⟨k, v, rfl⟩ hkeep

end Value

namespace Parameters

variable {p : Parameters} {name other : String}

theorem get?_set_of_ne (v : Value) (h : other ≠ name) :
    (p.set name v).get? other = p.get? other := by
  have hne : (name == other) = false := beq_eq_false_iff_ne.mpr (Ne.symm h)
  unfold set
  split <;> simp [get?, toList, names, List.find?_cons, hne]

theorem renewalCount_set (v : Value) :
    (p.set name v).renewalCount other = p.renewalCount other := by
  unfold set
  split <;> rfl

theorem differOnlyIn_set (v : Value) : DifferOnlyIn name p (p.set name v) := fun _ h =>
  ⟨get?_set_of_ne v h, renewalCount_set v⟩

theorem differOnlyIn_replace (v : Value) : DifferOnlyIn name p (p.replace name v) := by
  intro other h
  refine ⟨get?_set_of_ne v h, ?_⟩
  simp [renewalCount, replace, Ne.symm h]

end Parameters

namespace Change

/-- The name of the parameter that a change sets. -/
def parameter : Change → String
  | .name _ => "application_name"
  | .memory _ => "driver_memory"
  | .node _ => "driver_host"
  | .localResource .. => "local_resources"
  | .priority _ => "priority"
  | .preserveContainers _ => "keep_containers"
  | .maxAttempts _ => "max_attempts"
  | .queue _ => "queue"
  | .launcher _ => "launcher"
  | .configurationPaths _ => "configuration_paths"
  | .outputPath _ => "stdout_path"
  | .errorPath _ => "stderr_path"
  | .type _ => "application_type"
  | .tags _ => "application_tags"
  | .environment .. => "environment"

variable {p q : Parameters} {c : Change}

/-- A change sets its own parameter and no other. -/
theorem differOnlyIn_of_apply (h : c.apply p = .ok q) : p.DifferOnlyIn c.parameter q := by
  cases c with
  | configurationPaths v =>
    cases h
    exact Parameters.differOnlyIn_replace _
  | localResource key resource =>
    obtain ⟨v, -, h⟩ := bind_eq_ok h
    cases h
    exact Parameters.differOnlyIn_set v
  | tags more =>
    obtain ⟨v, -, h⟩ := bind_eq_ok h
    cases h
    exact Parameters.differOnlyIn_set v
  | environment given named =>
    obtain ⟨v, -, h⟩ := bind_eq_ok h
    cases h
    exact Parameters.differOnlyIn_set v
  | _ =>
    cases h
    exact Parameters.differOnlyIn_set _

/-- Values that tags can be: they are set, and no two of them are equal. -/
def AreTags (ts : List Value) : Prop :=
  (∀ t ∈ ts, t.isSet = true) ∧ ts.Pairwise fun t u => (t == u) = false

theorem any_of_anyM {t : Tag} {items : List Value} {found : Bool}
    (h : items.anyM t.equals = .ok found) : found = items.any (· == t.value) := by
  induction items with
  | nil =>
    cases h
    rfl
  | cons u items ih =>
    rw [List.anyM] at h
    obtain ⟨equal, hequal, h⟩ := bind_eq_ok h
    have hsame : equal = (u == t.value) := by
      unfold Tag.equals at hequal
      cases hfault : t.equalFault? u with
      | some r =>
        rw [hfault] at hequal
        cases hequal
      | none =>
        rw [hfault] at hequal
        cases hequal
        rfl
    rw [List.any_cons, ← hsame]
    cases equal with
    | true =>
      cases h
      rfl
    | false => exact ih h

theorem of_isNewIn {t : Tag} {items : List Value} (h : t.isNewIn (.list items) = .ok true) :
    t.value.isSet = true ∧ ∀ u ∈ items, (u == t.value) = false := by
  obtain ⟨set, htruth, h⟩ := bind_eq_ok h
  cases set with
  | false => cases h
  | true =>
    obtain ⟨found, hfound, h⟩ := bind_eq_ok h
    have hnone : items.any (· == t.value) = false := by
      rw [← any_of_anyM hfound]
      simpa using Except.ok.inj h
    constructor
    · unfold Tag.truth at htruth
      cases hfault : t.truthFault? with
      | some r =>
        rw [hfault] at htruth
        cases htruth
      | none =>
        rw [hfault] at htruth
        exact Except.ok.inj htruth
    · simpa using List.any_eq_false.mp hnone

/-- However far it comes, adding tags keeps those that were there and leaves tags. -/
theorem extendTags_areTags (tags : List Tag) {ts : List Value} (hts : AreTags ts) :
    ∃ added, (extendTags (.list ts) tags).2 = .list (ts ++ added) ∧ AreTags (ts ++ added) := by
  induction tags generalizing ts with
  | nil => exact ⟨[], by simp [extendTags], by simpa using hts⟩
  | cons t tags ih =>
    rw [extendTags]
    rcases hnew : t.isNewIn (.list ts) with r | isNew
    · exact ⟨[], by simp, by simpa using hts⟩
    · cases isNew with
      | false => exact ih hts
      | true =>
        obtain ⟨hset, hdifferent⟩ := of_isNewIn hnew
        have hmore : AreTags (ts ++ [t.value]) := by
          refine ⟨?_, List.pairwise_append.mpr ⟨hts.2, List.pairwise_singleton _ _, ?_⟩⟩
          · intro u hu
            rcases List.mem_append.mp hu with hu | hu
            · exact hts.1 u hu
            · rw [List.mem_singleton.mp hu]
              exact hset
          · intro u hu v hv
            rw [List.mem_singleton.mp hv]
            exact hdifferent u hu
        obtain ⟨added, hadded, hall⟩ := ih hmore
        rw [List.append_assoc] at hadded hall
        exact ⟨_, hadded, hall⟩

/-- The parameters stay valid however far adding tags comes. -/
theorem isValid_of_extendTags (hp : p.IsValid) {tags : List Tag} {r : Except Reason Unit}
    {present : Value} (h : extendTags p.applicationTags tags = (r, present)) :
    { p with applicationTags := present }.IsValid := by
  obtain ⟨ts, hts, htags⟩ := hp.applicationTags
  obtain ⟨added, hadded, hall⟩ := extendTags_areTags tags htags
  rw [← hts, h] at hadded
  exact { hp with applicationTags := ⟨_, hadded, hall⟩ }

/-- Where adding tags fails, it has added those before the one that it failed with. -/
theorem extendTags_error {tags : List Tag} {present v : Value} {r : Reason}
    (h : extendTags present tags = (.error r, v)) : ∃ before t after,
      tags = before ++ t :: after ∧ extendTags present before = (.ok (), v) ∧
        t.isNewIn v = .error r := by
  induction tags generalizing present with
  | nil => cases h
  | cons t tags ih =>
    rw [extendTags] at h
    rcases hnew : t.isNewIn present with x | isNew
    · rw [hnew] at h
      cases h
      exact ⟨[], t, tags, rfl, rfl, hnew⟩
    · rw [hnew] at h
      obtain ⟨before, u, after, rfl, hbefore, hu⟩ := ih h
      refine ⟨t :: before, u, after, rfl, ?_, hu⟩
      rw [extendTags, hnew]
      exact hbefore

/-- Tags that nothing fails with are all looked at. -/
theorem extendTags_of_values (items vs : List Value) :
    ∃ present, extendTags (.list items) (vs.map Tag.of) = (.ok (), present) := by
  induction vs generalizing items with
  | nil => exact ⟨_, rfl⟩
  | cons v vs ih =>
    rw [List.map_cons, extendTags_of_cons]
    exact ih _

theorem textEntries_ok {es fs : List (Value × Value)} (h : textEntries es = .ok fs) :
    ∀ e ∈ fs, ∃ k v, e = (.text k, .text v) := by
  unfold textEntries at h
  induction es generalizing fs with
  | nil =>
    cases h
    simp
  | cons x es ih =>
    rw [List.mapM_cons] at h
    obtain ⟨e, he, h⟩ := bind_eq_ok h
    obtain ⟨rest, hrest, h⟩ := bind_eq_ok h
    obtain ⟨key, -, he⟩ := bind_eq_ok he
    obtain ⟨value, -, he⟩ := bind_eq_ok he
    cases he
    cases h
    intro d hd
    rcases List.mem_cons.mp hd with rfl | hd
    · exact ⟨key, value, rfl⟩
    · exact ih hrest d hd

theorem of_refusedIf {b : Bool} {r : Reason} (h : refusedIf (!b) r = none) : b = true := by
  cases b with
  | true => rfl
  | false => cases h

/-- A change that is not refused keeps the parameters valid. -/
theorem isValid_of_apply (hp : p.IsValid) (hc : c.refusal? = none) (h : c.apply p = .ok q) :
    q.IsValid := by
  cases c with
  | name v =>
    cases h
    exact { hp with applicationName := of_refusedIf hc }
  | memory v =>
    cases h
    exact { hp with driverMemory := Value.isAtLeast_iff.mp (of_refusedIf hc) }
  | node v =>
    cases h
    exact { hp with driverHost := Or.inr (of_refusedIf hc) }
  | priority v =>
    cases h
    exact { hp with priority := Value.isAtLeast_iff.mp (of_refusedIf hc) }
  | maxAttempts v =>
    cases h
    exact { hp with maxAttempts := Value.isAtLeast_iff.mp (of_refusedIf hc) }
  | queue v =>
    cases h
    exact { hp with queue := of_refusedIf hc }
  | launcher v =>
    cases h
    exact { hp with launcher := of_refusedIf hc }
  | type v =>
    cases h
    exact { hp with applicationType := of_refusedIf hc }
  | preserveContainers v | outputPath v | errorPath v | configurationPaths v =>
    cases h
    exact { hp with }
  | localResource key resource =>
    obtain ⟨es, hes, hall⟩ := hp.localResources
    obtain ⟨v, hv, h⟩ := bind_eq_ok h
    cases h
    have hchecked : key.isSet = true ∧ resource.isResource = true := by
      simp only [refusal?] at hc
      split at hc
      · cases hc
      · rename_i hkey
        exact ⟨by simpa using hkey, of_refusedIf hc⟩
    rw [hes] at hv
    unfold storeUnder at hv
    dsimp only at hv
    split at hv
    · cases hv
      refine { hp with localResources := ⟨_, rfl, ?_⟩ }
      exact Value.forall_mem_insert (p := fun a b => a.isSet = true ∧ b.isResource = true) hall
        hchecked fun e he => ⟨(hall e he).1, hchecked.2⟩
    · cases hv
  | tags more =>
    obtain ⟨v, hv, h⟩ := bind_eq_ok h
    cases h
    unfold withTags at hv
    split at hv
    · rename_i w hw
      cases hv
      exact isValid_of_extendTags hp hw
    · cases hv
  | environment given named =>
    obtain ⟨es, hes, hall⟩ := hp.environment
    obtain ⟨v, hv, h⟩ := bind_eq_ok h
    cases h
    rw [hes] at hv
    obtain ⟨_, hsame, hv⟩ := bind_eq_ok hv
    cases hsame
    split at hv
    · obtain ⟨_, hmore, hv⟩ := bind_eq_ok hv
      cases hmore
      obtain ⟨texts, htexts, hv⟩ := bind_eq_ok hv
      cases hv
      exact { hp with environment := ⟨_, rfl,
        Value.textEntries_update hall (textEntries_ok htexts)⟩ }
    · cases hv

end Change

/-- How a call that ends in some way moves the state of a submission. -/
inductive SubmissionState.Moves : Call → Except Failure Unit → SubmissionState →
    SubmissionState → Prop
  | stays (c : Call) (r : Except Failure Unit) (st : SubmissionState) : Moves c r st st
  | submitted : Moves .submit (.ok ()) .configuring .submitted
  | closed (r : Except Failure Unit) (st : SubmissionState) : Moves .close r st .closed

theorem SubmissionState.Moves.closed_final {c : Call} {r : Except Failure Unit}
    {st : SubmissionState} (h : Moves c r .closed st) : st = .closed := by
  cases h <;> rfl

namespace Submission

variable {s s' : Submission} {w w' : World}

/-- What begins as a submission and what calls make of it, over any negotiator, and whatever happens
in the world between the calls. Tags can be added that fail to be looked at. -/
inductive Arises : Submission → Prop
  | start {n : Negotiator} {plan : SubmissionPlan} {s : Submission} {w w' : World}
      (h : Submission.start n plan w = (.ok s, w')) : Arises s
  | call {c : Call} {s s' : Submission} {w w' : World} {r : Except Failure Unit} (hs : Arises s)
      (h : s.perform c w = ((r, s'), w')) : Arises s'
  | tagged {tags : List Tag} {s s' : Submission} {r : Except Failure Unit} (hs : Arises s)
      (h : s.addTags tags = (r, s')) : Arises s'

theorem start_ok {n : Negotiator} {plan : SubmissionPlan} (h : start n plan w = (.ok s, w')) :
    s.negotiator = n ∧ ∃ wrapper, s.parameters = { wrapper := wrapper } := by
  unfold start at h
  obtain ⟨_, _, -, h⟩ := Run.of_bind_ok h
  obtain ⟨⟨id, ceiling⟩, _, -, h⟩ := Run.of_bind_ok h
  obtain ⟨handle, _, -, h⟩ := Run.of_bind_ok h
  obtain ⟨_, _, -, h⟩ := Run.of_bind_ok h
  cases h
  exact ⟨rfl, _, rfl⟩

theorem of_inStep_ok {α : Type} {step : SubmissionStep} {body : Run α} {a : α}
    (h : s.inStep step body w = (.ok a, w')) : ∃ w₁, body w₁ = (.ok a, w') := by
  obtain ⟨_, w₁, -, h⟩ := Run.of_bind_ok h
  refine ⟨w₁, ?_⟩
  rcases hbody : body w₁ with ⟨f | b, w₂⟩
  · simp only [hbody] at h
    cases h
  · simp only [hbody] at h
    exact h

/-- Only a submission that is being configured can be submitted. -/
theorem submit_ok {report : SubmissionReport} (h : s.submit w = (.ok (report, s'), w')) :
    s.state = .configuring ∧ s' = { s with state := .submitted } := by
  unfold submit at h
  obtain ⟨_, _, hvalid, h⟩ := Run.of_bind_ok h
  have hready : s.state = .configuring := by
    obtain ⟨_, hvalid⟩ := of_inStep_ok hvalid
    rcases hv : s.validate with x | _
    · rw [hv] at hvalid
      cases hvalid
    · exact (validate_ok hv).1
  refine ⟨hready, ?_⟩
  obtain ⟨request, _, -, h⟩ := Run.of_bind_ok h
  obtain ⟨spec, _, -, h⟩ := Run.of_bind_ok h
  obtain ⟨policy, _, -, h⟩ := Run.of_bind_ok h
  obtain ⟨_, _, -, h⟩ := Run.of_bind_ok h
  dsimp only at h
  split at h
  · obtain ⟨c, _, -, h⟩ := Run.of_bind_ok h
    cases h
    rfl
  · cases h
    rfl

/-- Closing leaves the parameters alone, and can only move the state to its end. -/
theorem close_moves {r : Except Failure Unit} (h : s.close w = ((r, s'), w')) :
    s' = s ∨ s' = { s with state := .closed } := by
  unfold close at h
  split at h
  · cases h
    exact Or.inl rfl
  · split at h
    · cases h
      exact Or.inl rfl
    · cases h
      exact Or.inr rfl

/-- A call leaves everything but the parameters and the state alone, the parameters as well unless
it is a change, and the state if it is one. -/
theorem perform_moves {c : Call} {r : Except Failure Unit}
    (h : s.perform c w = ((r, s'), w')) :
    ∃ p st, s' = { s with parameters := p, state := st } ∧ s.state.Moves c r st ∧
      (p = s.parameters ∨ ∃ d, c = .change d ∧ d.refusal? = none ∧
        d.apply s.parameters = .ok p) := by
  cases c with
  | change d =>
    rcases change_cases s d with ⟨f, hf⟩ | ⟨p, hp, -, hd, happly⟩
    · simp only [perform, hf] at h
      cases h
      exact ⟨_, _, rfl, .stays _ _ _, Or.inl rfl⟩
    · simp only [perform, hp] at h
      cases h
      exact ⟨p, _, rfl, .stays _ _ _, Or.inr ⟨d, rfl, hd, happly⟩⟩
  | submit =>
    rcases hsubmit : s.submit w with ⟨f | ⟨report, s₁⟩, w₁⟩
    · simp only [perform, hsubmit] at h
      cases h
      exact ⟨_, _, rfl, .stays _ _ _, Or.inl rfl⟩
    · simp only [perform, hsubmit] at h
      obtain ⟨hstate, rfl⟩ := submit_ok hsubmit
      cases h
      exact ⟨_, _, rfl, hstate ▸ .submitted, Or.inl rfl⟩
  | close =>
    rcases close_moves h with rfl | rfl
    · exact ⟨_, _, rfl, .stays _ _ _, Or.inl rfl⟩
    · exact ⟨_, _, rfl, .closed _ _, Or.inl rfl⟩

/-- Adding tags changes nothing but the tags, and these only while the submission is being
configured. -/
theorem addTags_cases (s : Submission) (tags : List Tag) :
    (s.state ≠ .configuring ∧ s.addTags tags = (.error s.frozen, s)) ∨
      (s.state = .configuring ∧ ∃ r present,
        Change.extendTags s.parameters.applicationTags tags = (r, present) ∧
          s.addTags tags = (r.mapError Reason.failure,
            { s with parameters := { s.parameters with applicationTags := present } })) := by
  unfold addTags
  by_cases hstate : s.state = .configuring
  · rw [if_neg (not_not.mpr hstate)]
    exact Or.inr ⟨hstate, _, _, rfl, rfl⟩
  · rw [if_pos hstate]
    exact Or.inl ⟨hstate, rfl⟩

theorem Arises.isValid (hs : s.Arises) : s.parameters.IsValid := by
  induction hs with
  | start h =>
    obtain ⟨-, wrapper, hp⟩ := start_ok h
    rw [hp]
    exact Parameters.isValid_initial wrapper
  | call hs h ih =>
    obtain ⟨p, st, rfl, -, hp⟩ := perform_moves h
    rcases hp with rfl | ⟨d, -, hd, happly⟩
    · exact ih
    · exact Change.isValid_of_apply ih hd happly
  | @tagged tags s s' r hs h ih =>
    rcases s.addTags_cases tags with ⟨-, hrefused⟩ | ⟨-, r, present, hextended, hadded⟩
    · rw [hrefused] at h
      cases h
      exact ih
    · rw [hadded] at h
      cases h
      exact Change.isValid_of_extendTags ih hextended

/-- Where nothing fails to be looked at, adding tags is a change like the others. -/
theorem addTags_of_values (hp : s.parameters.IsValid) (vs : List Value) (w : World) :
    s.perform (.change (.tags vs)) w = (s.addTags (vs.map Tag.of), w) := by
  obtain ⟨ts, hts, -⟩ := hp.applicationTags
  obtain ⟨present, hextended⟩ := Change.extendTags_of_values ts vs
  rw [← hts] at hextended
  rcases s.addTags_cases (vs.map Tag.of) with ⟨hstate, hrefused⟩ | ⟨hstate, r, v, hsame, hadded⟩
  · have hchange : s.change (.tags vs) = .error s.frozen := by
      simp [change, Change.refusal?, hstate, throw, throwThe, MonadExceptOf.throw, bind,
        Except.bind]
    rw [hrefused]
    simp only [perform, hchange]
  · rw [hextended] at hsame
    cases hsame
    have happly : Change.apply s.parameters (.tags vs) =
        .ok { s.parameters with applicationTags := present } := by
      have hwith : Change.withTags s.parameters.applicationTags vs = .ok present := by
        unfold Change.withTags
        rw [hextended]
      change (do return { s.parameters with
        applicationTags := ← Change.withTags s.parameters.applicationTags vs }) = _
      rw [hwith]
      rfl
    have hchange : s.change (.tags vs) =
        .ok { s with parameters := { s.parameters with applicationTags := present } } := by
      simp [change, Change.refusal?, hstate, happly, pure, Except.pure]
    rw [hadded]
    simp only [perform, hchange]
    rfl

end Submission

/-- A tag whose comparison always fails, as that of an object whose own equality raises. -/
def Tag.incomparable : Tag where
  value := .list [.null]
  equalFault? := fun _ => some (.given .runtime [])

end ClusterSubmission
