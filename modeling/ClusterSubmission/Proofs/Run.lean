import ClusterSubmission.Proofs.Console

/-!
# How operations run

An operation that is put together from others runs them in turn and ends with the first that fails.
Records of the log leave the world as it is; all that they can do is to fail on the console.
-/
namespace ClusterSubmission

variable {α β : Type}

/-- Whether records about the progress are shown, and with them possibly more detailed ones. -/
def World.isTalkative (w : World) : Bool := w.isLogged libraryName infoLevel

/-- A failure as it was raised, with nothing noted about it yet. -/
def Failure.IsBare (f : Failure) : Prop := f.notes = []

/-- A failure of a record on the console, which needs a logger that shows such records. -/
def IsConsoleFault (w : World) (f : Failure) : Prop :=
  f.kind = .markup ∧ f.IsBare ∧ w.isTalkative = true

theorem not_isConsoleFault {w : World} (h : w.isTalkative = false) (f : Failure) :
    ¬ IsConsoleFault w f := by
  rintro ⟨-, -, hshown⟩
  rw [h] at hshown
  cases hshown

/-- Whether an operation ends with a failure that passes a test. -/
def failsWith (p : Failure → Bool) : Except Failure α → Bool
  | .error f => p f
  | .ok _ => false

theorem exists_of_failsWith {p : Failure → Bool} {r : Except Failure α}
    (h : failsWith p r = true) : ∃ f, r = .error f ∧ p f = true := by
  cases r with
  | error f => exact ⟨f, rfl, h⟩
  | ok a => cases h

namespace Run

@[simp] theorem pure_apply (a : α) (w : World) : (pure a : Run α) w = (.ok a, w) := rfl

@[simp] theorem throw_apply (f : Failure) (w : World) : (throw f : Run α) w = (.error f, w) := rfl

@[simp] theorem fail_apply (r : Reason) (w : World) : (fail r : Run α) w = (.error r.failure, w) :=
  rfl

@[simp] theorem get_apply (w : World) : (get : Run World) w = (.ok w, w) := rfl

@[simp] theorem modify_apply (f : World → World) (w : World) :
    (modify f : Run Unit) w = (.ok (), f w) := rfl

@[simp] theorem ofExcept_ok (a : α) (w : World) : ofExcept (.ok a) w = (.ok a, w) := rfl

@[simp] theorem ofExcept_error (r : Reason) (w : World) :
    (ofExcept (.error r) : Run α) w = (.error r.failure, w) := rfl

@[simp] theorem ofResult_apply (x : Except Failure α) (w : World) : ofResult x w = (x, w) := by
  cases x <;> rfl

theorem bind_of_ok {x : Run α} {f : α → Run β} {w w' : World} {a : α} (h : x w = (.ok a, w')) :
    (x >>= f) w = f a w' := by
  simp only [bind, ExceptT.bind, ExceptT.mk, StateT.bind, h]
  rfl

theorem bind_of_error {x : Run α} {f : α → Run β} {w w' : World} {e : Failure}
    (h : x w = (.error e, w')) : (x >>= f) w = (.error e, w') := by
  simp only [bind, ExceptT.bind, ExceptT.mk, StateT.bind, h]
  rfl

/-- A sequence fails with its first part, or goes on with the value of it. -/
theorem bind_cases {x : Run α} {f : α → Run β} {w w' : World} {r : Except Failure β}
    (h : (x >>= f) w = (r, w')) :
    (∃ e, x w = (.error e, w') ∧ r = .error e) ∨
      ∃ a w₁, x w = (.ok a, w₁) ∧ f a w₁ = (r, w') := by
  rcases hx : x w with ⟨e | a, w₁⟩
  · rw [bind_of_error hx] at h
    obtain ⟨rfl, rfl⟩ := Prod.mk.inj h
    exact Or.inl ⟨e, rfl, rfl⟩
  · rw [bind_of_ok hx] at h
    exact Or.inr ⟨a, w₁, rfl, h⟩

/-- A sequence that succeeds has parts that succeed. -/
theorem of_bind_ok {x : Run α} {f : α → Run β} {w w' : World} {b : β}
    (h : (x >>= f) w = (.ok b, w')) : ∃ a w₁, x w = (.ok a, w₁) ∧ f a w₁ = (.ok b, w') := by
  rcases bind_cases h with ⟨e, -, hr⟩ | h
  · cases hr
  · exact h

theorem bind_ofResult {γ : Type} {x : Run α} {r : Except Failure α} {w w' : World}
    (h : x w = (r, w')) (f : α → Except Failure β) (k : β → Run γ) :
    (x >>= fun a => ofResult (f a) >>= k) w = (ofResult (r >>= f) >>= k) w' := by
  cases r with
  | error e => exact bind_of_error h
  | ok a => exact bind_of_ok h

theorem bind_pure {x : Run α} {r : Except Failure α} {w w' : World} (h : x w = (r, w'))
    (g : α → β) : (x >>= fun a => pure (g a)) w = (r >>= fun a => .ok (g a), w') := by
  cases r with
  | error e => exact bind_of_error h
  | ok a => exact bind_of_ok h

@[simp] theorem get_bind (f : World → Run β) (w : World) : (get >>= f) w = f w w := rfl

@[simp] theorem modify_bind (g : World → World) (f : Unit → Run β) (w : World) :
    ((modify g : Run Unit) >>= f) w = f () (g w) := rfl

@[simp] theorem fail_bind (r : Reason) (f : α → Run β) (w : World) :
    (fail r >>= f) w = (.error r.failure, w) := rfl

@[simp] theorem pure_bind_apply (a : α) (f : α → Run β) (w : World) :
    ((pure a : Run α) >>= f) w = f a w := rfl

@[simp] theorem ofExcept_ok_bind (a : α) (f : α → Run β) (w : World) :
    (ofExcept (.ok a) >>= f) w = f a w := rfl

@[simp] theorem ofResult_ok_bind (a : α) (f : α → Run β) (w : World) :
    (ofResult (.ok a) >>= f) w = f a w := rfl

@[simp] theorem ofResult_error_bind (e : Failure) (f : α → Run β) (w : World) :
    ((ofResult (.error e) : Run α) >>= f) w = (.error e, w) := rfl

@[simp] theorem ofExcept_error_bind (r : Reason) (f : α → Run β) (w : World) :
    ((ofExcept (.error r) : Run α) >>= f) w = (.error r.failure, w) := rfl

end Run

namespace World

theorem isLogged_congr {w w' : World} (h : w'.loggers = w.loggers) (name : String) (level : Int) :
    w'.isLogged name level = w.isLogged name level := by
  have hlogger : w'.logger = w.logger := by
    funext n
    simp only [logger, h]
  simp only [isLogged, levelFor, hlogger]

theorem isTalkative_of_debug {w : World} (h : w.isLogged libraryName debugLevel = true) :
    w.isTalkative = true := by
  have hlevel : (0 : Int) < infoLevel ∧ debugLevel ≤ infoLevel := by decide
  obtain ⟨-, hle⟩ := Bool.and_eq_true_iff.mp h
  exact Bool.and_eq_true_iff.mpr ⟨decide_eq_true hlevel.1,
    decide_eq_true (Int.le_trans (of_decide_eq_true hle) hlevel.2)⟩

theorem not_isTalkative {w : World} (h : w.levelFor libraryName = warningLevel) :
    w.isTalkative = false := by
  simp [isTalkative, isLogged, h, warningLevel, infoLevel]

end World

namespace Log

theorem OpenTag.afterClosing_error {position : Nat} {body name : List Char} {opened : List OpenTag}
    {r : Reason} (h : OpenTag.afterClosing position body name opened = .error r) :
    r.kind = .markup := by
  unfold OpenTag.afterClosing at h
  dsimp only at h
  split at h
  · rename_i t rest _
    cases hfault : t.closingFault? with
    | none =>
      rw [hfault] at h
      cases h
    | some e =>
      rw [hfault] at h
      cases h
      unfold OpenTag.closingFault? at hfault
      split at hfault
      · split at hfault
        · cases hfault
          rfl
        · cases hfault
      · cases hfault
  · cases h
    split <;> rfl

theorem renderPieces_error {opened : List OpenTag} {pieces : List MarkupPiece} {r : Reason}
    (h : renderPieces opened pieces = .error r) : r.kind = .markup := by
  induction pieces generalizing opened with
  | nil => cases h
  | cons piece rest ih =>
    cases piece with
    | plain cs =>
      unfold renderPieces at h
      rcases hr : renderPieces opened rest with e | ds
      · rw [hr] at h
        cases h
        exact ih hr
      · rw [hr] at h
        cases h
    | tag p body =>
      unfold renderPieces at h
      split at h
      rename_i name parameters _
      split at h
      · rename_i name _
        rcases hclosed : OpenTag.afterClosing p body name opened with e | opened'
        · rw [hclosed] at h
          cases h
          exact OpenTag.afterClosing_error hclosed
        · rw [hclosed] at h
          exact ih h
      · exact ih h

theorem renderMarkup_error {line : String} {r : Reason} (h : renderMarkup line = .error r) :
    r.kind = .markup := by
  unfold renderMarkup at h
  simp only at h
  split at h
  · exact renderPieces_error h
  · cases h

end Log

namespace Run

/-- A record leaves the world as it is. It can only fail on a console that shows it. -/
theorem log_cases (level : Int) (m : String) (w : World) :
    log level m w = (.ok (), w) ∨ ∃ r, log level m w = (.error r.failure, w) ∧
      Log.renderMarkup ("[bold]" ++ libraryName ++ "[/] - " ++ m) = .error r ∧
      w.isLogged libraryName level = true := by
  unfold log
  rw [get_bind]
  split
  · rename_i h
    rcases hr : Log.renderMarkup ("[bold]" ++ libraryName ++ "[/] - " ++ m) with r | cs
    · exact Or.inr ⟨r, rfl, rfl, (Bool.and_eq_true_iff.mp h).1⟩
    · exact Or.inl rfl
  · exact Or.inl rfl

theorem log_of_closesNothing {m : String} (h : Log.ClosesNothing m.toList) (level : Int)
    (w : World) : log level m w = (.ok (), w) := by
  rcases log_cases level m w with hl | ⟨r, -, hr, -⟩
  · exact hl
  · obtain ⟨cs, hcs⟩ := Log.renderMarkup_record h
    rw [hcs] at hr
    cases hr

theorem debug_of_closesNothing {m : String} (h : Log.ClosesNothing m.toList) (w : World) :
    debug m w = (.ok (), w) := log_of_closesNothing h debugLevel w

theorem info_of_closesNothing {m : String} (h : Log.ClosesNothing m.toList) (w : World) :
    info m w = (.ok (), w) := log_of_closesNothing h infoLevel w

theorem debug_cases (m : String) (w : World) :
    debug m w = (.ok (), w) ∨ ∃ f, debug m w = (.error f, w) ∧ IsConsoleFault w f := by
  rcases log_cases debugLevel m w with h | ⟨r, h, hr, hl⟩
  · exact Or.inl h
  · exact Or.inr ⟨_, h, Log.renderMarkup_error hr, rfl, World.isTalkative_of_debug hl⟩

theorem info_cases (m : String) (w : World) :
    info m w = (.ok (), w) ∨ ∃ f, info m w = (.error f, w) ∧ IsConsoleFault w f := by
  rcases log_cases infoLevel m w with h | ⟨r, h, hr, hl⟩
  · exact Or.inl h
  · exact Or.inr ⟨_, h, Log.renderMarkup_error hr, rfl, hl⟩

end Run
end ClusterSubmission
