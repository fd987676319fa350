import ClusterSubmission.Log.Logger
import ClusterSubmission.Proofs.LogLevel

/-!
# Where a logger writes

Every call for a logger says where it is to write. The call compares only whether that is a file and
whether the logger writes to one, takes the old handler away before it has a new one, and sets the
level last. So a logger writes where the last call that returned has said, unless one of its calls
asks for another file, for a file that cannot be opened, or for a level that is not known.
-/
namespace ClusterSubmission

/-- A call for a logger, and the world that it was made in. -/
structure LoggerTurn where
  before : World
  name : Value := .null
  level : Value := .null
  target : Value := .null

namespace LoggerTurn

variable (t : LoggerTurn) (n : String)

def run : Except Failure String × World := Log.getLogger t.name t.level t.target t.before

def result : Except Failure String := t.run.1

def after : World := t.run.2

/-- The logger as the call finds it. -/
def held : Logger := t.before.logger n

/-- The logger as the call leaves it. -/
def left : Logger := t.after.logger n

/-- The call is one for the logger with a name. -/
def IsFor : Prop := t.name.orElse (.text libraryName) = .text n

/-- The level that is asked for: the one that was given, or else that of the environment. -/
def asked : Value :=
  if t.level.isSet then t.level
  else match (t.before.environment.find? (·.1 == Log.levelVariable)).map (·.2) with
    | some s => .text s
    | none => .null

/-- The target that is asked for: the one that was given, or else whether there is a level. -/
def wanted : Value := if t.target.isNull then .bool !t.asked.isNull else t.target

/-- The handler that is asked for: the file at a path, or else the console. -/
def handler : LogHandler :=
  match Log.filePath? t.wanted with
  | some path => .file path
  | none => .console

/-- The level that the call is to set. -/
def least : Except Reason Int :=
  Log.levelOf (if t.wanted.isSet then t.asked.orElse (.int infoLevel) else .int warningLevel)

/-- The files once the handler is there. -/
def opened : Except Reason FileTree :=
  match t.handler with
  | .file path => t.before.files.append path []
  | .console => .ok t.before.files

/-- Whether the logger has a handler of the kind that is asked for. -/
def fits : Bool := (t.held n).handlers.any fun h => Log.isFile h == Log.isFile t.handler

/-- How a call ends, and the logger that it leaves. -/
inductive Ends : Except Failure String → Logger → Prop
  | kept {level : Int} (hfits : t.fits n = true) (hlevel : t.least = .ok level) :
    Ends (.ok n) ⟨level, false, (t.held n).handlers⟩
  | keptUnknown {r : Reason} (hfits : t.fits n = true) (hlevel : t.least = .error r) :
    Ends (.error r.failure) ⟨(t.held n).level, false, (t.held n).handlers⟩
  | refused {r : Reason} (hfits : t.fits n = false) (hopened : t.opened = .error r) :
    Ends (.error r.failure) ⟨(t.held n).level, false, []⟩
  | moved {level : Int} {files : FileTree} (hfits : t.fits n = false)
      (hopened : t.opened = .ok files) (hlevel : t.least = .ok level) :
    Ends (.ok n) ⟨level, false, [t.handler]⟩
  | movedUnknown {r : Reason} {files : FileTree} (hfits : t.fits n = false)
      (hopened : t.opened = .ok files) (hlevel : t.least = .error r) :
    Ends (.error r.failure) ⟨(t.held n).level, false, [t.handler]⟩

/-- How a call ends in a world where its logger has its handler. -/
def settle (w : World) : Except Failure String × World :=
  match t.least with
  | .ok level => (.ok n, w.setLogger n { w.logger n with level := level })
  | .error r => (.error r.failure, w)

/-- The world with a logger that passes no records on, and has some handlers. -/
def withHandlers (files : FileTree) (handlers : List LogHandler) : World :=
  { t.before.setLogger n ⟨(t.held n).level, false, handlers⟩ with files }

variable {t n} {files : FileTree} {handlers : List LogHandler}

theorem isFile_handler (t : LoggerTurn) :
    Log.isFile t.handler = (Log.filePath? t.wanted).isSome := by
  unfold handler
  cases Log.filePath? t.wanted <;> rfl

theorem logger_withHandlers :
    (t.withHandlers n files handlers).logger n = ⟨(t.held n).level, false, handlers⟩ :=
  World.logger_setLogger t.before n _

theorem withHandlers_again (more : List LogHandler) :
    (t.withHandlers n files handlers).setLogger n ⟨(t.held n).level, false, more⟩ =
      t.withHandlers n files more := by
  have hkept : ((t.withHandlers n files handlers).loggers.filter (·.1 != n)) =
      t.before.loggers.filter (·.1 != n) := by
    simp [withHandlers, World.setLogger, List.filter_append, List.filter_filter]
  unfold World.setLogger
  rw [hkept]
  rfl

theorem settle_eq (w : World) : (do
    let least ← Run.ofExcept t.least
    modify fun w => w.setLogger n { w.logger n with level := least }
    return n : Run String) w = t.settle n w := by
  unfold settle
  cases t.least <;> rfl

/-- A handler that is new is the one that is asked for. -/
theorem newHandler_eq : Log.newHandler (Log.filePath? t.wanted)
    (t.withHandlers n t.before.files handlers) = match t.opened with
      | .ok files => (.ok t.handler, t.withHandlers n files handlers)
      | .error r => (.error r.failure, t.withHandlers n t.before.files handlers) := by
  unfold Log.newHandler opened handler
  cases Log.filePath? t.wanted with
  | none => rfl
  | some path =>
    change (do
      let files ← Run.ofExcept (t.before.files.append path [])
      modify fun w => { w with files }
      return .file path : Run LogHandler) _ = _
    dsimp only
    cases t.before.files.append path [] <;> rfl

theorem run_eq (h : t.IsFor n) : t.run =
    if t.fits n then t.settle n (t.withHandlers n t.before.files (t.held n).handlers)
    else match t.opened with
      | .ok files => t.settle n (t.withHandlers n files [t.handler])
      | .error r => (.error r.failure, t.withHandlers n t.before.files []) := by
  have hname : t.name.orElse (.text libraryName) = .text n := h
  -- The handlers are compared by their kind only: a file at another path fits as well.
  have hfits : ((t.held n).handlers.any fun h =>
      Log.isFile h == (Log.filePath? t.wanted).isSome) = t.fits n := by
    rw [← isFile_handler]
    rfl
  unfold run Log.getLogger Run.environmentValue?
  simp only [bind_assoc, Run.get_bind, pure_bind, hname]
  rw [Run.modify_bind, Run.get_bind, World.logger_setLogger]
  change (if (!((t.held n).handlers.any fun h =>
    Log.isFile h == (Log.filePath? t.wanted).isSome)) = true then _ else _ : Run String)
      (t.withHandlers n t.before.files (t.held n).handlers) = _
  rw [hfits]
  cases t.fits n with
  | true => exact settle_eq _
  | false =>
    -- The handlers are gone before the new one is there, and stay gone if it cannot be opened.
    rw [if_pos (show (!false) = true from rfl), Run.modify_bind, logger_withHandlers,
      withHandlers_again]
    have hnew := @newHandler_eq t n []
    cases hopened : t.opened with
    | error r =>
      rw [hopened] at hnew
      exact Run.bind_of_error hnew
    | ok files =>
      rw [hopened] at hnew
      refine (Run.bind_of_ok hnew).trans ?_
      rw [Run.modify_bind, logger_withHandlers, withHandlers_again]
      exact settle_eq _

theorem ends (h : t.IsFor n) : t.Ends n t.result (t.left n) := by
  unfold result left after
  rw [run_eq h]
  cases hfits : t.fits n with
  | true =>
    rw [if_pos rfl]
    unfold settle
    cases hlevel : t.least with
    | ok level =>
      dsimp only
      rw [World.logger_setLogger, logger_withHandlers]
      exact .kept hfits hlevel
    | error r =>
      dsimp only
      rw [logger_withHandlers]
      exact .keptUnknown hfits hlevel
  | false =>
    rw [if_neg Bool.false_ne_true]
    cases hopened : t.opened with
    | error r =>
      dsimp only
      rw [logger_withHandlers]
      exact .refused hfits hopened
    | ok files =>
      dsimp only
      unfold settle
      cases hlevel : t.least with
      | ok level =>
        dsimp only
        rw [World.logger_setLogger, logger_withHandlers]
        exact .moved hfits hopened hlevel
      | error r =>
        dsimp only
        rw [logger_withHandlers]
        exact .movedUnknown hfits hopened hlevel

/-- A call keeps to what it says: it returns and the logger writes where it asks for, or it fails
and leaves the handlers and the level as they were. -/
structure Keeps (t : LoggerTurn) (n : String) : Prop where
  returned : t.result = .ok n → (t.left n).handlers = [t.handler]
  raised : ∀ f, t.result = .error f →
    (t.left n).handlers = (t.held n).handlers ∧ (t.left n).level = (t.held n).level

/-- The calls that do not, and the handlers that they leave. -/
inductive Strays (t : LoggerTurn) (n : String) : List LogHandler → Prop
  | otherFile {path old : String} {level : Int} (hasked : t.handler = .file path)
      (hheld : (t.held n).handlers = [.file old]) (hother : old ≠ path)
      (hlevel : t.least = .ok level) : Strays t n [.file old]
  | noFile {path : String} {r : Reason} (hasked : t.handler = .file path)
      (hheld : (t.held n).handlers = [.console])
      (hopened : t.before.files.append path [] = .error r) : Strays t n []
  | noLevel {files : FileTree} {r : Reason} (hheld : t.fits n = false)
      (hopened : t.opened = .ok files) (hlevel : t.least = .error r) : Strays t n [t.handler]

/-- A logger with one handler at most fits if it has one of the kind that is asked for. -/
theorem fits_cases (hone : (t.held n).handlers.length ≤ 1) (hfits : t.fits n = true) :
    ∃ old, (t.held n).handlers = [old] ∧ Log.isFile old = Log.isFile t.handler := by
  obtain ⟨old, hmem, hkind⟩ := List.any_eq_true.mp hfits
  obtain ⟨l, hl⟩ := List.length_eq_one_iff.mp (Nat.le_antisymm hone (List.length_pos_of_mem hmem))
  rw [hl] at hmem
  obtain rfl := List.mem_singleton.mp hmem
  exact ⟨old, hl, eq_of_beq hkind⟩

/-- Only a file can be one that cannot be opened. -/
theorem opened_error {r : Reason} (h : t.opened = .error r) :
    ∃ path, t.handler = .file path ∧ t.before.files.append path [] = .error r := by
  unfold opened at h
  cases hasked : t.handler with
  | console =>
    rw [hasked] at h
    cases h
  | file path =>
    rw [hasked] at h
    exact ⟨path, rfl, h⟩

theorem Keeps.of_ok (hr : t.result = .ok n) (hl : (t.left n).handlers = [t.handler]) :
    t.Keeps n := by
  refine ⟨fun _ => hl, fun f hf => ?_⟩
  rw [hr] at hf
  cases hf

theorem Keeps.of_error {f : Failure} (hr : t.result = .error f)
    (hl : (t.left n).handlers = (t.held n).handlers)
    (hlevel : (t.left n).level = (t.held n).level) : t.Keeps n := by
  refine ⟨fun hok => ?_, fun _ _ => ⟨hl, hlevel⟩⟩
  rw [hr] at hok
  cases hok

/-- A call that strays leaves other handlers than it says. -/
theorem Strays.leaves (h : t.Strays n handlers) (hfor : t.IsFor n) :
    (t.left n).handlers = handlers ∧ ¬ t.Keeps n := by
  have hends := ends hfor
  generalize hresult : t.result = result at hends
  generalize hleft : t.left n = left at hends
  cases h with
  | otherFile hasked hheld hother hlevel =>
    have hfits : t.fits n = true := by simp [fits, hheld, hasked, Log.isFile]
    cases hends with
    | kept =>
      refine ⟨hheld, fun hkeeps => hother ?_⟩
      have hhandlers := hkeeps.returned hresult
      rw [hleft, hasked, hheld] at hhandlers
      simpa using hhandlers
    | keptUnknown _ hunknown => cases hlevel.symm.trans hunknown
    | refused hnot => cases hfits.symm.trans hnot
    | moved hnot => cases hfits.symm.trans hnot
    | movedUnknown hnot => cases hfits.symm.trans hnot
  | @noFile path r hasked hheld hrefused =>
    have hfits : t.fits n = false := by simp [fits, hheld, hasked, Log.isFile]
    have hopened : t.opened = .error r := by
      unfold opened
      rw [hasked]
      exact hrefused
    cases hends with
    | refused =>
      refine ⟨rfl, fun hkeeps => ?_⟩
      have hhandlers := (hkeeps.raised _ hresult).1
      rw [hleft, hheld] at hhandlers
      cases hhandlers
    | kept hnot => cases hfits.symm.trans hnot
    | keptUnknown hnot => cases hfits.symm.trans hnot
    | moved _ hnot => cases hopened.symm.trans hnot
    | movedUnknown _ hnot => cases hopened.symm.trans hnot
  | noLevel hfits hopened hlevel =>
    cases hends with
    | movedUnknown =>
      refine ⟨rfl, fun hkeeps => ?_⟩
      have hhandlers := (hkeeps.raised _ hresult).1
      rw [hleft] at hhandlers
      unfold fits at hfits
      rw [← hhandlers] at hfits
      simp at hfits
    | kept hnot => cases hfits.symm.trans hnot
    | keptUnknown hnot => cases hfits.symm.trans hnot
    | refused _ hnot => cases hopened.symm.trans hnot
    | moved _ _ hnot => cases hlevel.symm.trans hnot

theorem keeps_of_not_strays (hfor : t.IsFor n) (hone : (t.held n).handlers.length ≤ 1)
    (h : ∀ handlers, ¬ t.Strays n handlers) : t.Keeps n := by
  have hends := ends hfor
  generalize hresult : t.result = result at hends
  generalize hleft : t.left n = left at hends
  cases hends with
  | kept hfits hlevel =>
    refine .of_ok hresult ?_
    obtain ⟨old, hheld, hkind⟩ := fits_cases hone hfits
    rw [hleft]
    dsimp only
    rw [hheld]
    cases hasked : t.handler with
    | console =>
      cases old with
      | console => rfl
      | file path =>
        rw [hasked] at hkind
        cases hkind
    | file path =>
      cases old with
      | console =>
        rw [hasked] at hkind
        cases hkind
      | file old =>
        by_cases hother : old = path
        · rw [hother]
        · exact absurd (.otherFile hasked hheld hother hlevel) (h _)
  | keptUnknown =>
    refine .of_error hresult ?_ ?_ <;> rw [hleft]
  | refused hfits hopened =>
    obtain ⟨path, hasked, hrefused⟩ := opened_error hopened
    refine .of_error hresult ?_ ?_ <;> rw [hleft]
    dsimp only
    match hheld : (t.held n).handlers, hone with
    | [], _ => rfl
    | [.console], _ => exact absurd (.noFile hasked hheld hrefused) (h _)
    | [.file old], _ =>
      -- A file fits another one, so that it would not have been taken away.
      unfold fits at hfits
      rw [hheld, hasked] at hfits
      cases hfits
  | moved =>
    refine .of_ok hresult ?_
    rw [hleft]
  | movedUnknown hfits hopened hlevel => exact absurd (.noLevel hfits hopened hlevel) (h _)

/-- Whatever the outcome, there is one handler at most, and a failure leaves the level. -/
theorem Ends.sound {result : Except Failure String} {left : Logger} (h : t.Ends n result left)
    (hone : (t.held n).handlers.length ≤ 1) : left.handlers.length ≤ 1 ∧
      (∀ f, result = .error f → left.level = (t.held n).level) ∧
      (∀ name, result = .ok name → name = n ∧ t.least = .ok left.level ∧
        ∃ h, left.handlers = [h] ∧ Log.isFile h = Log.isFile t.handler) := by
  cases h with
  | kept hfits hlevel =>
    refine ⟨hone, by simp, ?_⟩
    rintro name ⟨⟩
    exact ⟨rfl, hlevel, fits_cases hone hfits⟩
  | keptUnknown => exact ⟨hone, by simp, by simp⟩
  | refused => exact ⟨by simp, by simp, by simp⟩
  | moved hfits hopened hlevel =>
    refine ⟨by simp, by simp, ?_⟩
    rintro name ⟨⟩
    exact ⟨rfl, hlevel, _, rfl, rfl⟩
  | movedUnknown => exact ⟨by simp, by simp, by simp⟩

end LoggerTurn

/-- Calls one after the other for a logger that has no handler before the first one. Between two
calls anything may change but the logger. -/
inductive LoggerTurns (n : String) : List LoggerTurn → World → Prop
  | start {w : World} (h : (w.logger n).handlers = []) : LoggerTurns n [] w
  | call {ts : List LoggerTurn} {w : World} (t : LoggerTurn) (h : LoggerTurns n ts t.before)
      (hfor : t.IsFor n) (hkept : w.logger n = t.left n) : LoggerTurns n (ts ++ [t]) w

/-- The handler that the last call which returned has asked for. -/
def lastTarget? (ts : List LoggerTurn) : Option LogHandler :=
  (ts.reverse.find? (·.result.isOk)).map LoggerTurn.handler

theorem lastTarget?_concat (ts : List LoggerTurn) (t : LoggerTurn) :
    lastTarget? (ts ++ [t]) = if t.result.isOk then some t.handler else lastTarget? ts := by
  unfold lastTarget?
  rw [List.reverse_append, List.reverse_singleton, List.singleton_append, List.find?_cons]
  cases t.result.isOk <;> rfl

namespace LoggerTurns

variable {n : String} {ts : List LoggerTurn} {w : World}

theorem length_le_one (h : LoggerTurns n ts w) : (w.logger n).handlers.length ≤ 1 := by
  induction h with
  | start h => simp [h]
  | call t _ hfor hkept ih =>
    rw [hkept]
    exact ((LoggerTurn.ends hfor).sound ih).1

theorem handlers_eq (h : LoggerTurns n ts w) (hstays : ∀ t ∈ ts, ∀ hs, ¬ t.Strays n hs) :
    (w.logger n).handlers = (lastTarget? ts).toList := by
  -- On the calls from the first to the last: a call that returns moves the handler to its target,
  -- and one that fails leaves what the calls before it have left.
  induction h with
  | start h => exact h
  | call t hbefore hfor hkept ih =>
    have hkeeps := LoggerTurn.keeps_of_not_strays hfor hbefore.length_le_one
      (hstays t (List.mem_append_right _ (List.mem_singleton_self t)))
    have hheld := ih fun t ht => hstays t (List.mem_append_left _ ht)
    rw [hkept, lastTarget?_concat]
    cases hresult : t.result with
    | ok name =>
      obtain ⟨rfl, -, -⟩ := ((LoggerTurn.ends hfor).sound hbefore.length_le_one).2.2 name hresult
      exact hkeeps.returned hresult
    | error f => exact (hkeeps.raised f hresult).1.trans hheld

end LoggerTurns

/-- A logger has one handler at most, and as long as no call strays it is what the last call that
returned has asked for. A call strays exactly if it does not keep to what it says. -/
theorem logger_targets {n : String} {ts : List LoggerTurn} {w : World} (h : LoggerTurns n ts w) :
    (w.logger n).handlers.length ≤ 1 ∧
    ((∀ t ∈ ts, ∀ handlers, ¬ t.Strays n handlers) →
      (w.logger n).handlers = (lastTarget? ts).toList) ∧
    ∀ t : LoggerTurn, t.before = w → t.IsFor n →
      (t.Keeps n ↔ ∀ handlers, ¬ t.Strays n handlers) ∧
      (∀ handlers, t.Strays n handlers → (t.left n).handlers = handlers) ∧
      (∀ f, t.result = .error f → (t.left n).level = (w.logger n).level) ∧
      (∀ name, t.result = .ok name → name = n ∧ t.least = .ok (t.left n).level ∧
        ∃ h, (t.left n).handlers = [h] ∧ Log.isFile h = Log.isFile t.handler) := by
  refine ⟨h.length_le_one, h.handlers_eq, ?_⟩
  rintro t rfl hfor
  obtain ⟨-, hraised, hreturned⟩ := (LoggerTurn.ends hfor).sound h.length_le_one
  refine ⟨⟨?_, LoggerTurn.keeps_of_not_strays hfor h.length_le_one⟩, ?_, hraised, hreturned⟩
  · exact fun hkeeps handlers hstrays => (hstrays.leaves hfor).2 hkeeps
  · exact fun handlers hstrays => (hstrays.leaves hfor).1

/-- A logger that writes to a file from its first call on. -/
def LoggerTurn.first : LoggerTurn := ⟨{}, .text "a", .text "INFO", .text "one.log"⟩

/-- A call for the same file with a level that is not known. -/
def LoggerTurn.unknown : LoggerTurn := ⟨first.after, .text "a", .text "bogus", .text "one.log"⟩

/-- A call for the same logger with another file. -/
def LoggerTurn.second : LoggerTurn := ⟨first.after, .text "a", .text "INFO", .text "two.log"⟩

/-- A call that fails keeps the file of the one before it. -/
theorem logger_targets_unknown :
    LoggerTurns "a" [.first, .unknown] LoggerTurn.unknown.after ∧
    LoggerTurn.unknown.result.isOk = false ∧
    (LoggerTurn.unknown.left "a").handlers = [.file "one.log"] := by
  have hnone : (LoggerTurn.first.held "a").handlers = [] := by decide +kernel
  have hone : (LoggerTurn.unknown.held "a").handlers = [.file "one.log"] := by decide +kernel
  have hasked : LoggerTurn.unknown.handler = .file "one.log" := by decide +kernel
  have hfits : LoggerTurn.unknown.fits "a" = true := by decide +kernel
  have hlevel : LoggerTurn.first.least = .ok 20 := rfl
  have hstart : LoggerTurns "a" [] LoggerTurn.first.before := .start hnone
  have hbegun : LoggerTurns "a" [.first] LoggerTurn.unknown.before := hstart.call .first rfl rfl
  have hrun : LoggerTurns "a" [.first, .unknown] LoggerTurn.unknown.after :=
    hbegun.call .unknown rfl rfl
  have hfirst : ∀ handlers, ¬ LoggerTurn.first.Strays "a" handlers := by
    rintro handlers (⟨-, hheld, -, -⟩ | ⟨-, hheld, -⟩ | ⟨-, -, hunknown⟩)
    · cases hnone.symm.trans hheld
    · cases hnone.symm.trans hheld
    · cases hlevel.symm.trans hunknown
  have hunknown : ∀ handlers, ¬ LoggerTurn.unknown.Strays "a" handlers := by
    rintro handlers (⟨hfile, hheld, hother, -⟩ | ⟨-, hheld, -⟩ | ⟨hheld, -, -⟩)
    · cases hasked.symm.trans hfile
      cases hone.symm.trans hheld
      exact hother rfl
    · cases hone.symm.trans hheld
    · cases hfits.symm.trans hheld
  refine ⟨hrun, by decide +kernel, ((logger_targets hrun).2.1 ?_).trans (by decide +kernel)⟩
  intro t ht
  rcases List.mem_pair.mp ht with rfl | rfl
  · exact hfirst
  · exact hunknown

/-- A logger that was asked for another file returns and goes on writing to the old one. -/
theorem logger_keeps_file : LoggerTurns "a" [.first] LoggerTurn.second.before ∧
    LoggerTurn.second.IsFor "a" ∧ LoggerTurn.second.result = .ok "a" ∧
    LoggerTurn.second.handler = .file "two.log" ∧
    (LoggerTurn.second.left "a").handlers = [.file "one.log"] := by
  have hnone : (LoggerTurn.first.held "a").handlers = [] := by decide +kernel
  have hstart : LoggerTurns "a" [] LoggerTurn.first.before := .start hnone
  refine ⟨hstart.call .first rfl rfl, rfl, ?_, ?_, ?_⟩
  · rfl
  · decide +kernel
  · decide +kernel

end ClusterSubmission
