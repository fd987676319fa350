import ClusterSubmission.Launch
import Mathlib.Data.List.Induction

/-!
# What a command is built from

The parts of a launch command can be set as often as one likes, in any order, and the command can be
built in between. A command is what was last put in each part: what was put there before is
forgotten, and what is refused, or built, leaves no trace.
-/
namespace ClusterSubmission

/-- A call on a launch command: a part is set, or the command is built. -/
inductive LaunchCall where
  | set (part : LaunchPart) (value : Value)
  | build

theorem lt_textBound {n k : Nat} (h : n < Nat.pow 10 k) (hk : k ≤ 4300) : n < textBound := by
  unfold textBound
  generalize 4300 = digits at hk ⊢
  exact Nat.lt_of_lt_of_le h (Nat.pow_le_pow_right (by decide) hk)

namespace Value

theorem textFault?_int (n : Int) :
    textFault? (.int n) = if n.natAbs < textBound then none else some .integerTextTooLong := by
  simp [textFault?, literalFault?, isBelow]

theorem textFault?_nat {m : Int} (hm : 0 ≤ m) :
    textFault? (.int m) = if m < textBound then none else some .integerTextTooLong := by
  rw [textFault?_int]
  by_cases hshort : m < textBound
  · rw [if_pos hshort, if_pos (by omega)]
  · rw [if_neg hshort, if_neg (by omega)]

theorem shown_eq_ok {v : Value} {s : String} :
    v.shown = .ok s ↔ v.textFault? = none ∧ v.plain = s := by
  unfold shown
  cases v.textFault? <;> simp

/-- A sequence has tokens unless one of its members has no text. -/
theorem tokens_eq (v : Value) : v.tokens = v.tokenFault?.elim (.ok v.asTokens) .error := by
  unfold tokens tokenFault? asTokens
  induction v.asSequence with
  | nil => rfl
  | cons x xs ih =>
    rw [List.mapM_cons, ih, List.findSome?_cons]
    unfold shown
    cases x.textFault? with
    | some r => rfl
    | none => cases xs.findSome? textFault? <;> rfl

/-- Whether a value can be the heap size: it is null, or a number that is not zero or less. -/
def isHeapSize (v : Value) : Bool := v.isNull || v.quantity?.any fun q => !q.le (.int 0)

theorem isHeapSize_int (m : Int) : isHeapSize (.int m) = decide (0 < m) := by
  have hle : Quantity.le (.int m) (.int 0) = !decide (0 < m) := by
    change (some (compare m 0) == some .lt || some (compare m 0) == some .eq) = _
    rcases Int.lt_trichotomy m 0 with h | rfl | h
    · rw [Int.compare_eq_lt.mpr h]
      simp [Int.not_lt.mpr (Int.le_of_lt h)]
    · rfl
    · rw [Int.compare_eq_gt.mpr h]
      simp [h]
  simp [isHeapSize, isNull, quantity?, hle]

/-- Why a value cannot be the heap size: it is zero or less, which is said with its text, or no
number at all. -/
def heapRefusal (v : Value) : Reason :=
  if v.quantity?.isSome then v.textFault?.getD (.memoryNotPositive v.plain) else .wrongType

end Value

theorem commandLine_eq_ok {tokens : List Value} {line : String} :
    commandLine tokens = .ok line ↔
      (∀ t ∈ tokens, t.textFault? = none) ∧ joinCommand tokens = line := by
  unfold commandLine
  rw [← List.findSome?_eq_none_iff]
  cases tokens.findSome? Value.textFault? <;> simp

/-- Why a part does not take a value, if it does not. The heap size is looked at, and of a sequence
the members; the other parts take anything. -/
def LaunchPart.refusal? (part : LaunchPart) (v : Value) : Option Reason :=
  match part with
  | .memory => if v.isHeapSize then none else some v.heapRefusal
  | .wrapper | .jvmOptions | .configurationPaths => v.tokenFault?
  | _ => none

/-- The value that a call puts in a part. -/
def LaunchCall.puts? (part : LaunchPart) : LaunchCall → Option Value
  | .set p v => if p = part ∧ (p.refusal? v).isNone = true then some v else none
  | .build => none

/-- The value that was put in a part by the last of some calls which did so. -/
def lastPut? (calls : List LaunchCall) (part : LaunchPart) : Option Value :=
  calls.reverse.findSome? (LaunchCall.puts? part)

theorem lastPut?_concat (calls : List LaunchCall) (call : LaunchCall) (part : LaunchPart) :
    lastPut? (calls ++ [call]) part = (call.puts? part).or (lastPut? calls part) := by
  unfold lastPut?
  rw [List.reverse_append, List.reverse_singleton, List.singleton_append, List.findSome?_cons]
  cases call.puts? part <;> rfl

namespace LaunchCommand

/-- What a call gives, and the command behind it. What is refused leaves the command as it was. -/
def perform (c : LaunchCommand) : LaunchCall → Except Reason (List Value) × LaunchCommand
  | .set part v =>
    match c.set part v with
    | .ok d => (.ok [], d)
    | .error r => (.error r, c)
  | .build => (c.build, c)

/-- The command after some calls. -/
def after (c : LaunchCommand) (calls : List LaunchCall) : LaunchCommand :=
  calls.foldl (fun c call => (c.perform call).2) c

/-- The command whose parts have some values, and else what they have from the start. -/
def ofParts (put : LaunchPart → Option Value) : LaunchCommand where
  wrapper := ((put .wrapper).map Value.asTokens).getD []
  javaPath := ((put .javaPath).getD .null).orElse (.text defaultJavaPath)
  assertions := (put .assertions).getD (.bool false)
  memory := (put .memory).getD .null
  jvmOptions := ((put .jvmOptions).map Value.asTokens).getD []
  classpath := ((put .classpath).getD .null).orElse (.text defaultClasspath)
  launcher := (put .launcher).getD .null
  configurationPaths := ((put .configurationPaths).map Value.asTokens).getD []
  outputPath := (put .outputPath).getD .null
  errorPath := (put .errorPath).getD .null

/-- The command with a value in one of its parts. -/
def put (c : LaunchCommand) (part : LaunchPart) (v : Value) : LaunchCommand :=
  match part with
  | .wrapper => { c with wrapper := v.asTokens }
  | .javaPath => c.withJavaPath v
  | .assertions => c.withAssertions v
  | .memory => { c with memory := v }
  | .jvmOptions => { c with jvmOptions := v.asTokens }
  | .classpath => c.withClasspath v
  | .launcher => c.withLauncher v
  | .configurationPaths => { c with configurationPaths := v.asTokens }
  | .outputPath => c.withOutputPath v
  | .errorPath => c.withErrorPath v

theorem withMemory_eq (c : LaunchCommand) (v : Value) : c.withMemory v =
    if v.isHeapSize then .ok { c with memory := v } else .error v.heapRefusal := by
  unfold withMemory Value.heapRefusal Value.isHeapSize Value.shown
  rcases v.quantity? with _ | q
  · cases v.isNull <;> rfl
  · cases hle : q.le (.int 0) <;> cases v.isNull <;> cases v.textFault? <;> simp [hle] <;> rfl

/-- A value is put in its part unless the part does not take it. -/
theorem set_eq (c : LaunchCommand) (part : LaunchPart) (v : Value) :
    c.set part v = (part.refusal? v).elim (.ok (c.put part v)) .error := by
  cases part with
  | memory =>
    have hset : c.set .memory v = c.withMemory v := rfl
    rw [hset, withMemory_eq]
    cases hsize : v.isHeapSize <;> simp [LaunchPart.refusal?, hsize, put]
  | wrapper | jvmOptions | configurationPaths =>
    simp only [set, withWrapper, withJvmOptions, withConfigurationPaths, Value.tokens_eq]
    cases hfault : v.tokenFault? <;> simp [LaunchPart.refusal?, hfault, put]
  | _ => rfl

/-- A value that a part takes is set, and any other one is refused. -/
theorem perform_set (c : LaunchCommand) (part : LaunchPart) (v : Value) :
    (c.perform (.set part v)).1 = (part.refusal? v).elim (.ok []) .error := by
  unfold perform
  dsimp only
  rw [set_eq]
  cases part.refusal? v <;> rfl

theorem perform_of_error {c : LaunchCommand} {call : LaunchCall} {r : Reason}
    (h : (c.perform call).1 = .error r) : (c.perform call).2 = c := by
  cases call with
  | build => rfl
  | set part v =>
    unfold perform at *
    dsimp only at *
    cases hset : c.set part v with
    | ok d =>
      rw [hset] at h
      cases h
    | error r => rfl

/-- One call puts its value in place of what its part had. -/
theorem perform_ofParts (put : LaunchPart → Option Value) (call : LaunchCall) :
    ((ofParts put).perform call).2 = ofParts fun part => (call.puts? part).or (put part) := by
  cases call with
  | build => rfl
  | set part v =>
    unfold perform
    dsimp only
    rw [set_eq]
    cases hrefusal : part.refusal? v with
    | some r => simp [LaunchCall.puts?, hrefusal]
    | none => cases part <;> simp [LaunchCall.puts?, hrefusal, LaunchCommand.put, ofParts,
        withJavaPath, withAssertions, withClasspath, withLauncher, withOutputPath, withErrorPath]

theorem after_append (c : LaunchCommand) (calls later : List LaunchCall) :
    c.after (calls ++ later) = (c.after calls).after later := List.foldl_append

/-- The command after some calls has what was last put in its parts. -/
theorem after_eq (calls : List LaunchCall) : after {} calls = ofParts (lastPut? calls) := by
  induction calls using List.reverseRecOn with
  | nil => rfl
  | append_singleton calls call ih =>
    have hlast : after {} (calls ++ [call]) = ((after {} calls).perform call).2 :=
      after_append {} calls [call]
    rw [hlast, ih, perform_ofParts]
    exact congrArg ofParts (funext fun part => (lastPut?_concat calls call part).symm)

end LaunchCommand

/-- The tokens of a part that is a sequence. -/
def tokensOf (put : Option Value) : List Value := ((put.map Value.asTokens).getD []).map .text

/-- The token with the text of what was put in a part, if it passes a test. -/
def shownToken (test : Value → Bool) (put : Option Value) (token : String → String) : List Value :=
  ((put.filter test).map fun v => .text (token v.plain)).toList

/-- The groups of tokens of a command in their order, from what was put in its parts. -/
def commandGroups (put : LaunchPart → Option Value) : List (List Value) :=
  [tokensOf (put .wrapper),
   [((put .javaPath).filter Value.isSet).getD (.text defaultJavaPath)],
   if (put .assertions).any Value.isSet then [.text "-ea"] else [],
   shownToken (!·.isNull) (put .memory) ("-Xmx" ++ · ++ "m"),
   tokensOf (put .jvmOptions),
   [.text "-classpath"],
   [((put .classpath).filter Value.isSet).getD (.text defaultClasspath)],
   (put .launcher).toList,
   tokensOf (put .configurationPaths),
   shownToken Value.isSet (put .outputPath) ("1>" ++ ·),
   shownToken Value.isSet (put .errorPath) ("2>" ++ ·)]

/-- Why a command has no text, if it has none: the heap size, or else a file that an output goes to,
has none. -/
def commandFault? (put : LaunchPart → Option Value) : Option Reason :=
  [(put .memory).filter (!·.isNull), (put .outputPath).filter Value.isSet,
    (put .errorPath).filter Value.isSet].findSome? (·.bind Value.textFault?)

/-- What was never put somewhere is as good as null there. -/
theorem Value.isSet_getD_null (put : Option Value) :
    (put.getD .null).isSet = put.any Value.isSet := by
  cases put <;> rfl

theorem Value.orElse_getD_null (put : Option Value) (default : Value) :
    (put.getD .null).orElse default = (put.filter Value.isSet).getD default := by
  cases put with
  | none => rfl
  | some v => cases hset : v.isSet <;> simp [Value.orElse, Option.filter, hset]

namespace LaunchCommand

theorem shownIf_getD_null (test : Value → Bool) (hnull : test .null = false) (put : Option Value)
    (token : String → String) :
    shownIf (test (put.getD .null)) (put.getD .null) token =
      ((put.filter test).bind Value.textFault?).elim (.ok (shownToken test put token)) .error := by
  unfold shownIf Value.shown shownToken
  cases put with
  | none =>
    rw [Option.getD_none, hnull]
    rfl
  | some v =>
    rw [Option.getD_some]
    cases htest : test v with
    | false => simp [Option.filter, htest, pure, Except.pure]
    | true => cases hfault : v.textFault? <;> simp [Option.filter, htest, hfault]

theorem tokenIf_assertions (assertions : Option Value) :
    tokenIf (assertions.getD (.bool false)).isSet "-ea" =
      if assertions.any Value.isSet then [.text "-ea"] else [] := by
  cases assertions <;> rfl

/-- A command is built exactly if it has an entry point and a text. -/
theorem build_ofParts (put : LaunchPart → Option Value) :
    (ofParts put).build = if (put .launcher).any Value.isSet then
      (commandFault? put).elim (.ok (commandGroups put).flatten) .error
      else .error .launcherMissing := by
  have hheap := shownIf_getD_null (!·.isNull) rfl (put .memory) ("-Xmx" ++ · ++ "m")
  have houtput := shownIf_getD_null Value.isSet rfl (put .outputPath) ("1>" ++ ·)
  have herror := shownIf_getD_null Value.isSet rfl (put .errorPath) ("2>" ++ ·)
  unfold build ofParts commandFault?
  dsimp only
  rw [Value.isSet_getD_null (put .launcher), hheap, houtput, herror, tokenIf_assertions,
    Value.orElse_getD_null, Value.orElse_getD_null]
  simp only [List.findSome?_cons, List.findSome?_nil]
  cases hlauncher : put .launcher with
  | none => rfl
  | some v =>
    cases hset : v.isSet with
    | false => simp [hset]
    | true =>
      -- The first of the three parts without a text is what the command fails with.
      cases ((put .memory).filter (!·.isNull)).bind Value.textFault? <;>
        cases ((put .outputPath).filter Value.isSet).bind Value.textFault? <;>
        cases ((put .errorPath).filter Value.isSet).bind Value.textFault? <;>
        simp [commandGroups, tokensOf, hlauncher, hset, bind, Except.bind, pure, Except.pure]

end LaunchCommand

/-- However the parts of a command were set, with builds and refusals in between, it is what was
last put in each of them. It cannot be built without an entry point, nor if its heap size or a file
that an output goes to has no text. -/
theorem command_of_last_parts (calls : List LaunchCall) :
    (LaunchCommand.after {} calls).build =
      (if (lastPut? calls .launcher).any Value.isSet then
        (commandFault? (lastPut? calls)).elim (.ok (commandGroups (lastPut? calls)).flatten) .error
      else .error .launcherMissing) ∧
    Reason.launcherMissing.kind = .configuration ∧
    (∀ part v, ((LaunchCommand.after {} calls).perform (.set part v)).1 =
      (part.refusal? v).elim (.ok []) .error) ∧
    (∀ others, lastPut? others = lastPut? calls →
      (LaunchCommand.after {} others).build = (LaunchCommand.after {} calls).build) ∧
    (∀ call, call = .build ∨ (∃ r, ((LaunchCommand.after {} calls).perform call).1 = .error r) →
      ∀ later, LaunchCommand.after {} (calls ++ call :: later) =
        LaunchCommand.after {} (calls ++ later)) := by
  refine ⟨?built, rfl, LaunchCommand.perform_set _, ?same, ?traceless⟩
  case built => rw [LaunchCommand.after_eq, LaunchCommand.build_ofParts]
  case same =>
    intro others h
    rw [LaunchCommand.after_eq, LaunchCommand.after_eq, h]
  case traceless =>
    intro call hcall later
    have hkept : ((LaunchCommand.after {} calls).perform call).2 =
        LaunchCommand.after {} calls := by
      rcases hcall with rfl | ⟨r, hr⟩
      · rfl
      · exact LaunchCommand.perform_of_error hr
    rw [LaunchCommand.after_append, LaunchCommand.after_append]
    exact congrArg (LaunchCommand.after · later) hkept

/-- A heap size without a text is taken, and the command with it is not built. -/
theorem LaunchCommand.build_of_heap_fault {launcher v : Value} {r : Reason}
    (hset : launcher.isSet = true) (hsize : v.isHeapSize = true) (hnull : v.isNull = false)
    (hfault : v.textFault? = some r) :
    ((after {} [.set .launcher launcher]).perform (.set .memory v)).1 = .ok [] ∧
    (after {} [.set .launcher launcher, .set .memory v]).build = .error r := by
  have htaken : LaunchPart.refusal? .memory v = none := by simp [LaunchPart.refusal?, hsize]
  refine ⟨by rw [perform_set, htaken]; rfl, ?_⟩
  rw [after_eq, build_ofParts]
  simp [lastPut?, LaunchCall.puts?, LaunchPart.refusal?, commandFault?, hset, hsize, hnull, hfault,
    Option.filter]

/-- A command that was last given a heap size of too many digits, or a handle for its output whose
id is no text: it is not built, although it has an entry point. -/
theorem command_without_text :
    ((LaunchCommand.after {} [.set .launcher (.text "Main")]).perform
      (.set .memory (.int textBound))).1 = .ok [] ∧
    (LaunchCommand.after {} [.set .launcher (.text "Main"),
      .set .memory (.int textBound)]).build = .error .integerTextTooLong ∧
    Reason.integerTextTooLong.kind = .value ∧
    (LaunchCommand.after {} [.set .launcher (.text "Main"),
      .set .outputPath (.handle (.int 5))]).build = .error .wrongType ∧
    Reason.wrongType.kind = .wrongType := by
  have hlong : Value.textFault? (.int textBound) = some .integerTextTooLong := by
    rw [Value.textFault?_int, Int.natAbs_natCast, if_neg (Nat.lt_irrefl _)]
  have hpositive : Value.isHeapSize (.int textBound) = true := by
    rw [Value.isHeapSize_int]
    exact decide_eq_true (Int.natCast_pos.mpr (lt_textBound (k := 1) (by decide) (by decide)))
  have hset : (Value.text "Main").isSet = true := rfl
  obtain ⟨htaken, hbuild⟩ := LaunchCommand.build_of_heap_fault hset hpositive rfl hlong
  exact ⟨htaken, hbuild, rfl, rfl, rfl⟩

/-- A command whose heap size was refused once, next to one whose parts were set in another order:
both are built the same. -/
theorem command_of_last_parts_refused :
    let calls : List LaunchCall := [.set .memory (.int 512), .set .launcher (.text "Other"), .build,
      .set .memory (.int 0), .set .launcher (.text "Main"), .set .wrapper (.text "wrap")]
    let others : List LaunchCall := [.set .wrapper (.text "wrap"), .set .launcher (.text "Main"),
      .set .memory (.int 512)]
    (LaunchCommand.after {} others).build = (LaunchCommand.after {} calls).build ∧
    (LaunchCommand.after {} calls).build = .ok [.text "wrap", .text defaultJavaPath,
      .text "-Xmx512m", .text "-classpath", .text defaultClasspath, .text "Main"] ∧
    LaunchCommand.after {} calls = LaunchCommand.after {} (calls.take 3 ++ calls.drop 4) := by
  intro calls others
  obtain ⟨hbuilt, -, -, hsame, -⟩ := command_of_last_parts calls
  obtain ⟨-, -, hset, -, htraceless⟩ := command_of_last_parts (calls.take 3)
  refine ⟨hsame others (funext fun part => ?_), hbuilt.trans ?_, ?_⟩
  · cases part <;> rfl
  · have hshort : Value.textFault? (.int 512) = none := by
      rw [Value.textFault?_int]
      exact if_pos (lt_textBound (k := 3) (by decide) (by decide))
    have hmemory : (lastPut? calls .memory).filter (!·.isNull) = some (.int 512) := rfl
    have houtput : (lastPut? calls .outputPath).filter Value.isSet = none := rfl
    have herror : (lastPut? calls .errorPath).filter Value.isSet = none := rfl
    have hfault : commandFault? (lastPut? calls) = none := by
      simp [commandFault?, hmemory, houtput, herror, hshort]
    rw [hfault]
    rfl
  · exact htraceless (.set .memory (.int 0)) (.inr ⟨_, hset .memory (.int 0)⟩) (calls.drop 4)

end ClusterSubmission
