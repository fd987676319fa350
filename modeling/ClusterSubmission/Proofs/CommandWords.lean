import ClusterSubmission.Proofs.AttemptPolicy

/-!
# The words of a command

The tokens of a command are joined to one line with spaces, and the tokens that are empty are left
out. Where no token has a space, the line is cut at its spaces into the same words again. The same
holds for the line that is posted with a submission, if none of its parts has a space.
-/
namespace ClusterSubmission

open Message

/-- A line that is made of words: cut at every single space it gives the words, and without words it
is empty. It has no space at its ends and no two spaces in a row. -/
structure IsLineOf (line : String) (words : List String) : Prop where
  empty : line = "" ↔ words = []
  cut : words ≠ [] → line.toList.splitOn ' ' = words.map String.toList
  leading : ¬ [' '] <+: line.toList
  trailing : ¬ [' '] <:+ line.toList
  doubled : ¬ [' ', ' '] <:+: line.toList

/-- The tokens that say something, in their order. -/
def wordsOf (tokens : List Value) : List String := (tokens.map Value.plain).filter (· != "")

/-- A space with nothing before it, nothing behind it or another space behind it gives an empty
piece. -/
theorem nil_mem_splitOn {cs before after : List Char} (h : cs = before ++ ' ' :: after)
    (hends : before = [] ∨ after = [] ∨ ∃ rest, after = ' ' :: rest) : [] ∈ cs.splitOn ' ' := by
  rw [h, List.splitOn_append_cons_self, List.mem_append]
  rcases hends with rfl | rfl | ⟨rest, rfl⟩
  · exact Or.inl (by simp)
  · exact Or.inr (by simp)
  · have hrest : (' ' :: rest).splitOn ' ' = [] :: rest.splitOn ' ' :=
      List.splitOn_append_cons_self [] rest
    rw [hrest]
    exact Or.inr (List.mem_cons_self ..)

theorem isLineOf_intercalate {words : List String}
    (hwords : ∀ t ∈ words, t ≠ "" ∧ ' ' ∉ t.toList) :
    IsLineOf (String.intercalate " " words) words := by
  cases words with
  | nil => exact ⟨by simp, nofun, by simp, by simp, by simp⟩
  | cons t ts =>
    have hspace : " ".toList = [' '] := rfl
    have hcut : (String.intercalate " " (t :: ts)).toList.splitOn ' ' =
        (t :: ts).map String.toList := by
      rw [String.toList_intercalate, hspace]
      apply List.splitOn_intercalate
      · simpa using fun u hu => (hwords u hu).2
      · exact List.cons_ne_nil _ _
    have hnonempty : [] ∉ (String.intercalate " " (t :: ts)).toList.splitOn ' ' := by
      rw [hcut]
      intro hmem
      obtain ⟨u, hu, hempty⟩ := List.mem_map.mp hmem
      exact (hwords u hu).1 (String.toList_eq_nil_iff.mp hempty)
    refine ⟨⟨fun h => ?_, nofun⟩, fun _ => hcut, ?_, ?_, ?_⟩
    · exact absurd (by rw [h]; simp) hnonempty
    · rintro ⟨after, h⟩
      exact hnonempty (nil_mem_splitOn h.symm (Or.inl rfl))
    · rintro ⟨before, h⟩
      exact hnonempty (nil_mem_splitOn h.symm (Or.inr (Or.inl rfl)))
    · rintro ⟨before, after, h⟩
      rw [List.append_assoc] at h
      exact hnonempty (nil_mem_splitOn h.symm (Or.inr (Or.inr ⟨after, rfl⟩)))

theorem joinCommand_isLineOf {tokens : List Value} (h : ∀ t ∈ tokens, ' ' ∉ t.plain.toList) :
    IsLineOf (joinCommand tokens) (wordsOf tokens) := by
  apply isLineOf_intercalate
  intro word hword
  obtain ⟨hmem, hne⟩ := List.mem_filter.mp hword
  obtain ⟨t, ht, rfl⟩ := List.mem_map.mp hmem
  exact ⟨by simpa using hne, h t ht⟩

/-- An exchange whose request posts a document with the words of some tokens as its command. -/
def Exchange.PostsWords (e : Exchange) (tokens : List Value) : Prop :=
  ∃ document line, e.PostsDocument document ∧
    document.at? ["am-container-spec", "commands", "command"] = some (.text line) ∧
    IsLineOf line (wordsOf tokens)

namespace Submission

variable {n : RestNegotiator} {s : Submission} {w w' : World}

/-- A submission whose command is put together from parts without a space. -/
structure IsSpaceless (s : Submission) : Prop where
  wrapper : ∀ t ∈ s.parameters.wrapper.asTokens, ' ' ∉ t.toList
  classpath : ' ' ∉ s.classpath.plain.toList
  launcher : ' ' ∉ s.parameters.launcher.plain.toList
  configurationPaths : ∀ t ∈ s.parameters.configurationPaths.asTokens, ' ' ∉ t.toList
  outputPath : ' ' ∉ s.parameters.outputPath.plain.toList
  errorPath : ' ' ∉ s.parameters.errorPath.plain.toList

instance (s : Submission) : Decidable s.IsSpaceless :=
  decidable_of_iff ((∀ t ∈ s.parameters.wrapper.asTokens, ' ' ∉ t.toList) ∧
      ' ' ∉ s.classpath.plain.toList ∧ ' ' ∉ s.parameters.launcher.plain.toList ∧
      (∀ t ∈ s.parameters.configurationPaths.asTokens, ' ' ∉ t.toList) ∧
      ' ' ∉ s.parameters.outputPath.plain.toList ∧ ' ' ∉ s.parameters.errorPath.plain.toList)
    ⟨fun ⟨a, b, c, d, e, f⟩ => ⟨a, b, c, d, e, f⟩, fun ⟨a, b, c, d, e, f⟩ => ⟨a, b, c, d, e, f⟩⟩

/-- No token of the driver's command has a space if the parts of it have none. -/
theorem IsSpaceless.build_driverCommand {m : Int} {tokens : List Value} (hs : s.IsSpaceless)
    (h : (s.driverCommand m).build = .ok tokens) : ∀ t ∈ tokens, ' ' ∉ t.plain.toList := by
  have hclasspath : ' ' ∉ (s.classpath.orElse (.text defaultClasspath)).plain.toList := by
    unfold Value.orElse
    split
    · exact hs.classpath
    · decide
  have hjava : ' ' ∉ (Value.text defaultJavaPath).plain.toList := by decide
  have hheap : ' ' ∉ ("-Xmx" ++ (Value.int m).plain ++ "m").toList := by
    have hdigits : ' ' ∉ (Value.int m).plain.toList := fun h =>
      absurd (Text.mem_intText h) (by decide)
    simpa [String.toList_append] using hdigits
  have hredirected : ∀ (sign : String) (v : Value), ' ' ∉ sign.toList → ' ' ∉ v.plain.toList →
      ' ' ∉ (sign ++ v.plain).toList := by
    intro sign v hsign hv
    rw [String.toList_append, List.mem_append, not_or]
    exact ⟨hsign, hv⟩
  intro t ht
  have hword := List.mem_map_of_mem (f := Value.plain) ht
  rw [LaunchCommand.plain_of_build h] at hword
  simp only [List.mem_append, List.mem_cons, List.mem_ite_nil_left, List.mem_ite_nil_right,
    List.not_mem_nil, or_false, or_assoc] at hword
  -- One case for each group of tokens, in the order of the command.
  rcases hword with hword | hword | ⟨hset, -⟩ | ⟨-, hword⟩ | hword | hword | hword | hword | hword |
    ⟨-, hword⟩ | ⟨-, hword⟩
  · exact hs.wrapper _ hword
  · exact hword ▸ hjava
  · cases hset
  · exact hword ▸ hheap
  · cases hword
  · rw [hword]
    decide
  · exact hword ▸ hclasspath
  · exact hword ▸ hs.launcher
  · exact hs.configurationPaths _ hword
  · exact hword ▸ hredirected "1>" _ (by decide) hs.outputPath
  · exact hword ▸ hredirected "2>" _ (by decide) hs.errorPath

theorem wordsOf_build_ne_nil {c : LaunchCommand} {tokens : List Value} (h : c.build = .ok tokens) :
    wordsOf tokens ≠ [] := by
  have hmem : "-classpath" ∈ tokens.map Value.plain := by
    rw [LaunchCommand.plain_of_build h]
    simp
  exact List.ne_nil_of_mem (List.mem_filter.mpr ⟨hmem, by decide⟩)

/-- The command of the launch specification is the one that is built from the parts. -/
theorem launchSpec_command {r : ResourceRequest} {m : Int} {spec : LaunchSpec}
    (hr : r.memory = .int m) (h : s.launchSpec r w = (.ok spec, w')) :
    ∃ tokens, (s.driverCommand m).build = .ok tokens ∧ spec.command = .tuple tokens := by
  obtain ⟨tokens, _, htokens, h⟩ := Run.of_bind_ok h
  obtain ⟨hmade, rfl⟩ := Run.of_ofExcept_ok htokens
  obtain ⟨-, -, hbuild⟩ := launchTokens_ok hr hmade
  obtain ⟨_, _, -, h⟩ := Run.of_bind_ok h
  obtain ⟨_, _, -, h⟩ := Run.of_bind_ok h
  cases h
  exact ⟨tokens, hbuild, rfl⟩

/-- What an attempt is prepared with has the command that is built from its parts. -/
theorem prepare_command {x : Figures} {request : ResourceRequest} {spec : LaunchSpec}
    (hx : s.HasFigures x) (h : s.prepare w = (.ok (request, spec), w')) :
    ∃ m tokens, (s.driverCommand m).build = .ok tokens ∧ spec.command = .tuple tokens := by
  unfold prepare at h
  obtain ⟨_, w₁, -, h⟩ := Run.of_bind_ok h
  obtain ⟨r, w₂, hrequest, h⟩ := Run.of_bind_ok h
  obtain ⟨_, w₃, hspec, h⟩ := Run.of_bind_ok h
  cases h
  obtain ⟨w₀, hrequest⟩ := of_inStep_ok hrequest
  obtain ⟨w₁, hspec⟩ := of_inStep_ok hspec
  by_cases hunsaid : x.IsUnsaid
  · rw [resourceRequest_fails hx hunsaid] at hrequest
    cases hrequest
  · obtain ⟨r', _, hrun, hmemory, -⟩ := resourceRequest_run hx hunsaid 0 w₀
    rw [hrun] at hrequest
    cases hrequest
    obtain ⟨tokens, hbuild, hcommand⟩ := launchSpec_command hmemory hspec
    exact ⟨x.granted, tokens, hbuild, hcommand⟩

/-- An attempt that cannot be prepared sends nothing. -/
theorem exchanges_of_unprepared {x : Figures} {f : Failure} (hs : Reachable n s w)
    (hx : s.HasFigures x) (h : s.prepare w = (.error f, w')) : w'.exchanges = w.exchanges := by
  by_cases hv : s.validate = .ok ()
  · obtain ⟨w₁, _, _, hprepare, hasks, -⟩ := prepare_prepares hs.isOver hs.arises.isValid hx hv
    rw [hprepare] at h
    cases h
    exact hasks.exchanges.trans (List.append_nil _)
  · obtain ⟨e, he⟩ : ∃ e, s.validate = .error e := by
      rcases hvalidate : s.validate with e | _
      · exact ⟨e, rfl⟩
      · exact absurd hvalidate hv
    have hrefused : Run.ofExcept s.validate w = (.error e.failure, w) := by
      rw [he]
      rfl
    rw [prepare, Run.bind_of_error (inStep_of_error hs.isOver.named hrefused)] at h
    cases h
    rfl

end Submission

open Submission

/-- Tokens without spaces, joined to a line, are its words again, the empty ones left out. So what a
submission posts, whose parts have no space, are the words of the command that it was prepared with,
and this is the command that is reported. -/
theorem posted_words_kept :
    (∀ tokens : List Value, (∀ t ∈ tokens, ' ' ∉ t.plain.toList) →
      IsLineOf (joinCommand tokens) (wordsOf tokens)) ∧
    ∀ (n : RestNegotiator) (s : Submission) (w w' : World)
      (r : Except Failure (SubmissionReport × Submission)), Reachable n s w → s.IsSpaceless →
      s.submit w = (r, w') → ∃ sent, w'.exchanges = w.exchanges ++ sent ∧
        (∀ e ∈ sent, e.IsTo n.manager.address .apps → ∃ request spec w₁ tokens,
          s.prepare w = (.ok (request, spec), w₁) ∧ spec.command = .tuple tokens ∧
          wordsOf tokens ≠ [] ∧ e.PostsWords tokens ∧
          ∀ report s', r = .ok (report, s') → report.spec = spec) ∧
        (∀ p, r = .ok p → ∃ e ∈ sent, e.IsTo n.manager.address .apps) := by
  refine ⟨fun _ => joinCommand_isLineOf, fun n s w w' r hs hspaceless h => ?_⟩
  obtain ⟨x, hx⟩ := hs.exists_figures
  rcases hprepare : s.prepare w with ⟨f | ⟨request, spec⟩, w₁⟩
  · rw [submit_eq, Run.bind_of_error hprepare] at h
    cases h
    refine ⟨[], ?_, by simp, nofun⟩
    rw [exchanges_of_unprepared hs hx hprepare, List.append_nil]
  · obtain ⟨info, kinds, choice, w₂, sent, hchooses, hexchanges, -, hends⟩ :=
      submit_of_prepared hs hx hprepare h
    obtain ⟨m, tokens, hbuild, hcommand⟩ := prepare_command hx hprepare
    refine ⟨info.toList ++ sent, hexchanges, fun e he hto => ?_, fun p hr => ?_⟩
    · rcases List.mem_append.mp he with he | he
      · exact absurd hto (hchooses.not_apps e he)
      rcases hends with ⟨f, -, -, rfl⟩ | ⟨policy, -, hconcludes⟩
      · cases he
      obtain ⟨o, document, -, rfl, -, hdocument, hposted⟩ := hconcludes.posts e he hto
      refine ⟨request, o.spec, w₁, tokens, rfl, hcommand, wordsOf_build_ne_nil hbuild,
        ⟨document, _, hdocument, hposted.command tokens hcommand,
          joinCommand_isLineOf (hspaceless.build_driverCommand hbuild)⟩, ?_⟩
      intro report s' hr
      exact (hconcludes.reports report s' hr).2.1
    · have hresult : (⟨.submit, s, w⟩ : Turn).result = .ok () := by
        simp only [Turn.result, perform, h, hr]
      obtain ⟨e, he, hto⟩ := Turn.exists_posted (t := ⟨.submit, s, w⟩) hs.isOver rfl hresult
      rw [Turn.sent_of_exchanges (by rw [Turn.nextWorld_of_submit h]; exact hexchanges)] at he
      exact ⟨e, he, hto⟩

/-- A plan whose command is started by another one, behind an empty token. -/
def SubmissionPlan.wrapped : SubmissionPlan :=
  { SubmissionPlan.sample with wrapper := .list [.text "", .text "nice"] }

/-- The first words of the command that an attempt reports. -/
def Submission.firstWords (s : Submission) (w : World) (count : Nat) : List String :=
  match (s.submit w).1 with
  | .ok (report, _) =>
    match report.spec.command with
    | .tuple tokens => (wordsOf tokens).take count
    | _ => []
  | .error _ => []

theorem Submission.firstWords_eq {s s' : Submission} {w w' : World} {report : SubmissionReport}
    {tokens : List Value} (h : s.submit w = (.ok (report, s'), w'))
    (hcommand : report.spec.command = .tuple tokens) (count : Nat) :
    s.firstWords w count = (wordsOf tokens).take count := by
  unfold firstWords
  rw [h]
  dsimp only
  rw [hcommand]

theorem posted_words_kept_wrapped : IsLineOf "a b" ["a", "b"] ∧
    ∃ (s s' : Submission) (w w' : World) (report : SubmissionReport) (e : Exchange)
      (tokens : List Value), Reachable RestNegotiator.sample s w ∧ s.IsSpaceless ∧
      s.submit w = (.ok (report, s'), w') ∧ report.spec.command = .tuple tokens ∧
      (wordsOf tokens).take 2 = ["nice", defaultJavaPath] ∧ e ∈ w'.exchanges ∧
      e.PostsWords tokens := by
  constructor
  · exact posted_words_kept.1 [.text "", .text "a", .text "", .text "b"] (by decide)
  · let node (s : Submission) (w : World) : Turn := ⟨.change (.node (.text anyHost)), s, w⟩
    let submit (t : Turn) : Turn := ⟨.submit, t.next, t.nextWorld⟩
    obtain ⟨s, w, hstart, hp⟩ := exists_started RestNegotiator.sample SubmissionPlan.wrapped
      (World.served (Server.answering sampleGrant))
      (fun s w => (submit (node s w)).result.isOk && decide (node s w).next.IsSpaceless &&
        (node s w).next.firstWords (node s w).nextWorld 2 == ["nice", defaultJavaPath])
      (by decide +kernel)
    simp only [Bool.and_eq_true, decide_eq_true_eq, beq_iff_eq] at hp
    obtain ⟨⟨hok, hspaceless⟩, hwords⟩ := hp
    obtain ⟨hc, -⟩ := RestNegotiator.isConnected_of_connect
      (RestNegotiator.connect_sample (Server.answering sampleGrant))
    have hs : Reachable RestNegotiator.sample (node s w).next (node s w).nextWorld :=
      .call (.start hc hstart) (node s w).perform_eq
    obtain ⟨report, s', hsubmit⟩ := Turn.exists_report (t := submit (node s w)) rfl
      (Turn.result_of_isOk hok)
    obtain ⟨sent, hexchanges, hposts, hposted⟩ :=
      posted_words_kept.2 _ _ _ _ _ hs hspaceless hsubmit
    obtain ⟨e, he, hto⟩ := hposted _ rfl
    obtain ⟨request, spec, w₁, tokens, -, hcommand, -, hline, hreported⟩ := hposts e he hto
    have hsame : report.spec.command = .tuple tokens := by
      rw [hreported report s' rfl, hcommand]
    rw [firstWords_eq hsubmit hsame] at hwords
    have hmem : e ∈ (submit (node s w)).nextWorld.exchanges := by
      rw [hexchanges]
      exact List.mem_append_right _ he
    exact ⟨_, s', _, _, report, e, tokens, hs, hspaceless, hsubmit, hsame, hwords, hmem, hline⟩

end ClusterSubmission
