import ClusterSubmission.Proofs.Entries
import ClusterSubmission.Proofs.SessionRuns
import ClusterSubmission.Submission.TokenManager

/-!
# The aliases of tokens

A token that is put into a sink without an alias of its own is kept under one with the number of the
tokens in the sink. Such an alias is new unless it was asked for before: the sink then gains the
token and keeps all others. Where it was asked for before, the token takes the place of the one that
is held under it.
-/
namespace ClusterSubmission

theorem Text.natText_injective : Function.Injective Text.natText := by
  intro m n h
  have hdigits : Nat.toDigits 10 m = Nat.toDigits 10 n := by
    rw [← Json.intText_ofNat, ← Json.intText_ofNat]
    exact congrArg String.toList h
  calc
    m = Nat.ofDigitChars 10 (Nat.toDigits 10 m) 0 := Nat.ofDigitChars_ten_toDigits.symm
    _ = Nat.ofDigitChars 10 (Nat.toDigits 10 n) 0 := by rw [hdigits]
    _ = n := Nat.ofDigitChars_ten_toDigits

theorem Text.notMem_natText (n : Nat) :
    '[' ∉ (Text.natText n).toList :=
  Text.notMem_intText (n : Int)

/-- The alias with the running number. -/
def tokenAlias (n : Nat) : String := "token-" ++ Text.natText n

theorem tokenAlias_injective : Function.Injective tokenAlias := by
  intro m n h
  apply Text.natText_injective
  unfold tokenAlias at h
  simpa using h

theorem tokenAlias_ne_empty (n : Nat) : tokenAlias n ≠ "" := by
  intro h
  have hlength := congrArg String.length h
  unfold tokenAlias at hlength
  simp at hlength

namespace CredentialSink

variable {s : CredentialSink} {key given token : Value} {k : String} {named : String → Prop}

/-- A token is held under an alias. -/
def Holds (s : CredentialSink) (k : String) : Prop := ∃ e ∈ s.tokens, e.1 = .text k

theorem holds_iff_any : s.Holds k ↔ s.tokens.any (fun e => e.1 == .text k) = true := by
  unfold Holds
  simp only [List.any_eq_true, Value.beq_text_iff]

theorem aliasFor_of_set (h : given.isSet = true) : s.aliasFor given = given := by
  simp [aliasFor, Value.orElse, h]

theorem aliasFor_of_unset (h : given.isSet = false) :
    s.aliasFor given = .text (tokenAlias s.size) := by
  simp [aliasFor, Value.orElse, h, tokenAlias]

/-- What is held after a token was stored: what was held before, and the token. -/
theorem holds_insert : Holds ⟨Value.insert s.tokens key token⟩ k ↔ s.Holds k ∨ key = .text k := by
  unfold Holds Value.insert
  by_cases hany : s.tokens.any (fun e => e.1 == key) = true
  · have hkeys : ∀ e : Value × Value, (if e.1 == key then (e.1, token) else e).1 = e.1 := by
      intro e
      split <;> rfl
    rw [if_pos hany]
    simp only [List.mem_map, exists_exists_and_eq_and, hkeys]
    constructor
    · exact Or.inl
    · rintro (h | rfl)
      · exact h
      · exact holds_iff_any.mpr hany
  · rw [if_neg hany]
    simp only [List.mem_append, List.mem_singleton, or_and_right, exists_or, exists_eq_left]

theorem size_insert_le : s.size ≤ size ⟨Value.insert s.tokens key token⟩ := by
  unfold size Value.insert
  split <;> simp

/-- A sink gains a token under a new alias, and keeps all others as they are. -/
structure Gains (s s' : CredentialSink) (k : String) (token : Value) : Prop where
  fresh : ¬ s.Holds k
  tokens : s'.tokens = s.tokens ++ [(.text k, token)]
  size : s'.size = s.size + 1

/-- A token takes the place of the one that was held under an alias, and this one is lost. -/
structure Loses (s s' : CredentialSink) (k : String) (token : Value) : Prop where
  held : s.Holds k
  replaced : Value.lookup? s'.tokens (.text k) = some token
  others : ∀ j, j ≠ k → Value.lookup? s'.tokens (.text j) = Value.lookup? s.tokens (.text j)
  size : s'.size = s.size

theorem gains_insert (h : ¬ s.Holds k) :
    s.Gains ⟨Value.insert s.tokens (.text k) token⟩ k token := by
  have htokens : Value.insert s.tokens (.text k) token = s.tokens ++ [(.text k, token)] := by
    unfold Value.insert
    rw [if_neg (mt holds_iff_any.mpr h)]
  refine ⟨h, htokens, ?_⟩
  unfold CredentialSink.size
  simp [htokens]

theorem loses_insert (h : s.Holds k) :
    s.Loses ⟨Value.insert s.tokens (.text k) token⟩ k token := by
  constructor
  · exact h
  · rw [lookup?_insert, if_pos rfl]
  · intro j hj
    rw [lookup?_insert, if_neg hj]
  · unfold CredentialSink.size Value.insert
    rw [if_pos (holds_iff_any.mp h)]
    simp

/-- Every alias that was asked for is held, and every other one that is held has a number below that
of the tokens. -/
structure Accounts (named : String → Prop) (s : CredentialSink) : Prop where
  kept : ∀ k, named k → k ≠ "" → s.Holds k
  origin : ∀ k, s.Holds k → named k ∨ ∃ n < s.size, k = tokenAlias n

/-- The next default alias is held if and only if it was asked for. -/
theorem Accounts.holds_next (h : s.Accounts named) :
    s.Holds (tokenAlias s.size) ↔ named (tokenAlias s.size) := by
  constructor
  · intro hholds
    rcases h.origin _ hholds with hnamed | ⟨n, hn, hsame⟩
    · exact hnamed
    · have := tokenAlias_injective hsame
      omega
  · intro hnamed
    exact h.kept _ hnamed (tokenAlias_ne_empty _)

theorem Accounts.insert (h : s.Accounts named) (given token : Value) :
    Accounts (fun k => named k ∨ given = .text k)
      ⟨Value.insert s.tokens (s.aliasFor given) token⟩ := by
  constructor
  · rintro k (hnamed | rfl) hk
    · exact holds_insert.mpr (Or.inl (h.kept k hnamed hk))
    · have hset : (Value.text k).isSet = true := by simpa [Value.isSet] using hk
      exact holds_insert.mpr (Or.inr (aliasFor_of_set hset))
  · intro k hholds
    have hle : s.size ≤ size ⟨Value.insert s.tokens (s.aliasFor given) token⟩ := size_insert_le
    by_cases hbefore : s.Holds k
    · rcases h.origin k hbefore with hnamed | ⟨n, hn, hk⟩
      · exact Or.inl (Or.inl hnamed)
      · exact Or.inr ⟨n, by omega, hk⟩
    · have hkey := (holds_insert.mp hholds).resolve_left hbefore
      by_cases hset : given.isSet = true
      · rw [aliasFor_of_set hset] at hkey
        exact Or.inl (Or.inr hkey)
      · -- A new default alias has the number of the tokens before, and they are one more now.
        have halias := aliasFor_of_unset (s := s) (by simpa using hset)
        rw [halias] at hkey
        obtain rfl := Value.text.inj hkey
        have hsize : size ⟨Value.insert s.tokens (.text (tokenAlias s.size)) token⟩ = s.size + 1 :=
          (gains_insert hbefore).size
        rw [halias]
        exact Or.inr ⟨s.size, by omega, rfl⟩

end CredentialSink

/-- The world in which a token was put into a sink. -/
def World.withToken (w : World) (sink : Nat) (name token : Value) : World :=
  { w with tokenSinks := w.tokenSinks.set sink ⟨Value.insert (w.tokenSink sink).tokens name token⟩ }

/-- What is put into a sink: tokens, under an alias, or the token of a credential, under its
service. -/
inductive TokenCall where
  | tokens (data given : Value)
  | credential (c : Credential)

namespace TokenCall

def run (sink : Nat) : TokenCall → Run Unit
  | .tokens data given => addTokens sink data given
  | .credential c => addCredential sink c

/-- The alias that is asked for. -/
def given : TokenCall → Value
  | .tokens _ given => given
  | .credential c => c.service

/-- The token as it is kept. -/
def token : TokenCall → Except Reason Value
  | .tokens data _ => tokenText <$> data.asBytes
  | .credential c => .ok c.token

/-- The alias under which the token is kept. -/
def name (call : TokenCall) (sink : Nat) (w : World) : Value :=
  (w.tokenSink sink).aliasFor call.given

/-- The record of a call. -/
def record (call : TokenCall) (name : Value) (length : Nat) : String :=
  match call with
  | .tokens .. => "Adding " ++ Text.natText length ++ " bytes of tokens as '" ++ name.plain ++ "'"
  | .credential c => "Adding " ++ c.kind.plain ++ " as '" ++ name.plain ++ "'"

/-- Why a call may fail: there is no token, its alias cannot be one, or its record fails. -/
def MayFail (call : TokenCall) (sink : Nat) (w : World) (f : Failure) : Prop :=
  (∃ e, call.token = .error e) ∨ (call.name sink w).isKey = false ∨
    IsConsoleFault w f ∧ ∃ n, ¬ Log.ClosesNothing (call.record (call.name sink w) n).toList

/-- How a call ends: its token is in the sink, or it failed and changed nothing. -/
inductive Ends (call : TokenCall) (sink : Nat) (w : World) : Except Failure Unit → World → Prop
  | stored (token : Value) (h : call.token = .ok token) :
    Ends call sink w (.ok ()) (w.withToken sink (call.name sink w) token)
  | failed (f : Failure) (h : call.MayFail sink w f) : Ends call sink w (.error f) w

variable {sink : Nat} {w w' : World} {call : TokenCall} {r : Except Failure Unit}

theorem ends_of_put {token : Value} (htoken : call.token = .ok token)
    (h : putToken sink (call.name sink w) token w = (r, w')) : call.Ends sink w r w' := by
  unfold putToken CredentialSink.put at h
  rw [Run.get_bind] at h
  by_cases hkey : (call.name sink w).isKey = true
  · rw [if_pos hkey] at h
    cases h
    exact .stored token htoken
  · rw [if_neg hkey] at h
    cases h
    exact .failed _ (Or.inr (Or.inl (by simpa using hkey)))

/-- A call whose record fails changes nothing. -/
theorem ends_of_record {line : String} {n : Nat} {body : Unit → Run Unit}
    (hline : line = call.record (call.name sink w) n)
    (h : (Run.debug line >>= body) w = (r, w'))
    (hbody : body () w = (r, w') → call.Ends sink w r w') : call.Ends sink w r w' := by
  rcases Run.debug_cases line w with hdebug | ⟨f, hdebug, hf⟩
  · rw [Run.bind_of_ok hdebug] at h
    exact hbody h
  · rw [Run.bind_of_error hdebug] at h
    cases h
    apply Ends.failed
    refine Or.inr (Or.inr ⟨hf, n, ?_⟩)
    rw [← hline]
    intro hnothing
    rw [Run.debug_of_closesNothing hnothing] at hdebug
    cases hdebug

/-- What has no length has no bytes. -/
theorem asBytes_of_lengthOf {data : Value} {e : Reason} (h : data.lengthOf = .error e) :
    ∃ e, data.asBytes = .error e := by
  cases data <;> first | exact ⟨_, rfl⟩ | cases h

theorem run_ends (h : call.run sink w = (r, w')) : call.Ends sink w r w' := by
  cases call with
  | tokens data given =>
    have hnone : ∀ {e}, data.asBytes = .error e → (tokens data given).token = .error e := by
      intro e he
      rw [token, he]
      rfl
    change addTokens sink data given w = _ at h
    unfold addTokens at h
    rw [Run.get_bind] at h
    cases hlength : data.lengthOf with
    | error e =>
      obtain ⟨e', hbytes⟩ := asBytes_of_lengthOf hlength
      rw [hlength, Run.ofExcept_error_bind] at h
      cases h
      exact .failed _ (Or.inl ⟨e', hnone hbytes⟩)
    | ok n =>
      rw [hlength, Run.ofExcept_ok_bind] at h
      apply ends_of_record (n := n) (by simp only [record, name, TokenCall.given]) h
      intro h
      cases hbytes : data.asBytes with
      | error e =>
        rw [hbytes, Run.ofExcept_error_bind] at h
        cases h
        exact .failed _ (Or.inl ⟨e, hnone hbytes⟩)
      | ok bs =>
        rw [hbytes, Run.ofExcept_ok_bind] at h
        have htoken : (tokens data given).token = .ok (tokenText bs) := by
          rw [token, hbytes]
          rfl
        exact ends_of_put htoken h
  | credential c =>
    change addCredential sink c w = _ at h
    unfold addCredential at h
    rw [Run.get_bind] at h
    apply ends_of_record (n := 0) (by simp only [record, name, TokenCall.given]) h
    intro h
    exact ends_of_put rfl h

/-- Without an alias of its own, only the record of a credential can fail, which has the kind of the
credential. -/
theorem MayFail.of_unset {f : Failure} (h : call.MayFail sink w f)
    (hunset : call.given.isSet = false) :
    (∃ e, call.token = .error e) ∨ IsConsoleFault w f ∧ ∃ c, call = .credential c := by
  have hname : call.name sink w = .text (tokenAlias (w.tokenSink sink).size) :=
    CredentialSink.aliasFor_of_unset hunset
  rcases h with herror | hkey | ⟨hf, n, hcloses⟩
  · exact Or.inl herror
  · rw [hname] at hkey
    cases hkey
  · cases call with
    | credential c => exact Or.inr ⟨hf, c, rfl⟩
    | tokens data given =>
      rw [hname] at hcloses
      apply (hcloses _).elim
      apply Log.closesNothing_of_notMem
      simp [record, Value.plain, tokenAlias, Text.notMem_natText]

end TokenCall

/-- A call for a sink, and the world that it is made in. -/
structure TokenTurn where
  call : TokenCall
  before : World

namespace TokenTurn

variable (sink : Nat) (t : TokenTurn)

def after : World := (t.call.run sink t.before).2

def Returned : Prop := (t.call.run sink t.before).1 = .ok ()

/-- The sink before the call. -/
def held : CredentialSink := t.before.tokenSink sink

/-- The sink after the call. -/
def left : CredentialSink := (t.after sink).tokenSink sink

end TokenTurn

/-- An alias was asked for, and a token put under it. -/
def IsNamed (sink : Nat) (ts : List TokenTurn) (k : String) : Prop :=
  ∃ t ∈ ts, t.Returned sink ∧ t.call.given = .text k

/-- Calls one after the other for a sink that is empty at first. Between two calls anything may
change but the sink. -/
inductive Collected (sink : Nat) : List TokenTurn → World → Prop
  | start {w : World} (hknown : sink < w.tokenSinks.length) (h : (w.tokenSink sink).tokens = []) :
    Collected sink [] w
  | call {ts : List TokenTurn} {w : World} (t : TokenTurn) (h : Collected sink ts t.before)
      (hknown : sink < w.tokenSinks.length) (hkept : w.tokenSink sink = t.left sink) :
    Collected sink (ts ++ [t]) w

section Runs

variable {sink : Nat} {ts : List TokenTurn} {w : World}

theorem Collected.known (h : Collected sink ts w) : sink < w.tokenSinks.length := by
  cases h with
  | start hknown h => exact hknown
  | call t h hknown hkept => exact hknown

theorem World.tokenSink_withToken (h : sink < w.tokenSinks.length) (name token : Value) :
    (w.withToken sink name token).tokenSink sink =
      ⟨Value.insert (w.tokenSink sink).tokens name token⟩ := by
  unfold tokenSink withToken
  rw [List.getElem?_set_self h]
  rfl

theorem isNamed_concat (t : TokenTurn) (k : String) : IsNamed sink (ts ++ [t]) k ↔
    IsNamed sink ts k ∨ t.Returned sink ∧ t.call.given = .text k := by
  unfold IsNamed
  simp only [List.mem_append, List.mem_singleton, or_and_right, exists_or, exists_eq_left]

/-- A call is accounted for, whether it returns or not. -/
theorem TokenTurn.accounts (t : TokenTurn) (hknown : sink < t.before.tokenSinks.length)
    (h : (t.held sink).Accounts (IsNamed sink ts)) :
    (t.left sink).Accounts (IsNamed sink (ts ++ [t])) := by
  have hnamed : IsNamed sink (ts ++ [t]) =
      fun k => IsNamed sink ts k ∨ t.Returned sink ∧ t.call.given = .text k := by
    funext k
    exact propext (isNamed_concat t k)
  rw [hnamed]
  unfold left after Returned
  rcases hrun : t.call.run sink t.before with ⟨r, w'⟩
  cases TokenCall.run_ends hrun with
  | stored token htoken =>
    rw [World.tokenSink_withToken hknown]
    simp only [true_and]
    exact h.insert t.call.given token
  | failed f hf => simpa [held] using h

/-- After any run, a sink holds the aliases that were asked for, and default ones. -/
theorem Collected.accounts (h : Collected sink ts w) :
    (w.tokenSink sink).Accounts (IsNamed sink ts) := by
  induction h with
  | start hknown hempty =>
    constructor
    · rintro k ⟨t, ht, -⟩
      cases ht
    · rintro k ⟨e, he, -⟩
      rw [hempty] at he
      cases he
  | call t h hknown hkept ih =>
    rw [hkept]
    exact t.accounts h.known ih

/-- A token without an alias of its own is put under the one with the running number, unless there
is no token or the record about a credential fails; then the sink stays as it is. If the alias was
not asked for before, the sink gains the token and keeps all others. If it was, the token takes the
place of another one, which is lost. -/
theorem default_alias_fresh_unless_named (t : TokenTurn) (h : Collected sink ts t.before)
    (hunset : t.call.given.isSet = false) :
    (∃ token, t.call.token = .ok token ∧ t.Returned sink ∧
      (¬ IsNamed sink ts (tokenAlias (t.held sink).size) →
        (t.held sink).Gains (t.left sink) (tokenAlias (t.held sink).size) token) ∧
      (IsNamed sink ts (tokenAlias (t.held sink).size) →
        (t.held sink).Loses (t.left sink) (tokenAlias (t.held sink).size) token)) ∨
    ∃ f, (t.call.run sink t.before).1 = .error f ∧ t.left sink = t.held sink ∧
      ((∃ e, t.call.token = .error e) ∨
        IsConsoleFault t.before f ∧ ∃ c, t.call = .credential c) := by
  have hnext := h.accounts.holds_next
  unfold TokenTurn.left TokenTurn.after TokenTurn.Returned
  rcases hrun : t.call.run sink t.before with ⟨r, w'⟩
  cases TokenCall.run_ends hrun with
  | stored token htoken =>
    have hname : t.call.name sink t.before = .text (tokenAlias (t.held sink).size) :=
      CredentialSink.aliasFor_of_unset hunset
    rw [World.tokenSink_withToken h.known, hname]
    refine Or.inl ⟨token, htoken, rfl, ?_, ?_⟩
    · intro hnamed
      exact CredentialSink.gains_insert (mt hnext.mp hnamed)
    · intro hnamed
      exact CredentialSink.loses_insert (hnext.mpr hnamed)
  | failed f hf => exact Or.inr ⟨f, rfl, rfl, hf.of_unset hunset⟩

end Runs

/-- A token under an alias, in a sink that is empty. -/
def TokenTurn.first (name : String) : TokenTurn where
  call := .tokens (.bytes [97]) (.text name)
  before := { tokenSinks := [{}] }

/-- Another token, without an alias, after a call. -/
def TokenTurn.second (t : TokenTurn) : TokenTurn where
  call := .tokens (.bytes [98]) .null
  before := t.after 0

theorem default_alias_fresh_unless_named_beside :
    ((TokenTurn.first "b").second.held 0).Gains ((TokenTurn.first "b").second.left 0) "token-1"
      (.text "Yg==") := by
  have hcollected : Collected 0 [TokenTurn.first "b"] (TokenTurn.first "b").second.before :=
    .call (TokenTurn.first "b") (.start (by decide) rfl) (by decide) rfl
  have hunnamed : ¬ IsNamed 0 [TokenTurn.first "b"] "token-1" := by
    rintro ⟨t, ht, -, hgiven⟩
    rw [List.mem_singleton.mp ht] at hgiven
    exact absurd (Value.text.inj hgiven) (by decide)
  rcases default_alias_fresh_unless_named _ hcollected rfl with
    ⟨token, htoken, -, hgains, -⟩ | ⟨f, hf, -⟩
  · cases htoken
    exact hgains hunnamed
  · cases hf

/-- The alias that the first token was put under is the default one for the second, which takes its
place. -/
theorem default_alias_taken : (TokenTurn.first "token-1").second.Returned 0 ∧
    ((TokenTurn.first "token-1").second.held 0).tokens = [(.text "token-1", .text "YQ==")] ∧
    ((TokenTurn.first "token-1").second.left 0).tokens = [(.text "token-1", .text "Yg==")] :=
  ⟨rfl, rfl, rfl⟩

end ClusterSubmission
