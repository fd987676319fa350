import ClusterSubmission.Proofs.Base64
import ClusterSubmission.Proofs.CredentialDelivery
import ClusterSubmission.Proofs.PostedContext
import ClusterSubmission.Proofs.PostedTokens
import ClusterSubmission.Proofs.TokenAliases

/-!
# Tokens on their way to the container

Tokens are opaque bytes that are put under aliases. A sink has one text for each alias, in the order
in which the aliases were first used, and the text is URL-safe base64 for the bytes that were put
last. What a submission posts afterwards has these texts as they are, so that the container reads
back the bytes.
-/
namespace ClusterSubmission

open Text

/-- A call puts bytes under an alias of its own. -/
def TokenCall.IsNamed (call : TokenCall) : Prop :=
  ∃ bs k, k ≠ "" ∧ call = .tokens (.bytes bs) (.text k)

namespace TokenTurn

/-- What a call has put into a sink: bytes, under an alias. A call that failed has put nothing. -/
def put? (sink : Nat) (t : TokenTurn) : Option (String × List UInt8) :=
  match t.call, (t.call.run sink t.before).1 with
  | .tokens (.bytes bs) (.text k), .ok () => some (k, bs)
  | _, _ => none

variable {sink : Nat} {t : TokenTurn} {bs : List UInt8} {k : String}

/-- A call with bytes and an alias puts a text for the bytes there, unless its record fails. -/
theorem puts_cases (hcall : t.call = .tokens (.bytes bs) (.text k)) (hk : k ≠ "") :
    (t.Returned sink ∧ t.put? sink = some (k, bs) ∧
      t.after sink = t.before.withToken sink (.text k) (tokenText bs)) ∨
    ∃ f, (t.call.run sink t.before).1 = .error f ∧ t.put? sink = none ∧
      t.after sink = t.before ∧ IsConsoleFault t.before f := by
  have hname : t.call.name sink t.before = .text k := by
    have hset : (Value.text k).isSet = true := by simpa [Value.isSet] using hk
    rw [hcall]
    exact CredentialSink.aliasFor_of_set hset
  have htext : t.call.token = .ok (tokenText bs) := by
    rw [hcall]
    rfl
  unfold Returned put? after
  rcases hrun : t.call.run sink t.before with ⟨r, w'⟩
  cases TokenCall.run_ends hrun with
  | stored token htoken =>
    obtain rfl : token = tokenText bs := Except.ok.inj (htoken.symm.trans htext)
    rw [hname]
    refine Or.inl ⟨rfl, ?_, rfl⟩
    rw [hcall]
  | failed f hf =>
    refine Or.inr ⟨f, rfl, ?_, rfl, ?_⟩
    · rw [hcall]
    · rcases hf with ⟨e, herror⟩ | hkey | ⟨hfault, -⟩
      · rw [htext] at herror
        cases herror
      · rw [hname] at hkey
        cases hkey
      · exact hfault

end TokenTurn

/-- What calls have put into a sink, one after another. -/
def tokensPut (sink : Nat) (ts : List TokenTurn) : List (String × List UInt8) :=
  ts.filterMap (·.put? sink)

section Runs

variable {sink : Nat} {ts : List TokenTurn} {w : World}

theorem tokensPut_concat (t : TokenTurn) :
    tokensPut sink (ts ++ [t]) = tokensPut sink ts ++ (t.put? sink).toList := by
  unfold tokensPut
  rw [List.filterMap_append]
  cases h : t.put? sink <;> simp [h]

/-- A sink that is filled by named calls has one text for each alias. -/
theorem Collected.tokens_eq (h : Collected sink ts w) (hnamed : ∀ t ∈ ts, t.call.IsNamed) :
    (w.tokenSink sink).tokens = rawEntries tokenText (lastEntries (tokensPut sink ts)) := by
  -- By induction on the calls: each puts one more text, or leaves the sink as it is.
  induction h with
  | start hknown hempty => exact hempty
  | call t h hknown hkept ih =>
    have hbefore := ih fun u hu => hnamed u (List.mem_append_left _ hu)
    obtain ⟨bs, k, hk, hcall⟩ := hnamed t List.mem_concat_self
    rw [hkept, tokensPut_concat]
    unfold TokenTurn.left
    rcases TokenTurn.puts_cases hcall hk with ⟨-, hput, hafter⟩ | ⟨f, -, hput, hafter, -⟩
    · rw [hput, hafter, World.tokenSink_withToken h.known, hbefore, insert_rawEntries,
        putEntry_lastEntries]
      rfl
    · rw [hput, hafter, hbefore, Option.toList_none, List.append_nil]

/-- Texts for what was put into a sink: one for each alias, in the order of their first use, from
which the bytes that were put last are read back. -/
structure SurviveAs (given : List (String × List UInt8)) (entries : List (String × String)) :
    Prop where
  aliases : entries.map Prod.fst = (given.map Prod.fst).eraseDups
  texts : ∀ e ∈ entries, ∃ bs, lastValue given e.1 = some bs ∧ IsSafeTextOf bs e.2

/-- The texts that a sink has for what was put into it. -/
def sinkTexts (given : List (String × List UInt8)) : List (String × String) :=
  (lastEntries given).map fun e => (e.1, base64 .urlSafe e.2)

theorem rawEntries_sinkTexts (given : List (String × List UInt8)) :
    rawEntries .text (sinkTexts given) = rawEntries tokenText (lastEntries given) := by
  unfold rawEntries sinkTexts tokenText
  rw [List.map_map]
  rfl

theorem surviveAs_sinkTexts (given : List (String × List UInt8)) :
    SurviveAs given (sinkTexts given) := by
  constructor
  · rw [← keys_lastEntries]
    unfold sinkTexts
    rw [List.map_map]
    rfl
  · intro e he
    obtain ⟨⟨k, bs⟩, hlast, rfl⟩ := List.mem_map.mp he
    refine ⟨bs, ?_, isSafeTextOf_base64 bs⟩
    unfold lastEntries at hlast
    obtain ⟨j, -, hj⟩ := List.mem_filterMap.mp hlast
    obtain ⟨v, hv, hpair⟩ := Option.map_eq_some_iff.mp hj
    cases hpair
    exact hv

/-- The delivery of a credential hands no application over. -/
theorem Submission.deliverCredential_sends {n : RestNegotiator} {s : Submission} {w w' : World}
    (hs : s.IsOver n w) (ho : n.isOpen w = true) {r : Except Failure Credential}
    (h : s.deliverCredential w = (r, w')) : ∃ sent, w'.exchanges = w.exchanges ++ sent ∧
      ∀ e ∈ sent, ¬ e.IsTo n.manager.address .apps := by
  obtain ⟨looks, token, hd⟩ := deliverCredential_spec hs ho h
  refine ⟨_, hd.talks.exchanges, ?_⟩
  intro e he hto
  rcases List.mem_append.mp he with he | he
  · cases hto.eq_apps (hd.looks_to e he)
  · cases hto.eq_apps (hd.token_to e (Option.mem_toList.mp he))

/-- An attempt at submitting hands over nothing but an order with the tokens of the sink, up to its
end. -/
theorem Submission.submit_orders {n : RestNegotiator} {s : Submission} {w : World}
    (hs : s.IsOf n w) : n.HandsOnly (Orders (.mapping (w.tokenSink s.sink).tokens))
      (⟨.submit, s, w⟩ : Turn).sent := by
  rcases h : s.submit w with ⟨r, w'⟩
  obtain ⟨sent, w₁, htalks, -, horders, hdelivers⟩ := submit_delivers hs h
  suffices hall : ∃ sent, w'.exchanges = w.exchanges ++ sent ∧
      n.HandsOnly (Orders (.mapping (w.tokenSink s.sink).tokens)) sent by
    obtain ⟨all, hexchanges, horders⟩ := hall
    rw [Turn.sent_of_exchanges (by rw [Turn.nextWorld_of_submit h]; exact hexchanges)]
    exact horders
  have hbehind : ∀ {x : Except Failure Credential}, n.isOpen w₁ = true →
      s.deliverCredential w₁ = (x, w') → ∃ sent, w'.exchanges = w.exchanges ++ sent ∧
        n.HandsOnly (Orders (.mapping (w.tokenSink s.sink).tokens)) sent := by
    intro x ho hx
    obtain ⟨more, hmore, hnone⟩ := deliverCredential_sends ((hs.of_talks htalks).isOver ho) ho hx
    refine ⟨sent ++ more, ?_, horders.append (.of_none hnone)⟩
    rw [hmore, htalks.exchanges, List.append_assoc]
  cases hdelivers with
  | failed f => exact ⟨sent, htalks.exchanges, horders⟩
  | managed report hu hc => exact ⟨sent, htalks.exchanges, horders⟩
  | undelivered f g _ ho hf => exact hbehind ho hf
  | delivered c report _ ho hu hc hcredential => exact hbehind ho hc

end Runs

/-- A call for the first sink, right after another one. -/
def TokenTurn.next (t : TokenTurn) (call : TokenCall) : TokenTurn := ⟨call, t.after 0⟩

/-- A token that is put into an empty sink. -/
def sampleOld : TokenTurn := ⟨.tokens (.bytes [1]) (.text "rm"), { tokenSinks := [{}] }⟩

/-- Another one after it, under another alias. -/
def sampleOther : TokenTurn := sampleOld.next (.tokens (.bytes [2, 3]) (.text "fs"))

/-- A third one, under the alias of the first. -/
def sampleNew : TokenTurn := sampleOther.next (.tokens (.bytes [251, 255]) (.text "rm"))

theorem collected_sample {w : World} (h : w.tokenSinks = [sampleNew.left 0]) :
    Collected 0 [sampleOld, sampleOther, sampleNew] w := by
  have hold : Collected 0 [] sampleOld.before := .start (by decide) rfl
  have hother : Collected 0 [sampleOld] sampleOther.before := .call sampleOld hold (by decide) rfl
  have hnew : Collected 0 [sampleOld, sampleOther] sampleNew.before :=
    .call sampleOther hother (by decide) rfl
  refine .call sampleNew hnew (by rw [h]; decide) ?_
  unfold World.tokenSink
  rw [h]
  rfl

end ClusterSubmission
