import ClusterSubmission.Proofs.JsonGrammar
import ClusterSubmission.Proofs.SettingsLayers
import ClusterSubmission.Submission.Credential

/-!
# Credentials that are written and read back

A record with a value for each of its fields is written with all of them, and they are read back one
by one. A credential is such a record: what is written of it is one strict text, and the credential
is read back from it unless its token is empty, which is refused.
-/
namespace ClusterSubmission

open Message

namespace Message

open Settings (readEntries_entry)

section Given

variable {mode : Strictness} {way : List PlaceStep} {m : Model} {fs : List Field} {vs : List Value}

/-- The entries of fields that have a value each. -/
def givenEntries (fs : List Field) (vs : List Value) : List (Value × Value) :=
  fs.zipWith (fun f v => (.text f.wire, v)) vs

def givenSlots (vs : List Value) : List (Option Part) := vs.map fun v => some (.leaf v)

theorem slotWireForms_givenSlots (hlength : vs.length = fs.length)
    (hplain : ∀ v ∈ vs, plainValue v = .ok v) :
    slotWireForms false fs (givenSlots vs) = .ok (givenEntries fs vs) := by
  induction fs generalizing vs with
  | nil =>
    obtain rfl := List.length_eq_zero_iff.mp hlength
    rfl
  | cons f fs ih =>
    obtain ⟨v, vs, rfl⟩ := List.exists_cons_of_length_eq_add_one hlength
    have hv : plainValue v = .ok v := hplain v List.mem_cons_self
    have hrest := ih (by simpa using hlength) fun u hu => hplain u (List.mem_cons_of_mem _ hu)
    change (plainValue v >>= fun v => slotWireForms false fs (givenSlots vs) >>= fun es =>
      pure ((Value.text f.wire, v) :: es)) = _
    rw [hv, hrest]
    rfl

/-- Values that their fields take are read into the slots of the fields. -/
theorem readEntries_given {before : List Field} {done : List (Option Part)}
    (hfields : m.fields = before ++ fs) (hdone : done.length = before.length)
    (h : List.Forall₂ (fun f v => f.shape.Admits v) fs vs) :
    readEntries mode way m (entryDocuments (givenEntries fs vs)) (done ++ fs.map fun _ => none) =
      .ok (done ++ givenSlots vs) := by
  induction h generalizing before done with
  | nil => rfl
  | @cons f v fs vs hv h ih =>
    have hset : (done ++ none :: fs.map fun _ => none).set before.length (some (.leaf v)) =
        (done ++ [some (.leaf v)]) ++ fs.map fun _ => none := by
      rw [← hdone, List.set_append_right _ _ (Nat.le_refl _), Nat.sub_self, List.set_cons_zero,
        List.append_assoc]
      rfl
    change readEntries mode way m (entryDocuments ((.text f.wire, v) :: givenEntries fs vs))
      (done ++ none :: fs.map fun _ => none) = _
    rw [readEntries_entry (field?_wire hfields), hv.read_eq]
    change readEntries mode way m _ (List.set _ _ _) = _
    have hnext : m.fields = (before ++ [f]) ++ fs := by
      rw [hfields, List.append_assoc]
      rfl
    rw [hset, ih hnext (by simp [hdone]), List.append_assoc]
    rfl

theorem missingField?_given : missingField? fs (givenSlots vs) = none := by
  induction fs generalizing vs with
  | nil => rfl
  | cons f fs ih =>
    cases vs with
    | nil => rfl
    | cons v vs => exact ih

theorem readBytes_of_read {d : Document} {bs : List UInt8} (h : Json.read bs = (d, true)) :
    readBytes mode m bs = read mode [] (.record m) d := by
  rw [readBytes, h]
  dsimp only
  cases read mode [] (.record m) d <;> rfl

/-- A record is read from bytes by its entries. -/
theorem readBytes_mapping {es : List (Value × Value)} {bs : List UInt8}
    (h : Json.read bs = (documentOf (.mapping es), true)) : readBytes mode m bs = (do
      let slots ← readEntries mode [] m (entryDocuments es) (m.fields.map fun _ => none)
      finishRecord [] m slots) := by
  rw [readBytes_of_read h, documentOf]
  unfold read
  simp only [Shape.recordModel?, if_true]

/-- A record whose fields take their values is read back from what is written of it. -/
theorem readBytes_given {bs : List UInt8}
    (h : Json.read bs = (documentOf (.mapping (givenEntries m.fields vs)), true))
    (hadmits : List.Forall₂ (fun f v => f.shape.Admits v) m.fields vs) :
    readBytes mode m bs = .ok (.record m (givenSlots vs)) := by
  have hentries : readEntries mode [] m (entryDocuments (givenEntries m.fields vs))
      (m.fields.map fun _ => none) = .ok (givenSlots vs) :=
    readEntries_given (show m.fields = [] ++ m.fields from rfl)
      (show ([] : List (Option Part)).length = ([] : List Field).length from rfl) hadmits
  rw [readBytes_mapping h, hentries]
  change finishRecord [] m (givenSlots vs) = _
  rw [finishRecord, missingField?_given]

end Given

end Message

/-- A value that may be left open. -/
def orNull {α : Type} (f : α → Value) : Option α → Value
  | none => .null
  | some a => f a

/-- The values of a credential whose fields have the types that are declared for them. An expiration
is not too long to be read. -/
structure CredentialFields where
  token : String
  kind : String
  service : String
  renewer : Option String
  owner : Option String
  expiration : Option Int
  short : ∀ n ∈ expiration, (Nat.toDigits 10 n.natAbs).length ≤ Json.maxDigits

namespace CredentialFields

variable (c : CredentialFields)

def credential : Credential :=
  ⟨.text c.token, .text c.kind, .text c.service, orNull .text c.renewer, orNull .text c.owner,
    orNull .int c.expiration⟩

theorem forall_values {P : Value → Prop} (htext : ∀ s, P (.text s)) (hnull : P .null)
    (hint : ∀ n ∈ c.expiration, P (.int n)) : ∀ v ∈ c.credential.values, P v := by
  have horNull : ∀ x : Option String, P (orNull .text x) := by
    intro x
    cases x with
    | none => exact hnull
    | some s => exact htext s
  have hexpiration : P (orNull .int c.expiration) := by
    cases hn : c.expiration with
    | none => exact hnull
    | some n => exact hint n hn
  change ∀ v ∈ [_, _, _, _, _, _], _
  simp only [List.forall_mem_cons, List.not_mem_nil, false_implies, implies_true, and_true]
  exact ⟨htext _, htext _, htext _, horNull _, horNull _, hexpiration⟩

/-- Every field but the token takes any value of its type. -/
theorem admits_values (h : c.token ≠ "") : List.Forall₂ (fun f v => f.shape.Admits v)
    Model.securityCredential.fields c.credential.values := by
  have horNull : ∀ x : Option String, Shape.optionalText.Admits (orNull .text x) := by
    intro x
    cases x with
    | none => exact .noText
    | some s => exact .optionalText s
  have hexpiration : Shape.optionalInteger.Admits (orNull .int c.expiration) := by
    cases c.expiration with
    | none => exact .noInteger
    | some n => exact .optionalInteger n
  exact .cons (.nonEmptyText h) (.cons (.anyText _) (.cons (.anyText _) (.cons (horNull _)
    (.cons (horNull _) (.cons hexpiration .nil)))))

/-- The entries of a credential. -/
def entries : List (Value × Value) :=
  givenEntries Model.securityCredential.fields c.credential.values

theorem isDocument_entries : Json.IsDocument (.mapping c.entries) := by
  have hvalues := c.forall_values (P := Json.IsDocument) (fun _ => trivial) trivial c.short
  have hentries : ∀ {fs : List Field} {vs : List Value}, (∀ v ∈ vs, Json.IsDocument v) →
      Json.AreEntries (givenEntries fs vs) := by
    intro fs vs
    induction fs generalizing vs with
    | nil => exact fun _ => trivial
    | cons f fs ih =>
      intro hvs
      cases vs with
      | nil => trivial
      | cons v vs =>
        exact ⟨⟨_, rfl⟩, hvs v List.mem_cons_self, ih fun u hu => hvs u (List.mem_cons_of_mem _ hu)⟩
  exact hentries hvalues

theorem serialize_eq : c.credential.serialize = encodeValue (.mapping c.entries) := by
  have hplain : ∀ v ∈ c.credential.values, plainValue v = .ok v :=
    c.forall_values (fun _ => rfl) rfl fun _ _ => rfl
  have hslots : slotWireForms false Model.securityCredential.fields
      (givenSlots c.credential.values) =
      .ok (givenEntries Model.securityCredential.fields c.credential.values) :=
    slotWireForms_givenSlots rfl hplain
  change (slotWireForms false Model.securityCredential.fields (givenSlots c.credential.values) >>=
    fun es => pure (Value.mapping es)) >>= encodeValue = _
  rw [hslots]
  rfl

end CredentialFields

/-- A credential is written as one strict text with all of its fields. It is read back as it was,
unless its token is empty, which is refused where the token stands. -/
theorem credential_read_back (c : CredentialFields) : ∃ text,
    c.credential.serialize = .ok text ∧ Json.IsText text.toList ∧
    Json.read (Text.utf8 text) = (documentOf (.mapping c.entries), true) ∧
    Credential.deserialize (Text.utf8 text) =
      if c.token = "" then .error (.mismatch ⟨.tooShort 1, ⟨[.field "token"], false⟩⟩)
      else .ok c.credential := by
  obtain ⟨text, htext, hgrammar, hread⟩ := Json.text_written c.isDocument_entries
  refine ⟨text, ?_, hgrammar, hread, ?_⟩
  · rw [c.serialize_eq, encodeValue, htext]
  unfold Credential.deserialize
  by_cases htoken : c.token = ""
  · have hrefused : ruledText [.field "token"] .nonEmpty c.token =
        .error (faultAt [.field "token"] (.tooShort 1)) := by
      rw [ruledText, htoken]
      rfl
    rw [if_pos htoken, readBytes_mapping hread]
    change (((ruledText [.field "token"] .nonEmpty c.token >>= _) >>= _) >>= _) = _
    rw [hrefused]
    rfl
  · rw [if_neg htoken, readBytes_given hread (c.admits_values htoken)]
    rfl

/-- A credential with characters that are escaped, and an expiration before the epoch. -/
def CredentialFields.sample : CredentialFields where
  token := "a\"b\\c\n\x01é"
  kind := delegationTokenKind
  service := "rm:8088"
  renewer := some "yarn"
  owner := none
  expiration := some (-1)
  short := by decide

theorem credential_read_back_escaped : ∃ text,
    CredentialFields.sample.credential.serialize = .ok text ∧ Json.IsText text.toList ∧
    Credential.deserialize (Text.utf8 text) = .ok CredentialFields.sample.credential := by
  obtain ⟨text, hwritten, hgrammar, -, hread⟩ := credential_read_back CredentialFields.sample
  rw [if_neg (by decide)] at hread
  exact ⟨text, hwritten, hgrammar, hread⟩

end ClusterSubmission
