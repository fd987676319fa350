import ClusterSubmission.Message.Answer
import ClusterSubmission.ResourceManager
import Mathlib.Data.List.Basic

/-!
# What can be wrong with an answer

An answer is read twice: first into a value of any kind, then into a message of one model. Reading
finds a place that does not fit, a malformed document, or text that is no UTF-8. Only the first two
become trouble in the communication, so the third one is kept apart.
-/
namespace ClusterSubmission

section Results

variable {ε α β : Type} {x : Except ε α} {f : α → Except ε β}

theorem bind_eq_error {e : ε} (h : (x >>= f) = .error e) :
    x = .error e ∨ ∃ a, x = .ok a ∧ f a = .error e := by
  cases x with
  | error y =>
    cases h
    exact Or.inl rfl
  | ok a => exact Or.inr ⟨a, rfl, h⟩

theorem bind_eq_ok {b : β} (h : (x >>= f) = .ok b) : ∃ a, x = .ok a ∧ f a = .ok b := by
  cases x with
  | error y => cases h
  | ok a => exact ⟨a, rfl, h⟩

theorem mapM_eq_error {g : α → Except ε β} {l : List α} {e : ε} (h : l.mapM g = .error e) :
    ∃ a ∈ l, g a = .error e := by
  induction l with
  | nil => cases h
  | cons a l ih =>
    rw [List.mapM_cons] at h
    rcases bind_eq_error h with ha | ⟨b, -, h⟩
    · exact ⟨a, List.mem_cons_self .., ha⟩
    · rcases bind_eq_error h with hrest | ⟨bs, -, h⟩
      · obtain ⟨x, hx, hfails⟩ := ih hrest
        exact ⟨x, List.mem_cons_of_mem _ hx, hfails⟩
      · cases h

end Results

/-- A fault that reading can find in a document, where only an unsound document has text that is no
UTF-8. -/
inductive IsFault (sound : Bool) : Reason → Prop
  | mismatch (m : Mismatch) : IsFault sound (.mismatch m)
  | malformed : IsFault sound .malformedDocument
  | illFormed (h : sound = false) : IsFault sound .illFormedText

theorem IsFault.mono {s t : Bool} {e : Reason} (h : IsFault s e) (hst : s = false → t = false) :
    IsFault t e := by
  cases h with
  | mismatch m => exact .mismatch m
  | malformed => exact .malformed
  | illFormed h => exact .illFormed (hst h)

namespace Json

-- One theorem for each of the readers, which call each other on the parts of a document.
mutual
theorem contentOf_error : ∀ (d : Document) {e : Reason}, contentOf d = .error e →
    e = .malformedDocument ∨ e = .illFormedText
  | .null, _, h | .bool _, _, h | .int _, _, h | .float _, _, h | .text (some _), _, h => by cases h
  | .text none, _, h => by cases h; exact Or.inr rfl
  | .hugeInt, _, h | .hugeFloat, _, h | .other _, _, h | .broken, _, h => by
    cases h
    exact Or.inl rfl
  | .array items closed, e, h => by
    unfold contentOf at h
    rcases bind_eq_error h with hitems | ⟨vs, -, h⟩
    · exact itemsOf_error items hitems
    · cases closed <;> cases h
      exact Or.inl rfl
  | .object entries closed, e, h => by
    unfold contentOf at h
    rcases bind_eq_error h with hentries | ⟨es, -, h⟩
    · exact entriesOf_error entries [] hentries
    · cases closed <;> cases h
      exact Or.inl rfl

theorem itemsOf_error : ∀ (ds : List Document) {e : Reason}, itemsOf ds = .error e →
    e = .malformedDocument ∨ e = .illFormedText
  | [], _, h => by cases h
  | d :: ds, e, h => by
    unfold itemsOf at h
    rcases bind_eq_error h with hd | ⟨v, -, h⟩
    · exact contentOf_error d hd
    · rcases bind_eq_error h with hds | ⟨vs, -, h⟩
      · exact itemsOf_error ds hds
      · cases h

theorem entriesOf_error : ∀ (es : List (DocumentKey × Document)) (done : List (Value × Value))
    {e : Reason}, entriesOf es done = .error e → e = .malformedDocument ∨ e = .illFormedText
  | [], _, _, h => by cases h
  | (.name none, _) :: _, _, _, h => by cases h; exact Or.inr rfl
  | (.other _, _) :: _, _, _, h => by cases h; exact Or.inl rfl
  | (.name (some key), d) :: rest, done, e, h => by
    unfold entriesOf at h
    rcases bind_eq_error h with hd | ⟨v, -, h⟩
    · exact contentOf_error d hd
    · exact entriesOf_error rest _ h
end

theorem content_error {bs : List UInt8} {e : Reason} (h : content bs = .error e) :
    e = .malformedDocument ∨ e = .illFormedText := by
  unfold content at h
  split at h
  rename_i d finished hread
  rcases bind_eq_error h with hd | ⟨v, -, h⟩
  · exact contentOf_error d hd
  · cases finished <;> cases h
    exact Or.inl rfl

end Json

/-- A malformed document is taken as text, so an answer has no content only through text that is no
UTF-8. -/
theorem answerContent_error {a : Response} {e : Reason}
    (h : ResourceManager.answerContent a = .error e) : e = .illFormedText := by
  unfold ResourceManager.answerContent at h
  split at h
  · cases h
  · split at h
    · cases h
    · rename_i hne
      rcases Json.content_error h with rfl | rfl
      · exact absurd h hne
      · rfl

namespace Message

mutual
/-- Whether all text in a document is UTF-8. -/
def isSound : Document → Bool
  | .text s => s.isSome
  | .array items _ => areSound items
  | .object entries _ => entriesSound entries
  | _ => true

/-- Whether all text in documents is UTF-8. -/
def areSound : List Document → Bool
  | [] => true
  | d :: ds => isSound d && areSound ds

/-- Whether all names and all text in entries are UTF-8. -/
def entriesSound : List (DocumentKey × Document) → Bool
  | [] => true
  | (.name none, _) :: _ => false
  | (_, d) :: es => isSound d && entriesSound es
end

theorem boundedInteger_error {way : List PlaceStep} {least : Option Int} {n : Int} {e : Reason}
    (h : boundedInteger way least n = .error e) : ∃ m, e = .mismatch m := by
  unfold boundedInteger at h
  split at h
  · split at h <;> cases h
    exact ⟨_, rfl⟩
  · cases h

theorem integerInText_error {way : List PlaceStep} {shape : Shape} {s : String} {e : Reason}
    (h : integerInText way shape s = .error e) : ∃ m, e = .mismatch m := by
  unfold integerInText at h
  split at h
  · cases h
  · cases h; exact ⟨_, rfl⟩
  · cases h; exact ⟨_, rfl⟩
  · split at h <;> cases h
    exact ⟨_, rfl⟩
  · cases h; exact ⟨_, rfl⟩

theorem readInteger_error {mode : Strictness} {way : List PlaceStep} {shape : Shape}
    {least : Option Int} {d : Document} {e : Reason}
    (h : readInteger mode way shape least d = .error e) : ∃ m, e = .mismatch m := by
  unfold readInteger at h
  split at h
  · exact boundedInteger_error h
  · split at h
    · split at h
      · exact boundedInteger_error h
      · cases h; exact ⟨_, rfl⟩
    · cases h; exact ⟨_, rfl⟩
  · rename_i s
    split at h
    · rcases bind_eq_error h with hs | ⟨n, -, h⟩
      · exact integerInText_error hs
      · exact boundedInteger_error h
    · cases h; exact ⟨_, rfl⟩
  · cases h; exact ⟨_, rfl⟩

theorem readBoolean_error {mode : Strictness} {way : List PlaceStep} {shape : Shape}
    {d : Document} {e : Reason} (h : readBoolean mode way shape d = .error e) :
    ∃ m, e = .mismatch m := by
  unfold readBoolean at h
  split at h
  · cases h
  · split at h <;> cases h
    exact ⟨_, rfl⟩
  · split at h <;> cases h
    exact ⟨_, rfl⟩
  · cases h; exact ⟨_, rfl⟩

theorem ruledText_error {way : List PlaceStep} {rule : TextRule} {s : String} {e : Reason}
    (h : ruledText way rule s = .error e) : ∃ m, e = .mismatch m := by
  unfold ruledText at h
  split at h
  · cases h
  · split at h <;> cases h
    exact ⟨_, rfl⟩
  · split at h <;> cases h
    exact ⟨_, rfl⟩

theorem chosenText_error {way : List PlaceStep} {names : List String} {s : String} {e : Reason}
    (h : chosenText way names s = .error e) : ∃ m, e = .mismatch m := by
  unfold chosenText at h
  split at h <;> cases h
  exact ⟨_, rfl⟩

theorem readText?_error {mode : Strictness} {way : List PlaceStep} {shape : Shape} {s : String}
    {e : Reason} (h : readText? mode way shape s = some (.error e)) : ∃ m, e = .mismatch m := by
  unfold readText? at h
  split at h
  · exact ruledText_error (Option.some.inj h)
  · cases h
  · cases h
  · cases h
  · exact chosenText_error (Option.some.inj h)
  · split at h
    · cases h
    · exact chosenText_error (Option.some.inj h)
  · cases h

theorem readScalar_error {mode : Strictness} {way : List PlaceStep} {shape : Shape}
    {d : Document} {e : Reason} (h : readScalar mode way shape d = .error e) :
    IsFault (isSound d) e := by
  have hmismatch : ∀ {x : Reason}, (∃ m, x = .mismatch m) → IsFault (isSound d) x := by
    rintro x ⟨m, rfl⟩
    exact .mismatch m
  unfold readScalar at h
  split at h
  · cases h; exact .malformed
  · cases h; exact .mismatch _
  · cases h; exact .mismatch _
  · split at h <;> cases h
    · exact .illFormed rfl
    · exact .mismatch _
  · split at h
    · rename_i s r hread
      subst h
      exact hmismatch (readText?_error hread)
    · split at h
      · exact hmismatch (readInteger_error h)
      · split at h
        · cases h
        · exact hmismatch (readInteger_error h)
      · exact hmismatch (readBoolean_error h)
      · cases h; exact .mismatch _
  · split at h <;> cases h
    exact .mismatch _
  · split at h
    · exact hmismatch (readInteger_error h)
    · exact hmismatch (readInteger_error h)
    · exact hmismatch (readBoolean_error h)
    · exact hmismatch (readBoolean_error h)
    · cases h; exact .mismatch _

theorem finishRecord_error {way : List PlaceStep} {m : Model} {slots : List (Option Part)}
    {e : Reason} (h : finishRecord way m slots = .error e) : ∃ m, e = .mismatch m := by
  unfold finishRecord at h
  split at h <;> cases h
  exact ⟨_, rfl⟩

mutual
/-- Reading a message finds mismatches, malformed places and text that is no UTF-8. -/
theorem read_error : ∀ (mode : Strictness) (way : List PlaceStep) (shape : Shape) (d : Document)
    {e : Reason}, read mode way shape d = .error e → IsFault (isSound d) e
  | mode, way, shape, .array items closed, e, h => by
    unfold read at h
    split at h
    · rename_i item
      rcases bind_eq_error h with hitems | ⟨ps, -, h⟩
      · exact readItems_error mode way item 0 items hitems
      · cases closed <;> cases h
        exact .malformed
    · cases h
      exact .mismatch _
  | mode, way, shape, .object entries closed, e, h => by
    unfold read at h
    split at h
    · rename_i m hm
      rcases bind_eq_error h with hentries | ⟨slots, -, h⟩
      · exact readEntries_error mode way m entries _ hentries
      · cases closed
        · cases h
          exact .malformed
        · obtain ⟨x, rfl⟩ := finishRecord_error h
          exact .mismatch x
    · split at h
      · rcases bind_eq_error h with hentries | ⟨es, -, h⟩
        · exact readTextEntries_error mode way entries [] hentries
        · cases closed <;> cases h
          exact .malformed
      · cases h
        exact .mismatch _
  | mode, way, shape, .null, _, h | mode, way, shape, .bool _, _, h
  | mode, way, shape, .int _, _, h | mode, way, shape, .hugeInt, _, h
  | mode, way, shape, .float _, _, h | mode, way, shape, .hugeFloat, _, h
  | mode, way, shape, .text _, _, h | mode, way, shape, .other _, _, h
  | mode, way, shape, .broken, _, h => by
    unfold read at h
    exact readScalar_error h

theorem readItems_error : ∀ (mode : Strictness) (way : List PlaceStep) (item : Shape)
    (index : Nat) (ds : List Document) {e : Reason},
    readItems mode way item index ds = .error e → IsFault (areSound ds) e
  | _, _, _, _, [], _, h => by cases h
  | mode, way, item, index, d :: ds, e, h => by
    unfold readItems at h
    rcases bind_eq_error h with hd | ⟨p, -, h⟩
    · exact (read_error mode _ item d hd).mono fun hs => by simp [areSound, hs]
    · rcases bind_eq_error h with hds | ⟨ps, -, h⟩
      · exact (readItems_error mode way item _ ds hds).mono fun hs => by simp [areSound, hs]
      · cases h

theorem readEntries_error : ∀ (mode : Strictness) (way : List PlaceStep) (m : Model)
    (es : List (DocumentKey × Document)) (slots : List (Option Part)) {e : Reason},
    readEntries mode way m es slots = .error e → IsFault (entriesSound es) e
  | _, _, _, [], _, _, h => by cases h
  | _, _, _, (.other _, _) :: _, _, _, h => by
    cases h
    exact .mismatch _
  | mode, way, m, (.name key, d) :: rest, slots, e, h => by
    have hhead : isSound d = false → entriesSound ((.name key, d) :: rest) = false := by
      intro hs
      cases key <;> simp [entriesSound, hs]
    have htail : entriesSound rest = false → entriesSound ((.name key, d) :: rest) = false := by
      intro hs
      cases key <;> simp [entriesSound, hs]
    unfold readEntries at h
    split at h
    · rename_i index f hfield
      rcases bind_eq_error h with hd | ⟨p, -, h⟩
      · exact (read_error mode _ f.shape d hd).mono hhead
      · exact (readEntries_error mode way m rest _ h).mono htail
    · split at h
      · exact (readEntries_error mode way m rest _ h).mono htail
      · cases h
        exact .malformed

theorem readTextEntries_error : ∀ (mode : Strictness) (way : List PlaceStep)
    (es : List (DocumentKey × Document)) (done : List (Value × Value)) {e : Reason},
    readTextEntries mode way es done = .error e → IsFault (entriesSound es) e
  | _, _, [], _, _, h => by cases h
  | _, _, (.other _, _) :: _, _, _, h => by
    cases h
    exact .mismatch _
  | _, _, (.name none, _) :: _, _, _, h => by
    cases h
    exact .illFormed rfl
  | mode, way, (.name (some key), d) :: rest, done, e, h => by
    unfold readTextEntries at h
    rcases bind_eq_error h with hd | ⟨p, -, h⟩
    · exact (read_error mode _ _ d hd).mono fun hs => by simp [entriesSound, hs]
    · exact (readTextEntries_error mode way rest _ h).mono fun hs => by simp [entriesSound, hs]
end

mutual
theorem isSound_documentOf : ∀ v : Value, isSound (documentOf v) = true
  | .null | .bool _ | .int _ | .float _ | .text _ | .bytes _ | .path _ | .handle _
  | .resource .. | .moment .. => rfl
  | .list vs | .tuple vs => areSound_documentsOf vs
  | .version _ => rfl
  | .mapping es => entriesSound_entryDocuments es

theorem areSound_documentsOf : ∀ vs : List Value, areSound (documentsOf vs) = true
  | [] => rfl
  | v :: vs => by
    simp [documentsOf, areSound, isSound_documentOf v, areSound_documentsOf vs]

theorem entriesSound_entryDocuments : ∀ es : List (Value × Value),
    entriesSound (entryDocuments es) = true
  | [] => rfl
  | (k, v) :: es => by
    cases k <;> simp [entryDocuments, entriesSound, isSound_documentOf v,
      entriesSound_entryDocuments es]
end

theorem readBytes_error {m : Model} {bs : List UInt8} {e : Reason}
    (h : readBytes .lenient m bs = .error e) :
    (∃ x, e = .mismatch x) ∨ e = .malformedDocument ∨ e = .illFormedText := by
  unfold readBytes at h
  split at h
  rename_i d finished hread
  split at h
  · cases finished <;> cases h
    exact Or.inr (Or.inl rfl)
  · rename_i x hx
    cases h
    cases read_error _ _ _ d hx with
    | mismatch x => exact Or.inl ⟨x, rfl⟩
    | malformed => exact Or.inr (Or.inl rfl)
    | illFormed => exact Or.inr (Or.inr rfl)

theorem readValue_mapping_error {m : Model} {es : List (Value × Value)} {e : Reason}
    (h : readValue .lenient m (.mapping es) = .error e) :
    (∃ x, e = .mismatch x) ∨ e = .malformedDocument := by
  have hsound := isSound_documentOf (.mapping es)
  cases read_error _ _ _ _ h with
  | mismatch x => exact Or.inl ⟨x, rfl⟩
  | malformed => exact Or.inr rfl
  | illFormed hs =>
    rw [hs] at hsound
    cases hsound

/-- A mismatch and a malformed document become trouble in the communication. -/
theorem decode_of_fault {m : Model} {v : Value} {e : Reason}
    (h : readValue .lenient m v = .error e)
    (he : (∃ x, e = .mismatch x) ∨ e = .malformedDocument) :
    ∃ f, decode m v = .error f ∧ f.kind = .communication := by
  unfold decode
  rw [h]
  rcases he with ⟨x, rfl⟩ | rfl
  · exact ⟨_, rfl, rfl⟩
  · exact ⟨_, rfl, rfl⟩

/-- The content of an answer, as the caller gets it. -/
def answerValue (a : Response) : Except Failure Value :=
  match ResourceManager.answerContent a with
  | .ok v => .ok v
  | .error e => .error e.failure

theorem answerValue_ok {a : Response} {v : Value} :
    answerValue a = .ok v ↔ ResourceManager.answerContent a = .ok v := by
  unfold answerValue
  rcases ResourceManager.answerContent a with e | x <;> simp

theorem answerValue_error {a : Response} {f : Failure} (h : answerValue a = .error f) :
    f = Reason.illFormedText.failure ∧
      ResourceManager.answerContent a = .error .illFormedText := by
  unfold answerValue at h
  rcases ha : ResourceManager.answerContent a with e | v
  · rw [ha] at h
    cases h
    rw [answerContent_error ha]
    exact ⟨rfl, rfl⟩
  · rw [ha] at h
    cases h

/-- The message of a model in an answer. -/
def readAnswer (m : Model) (a : Response) : Except Failure Part := answerValue a >>= decode m

/-- The answers that no message is read from, and that are not taken for trouble in the
communication either: text that is no UTF-8, a document that is neither an object nor text, and a
text that is itself a document with text that is no UTF-8. -/
inductive IsUnreadable (m : Model) (a : Response) : Prop
  | illFormed (h : ResourceManager.answerContent a = .error .illFormedText)
  | otherKind (v : Value) (h : ResourceManager.answerContent a = .ok v)
      (hm : ∀ es, v ≠ .mapping es) (ht : ∀ s, v ≠ .text s)
  | illFormedInside (s : String) (h : ResourceManager.answerContent a = .ok (.text s))
      (hs : readBytes .lenient m (Text.utf8 s) = .error .illFormedText)

theorem answerContent_ne_bytes {a : Response} {bs : List UInt8} :
    ResourceManager.answerContent a ≠ .ok (.bytes bs) := by
  have hcontent : ∀ d : Document, Json.contentOf d ≠ .ok (.bytes bs) := by
    intro d h
    cases d with
    | text s => cases s <;> cases h
    | array items closed =>
      unfold Json.contentOf at h
      obtain ⟨vs, -, h⟩ := bind_eq_ok h
      cases closed <;> cases h
    | object entries closed =>
      unfold Json.contentOf at h
      obtain ⟨es, -, h⟩ := bind_eq_ok h
      cases closed <;> cases h
    | _ => cases h
  intro h
  unfold ResourceManager.answerContent at h
  split at h
  · cases h
  · split at h
    · cases h
    · unfold Json.content at h
      split at h
      rename_i d finished hread
      obtain ⟨v, hd, h⟩ := bind_eq_ok h
      cases finished <;> cases h
      exact hcontent d hd

/-- An answer without a message is trouble in the communication, or it is unreadable. -/
theorem readAnswer_error {m : Model} {a : Response} {f : Failure}
    (h : readAnswer m a = .error f) :
    f.kind = .communication ∨ f.kind.isSubmission = false ∧ IsUnreadable m a := by
  rcases bind_eq_error h with ha | ⟨v, ha, h⟩
  · obtain ⟨rfl, hcontent⟩ := answerValue_error ha
    exact Or.inr ⟨rfl, .illFormed hcontent⟩
  · replace ha := answerValue_ok.mp ha
    have hfault : ∀ {e : Reason}, readValue .lenient m v = .error e →
        (∃ x, e = .mismatch x) ∨ e = .malformedDocument → f.kind = .communication := by
      intro e hread he
      obtain ⟨g, hg, hkind⟩ := decode_of_fault hread he
      rw [hg] at h
      cases h
      exact hkind
    cases v with
    | mapping es =>
      rcases hread : readValue .lenient m (.mapping es) with e | p
      · exact Or.inl (hfault hread (readValue_mapping_error hread))
      · simp [decode, hread] at h
    | text s =>
      rcases hread : readBytes .lenient m (Text.utf8 s) with e | p
      · have hvalue : readValue .lenient m (.text s) = .error e := hread
        rcases readBytes_error hread with he | he | rfl
        · exact Or.inl (hfault hvalue (Or.inl he))
        · exact Or.inl (hfault hvalue (Or.inr he))
        · simp only [decode, hvalue] at h
          cases h
          exact Or.inr ⟨rfl, .illFormedInside s ha hread⟩
      · have hvalue : readValue .lenient m (.text s) = .ok p := hread
        simp [decode, hvalue] at h
    | bytes bs => exact absurd ha answerContent_ne_bytes
    | _ =>
      cases h
      exact Or.inr ⟨rfl, .otherKind _ ha (by intro es; simp) (by intro s; simp)⟩

theorem readAnswer_ne_rejected {m : Model} {a : Response} {f : Failure}
    (h : readAnswer m a = .error f) : f.kind ≠ .rejected := by
  intro hkind
  rcases readAnswer_error h with hf | ⟨hf, -⟩
  · rw [hkind] at hf
    cases hf
  · rw [hkind] at hf
    cases hf

theorem readAnswer_of_isUnreadable {m : Model} {a : Response} (h : IsUnreadable m a) :
    ∃ f, readAnswer m a = .error f ∧ f.kind.isSubmission = false := by
  unfold readAnswer answerValue
  cases h with
  | illFormed h =>
    rw [h]
    exact ⟨_, rfl, rfl⟩
  | otherKind v h hm ht =>
    rw [h]
    cases v with
    | mapping es => exact absurd rfl (hm es)
    | text s => exact absurd rfl (ht s)
    | bytes bs => exact absurd h answerContent_ne_bytes
    | _ => exact ⟨_, rfl, rfl⟩
  | illFormedInside s h hs =>
    have hvalue : readValue .lenient m (.text s) = .error .illFormedText := hs
    have hdecode : decode m (.text s) = .error Reason.illFormedText.failure := by
      unfold decode
      rw [hvalue]
      rfl
    rw [h]
    exact ⟨_, hdecode, rfl⟩

/-- The answers that hold a message: an object that fits the model, or a text that is the document
of one. -/
inductive IsMessage (m : Model) (a : Response) (p : Part) : Prop
  | object (es : List (Value × Value)) (h : ResourceManager.answerContent a = .ok (.mapping es))
      (hp : read .lenient [] (.record m) (documentOf (.mapping es)) = .ok p)
  | quoted (s : String) (h : ResourceManager.answerContent a = .ok (.text s))
      (hp : readBytes .lenient m (Text.utf8 s) = .ok p)

theorem decode_ok {m : Model} {v : Value} {p : Part} :
    decode m v = .ok p ↔ readValue .lenient m v = .ok p := by
  unfold decode
  rcases readValue .lenient m v with e | q
  · simp only [reduceCtorEq, iff_false]
    split <;> simp
  · simp

/-- A message is read exactly from the answers that hold one. -/
theorem readAnswer_ok {m : Model} {a : Response} {p : Part} :
    readAnswer m a = .ok p ↔ IsMessage m a p := by
  constructor
  · intro h
    obtain ⟨v, ha, h⟩ := bind_eq_ok h
    replace ha := answerValue_ok.mp ha
    have hread : readValue .lenient m v = .ok p := decode_ok.mp h
    cases v with
    | mapping es => exact .object es ha hread
    | text s => exact .quoted s ha hread
    | bytes bs => exact absurd ha answerContent_ne_bytes
    | _ => cases hread
  · intro h
    unfold readAnswer answerValue
    cases h with
    | object es h hp =>
      rw [h]
      exact decode_ok.mpr hp
    | quoted s h hp =>
      rw [h]
      exact decode_ok.mpr hp

/-- Whatever stands in a slot was read for the field of the slot. -/
def IsFilled (mode : Strictness) (m : Model) (slots : List (Option Part)) : Prop :=
  slots.length = m.fields.length ∧ ∀ (i : Nat) (f : Field) (p : Part), m.fields[i]? = some f →
    slots[i]? = some (some p) → ∃ way d, read mode way f.shape d = .ok p

theorem field?_eq {m : Model} {key : String} {index : Nat} {f : Field}
    (h : m.field? key = some (index, f)) : m.fields[index]? = some f := by
  unfold Model.field? at h
  obtain ⟨x, hx, heq⟩ := Option.map_eq_some_iff.mp h
  obtain ⟨rfl, rfl⟩ := Prod.mk.inj heq
  exact List.mem_zipIdx_iff_getElem?.mp (List.mem_of_find?_eq_some hx)

theorem IsFilled.set {mode : Strictness} {m : Model} {slots : List (Option Part)}
    (h : IsFilled mode m slots) {index : Nat} {f : Field} {p : Part} {way : List PlaceStep}
    {d : Document} (hf : m.fields[index]? = some f) (hp : read mode way f.shape d = .ok p) :
    IsFilled mode m (slots.set index (some p)) := by
  refine ⟨by rw [List.length_set, h.1], ?_⟩
  intro i g q hg hq
  by_cases hi : index = i
  · subst hi
    rw [hf] at hg
    cases hg
    rw [List.getElem?_set_self (by
      rw [h.1]
      exact (List.getElem?_eq_some_iff.mp hf).1)] at hq
    cases hq
    exact ⟨way, d, hp⟩
  · rw [List.getElem?_set_ne hi] at hq
    exact h.2 i g q hg hq

theorem readEntries_isFilled {mode : Strictness} {way : List PlaceStep} {m : Model} :
    ∀ {es : List (DocumentKey × Document)} {slots slots' : List (Option Part)},
      readEntries mode way m es slots = .ok slots' → IsFilled mode m slots →
      IsFilled mode m slots' := by
  intro es
  induction es with
  | nil =>
    intro slots slots' h hslots
    cases h
    exact hslots
  | cons entry rest ih =>
    intro slots slots' h hslots
    obtain ⟨key, d⟩ := entry
    cases key with
    | other got => cases h
    | name key =>
      unfold readEntries at h
      split at h
      · rename_i index f hfield
        obtain ⟨s, hs, hfield⟩ := Option.bind_eq_some_iff.mp hfield
        obtain ⟨p, hd, h⟩ := bind_eq_ok h
        exact ih h (hslots.set (field?_eq hfield) hd)
      · split at h
        · exact ih h hslots
        · cases h

/-- A record that was read has all its required fields, each read by its own shape. -/
theorem read_record {mode : Strictness} {way : List PlaceStep} {m : Model} {d : Document}
    {p : Part} (h : read mode way (.record m) d = .ok p) :
    ∃ slots, p = .record m slots ∧ IsFilled mode m slots ∧ missingField? m.fields slots = none := by
  cases d with
  | object entries closed =>
    unfold read at h
    simp only [Shape.recordModel?] at h
    obtain ⟨slots, hentries, h⟩ := bind_eq_ok h
    cases closed with
    | false => cases h
    | true =>
      have hempty : IsFilled mode m (m.fields.map fun _ => none) := by
        refine ⟨List.length_map _, ?_⟩
        intro i f p hf hp
        rw [List.getElem?_map, hf] at hp
        cases hp
      have hfilled := readEntries_isFilled hentries hempty
      change finishRecord way m slots = .ok p at h
      unfold finishRecord at h
      split at h
      · cases h
      · rename_i hmissing
        cases h
        exact ⟨slots, rfl, hfilled, hmissing⟩
  | text s => cases s <;> cases h
  | _ => cases h

theorem read_applicationId {mode : Strictness} {way : List PlaceStep} {d : Document} {p : Part}
    (h : read mode way (.text .applicationId) d = .ok p) :
    ∃ s, p = .leaf (.text s) ∧ ApplicationId.isValid s = true := by
  cases d with
  | text s =>
    cases s with
    | none => cases h
    | some s =>
      change (if ApplicationId.isValid s then .ok (.leaf (.text s))
        else .error (faultAt way (.offPattern ApplicationId.pattern))) = Except.ok p at h
      split at h
      · rename_i hvalid
        cases h
        exact ⟨s, rfl, hvalid⟩
      · cases h
  | _ => cases h

theorem applicationId_of_read {mode : Strictness} {way : List PlaceStep} {d : Document} {p : Part}
    (h : read mode way (.record .newApplication) d = .ok p) :
    ∃ s, p.field "application_id" = .text s ∧ ApplicationId.isValid s = true := by
  obtain ⟨slots, rfl, ⟨hlength, hfilled⟩, hmissing⟩ := read_record h
  obtain ⟨a, b, rfl⟩ := List.length_eq_two.mp hlength
  cases a with
  | none => cases hmissing
  | some a =>
    obtain ⟨way', d', hread⟩ := hfilled 0 _ a rfl rfl
    obtain ⟨s, rfl, hvalid⟩ := read_applicationId hread
    exact ⟨s, rfl, hvalid⟩

theorem boundedInteger_ok {way : List PlaceStep} {least : Option Int} {n : Int} {p : Part}
    (h : boundedInteger way least n = .ok p) : p = .leaf (.int n) ∧ ∀ bound ∈ least, bound ≤ n := by
  unfold boundedInteger at h
  split at h
  · split at h <;> cases h
    rename_i hbound
    simp only [Option.mem_def, Option.some.injEq, forall_eq', true_and]
    omega
  · cases h
    simp

/-- A text is read from a text. -/
theorem read_text {mode : Strictness} {way : List PlaceStep} {rule : TextRule} {d : Document}
    {p : Part} (h : read mode way (.text rule) d = .ok p) : ∃ s, p = .leaf (.text s) := by
  have hruled : ∀ s, ruledText way rule s = .ok p → p = .leaf (.text s) := by
    intro s hs
    cases rule with
    | any =>
      cases hs
      rfl
    | nonEmpty | applicationId =>
      unfold ruledText at hs
      dsimp only at hs
      split at hs <;> cases hs
      rfl
  cases d with
  | text s =>
    cases s with
    | none => cases h
    | some s => exact ⟨s, hruled s h⟩
  | _ => cases h

theorem readInteger_ok {mode : Strictness} {way : List PlaceStep} {shape : Shape}
    {least : Option Int} {d : Document} {p : Part}
    (h : readInteger mode way shape least d = .ok p) :
    ∃ n, p = .leaf (.int n) ∧ ∀ bound ∈ least, bound ≤ n := by
  unfold readInteger at h
  split at h
  · exact ⟨_, boundedInteger_ok h⟩
  · split at h
    · split at h
      · exact ⟨_, boundedInteger_ok h⟩
      · cases h
    · cases h
  · split at h
    · obtain ⟨n, -, h⟩ := bind_eq_ok h
      exact ⟨n, boundedInteger_ok h⟩
    · cases h
  · cases h

/-- A number is read as an integer, also from a text or where it is written with a fraction. -/
theorem read_integer {mode : Strictness} {way : List PlaceStep} {least : Option Int} {d : Document}
    {p : Part} (h : read mode way (.integer least) d = .ok p) :
    ∃ n, p = .leaf (.int n) ∧ ∀ bound ∈ least, bound ≤ n := by
  have hinteger : ∀ d, readInteger mode way (.integer least) least d = .ok p →
      ∃ n, p = .leaf (.int n) ∧ ∀ bound ∈ least, bound ≤ n := fun _ => readInteger_ok
  cases d with
  | int n => exact hinteger (.int n) h
  | float x => exact hinteger (.float x) h
  | bool b => cases h
  | text s =>
    cases s with
    | none => cases h
    | some s => exact hinteger (.text (some s)) h
  | _ => cases h

theorem memory_of_read {mode : Strictness} {way : List PlaceStep} {d : Document} {p : Part}
    (h : read mode way (.record .newApplication) d = .ok p) :
    ∃ most, (grantOf p).2.memory = .int most ∧ 0 ≤ most := by
  obtain ⟨slots, rfl, ⟨hlength, hfilled⟩, hmissing⟩ := read_record h
  obtain ⟨a, b, rfl⟩ := List.length_eq_two.mp hlength
  cases a with
  | none => cases hmissing
  | some a =>
    cases b with
    | none => cases hmissing
    | some b =>
      obtain ⟨way₁, d₁, hb⟩ := hfilled 1 _ b rfl rfl
      obtain ⟨slots, rfl, ⟨hlength, hfilled⟩, hmissing⟩ := read_record hb
      obtain ⟨c, _, rfl⟩ := List.length_eq_two.mp hlength
      cases c with
      | none => cases hmissing
      | some c =>
        obtain ⟨way₂, d₂, hc⟩ := hfilled 0 _ c rfl rfl
        obtain ⟨most, rfl, hleast⟩ := read_integer hc
        exact ⟨most, rfl, hleast 0 rfl⟩

/-- Whatever form a message came in, it was read from a document. -/
theorem exists_read_of_decode {m : Model} {v : Value} {p : Part} (h : decode m v = .ok p) :
    ∃ d, read .lenient [] (.record m) d = .ok p := by
  have hbytes : ∀ bs, readBytes .lenient m bs = .ok p →
      ∃ d, read .lenient [] (.record m) d = .ok p := by
    intro bs hbs
    unfold readBytes at hbs
    split at hbs
    rename_i d finished hread
    split at hbs
    · rename_i q hq
      cases finished <;> cases hbs
      exact ⟨d, hq⟩
    · cases hbs
  cases v with
  | mapping es => exact ⟨_, decode_ok.mp h⟩
  | text s => exact hbytes _ (decode_ok.mp h)
  | bytes bs => exact hbytes _ (decode_ok.mp h)
  | _ => cases h

/-- The handle of a new application is an application id, in whatever form the answer came. -/
theorem applicationId_of_readAnswer {a : Response} {p : Part}
    (h : readAnswer .newApplication a = .ok p) :
    ∃ s, p.field "application_id" = .text s ∧ ApplicationId.isValid s = true := by
  obtain ⟨v, -, hdecode⟩ := bind_eq_ok h
  obtain ⟨d, hread⟩ := exists_read_of_decode hdecode
  exact applicationId_of_read hread

end Message

end ClusterSubmission
