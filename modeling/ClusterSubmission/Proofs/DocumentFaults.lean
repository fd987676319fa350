import ClusterSubmission.Proofs.Reading
import ClusterSubmission.Yaml.Content

/-!
# What can be wrong with a document in a file

A file cannot be read because its path leads to no file. A YAML document cannot be read because it
is malformed, or because it holds a scalar that has no value: a word that is no truth value, a
number with wrong digits or too many of them, a date that the calendar does not have.
-/
namespace ClusterSubmission

/-- A computation that fails in certain ways only. -/
def FailsBy {α : Type} (P : Reason → Prop) (x : Except Reason α) : Prop := ∀ e, x = .error e → P e

namespace FailsBy

variable {α β : Type} {P Q : Reason → Prop} {x : Except Reason α} {f : α → Except Reason β}
  {l : List α}

theorem ok (a : α) : FailsBy P (.ok a) := nofun

theorem pure (a : α) : FailsBy P (Pure.pure a : Except Reason α) := nofun

theorem error {e : Reason} (h : P e) : FailsBy P (.error e : Except Reason α) := by
  intro e' he
  cases he
  exact h

theorem bind (hx : FailsBy P x) (hf : ∀ a, FailsBy P (f a)) : FailsBy P (x >>= f) := by
  intro e h
  rcases bind_eq_error h with h | ⟨a, -, h⟩
  · exact hx e h
  · exact hf a e h

theorem mono (h : FailsBy P x) (hPQ : ∀ e, P e → Q e) : FailsBy Q x := fun e he => hPQ e (h e he)

theorem mapM (h : ∀ a, FailsBy P (f a)) : FailsBy P (l.mapM f) := by
  intro e he
  obtain ⟨a, -, ha⟩ := mapM_eq_error he
  exact h a e ha

theorem foldlM {g : β → α → Except Reason β} (h : ∀ b a, FailsBy P (g b a)) (b : β) :
    FailsBy P (l.foldlM g b) := by
  induction l generalizing b with
  | nil => exact .pure b
  | cons a l ih =>
    rw [List.foldlM_cons]
    exact (h b a).bind ih

end FailsBy

namespace FileTree

/-- What is wrong with a path that leads to no file. -/
inductive IsPathFault : Reason → Prop
  | notFound (q : String) : IsPathFault (.notFound q)
  | notDirectory (q : String) : IsPathFault (.notDirectory q)
  | isDirectory (q : String) : IsPathFault (.isDirectory q)

theorem follow_fails {t : FileTree} {q : String} {segs : List String} : ∀ {place : List String},
    FailsBy IsPathFault (t.follow q place segs) := by
  induction segs with
  | nil => exact .ok _
  | cons seg segs ih =>
    intro place
    unfold follow
    split
    · exact .error (.notFound q)
    · exact .error (.notDirectory q)
    · split
      · split
        · exact .error (.notFound q)
        · exact ih
      · exact ih

theorem read_fails {t : FileTree} {q : String} : FailsBy IsPathFault (t.read q) := by
  have hresolve : FailsBy IsPathFault (t.resolve q) := by
    unfold resolve
    split
    · exact follow_fails
    · exact .error (.notFound q)
  unfold read
  refine hresolve.bind fun place => ?_
  split
  · exact .pure _
  · exact .error (.isDirectory q)
  · exact .error (.notFound q)

end FileTree

namespace Yaml

/-- What is wrong with a scalar that has no value of its kind. -/
inductive IsScalarFault : Reason → Prop
  | word (s : String) : IsScalarFault (.given .missingKey [.text s])
  | empty : IsScalarFault .characterMissing
  | integer (base : Nat) (s : String) : IsScalarFault (.integerUnreadable base s)
  | longInteger (digits : Nat) : IsScalarFault (.integerTooLong digits)
  | number (s : String) : IsScalarFault (.numberUnreadable s)
  | date (fault : MomentFault) : IsScalarFault (.momentInvalid fault)
  | noDate : IsScalarFault .noAttribute

/-- What is wrong with a document: it is malformed, or a scalar in it has no value. -/
def IsFault (e : Reason) : Prop := e = .malformedDocument ∨ IsScalarFault e

theorem IsScalarFault.isSubmission {e : Reason} (h : IsScalarFault e) :
    e.kind.isSubmission = false := by
  cases h <;> rfl

section Scalars

variable {s : String}

theorem signOf_fails : FailsBy IsScalarFault (signOf s) := by
  unfold signOf
  split
  · exact .error .empty
  · exact .ok _

theorem integerIn_fails {base : Nat} : FailsBy IsScalarFault (integerIn base s) := by
  unfold integerIn
  split
  · exact .error (.integer base s)
  · dsimp only
    split
    · exact .error (.longInteger _)
    · exact .ok _

theorem integerValue_fails : FailsBy IsScalarFault (integerValue s) := by
  unfold integerValue
  refine signOf_fails.bind fun x => ?_
  dsimp only
  split
  · exact .pure _
  · exact integerIn_fails.bind fun _ => .pure _
  · exact integerIn_fails.bind fun _ => .pure _
  · exact integerIn_fails.bind fun _ => .pure _
  · exact .error .empty
  · split
    · exact (FailsBy.mapM fun _ => integerIn_fails).bind fun _ => .pure _
    · exact integerIn_fails.bind fun _ => .pure _

theorem floatIn_fails : FailsBy IsScalarFault (floatIn s) := by
  unfold floatIn
  split
  · exact .ok _
  · exact .error (.number s)

theorem floatValue_fails : FailsBy IsScalarFault (floatValue s) := by
  unfold floatValue
  refine signOf_fails.bind fun x => ?_
  dsimp only
  split
  · exact .pure _
  · split
    · exact .pure _
    · split
      · exact (FailsBy.mapM fun _ => floatIn_fails).bind fun _ => .pure _
      · exact floatIn_fails.bind fun _ => .pure _

theorem insist_fails {holds : Bool} {fault : MomentFault} :
    FailsBy IsScalarFault (insist holds fault) := by
  unfold insist
  split
  · exact .ok _
  · exact .error (.date fault)

theorem Offset.text_fails {o : Offset} : FailsBy IsScalarFault o.text := by
  unfold Offset.text
  split
  · exact .error (.date _)
  · split <;> exact .ok _

theorem Moment.value_fails {m : Moment} : FailsBy IsScalarFault m.value := by
  obtain ⟨year, month, day, time⟩ := m
  unfold Moment.value
  cases time with
  | none =>
    refine .bind (.pure _) fun _ => ?_
    refine .bind insist_fails fun _ => .bind insist_fails fun _ => .bind insist_fails fun _ => ?_
    exact .pure _
  | some t =>
    obtain ⟨hour, minute, second, fraction, offset⟩ := t
    cases offset with
    | none =>
      refine .bind (.pure _) fun _ => ?_
      refine .bind insist_fails fun _ => .bind insist_fails fun _ => .bind insist_fails fun _ => ?_
      refine .bind insist_fails fun _ => .bind insist_fails fun _ => .bind insist_fails fun _ => ?_
      exact .pure _
    | some o =>
      refine .bind Offset.text_fails fun _ => .bind (.pure _) fun _ => ?_
      refine .bind insist_fails fun _ => .bind insist_fails fun _ => .bind insist_fails fun _ => ?_
      refine .bind insist_fails fun _ => .bind insist_fails fun _ => .bind insist_fails fun _ => ?_
      exact .pure _

theorem scalarValue_fails {kind : Kind} : FailsBy IsFault (scalarValue kind s) := by
  have hscalar : ∀ {α : Type} {x : Except Reason α}, FailsBy IsScalarFault x → FailsBy IsFault x :=
    fun h => h.mono fun _ => Or.inr
  unfold scalarValue
  split
  · exact .ok _
  · dsimp only
    split
    · exact .ok _
    · exact hscalar (.error (.word _))
  · exact .bind (hscalar integerValue_fails) fun _ => .pure _
  · exact .bind (hscalar floatValue_fails) fun _ => .pure _
  · split
    · exact .error (Or.inl rfl)
    · split
      · exact .ok _
      · exact .error (Or.inl rfl)
  · split
    · exact hscalar Moment.value_fails
    · exact hscalar (.error .noDate)
  · exact .ok _
  · exact .error (Or.inl rfl)

end Scalars
section Nodes

theorem storeEntries_fails (entries : List (Value × Value)) :
    FailsBy IsFault (storeEntries entries) := by
  refine FailsBy.foldlM (fun done e => ?_) []
  split
  · exact .ok _
  · exact .error (Or.inl rfl)

-- One theorem for each of the functions that read the parts of a node.
mutual
theorem Node.content_fails : ∀ n : Node, FailsBy IsFault n.content
  | .scalar tag isPlain s => by
    unfold Node.content
    exact scalarValue_fails
  | .sequence tag items => by
    unfold Node.content
    split
    · exact .bind (Node.contents_fails items) fun _ => .pure _
    · exact .bind (Node.pairContents_fails items) fun _ => .pure _
    · exact .bind (Node.pairContents_fails items) fun _ => .pure _
    · exact .error (Or.inl rfl)
  | .mapping tag entries => by
    have hentries : FailsBy IsFault (Node.entryContents entries) :=
      Node.entryContents_fails entries
    unfold Node.content
    split
    · exact hentries.bind fun _ => (storeEntries_fails _).bind fun _ => .pure _
    · exact hentries.bind fun _ => (storeEntries_fails _).bind fun _ => .pure _
    · exact .error (Or.inl rfl)
    · exact .error (Or.inl rfl)
    · exact .error (Or.inl rfl)
    · split
      · exact scalarValue_fails
      · exact .error (Or.inl rfl)

theorem Node.contents_fails : ∀ ns : List Node, FailsBy IsFault (Node.contents ns)
  | [] => by
    unfold Node.contents
    exact .ok _
  | n :: ns => by
    unfold Node.contents
    exact (Node.content_fails n).bind fun _ => (Node.contents_fails ns).bind fun _ => .pure _

theorem Node.pairContents_fails : ∀ ns : List Node, FailsBy IsFault (Node.pairContents ns)
  | [] => by
    unfold Node.pairContents
    exact .ok _
  | .mapping _ [(k, v)] :: ns => by
    unfold Node.pairContents
    exact (Node.content_fails k).bind fun _ => (Node.content_fails v).bind fun _ =>
      (Node.pairContents_fails ns).bind fun _ => .pure _
  | .mapping _ [] :: _ | .mapping _ (_ :: _ :: _) :: _ | .scalar .. :: _ | .sequence .. :: _ => by
    unfold Node.pairContents
    exact .error (Or.inl rfl)

theorem Node.entryContents_fails : ∀ entries : List (Node × Node),
    FailsBy IsFault (Node.entryContents entries)
  | entries => by
    unfold Node.entryContents
    exact (Node.splitContents_fails entries).bind fun _ => .pure _

theorem Node.splitContents_fails : ∀ entries : List (Node × Node),
    FailsBy IsFault (Node.splitContents entries)
  | [] => by
    unfold Node.splitContents
    exact .ok _
  | (k, v) :: rest => by
    unfold Node.splitContents
    split
    · exact (Node.mergeContents_fails v).bind fun _ =>
        (Node.splitContents_fails rest).bind fun _ => .pure _
    · have hrest : ∀ key : Value, FailsBy IsFault (do
          let value ← v.content
          let (merged, own) ← Node.splitContents rest
          return (merged, (key, value) :: own) :
            Except Reason (List (Value × Value) × List (Value × Value))) := fun key =>
        (Node.content_fails v).bind fun _ => (Node.splitContents_fails rest).bind fun _ => .pure _
      dsimp only
      split
      · exact .bind (.pure _) hrest
      · exact (Node.content_fails k).bind hrest

theorem Node.mergeContents_fails : ∀ n : Node, FailsBy IsFault n.mergeContents
  | .scalar .. => by
    unfold Node.mergeContents
    exact .error (Or.inl rfl)
  | .mapping _ entries => by
    unfold Node.mergeContents
    exact Node.entryContents_fails entries
  | .sequence _ items => by
    unfold Node.mergeContents
    exact Node.mergeItems_fails items

theorem Node.mergeItems_fails : ∀ ns : List Node, FailsBy IsFault (Node.mergeItems ns)
  | [] => by
    unfold Node.mergeItems
    exact .ok _
  | .mapping _ entries :: ns => by
    unfold Node.mergeItems
    exact (Node.entryContents_fails entries).bind fun _ =>
      (Node.mergeItems_fails ns).bind fun _ => .pure _
  | .scalar .. :: _ | .sequence .. :: _ => by
    unfold Node.mergeItems
    exact .error (Or.inl rfl)
end

/-- Bytes have no content only if they are malformed or a scalar in them has no value. -/
theorem content_fails (bs : List UInt8) : FailsBy IsFault (content bs) := by
  unfold content
  split
  · exact .error (Or.inl rfl)
  · exact .ok _
  · exact Node.content_fails _

end Nodes
end Yaml
end ClusterSubmission
