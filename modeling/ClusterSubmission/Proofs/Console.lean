import ClusterSubmission.World
import Mathlib.Data.List.Infix

/-!
# Console lines that cannot fail

A record fails on the console only through a tag that closes a style: one that is not open, or a
handler whose parameters cannot be read. A text without such a tag is always shown, whatever else
stands in it, so records about addresses without a path, and about application ids, never stop an
operation.
-/
namespace ClusterSubmission.Log

/-- No tag that closes a style can begin anywhere in a text. -/
def ClosesNothing (cs : List Char) : Prop :=
  ∀ t, ('[' :: '/' :: t) <:+ cs → ']' ∉ t

theorem closesNothing_of_notMem {cs : List Char} (h : '[' ∉ cs) : ClosesNothing cs := by
  intro t ht
  exact absurd (ht.subset (List.mem_cons_self ..)) h

theorem suffix_of_suffix_append {t as bs : List Char} (h : ('[' :: t) <:+ as ++ bs)
    (ha : '[' ∉ as) : ('[' :: t) <:+ bs := by
  induction as with
  | nil => exact h
  | cons a as ih =>
    rcases List.suffix_cons_iff.mp h with heq | h
    · exact absurd (List.cons.inj heq).1 fun hne => ha (hne ▸ List.mem_cons_self ..)
    · exact ih h fun hmem => ha (List.mem_cons_of_mem _ hmem)

/-- A text with brackets only in a part without slashes closes nothing. -/
theorem closesNothing_append {as bs cs : List Char} (ha : '[' ∉ as) (hb : '/' ∉ bs)
    (hc : '[' ∉ cs ∧ ']' ∉ cs) : ClosesNothing (as ++ (bs ++ cs)) := by
  intro t ht
  have hmid := suffix_of_suffix_append ht ha
  clear ht
  induction bs with
  | nil => exact absurd (hmid.subset (List.mem_cons_self ..)) hc.1
  | cons b bs ih =>
    rcases List.suffix_cons_iff.mp hmid with heq | h
    · have hrest : '/' :: t = bs ++ cs := (List.cons.inj heq).2
      cases bs with
      | nil =>
        rw [List.nil_append] at hrest
        exact fun hmem => hc.2 (hrest ▸ List.mem_cons_of_mem _ hmem)
      | cons d ds =>
        have hslash : '/' = d := (List.cons.inj hrest).1
        exact absurd (hslash ▸ List.mem_cons_of_mem _ (List.mem_cons_self ..)) hb
    · exact ih (fun hmem => hb (List.mem_cons_of_mem _ hmem)) h

theorem tagBody?_eq {cs body after : List Char} (h : tagBody? cs = some (body, after)) :
    cs = body ++ ']' :: after := by
  unfold tagBody? at h
  split at h
  · rename_i c rest
    split at h
    · split at h
      · rename_i inside after' hspan
        obtain ⟨rfl, rfl⟩ : c :: inside = body ∧ after' = after := by simpa using h
        have hrest := List.span_eq_takeWhile_dropWhile (p := fun d => d != '[' && d != ']')
            (l := rest)
        rw [hspan] at hrest
        have happ := List.takeWhile_append_dropWhile (p := fun d => d != '[' && d != ']')
            (l := rest)
        rw [← (Prod.mk.inj hrest).1, ← (Prod.mk.inj hrest).2] at happ
        rw [← happ, List.cons_append]
      · cases h
    · cases h
  · cases h

theorem suffix_of_tag_mem_markupPieces {fuel position : Nat} {cs before : List Char} {p : Nat}
    {body : List Char} (h : MarkupPiece.tag p body ∈ markupPieces fuel position cs before) :
    ∃ t, ('[' :: body ++ ']' :: t) <:+ cs := by
  induction fuel generalizing position cs before with
  | zero => simp [markupPieces] at h
  | succ fuel ih =>
    cases cs with
    | nil =>
      unfold markupPieces at h
      split at h <;> simp at h
    | cons c rest =>
      have hspan := List.span_eq_takeWhile_dropWhile (p := (· = '\\')) (l := c :: rest)
      have hafter : ((c :: rest).dropWhile (· = '\\')) <:+ (c :: rest) := List.dropWhile_suffix _
      unfold markupPieces at h
      simp only [hspan] at h
      generalize (c :: rest).takeWhile (· = '\\') = slashes at h
      generalize hd : (c :: rest).dropWhile (· = '\\') = after at h hafter
      split at h
      · split at h
        · obtain ⟨t, ht⟩ := ih h
          exact ⟨t, ht.trans (List.suffix_cons c rest)⟩
        · obtain ⟨t, ht⟩ := ih h
          exact ⟨t, ht.trans hafter⟩
      · rename_i body' after' hfound
        have hline : ('[' :: body' ++ ']' :: after') <:+ (c :: rest) := by
          split at hfound
          · rename_i inside
            rw [tagBody?_eq hfound] at hafter
            exact hafter
          · cases hfound
        rw [List.mem_append, List.mem_append, List.mem_cons] at h
        -- The text before, the backslashes, the tag, and what the rest of the line is cut into.
        rcases h with (h | h) | h | h
        · split at h <;> simp at h
        · split at h <;> simp at h
        · split at h
          · cases h
          · obtain ⟨-, rfl⟩ := MarkupPiece.tag.inj h
            exact ⟨after', hline⟩
        · obtain ⟨t, ht⟩ := ih h
          exact ⟨t, ht.trans ((List.suffix_append ('[' :: body' ++ [']']) after').trans
            (by simpa using hline))⟩

theorem splitTag_slash {body name : List Char} (h : (splitTag body).1 = '/' :: name) :
    ∃ t, body = '/' :: t := by
  have hspan := List.span_eq_takeWhile_dropWhile (p := (· != '=')) (l := body)
  have hname : (splitTag body).1 = body.takeWhile (· != '=') := by
    unfold splitTag
    rw [hspan]
    split <;> rename_i heq <;> exact (Prod.mk.inj heq).1.symm
  cases body with
  | nil => simp [hname] at h
  | cons c t =>
    rw [hname, List.takeWhile_cons] at h
    split at h
    · exact ⟨t, by rw [(List.cons.inj h).1]⟩
    · cases h

/-- Pieces whose tags only open styles are shown, whichever styles are open. -/
theorem renderPieces_of_opening {pieces : List MarkupPiece}
    (h : ∀ p t, MarkupPiece.tag p ('/' :: t) ∉ pieces) (opened : List OpenTag) :
    ∃ cs, renderPieces opened pieces = .ok cs := by
  induction pieces generalizing opened with
  | nil => exact ⟨[], rfl⟩
  | cons piece rest ih =>
    have hrest : ∀ p t, MarkupPiece.tag p ('/' :: t) ∉ rest := fun p t hm =>
      h p t (List.mem_cons_of_mem _ hm)
    cases piece with
    | plain cs =>
      obtain ⟨ds, hds⟩ := ih hrest opened
      exact ⟨unescapeBrackets cs ++ ds, by rw [renderPieces, hds]; rfl⟩
    | tag p body =>
      unfold renderPieces
      split
      rename_i name parameters hsplit
      split
      · rename_i name
        obtain ⟨t, rfl⟩ := splitTag_slash (by rw [hsplit] : (splitTag body).1 = '/' :: name)
        exact absurd (List.mem_cons_self ..) (h p t)
      · exact ih hrest _

/-- What the console makes of a record of the library: its name in bold, then the text. -/
theorem markupPieces_record (m : List Char) (fuel : Nat) :
    markupPieces (fuel + 21) 0 ("[bold]resubmit[/] - ".toList ++ m) [] =
      .tag 0 "bold".toList :: .plain "resubmit".toList :: .tag 14 ['/'] ::
        markupPieces (fuel + 8) 20 m [' ', '-', ' '] := rfl

theorem renderPieces_record (rest : List MarkupPiece) :
    renderPieces [] (.tag 0 "bold".toList :: .plain "resubmit".toList :: .tag 14 ['/'] :: rest) =
      (do return "resubmit".toList ++ (← renderPieces [] rest)) := by
  rfl

/-- A record whose text closes nothing is shown. -/
theorem renderMarkup_record {m : String} (h : ClosesNothing m.toList) :
    ∃ cs, renderMarkup ("[bold]" ++ libraryName ++ "[/] - " ++ m) = .ok cs := by
  have hline : ("[bold]" ++ libraryName ++ "[/] - " ++ m).toList =
      "[bold]resubmit[/] - ".toList ++ m.toList := by
    rw [String.toList_append]
    rfl
  have hrest : ∀ p t, MarkupPiece.tag p ('/' :: t) ∉
      markupPieces (m.toList.length + 8) 20 m.toList [' ', '-', ' '] := by
    intro p t hm
    obtain ⟨u, hu⟩ := suffix_of_tag_mem_markupPieces hm
    exact h (t ++ ']' :: u) (by simpa using hu) (by simp)
  obtain ⟨cs, hcs⟩ := renderPieces_of_opening hrest []
  refine ⟨"resubmit".toList ++ cs, ?_⟩
  have hlength : ("[bold]resubmit[/] - ".toList ++ m.toList).length + 1 = m.toList.length + 21 := by
    rw [List.length_append, Nat.add_right_comm, Nat.add_comm]
    rfl
  have hbracket : ("[bold]resubmit[/] - ".toList ++ m.toList).contains '[' = true := rfl
  unfold renderMarkup
  simp only [hline, hlength, hbracket, if_true, markupPieces_record, renderPieces_record, hcs]
  rfl

end ClusterSubmission.Log
