import ClusterSubmission.FileTree
import ClusterSubmission.Proofs.Reading
import ClusterSubmission.Proofs.ServiceAddress

/-!
# Files that are written and read

What was written to a file is read from it. Writing to a file that is there changes its content and
nothing else, so whatever could not be read before cannot be read after. A path in normal form is in
normal form, so a path that was written to is read as it is.
-/
namespace ClusterSubmission

namespace Text

variable {sep : Char} {cs seg rest root : List Char} {segs : List (List Char)}

theorem splitOnChar_append (h : sep ∉ cs) :
    splitOnChar sep (cs ++ sep :: rest) = cs :: splitOnChar sep rest := by
  induction cs with
  | nil => simp [splitOnChar]
  | cons c cs ih =>
    have hne : c ≠ sep := fun heq => h (heq ▸ List.mem_cons_self ..)
    rw [List.cons_append, splitOnChar, if_neg hne, ih fun hmem => h (List.mem_cons_of_mem _ hmem)]

theorem notMem_of_mem_splitOnChar (h : seg ∈ splitOnChar sep cs) : sep ∉ seg := by
  induction cs generalizing seg with
  | nil =>
    obtain rfl := List.mem_singleton.mp h
    exact List.not_mem_nil
  | cons c cs ih =>
    unfold splitOnChar at h
    split at h
    · rcases List.mem_cons.mp h with rfl | h
      · exact List.not_mem_nil
      · exact ih h
    · rename_i hne
      split at h
      · rename_i piece pieces heq
        rcases List.mem_cons.mp h with rfl | h
        · intro hmem
          rcases List.mem_cons.mp hmem with rfl | hmem
          · exact hne rfl
          · exact ih (heq ▸ List.mem_cons_self ..) hmem
        · exact ih (heq ▸ List.mem_cons_of_mem _ h)
      · obtain rfl := List.mem_singleton.mp h
        exact fun hmem => hne (List.mem_singleton.mp hmem).symm

/-- What a path can have between two slashes. -/
def IsSegment (seg : List Char) : Prop := '/' ∉ seg ∧ seg ≠ [] ∧ seg ≠ ['.']

theorem isSegment_of_mem (h : seg ∈ pathSegments cs) : IsSegment seg := by
  obtain ⟨hmem, hkept⟩ := List.mem_filter.mp h
  simp only [Bool.and_eq_true, bne_iff_ne] at hkept
  exact ⟨notMem_of_mem_splitOnChar hmem, hkept⟩

theorem pathSegments_intercalate (h : ∀ seg ∈ segs, IsSegment seg) :
    pathSegments (['/'].intercalate segs) = segs := by
  induction segs with
  | nil => rfl
  | cons seg segs ih =>
    obtain ⟨hslash, hempty, hpoint⟩ := h seg (List.mem_cons_self ..)
    have hkept : (seg != [] && seg != ['.']) = true := by simp [hempty, hpoint]
    have hrest := ih fun s hs => h s (List.mem_cons_of_mem _ hs)
    unfold pathSegments at hrest ⊢
    cases segs with
    | nil =>
      rw [List.intercalate_singleton, Url.splitOnChar_of_notMem hslash,
        List.filter_cons, if_pos hkept]
      rfl
    | cons next segs =>
      rw [List.intercalate_cons_cons, List.append_assoc, List.singleton_append,
        splitOnChar_append hslash, List.filter_cons, if_pos hkept, hrest]

theorem pathSegments_root (h : ∀ c ∈ root, c = '/') :
    pathSegments (root ++ cs) = pathSegments cs := by
  induction root with
  | nil => rfl
  | cons c root ih =>
    obtain rfl := h c (List.mem_cons_self ..)
    rw [← ih fun d hd => h d (List.mem_cons_of_mem _ hd)]
    simp [pathSegments, splitOnChar]

/-- Segments that are put together begin with no slash. -/
theorem intercalate_cases (h : ∀ seg ∈ segs, IsSegment seg) :
    ['/'].intercalate segs = [] ∨ ∃ c cs, ['/'].intercalate segs = c :: cs ∧ c ≠ '/' := by
  cases segs with
  | nil => exact Or.inl rfl
  | cons seg segs =>
    obtain ⟨hslash, hempty, -⟩ := h seg (List.mem_cons_self ..)
    obtain ⟨c, cs, rfl⟩ := List.exists_cons_of_ne_nil hempty
    refine Or.inr ⟨c, ?_, ?_, fun heq => hslash (heq ▸ List.mem_cons_self ..)⟩
    · exact (['/'].intercalate ((c :: cs) :: segs)).tail
    · cases segs <;> simp [List.intercalate]

theorem pathRoot_cases (cs : List Char) :
    pathRoot cs = [] ∨ pathRoot cs = ['/'] ∨ pathRoot cs = ['/', '/'] := by
  unfold pathRoot
  split <;> simp

theorem pathSegments_joinPath (hroot : ∀ c ∈ root, c = '/') (h : ∀ seg ∈ segs, IsSegment seg) :
    pathSegments (joinPath root segs) = segs := by
  have hjoined := (@pathSegments_root (['/'].intercalate segs) root hroot).trans
    (pathSegments_intercalate h)
  unfold joinPath
  split
  · rename_i hempty
    rw [hempty] at hjoined
    rw [← hjoined]
    rfl
  · exact hjoined

theorem pathRoot_joinPath (hroot : root = [] ∨ root = ['/'] ∨ root = ['/', '/'])
    (h : ∀ seg ∈ segs, IsSegment seg) : pathRoot (joinPath root segs) = root := by
  unfold joinPath
  rcases intercalate_cases h with hjoin | ⟨c, cs, hjoin, hc⟩
  · rw [hjoin]
    rcases hroot with rfl | rfl | rfl <;> rfl
  · rw [hjoin]
    rcases hroot with rfl | rfl | rfl <;> simp [pathRoot, hc]

/-- A path in normal form is its own normal form. -/
theorem normalPath_normalPath (s : String) : normalPath (normalPath s) = normalPath s := by
  have hsegments : ∀ seg ∈ pathSegments s.toList, IsSegment seg := fun _ => isSegment_of_mem
  have hroot := pathRoot_cases s.toList
  have hslashes : ∀ c ∈ pathRoot s.toList, c = '/' := by
    rcases hroot with h | h | h <;> rw [h] <;> simp
  unfold normalPath
  rw [String.toList_ofList, pathRoot_joinPath hroot hsegments,
    pathSegments_joinPath hslashes hsegments]

end Text

namespace FileTree

variable {t t' : FileTree} {path other : String} {place q start : List String} {node : FileNode}
  {segs : List String} {content : List UInt8}

theorem nodeAt?_put (h : place ≠ []) : (t.put place node).nodeAt? place = some node := by
  unfold put nodeAt?
  rw [if_neg (by simpa using h), List.find?_append, List.find?_eq_none.mpr]
  · simp
  · intro n hn
    simpa using (List.mem_filter.mp hn).2

theorem nodeAt?_put_of_ne (h : q ≠ place) : (t.put place node).nodeAt? q = t.nodeAt? q := by
  have hkept : (fun n : List String × FileNode =>
      decide ((n.1 != place) = true ∧ (n.1 == q) = true)) =
      (·.1 == q) := by
    funext n
    by_cases hn : n.1 = q
    · simp [hn, h]
    · simp [hn]
  have hfind : ((t.nodes.filter (·.1 != place)) ++ [(place, node)]).find? (·.1 == q) =
      t.nodes.find? (·.1 == q) := by
    rw [List.find?_append, List.find?_singleton, if_neg (by simpa using h.symm), Option.or_none,
      List.find?_filter, hkept]
  unfold put nodeAt?
  rw [hfind]

/-- Putting something in a place that is no directory leaves the ways to other places open. -/
theorem follow_put (hplace : t.nodeAt? place ≠ some .directory)
    (h : t.follow path start segs = .ok q) :
    (t.put place node).follow path start segs = .ok q := by
  induction segs generalizing start with
  | nil => exact h
  | cons seg segs ih =>
    unfold follow at h ⊢
    rcases hstart : t.nodeAt? start with _ | n <;> rw [hstart] at h
    · cases h
    · cases n with
      | file content stamp => cases h
      | directory =>
        have hne : start ≠ place := fun heq => hplace (heq ▸ hstart)
        rw [nodeAt?_put_of_ne hne, hstart]
        dsimp only at h ⊢
        split at h
        · rename_i hup
          rw [if_pos hup]
          split at h
          · cases h
          · rename_i hroot
            rw [if_neg hroot]
            exact ih h
        · rename_i hdown
          rw [if_neg hdown]
          exact ih h

theorem resolve_put (hplace : t.nodeAt? place ≠ some .directory) (h : t.resolve path = .ok q) :
    (t.put place node).resolve path = .ok q := by
  unfold resolve at h ⊢
  split at h
  · exact follow_put hplace h
  · cases h

/-- Two places that are alike, apart from the content and the stamps of files. -/
inductive IsAlike : Option FileNode → Option FileNode → Prop
  | missing : IsAlike none none
  | file (content content' : List UInt8) (stamp stamp' : Stamp) :
    IsAlike (some (.file content stamp)) (some (.file content' stamp'))
  | directory : IsAlike (some .directory) (some .directory)

theorem IsAlike.refl (n : Option FileNode) : IsAlike n n := by
  rcases n with _ | _ | _ <;> constructor

theorem follow_congr (h : ∀ q, IsAlike (t.nodeAt? q) (t'.nodeAt? q)) :
    t'.follow path start segs = t.follow path start segs := by
  induction segs generalizing start with
  | nil => rfl
  | cons seg segs ih =>
    have hstart := h start
    unfold follow
    generalize t.nodeAt? start = n at hstart
    generalize t'.nodeAt? start = n' at hstart
    cases hstart with
    | missing => rfl
    | file => rfl
    | directory =>
      dsimp only
      rw [ih, ih]

theorem read_of_resolve (h : t.resolve path = .ok q) : t.read path = match t.nodeAt? q with
    | some (.file content stamp) => .ok (content, stamp)
    | some .directory => .error (.isDirectory path)
    | none => .error (.notFound path) := by
  unfold read
  rw [h]
  rfl

/-- What cannot be read in a tree cannot be read in one that is alike. -/
theorem read_error_congr (h : ∀ q, IsAlike (t.nodeAt? q) (t'.nodeAt? q)) {r : Reason}
    (hread : t.read path = .error r) : ∃ r', t'.read path = .error r' := by
  have hresolve : t'.resolve path = t.resolve path := by
    unfold resolve
    split
    · exact follow_congr h
    · rfl
  rcases hplace : t.resolve path with e | q
  · unfold read
    rw [hresolve, hplace]
    exact ⟨e, rfl⟩
  · rw [read_of_resolve hplace] at hread
    rw [read_of_resolve (hresolve.trans hplace)]
    have hq := h q
    generalize t.nodeAt? q = n at hq hread
    generalize t'.nodeAt? q = n' at hq
    cases hq with
    | missing => exact ⟨_, rfl⟩
    | file => cases hread
    | directory => exact ⟨_, rfl⟩

/-- Writing puts a file where no directory is. -/
theorem write_eq (h : t.write path content = .ok t') : ∃ place stamp, t.resolve path = .ok place ∧
    place ≠ [] ∧ t.nodeAt? place ≠ some .directory ∧ t' = t.put place (.file content stamp) := by
  unfold write at h
  obtain ⟨place, hresolve, h⟩ := bind_eq_ok h
  have hroot : t.nodeAt? place ≠ some .directory → place ≠ [] := by
    rintro hnode rfl
    exact hnode rfl
  split at h
  · cases h
  · rename_i hnode
    cases h
    exact ⟨place, _, hresolve, hroot (by simp [hnode]), by simp [hnode], rfl⟩
  · rename_i hnode
    split at h <;> cases h
    exact ⟨place, _, hresolve, hroot (by simp [hnode]), by simp [hnode], rfl⟩

/-- A file that was written can be written again and is read then. What could not be read before
cannot be read after. -/
theorem write_again (h : t.write path [] = .ok t') (content : List UInt8) :
    ∃ t'' stamp, t'.write path content = .ok t'' ∧ t''.read path = .ok (content, stamp) ∧
      ∀ other r, t'.read other = .error r → ∃ r', t''.read other = .error r' := by
  obtain ⟨place, stamp, hresolve, hroot, hnode, rfl⟩ := write_eq h
  have hresolve' := @resolve_put t path place place (.file [] stamp) hnode hresolve
  have hput := @nodeAt?_put t place (.file [] stamp) hroot
  have hfile : (t.put place (.file [] stamp)).nodeAt? place ≠ some .directory := by
    rw [hput]
    nofun
  generalize t.put place (.file [] stamp) = placed at *
  refine ⟨placed.put place (.file content (.change placed.changes)), .change placed.changes, ?_, ?_,
    fun other r hread => read_error_congr (fun q => ?_) hread⟩
  · unfold write
    simp only [hresolve', bind, Except.bind, hput]
    rfl
  · rw [read_of_resolve (resolve_put hfile hresolve'), nodeAt?_put hroot]
  · by_cases hq : q = place
    · rw [hq, nodeAt?_put hroot, hput]
      exact .file ..
    · rw [nodeAt?_put_of_ne hq]
      exact .refl _

end FileTree
end ClusterSubmission
