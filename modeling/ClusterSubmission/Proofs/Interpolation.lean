import ClusterSubmission.Proofs.SiteFiles
import Mathlib.Data.List.Perm.Subperm
import Mathlib.Logic.Relation

/-!
# How the values of properties refer to each other

The value of a property can refer to other properties. Following the references either comes back to
a property that is on the way, and the lookup fails with this cycle, or it ends, and the value is
the one with all references put in. The lookup never runs out of steps, since the properties on the
way are different and all defined.
-/
namespace ClusterSubmission.SiteConfiguration

/-- A text begins with a reference: a name in braces behind a dollar sign, on one line. -/
def OpensWith (cs name rest : List Char) : Prop :=
  cs = '$' :: '\x7b' :: (name ++ '\x7d' :: rest) ∧ '\x7d' ∉ name ∧ '\n' ∉ name

/-- The pieces of a text: the references that begin farthest to the left and are apart from each
other, and the characters between them. -/
inductive Scans : List Char → List Piece → Prop
  | nil : Scans [] []
  | reference {cs name rest : List Char} {ps : List Piece} (h : OpensWith cs name rest)
      (hrest : Scans rest ps) : Scans cs (.reference (String.ofList name) :: ps)
  | text {c : Char} {cs : List Char} {ps : List Piece}
      (h : ∀ name rest, ¬ OpensWith (c :: cs) name rest) (hrest : Scans cs ps) :
    Scans (c :: cs) (.text c :: ps)

theorem takeReference?_eq_some (cs name rest : List Char) :
    takeReference? cs = some (name, rest) ↔
      cs = name ++ '\x7d' :: rest ∧ '\x7d' ∉ name ∧ '\n' ∉ name := by
  induction cs generalizing name with
  | nil => simp [takeReference?]
  | cons c cs ih =>
    unfold takeReference?
    by_cases hclose : c = '\x7d'
    · cases name with
      | nil => simp [hclose]
      | cons d name => simp +contextual [hclose, eq_comm]
    · rw [if_neg hclose]
      by_cases hline : c = '\n'
      · cases name with
        | nil => simp [hline]
        | cons d name => simp +contextual [hline, eq_comm]
      · rw [if_neg hline]
        cases name with
        | nil => simp [hclose]
        | cons d name =>
          simp only [Option.map_eq_some_iff, Prod.exists, Prod.mk.injEq, List.cons.injEq,
            List.cons_append, List.mem_cons, not_or]
          constructor
          · rintro ⟨n, r, htaken, ⟨rfl, rfl⟩, rfl⟩
            obtain ⟨hcs, hn, hl⟩ := (ih n).mp htaken
            exact ⟨⟨rfl, hcs⟩, ⟨Ne.symm hclose, hn⟩, Ne.symm hline, hl⟩
          · rintro ⟨⟨rfl, hcs⟩, ⟨-, hn⟩, -, hl⟩
            exact ⟨name, rest, (ih name).mpr ⟨hcs, hn, hl⟩, ⟨rfl, rfl⟩, rfl⟩

theorem reference?_eq_some (cs name rest : List Char) :
    reference? cs = some (name, rest) ↔ OpensWith cs name rest := by
  unfold OpensWith
  by_cases h : ∃ cs', cs = '$' :: '\x7b' :: cs'
  · obtain ⟨cs', rfl⟩ := h
    rw [show reference? ('$' :: '\x7b' :: cs') = takeReference? cs' from rfl,
      takeReference?_eq_some, List.cons.injEq, List.cons.injEq]
    simp only [true_and]
  · have hnone : reference? cs = none := by
      unfold reference?
      split
      · exact absurd ⟨_, rfl⟩ h
      · rfl
    rw [hnone]
    exact ⟨nofun, fun ⟨hcs, _⟩ => absurd ⟨_, hcs⟩ h⟩

theorem pieces_reference {cs name rest : List Char} (h : reference? cs = some (name, rest)) :
    pieces cs = .reference (String.ofList name) :: pieces rest := by
  rw [pieces]
  split
  · rename_i name' rest' h'
    rw [h] at h'
    cases h'
    rfl
  · rename_i h'
    rw [h] at h'
    cases h'

theorem pieces_text {c : Char} {cs : List Char} (h : reference? (c :: cs) = none) :
    pieces (c :: cs) = .text c :: pieces cs := by
  rw [pieces]
  split
  · rename_i h'
    rw [h] at h'
    cases h'
  · rfl

theorem pieces_nil : pieces [] = [] := by
  rw [pieces]
  rfl

theorem reference?_eq_none (cs : List Char) :
    reference? cs = none ↔ ∀ name rest, ¬ OpensWith cs name rest := by
  rw [Option.eq_none_iff_forall_ne_some, Prod.forall]
  simp only [ne_eq, reference?_eq_some]

/-- The pieces that a value is cut into are those that it has. -/
theorem scans_iff (cs : List Char) (ps : List Piece) : Scans cs ps ↔ ps = pieces cs := by
  constructor
  · intro h
    induction h with
    | nil => exact pieces_nil.symm
    | reference h hrest ih => rw [ih, pieces_reference ((reference?_eq_some _ _ _).mpr h)]
    | text h hrest ih => rw [ih, pieces_text ((reference?_eq_none _).mpr h)]
  · rintro rfl
    induction cs using pieces.induct with
    | case1 cs name rest h ih =>
      rw [pieces_reference h]
      exact .reference ((reference?_eq_some _ _ _).mp h) ih
    | case2 h =>
      rw [pieces_nil]
      exact .nil
    | case3 c cs h ih =>
      rw [pieces_text h]
      exact .text ((reference?_eq_none _).mp h) ih

/-- The text of a piece, with a value for each property. -/
def Piece.filled (value : String → Option String) : Piece → List Char
  | .text c => [c]
  | .reference name => ((value name).getD "").toList

section Values

variable (sites : List Site.Properties)

/-- The value of a property as it stands in the site files. -/
def plainValue? (key : String) : Option String := (definition? sites key).join

/-- One property refers to another one. -/
def Refers (key name : String) : Prop :=
  ∃ s ps, plainValue? sites key = some s ∧ Scans s.toList ps ∧ .reference name ∈ ps

/-- Following references from a property, one comes to a property that one has come past. -/
def Circles (key : String) : Prop :=
  ∃ k, Relation.ReflTransGen (Refers sites) key k ∧ Relation.TransGen (Refers sites) k k

/-- The value of a property: none if it has none, or else its text with the value of the property in
place of each reference, and nothing in place of one without a value. What is put in is not read for
references again. -/
inductive IsValue : String → Option String → Prop
  | none {key : String} (h : plainValue? sites key = none) : IsValue key none
  | filled {key s : String} {ps : List Piece} (value : String → Option String)
      (h : plainValue? sites key = some s) (hscan : Scans s.toList ps)
      (hvalue : ∀ name, .reference name ∈ ps → IsValue name (value name)) :
    IsValue key (some (String.ofList (ps.flatMap (·.filled value))))

variable {sites} {key : String}

theorem Scans.unique {cs : List Char} {ps qs : List Piece} (h : Scans cs ps) (h' : Scans cs qs) :
    ps = qs := ((scans_iff cs ps).mp h).trans ((scans_iff cs qs).mp h').symm

theorem flatMap_filled_congr {value value' : String → Option String} {ps : List Piece}
    (h : ∀ name, .reference name ∈ ps → value name = value' name) :
    ps.flatMap (·.filled value) = ps.flatMap (·.filled value') := by
  apply List.flatMap_congr
  intro p hp
  cases p with
  | text c => rfl
  | reference name => exact congrArg (fun v => (v.getD "").toList) (h name hp)

theorem IsValue.unique {v v' : Option String} (h : IsValue sites key v)
    (h' : IsValue sites key v') :
    v = v' := by
  induction h generalizing v' with
  | none h =>
    cases h' with
    | none => rfl
    | filled value h₁ =>
      rw [h] at h₁
      cases h₁
  | filled value h hscan hvalue ih =>
    cases h' with
    | none h₁ =>
      rw [h] at h₁
      cases h₁
    | filled value' h₁ hscan' hvalue' =>
      rw [h] at h₁
      cases h₁
      cases hscan.unique hscan'
      rw [flatMap_filled_congr fun name hname => ih name hname (hvalue' name hname)]

theorem Circles.exists_refers (h : Circles sites key) :
    ∃ name, Refers sites key name ∧ Circles sites name := by
  obtain ⟨k, hreach, hcycle⟩ := h
  rcases hreach.cases_head with rfl | ⟨name, hrefers, hrest⟩
  · obtain ⟨name, hrefers, hback⟩ := Relation.TransGen.head'_iff.mp hcycle
    exact ⟨name, hrefers, key, hback, hcycle⟩
  · exact ⟨name, hrefers, k, hrest, hcycle⟩

/-- From a property with a value no chain of references comes back. -/
theorem IsValue.not_circles {v : Option String} (h : IsValue sites key v) :
    ¬ Circles sites key := by
  induction h with
  | none h =>
    intro hcircles
    obtain ⟨name, ⟨s, ps, hs, -⟩, -⟩ := hcircles.exists_refers
    rw [h] at hs
    cases hs
  | filled value h hscan hvalue ih =>
    intro hcircles
    obtain ⟨name, ⟨s, ps, hs, hps, hname⟩, hrest⟩ := hcircles.exists_refers
    rw [h] at hs
    cases hs
    cases hscan.unique hps
    exact ih name hname hrest

end Values

/-- The names of the properties that are defined in some site files. -/
def definedNames (sites : List Site.Properties) : List String :=
  sites.flatMap fun ps => ps.filterMap (·.1)

theorem mem_definedNames {sites : List Site.Properties} {key s : String}
    (h : plainValue? sites key = some s) : key ∈ definedNames sites := by
  unfold plainValue? at h
  obtain ⟨ps, hps, hfind⟩ := List.exists_of_findSome?_eq_some (Option.join_eq_some_iff.mp h)
  unfold Site.Properties.find? at hfind
  obtain ⟨p, hp, -⟩ := Option.map_eq_some_iff.mp hfind
  have hname := List.find?_some hp
  refine List.mem_flatMap.mpr ⟨ps, hps, List.mem_filterMap.mpr ⟨p, ?_, eq_of_beq hname⟩⟩
  exact List.mem_reverse.mp (List.mem_of_find?_eq_some hp)

theorem length_definedNames_le (sites : List Site.Properties) :
    (definedNames sites).length ≤ sites.flatten.length := by
  induction sites with
  | nil => exact Nat.le_refl 0
  | cons ps sites ih =>
    have hps : (ps.filterMap (·.1)).length ≤ ps.length := List.length_filterMap_le _ _
    unfold definedNames at *
    rw [List.flatMap_cons, List.length_append, List.flatten_cons, List.length_append]
    omega

/-- The properties on the way to a property: each of them is defined and leads to it, none of them
is met twice. -/
structure LeadTo (sites : List Site.Properties) (resolving : List String) (key : String) :
    Prop where
  distinct : resolving.Nodup
  defined : ∀ k ∈ resolving, k ∈ definedNames sites
  leads : ∀ k ∈ resolving, Relation.TransGen (Refers sites) k key

namespace LeadTo

variable {sites : List Site.Properties} {resolving : List String} {key name : String}

theorem nil (key : String) : LeadTo sites [] key := ⟨List.nodup_nil, nofun, nofun⟩

theorem cons (h : LeadTo sites resolving key) (hnew : key ∉ resolving)
    (hrefers : Refers sites key name) : LeadTo sites (key :: resolving) name := by
  refine ⟨List.nodup_cons.mpr ⟨hnew, h.distinct⟩, fun k hk => ?_, fun k hk => ?_⟩
  · rcases List.mem_cons.mp hk with rfl | hk
    · obtain ⟨s, ps, hs, -⟩ := hrefers
      exact mem_definedNames hs
    · exact h.defined k hk
  · rcases List.mem_cons.mp hk with rfl | hk
    · exact .single hrefers
    · exact (h.leads k hk).tail hrefers

theorem length_le (h : LeadTo sites resolving key) :
    resolving.length ≤ (definedNames sites).length :=
  (List.subperm_of_subset h.distinct h.defined).length_le

end LeadTo

/-- How looking a property up ends: with its value, with a cycle that it leads to, or with the
record of a definition that it leads to. -/
inductive Ends (sites : List Site.Properties) (w : World) (key : String) :
    Except Failure (Option String) → Prop
  | value {v : Option String} (h : IsValue sites key v) : Ends sites w key (.ok v)
  | cycle {k : String} (hreach : Relation.ReflTransGen (Refers sites) key k)
      (hcycle : Relation.TransGen (Refers sites) k k) :
    Ends sites w key (.error (Reason.interpolationCycle k).failure)
  | record {k : String} {f : Failure} (hreach : Relation.ReflTransGen (Refers sites) key k)
      (h : RecordFails sites w k f) : Ends sites w key (.error f)

section Resolving

variable {c : SiteConfiguration} {sites : List Site.Properties} {w w₁ : World} {key : String}

/-- A failure of what a property refers to is a failure of its own. -/
theorem Ends.of_refers {name : String} {f : Failure} (hrefers : Refers sites key name)
    (h : Ends sites w name (.error f)) : Ends sites w key (.error f) := by
  cases h with
  | cycle hreach hcycle => exact .cycle (.head hrefers hreach) hcycle
  | record hreach h => exact .record (.head hrefers hreach) h

theorem Ends.of_onlyReads {r : Except Failure (Option String)} (honly : w.OnlyReads w₁)
    (h : Ends sites w₁ key r) : Ends sites w key r := by
  cases h with
  | value h => exact .value h
  | cycle hreach hcycle => exact .cycle hreach hcycle
  | record hreach h => exact .record hreach ⟨(honly.isLogged _ _).symm.trans h.1, h.2⟩

/-- A lookup inside another one, in every world that holds the site files. -/
def LooksUp (c : SiteConfiguration) (sites : List Site.Properties)
    (inside : String → Run (Option String)) (name : String) : Prop :=
  ∀ w, c.Holds w sites → ∃ r w', inside name w = (r, w') ∧ w.OnlyReads w' ∧ Ends sites w name r

/-- Filling pieces in puts the value of each property in place, or fails with one of them. -/
theorem fill_ends {inside : String → Run (Option String)} {ps : List Piece}
    (hinside : ∀ name, .reference name ∈ ps → LooksUp c sites inside name) (h : c.Holds w sites) :
    ∃ r w', fill inside ps w = (r, w') ∧ w.OnlyReads w' ∧
      ((∃ value, (∀ name, .reference name ∈ ps → IsValue sites name (value name)) ∧
          r = .ok (ps.flatMap (·.filled value))) ∨
        ∃ name f, .reference name ∈ ps ∧ r = .error f ∧ Ends sites w name (.error f)) := by
  induction ps generalizing w with
  | nil => exact ⟨_, w, rfl, .refl w, Or.inl ⟨fun _ => none, nofun, rfl⟩⟩
  | cons p ps ih =>
    have hrest : ∀ name, .reference name ∈ ps → LooksUp c sites inside name := fun name hname =>
      hinside name (List.mem_cons_of_mem p hname)
    cases p with
    | text ch =>
      obtain ⟨r, w', hr, honly, ⟨value, hvalue, rfl⟩ | ⟨name, f, hname, rfl, hends⟩⟩ := ih hrest h
      · refine ⟨_, w', Run.bind_of_ok hr, honly, Or.inl ⟨value, fun name hname => ?_, rfl⟩⟩
        exact hvalue name ((List.mem_cons.mp hname).resolve_left nofun)
      · exact ⟨_, w', Run.bind_of_error hr, honly,
          Or.inr ⟨name, f, List.mem_cons_of_mem _ hname, rfl, hends⟩⟩
    | reference name =>
      obtain ⟨r, w₁, hr, honly, hends⟩ := hinside name (List.mem_cons_self ..) w h
      cases r with
      | error f =>
        exact ⟨_, w₁, Run.bind_of_error hr, honly,
          Or.inr ⟨name, f, List.mem_cons_self .., rfl, hends⟩⟩
      | ok v =>
        obtain ⟨r, w', hr', honly', ⟨value, hvalue, rfl⟩ | ⟨other, f, hother, rfl, hends'⟩⟩ :=
          ih hrest (h.of_onlyReads honly)
        · cases hends with
          | value hv =>
            have hboth : ∀ n, .reference n ∈ Piece.reference name :: ps →
                IsValue sites n (Function.update value name v n) := by
              intro n hn
              by_cases hname : n = name
              · rw [hname, Function.update_self]
                exact hv
              · rw [Function.update_of_ne hname]
                refine hvalue n ((List.mem_cons.mp hn).resolve_left fun heq => hname ?_)
                exact Piece.reference.inj heq
            -- A property that is met again has the same value as before.
            have hsame : ps.flatMap (·.filled value) =
                ps.flatMap (·.filled (Function.update value name v)) :=
              flatMap_filled_congr fun n hn =>
                (hvalue n hn).unique (hboth n (List.mem_cons_of_mem _ hn))
            refine ⟨_, w', (Run.bind_of_ok hr).trans (Run.bind_of_ok hr'), honly.trans honly',
              Or.inl ⟨Function.update value name v, hboth, ?_⟩⟩
            rw [hsame, List.flatMap_cons, Piece.filled, Function.update_self]
        · exact ⟨_, w', (Run.bind_of_ok hr).trans (Run.bind_of_error hr'), honly.trans honly',
            Or.inr ⟨other, f, List.mem_cons_of_mem _ hother, rfl, hends'.of_onlyReads honly⟩⟩

/-- The value for what stands in the site files, with its references put in. -/
def filledValue (inside : String → Run (Option String)) : Option String → Run (Option String)
  | none => return none
  | some s => do return some (String.ofList (← fill inside (pieces s.toList)))

theorem filledValue_ends {inside : String → Run (Option String)} (h : c.Holds w sites)
    (hinside : ∀ name, Refers sites key name → LooksUp c sites inside name) :
    ∃ r w', filledValue inside (plainValue? sites key) w = (r, w') ∧ w.OnlyReads w' ∧
      Ends sites w key r := by
  cases hplain : plainValue? sites key with
  | none => exact ⟨_, w, rfl, .refl w, .value (.none hplain)⟩
  | some s =>
    have hscan : Scans s.toList (pieces s.toList) := (scans_iff _ _).mpr rfl
    have hrefers : ∀ name, .reference name ∈ pieces s.toList → Refers sites key name :=
      fun name hname => ⟨s, _, hplain, hscan, hname⟩
    obtain ⟨r, w', hfill, honly, ⟨value, hvalue, rfl⟩ | ⟨name, f, hname, rfl, hends⟩⟩ :=
      fill_ends (fun name hname => hinside name (hrefers name hname)) h
    · exact ⟨_, w', Run.bind_of_ok hfill, honly, .value (.filled value hplain hscan hvalue)⟩
    · exact ⟨_, w', Run.bind_of_error hfill, honly, hends.of_refers (hrefers name hname)⟩

/-- Looking a property up that is not on the way finds its definition and fills it in. -/
theorem resolve_succ (h : c.Holds w sites) (fuel : Nat) {resolving : List String}
    (hnew : key ∉ resolving) : ∃ paths,
      paths.map (Site.propertiesAt? w.files) = sites.map some ∧
      c.resolve (fuel + 1) resolving key none w = (findIn (some key) paths >>= fun found =>
        filledValue (fun name => c.resolve fuel (key :: resolving) name none) found.join) w := by
  obtain ⟨directory, hdirectory, havailable, hsites⟩ := h.exists_directory
  have hcontains : ¬ resolving.contains key = true := by
    rw [List.contains_iff_mem]
    exact hnew
  refine ⟨_, hsites, ?_⟩
  rw [resolve, if_neg hcontains]
  dsimp only
  rw [Run.bind_of_ok hdirectory, Run.bind_of_ok havailable]
  refine congrFun (congrArg (findIn (some key) _ >>= ·) (funext fun found => ?_)) w
  match found with
  | none | some none | some (some s) => rfl

/-- Every lookup ends, given more steps than there are properties that are not yet on the way. -/
theorem resolve_ends (fuel : Nat) {resolving : List String} (h : c.Holds w sites)
    (hlead : LeadTo sites resolving key)
    (hfuel : (definedNames sites).length < fuel + resolving.length) :
    ∃ r w', c.resolve fuel resolving key none w = (r, w') ∧ w.OnlyReads w' ∧
      Ends sites w key r := by
  induction fuel generalizing w resolving key with
  | zero =>
    have := hlead.length_le
    omega
  | succ fuel ih =>
    by_cases hmet : key ∈ resolving
    · refine ⟨_, w, ?_, .refl w, .cycle .refl (hlead.leads key hmet)⟩
      rw [resolve, if_pos (List.contains_iff_mem.mpr hmet)]
      rfl
    · have hinside : ∀ name, Refers sites key name →
          LooksUp c sites (fun name => c.resolve fuel (key :: resolving) name none) name := by
        intro name hrefers w₂ h₂
        apply ih h₂ (hlead.cons hmet hrefers)
        rw [List.length_cons]
        omega
      obtain ⟨paths, hpaths, hresolve⟩ := resolve_succ h fuel hmet
      rw [hresolve]
      obtain ⟨w₁, honly, hfound | ⟨f, hf, hfails⟩⟩ := findIn_eq key h.keeps hpaths
      · rw [Run.bind_of_ok hfound]
        obtain ⟨r, w', hr, honly', hends⟩ := filledValue_ends (h.of_onlyReads honly) hinside
        exact ⟨r, w', hr, honly.trans honly', hends.of_onlyReads honly⟩
      · exact ⟨_, w₁, Run.bind_of_error hf, honly, .record .refl hfails⟩

/-- The steps that a lookup is given are enough for all properties. -/
theorem length_definedNames_lt {directory : String}
    (h : (Site.filesIn w.files directory).map (Site.propertiesAt? w.files) = sites.map some) :
    (definedNames sites).length < chainLimit w directory := by
  have hsizes : (Site.filesIn w.files directory).map
      (fun path => ((Site.propertiesAt? w.files path).getD []).length) = sites.map List.length := by
    have := congrArg (List.map fun o : Option Site.Properties => (o.getD []).length) h
    rwa [List.map_map, List.map_map] at this
  have hsum := length_definedNames_le sites
  rw [List.length_flatten] at hsum
  unfold chainLimit
  dsimp only
  rw [hsizes, ← List.sum_eq_foldl]
  omega

/-- The value of a property as it is returned. -/
def returned : Option String → Value
  | none => .null
  | some s => .text s

/-- Looking up a key that is a text finds its definition in the same way. -/
theorem getValue_text (h : c.Holds w sites) (key : String) : ∃ paths,
    paths.map (Site.propertiesAt? w.files) = sites.map some ∧
    c.getValue (.text key) .null w = (findIn (some key) paths >>= fun found =>
      match found with
      | some (some s) => c.filled [key] s
      | _ => return .null) w := by
  obtain ⟨directory, hdirectory, havailable, hsites⟩ := h.exists_directory
  have hkey : ¬ (!(Value.text key).isKey) = true := nofun
  have hthere : ¬ (!true) = true := nofun
  refine ⟨_, hsites, ?_⟩
  unfold getValue
  rw [if_neg hkey]
  dsimp only
  rw [Run.bind_of_ok hdirectory, Run.bind_of_ok havailable, if_neg hthere, Run.get_bind]
  refine congrFun (congrArg (findIn (some key) _ >>= ·) (funext fun found => funext fun w₁ => ?_)) w
  rw [Run.pure_bind_apply]
  match found with
  | none | some none | some (some s) => rfl

theorem filled_eq (h : c.Holds w sites) (resolving : List String) (s : String) :
    ∃ limit, (definedNames sites).length < limit ∧ c.filled resolving s w =
      (filledValue (fun name => c.resolve limit resolving name none) (some s) >>= fun v =>
        return returned v) w := by
  obtain ⟨directory, hdirectory, -, hsites⟩ := h.exists_directory
  refine ⟨_, length_definedNames_lt hsites, ?_⟩
  unfold filled
  rw [Run.get_bind, Run.bind_of_ok hdirectory]
  let inside := fun name => c.resolve (chainLimit w directory) resolving name none
  rcases hfill : fill inside (pieces s.toList) w with ⟨f | cs, w'⟩
  · have hfilled : filledValue inside (some s) w = (.error f, w') := Run.bind_of_error hfill
    rw [Run.bind_of_error hfill, Run.bind_of_error hfilled]
  · have hfilled : filledValue inside (some s) w = (.ok (some (String.ofList cs)), w') :=
      Run.bind_of_ok hfill
    rw [Run.bind_of_ok hfill, Run.bind_of_ok hfilled]
    rfl

theorem getValue_ends (h : c.Holds w sites) (key : String) :
    ∃ r w', c.getValue (.text key) .null w = (r.map returned, w') ∧ w.OnlyReads w' ∧
      Ends sites w key r := by
  obtain ⟨paths, hpaths, hvalue⟩ := getValue_text h key
  rw [hvalue]
  obtain ⟨w₁, honly, hfound | ⟨f, hf, hfails⟩⟩ := findIn_eq key h.keeps hpaths
  · rw [Run.bind_of_ok hfound]
    have h₁ := h.of_onlyReads honly
    cases hplain : plainValue? sites key with
    | none =>
      refine ⟨.ok none, w₁, ?_, honly, .value (.none hplain)⟩
      unfold plainValue? at hplain
      rcases hdefinition : definition? sites key with _ | _ | s
      · rfl
      · rfl
      · rw [hdefinition] at hplain
        cases hplain
    | some s =>
      obtain ⟨limit, hlimit, hfilled⟩ := filled_eq h₁ [key] s
      have hinside : ∀ name, Refers sites key name →
          LooksUp c sites (fun name => c.resolve limit [key] name none) name := by
        intro name hrefers w₂ h₂
        exact resolve_ends _ h₂ ((LeadTo.nil key).cons nofun hrefers) (Nat.lt_add_right _ hlimit)
      obtain ⟨r, w', hr, honly', hends⟩ := filledValue_ends h₁ hinside
      rw [hplain] at hr
      refine ⟨r, w', ?_, honly.trans honly', hends.of_onlyReads honly⟩
      rw [Option.join_eq_some_iff.mp hplain]
      dsimp only
      rw [hfilled, Run.bind_pure hr]
      cases r <;> rfl
  · exact ⟨.error f, w₁, Run.bind_of_error hf, honly, .record .refl hfails⟩

theorem get?_ends (h : c.Holds w sites) (key : String) :
    ∃ r w', c.get? key none w = (r, w') ∧ w.OnlyReads w' ∧ Ends sites w key r := by
  obtain ⟨directory, hdirectory, -, hsites⟩ := h.exists_directory
  have hlimit := length_definedNames_lt hsites
  obtain ⟨r, w', hr, honly, hends⟩ := resolve_ends _ h (.nil key) (Nat.lt_add_right _ hlimit)
  refine ⟨r, w', ?_, honly, hends⟩
  unfold get?
  rw [Run.bind_of_ok hdirectory, Run.get_bind]
  exact hr

/-- How looking a property up has to end: with a cycle if the references from the property lead to
one, and else with the one value that the property has. In place of this the record of a definition
can fail, on a console that shows it. -/
def IsResolved (sites : List Site.Properties) (w : World) (key : String)
    (r : Except Failure (Option String)) : Prop :=
  (∃ k f, Relation.ReflTransGen (Refers sites) key k ∧ RecordFails sites w k f ∧ r = .error f) ∨
    (Circles sites key ∧ ∃ k, Relation.ReflTransGen (Refers sites) key k ∧
      Relation.TransGen (Refers sites) k k ∧ r = .error (Reason.interpolationCycle k).failure) ∨
    (¬ Circles sites key ∧ ∃ v, r = .ok v ∧ ∀ v', IsValue sites key v' ↔ v' = v)

theorem Ends.isResolved {r : Except Failure (Option String)} (h : Ends sites w key r) :
    IsResolved sites w key r := by
  cases h with
  | value hv =>
    refine Or.inr (Or.inr ⟨hv.not_circles, _, rfl, fun v' => ⟨fun hv' => hv'.unique hv, ?_⟩⟩)
    rintro rfl
    exact hv
  | cycle hreach hcycle => exact Or.inr (Or.inl ⟨⟨_, hreach, hcycle⟩, _, hreach, hcycle, rfl⟩)
  | record hreach hf => exact Or.inl ⟨_, _, hreach, hf, rfl⟩

/-- Looking a property up ends as it has to, whether for its text or for a key of any kind, and
leaves the site files as they are. -/
theorem get?_resolved (h : c.Holds w sites) (key : String) :
    (∃ r w', c.get? key none w = (r, w') ∧ c.Holds w' sites ∧ IsResolved sites w key r) ∧
    ∃ r w', c.getValue (.text key) .null w = (r.map returned, w') ∧ c.Holds w' sites ∧
      IsResolved sites w key r := by
  constructor
  · obtain ⟨r, w', hr, honly, hends⟩ := get?_ends h key
    exact ⟨r, w', hr, h.of_onlyReads honly, hends.isResolved⟩
  · obtain ⟨r, w', hr, honly, hends⟩ := getValue_ends h key
    exact ⟨r, w', hr, h.of_onlyReads honly, hends.isResolved⟩

end Resolving

section Samples

/-- The configuration in a directory of the working directory. -/
def sample : SiteConfiguration := ⟨.text "conf"⟩

/-- A world with one site file. -/
def sampleWorld (content : String) : World :=
  { files := { nodes := [(["conf"], .directory),
      (["conf", "core-site.xml"], .file (Text.utf8 content) (.change 0))] } }

theorem sample_holds {w : World} {content : String} {ps : Site.Properties}
    (hfiles : w.files = (sampleWorld content).files) (hcache : w.siteCache = [])
    (h : Site.read? (Text.utf8 content) = some ps) : sample.Holds w [ps] := by
  have hnames : ["core-site.xml"].filter Site.isFileName = ["core-site.xml"] := by decide
  have hpaths : Site.filesIn w.files "conf" = ["conf/core-site.xml"] := by
    rw [hfiles, Site.filesIn, show (sampleWorld content).files.children "conf" = ["core-site.xml"]
      from rfl, hnames, List.mergeSort_singleton]
    rfl
  have hproperties : Site.propertiesAt? w.files "conf/core-site.xml" = some ps := by
    rw [hfiles, ← h]
    rfl
  refine ⟨⟨"conf", rfl, ?_, ?_⟩, List.cons_ne_nil _ _, ?_⟩
  · rw [hfiles]
    rfl
  · rw [hpaths, List.map_cons, hproperties]
    rfl
  · intro e he
    rw [hcache] at he
    cases he

theorem IsValue.of_pieces {sites : List Site.Properties} {key s out : String} (ps : List Piece)
    (value : String → Option String) (h : plainValue? sites key = some s)
    (hpieces : pieces s.toList = ps)
    (hvalue : ∀ name, .reference name ∈ ps → IsValue sites name (value name))
    (hout : String.ofList (ps.flatMap (·.filled value)) = out) : IsValue sites key (some out) := by
  rw [← hout]
  exact .filled value h ((scans_iff _ _).mpr hpieces.symm) hvalue

/-- A site file in which one property is referred to by two others. -/
def diamondText : String :=
  "<c><property><name>a</name><value>$\x7bb\x7d$\x7bc\x7d</value></property>"
    ++ "<property><name>b</name><value>$\x7bc\x7d</value></property>"
    ++ "<property><name>c</name><value>x</value></property></c>"

def diamond : Site.Properties :=
  [(some "a", some "$\x7bb\x7d$\x7bc\x7d"), (some "b", some "$\x7bc\x7d"), (some "c", some "x")]

theorem diamond_value : IsValue [diamond] "a" (some "xx") := by
  have hc : IsValue [diamond] "c" (some "x") :=
    .of_pieces [.text 'x'] (fun _ => none) rfl (by decide +kernel) (by simp) rfl
  have hb : IsValue [diamond] "b" (some "x") := by
    refine .of_pieces [.reference "c"] (fun _ => some "x") rfl (by decide +kernel) ?_ rfl
    intro name hname
    rw [Piece.reference.inj (List.mem_singleton.mp hname)]
    exact hc
  refine .of_pieces [.reference "b", .reference "c"] (fun _ => some "x") rfl
    (by decide +kernel) ?_ rfl
  intro name hname
  rcases List.mem_cons.mp hname with hname | hname
  · rw [Piece.reference.inj hname]
    exact hb
  · rw [Piece.reference.inj (List.mem_singleton.mp hname)]
    exact hc

theorem get?_resolved_diamond : sample.Holds (sampleWorld diamondText) [diamond] ∧
    ∃ w', sample.get? "a" none (sampleWorld diamondText) = (.ok (some "xx"), w') := by
  have h : sample.Holds (sampleWorld diamondText) [diamond] :=
    sample_holds rfl rfl (by decide +kernel)
  refine ⟨h, ?_⟩
  obtain ⟨r, w', hr, -, ⟨k, f, -, ⟨hlogged, -⟩, -⟩ | ⟨hcircles, -⟩ | ⟨-, v, rfl, hv⟩⟩ :=
    (get?_resolved h "a").1
  · exact absurd hlogged (by decide +kernel)
  · exact absurd hcircles diamond_value.not_circles
  · rw [(hv _).mp diamond_value]
    exact ⟨w', hr⟩

/-- At the most detailed level the value of a property is read as markup and can fail the lookup. -/
theorem get?_fails_at_debug : ∃ w : World,
    sample.Holds w [[(some "queue", some "[/x]")]] ∧
    IsValue [[(some "queue", some "[/x]")]] "queue" (some "[/x]") ∧
    ∃ f w', sample.get? "queue" none w = (.error f, w') ∧ f.kind = .markup := by
  let w : World := { sampleWorld
    "<c><property><name>queue</name><value>[/x]</value></property></c>" with
    loggers := [(libraryName, ⟨debugLevel, false, [.console]⟩)] }
  refine ⟨w, sample_holds rfl rfl (by decide +kernel), ?_, ?_⟩
  · exact .of_pieces [.text '[', .text '/', .text 'x', .text ']'] (fun _ => none) rfl
      (by decide +kernel) (by simp) rfl
  · obtain ⟨f, hf, hkind⟩ : ∃ f, (sample.get? "queue" none w).1 = .error f ∧
        (f.kind == .markup) = true := exists_of_failsWith (by decide +kernel)
    exact ⟨f, _, Prod.ext hf rfl, eq_of_beq hkind⟩

end Samples

end ClusterSubmission.SiteConfiguration
