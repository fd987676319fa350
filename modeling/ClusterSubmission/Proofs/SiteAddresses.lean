import ClusterSubmission.Proofs.Interpolation
import ClusterSubmission.Proofs.LogLevel

/-!
# Where the resource managers are

The site files say where the resource managers are and how callers prove who they are. What they say
is a function of the values of some properties, and only these are consulted. If one of them leads
to a cycle the question fails with the cycle, and on a console that shows the most detailed records
it can fail in a record.
-/
namespace ClusterSubmission

/-- An operation that consults some properties ends as it is to end if none of them leads to a
cycle, and else with a cycle. In place of this one of its records can fail, on a console that shows
it. -/
inductive Consulted {α : Type} (sites : List Site.Properties) (said : String → Prop) (w : World)
    (keys : List String) (o : Except Failure α) : Except Failure α → Prop
  | settled (h : ∀ key ∈ keys, ¬ SiteConfiguration.Circles sites key) :
    Consulted sites said w keys o o
  | cycle {key name : String} (hkey : key ∈ keys) (h : SiteConfiguration.Circles sites key) :
    Consulted sites said w keys o (.error (Reason.interpolationCycle name).failure)
  | record {m : String} {r : Reason} (hsaid : said m)
      (hfails : Log.renderMarkup ("[bold]" ++ libraryName ++ "[/] - " ++ m) = .error r)
      (hlogged : w.isLogged libraryName debugLevel = true) :
    Consulted sites said w keys o (.error r.failure)

/-- An operation consults some properties to come to an end, and does nothing but read and
report. -/
def Consults {α : Type} (sites : List Site.Properties) (said : String → Prop) (w : World)
    (x : Run α) (keys : List String) (o : Except Failure α) : Prop :=
  ∃ r w', x w = (r, w') ∧ w.OnlyReads w' ∧ Consulted sites said w keys o r

namespace Consults

variable {α β : Type} {sites : List Site.Properties} {said : String → Prop} {w : World} {x : Run α}
  {f : α → Run β} {keys more : List String}

theorem still {o : Except Failure α} (h : x w = (o, w)) : Consults sites said w x [] o :=
  ⟨o, w, h, .refl w, .settled nofun⟩

theorem pure (a : α) : Consults sites said w (Pure.pure a) [] (.ok a) := still rfl

theorem fail (r : Reason) : Consults sites said w (Run.fail r : Run α) [] (.error r.failure) :=
  still rfl

theorem mono {said' : String → Prop} {o : Except Failure α} (hx : Consults sites said w x keys o)
    (h : ∀ m, said m → said' m) : Consults sites said' w x keys o := by
  obtain ⟨r, w', hr, honly, hends⟩ := hx
  refine ⟨r, w', hr, honly, ?_⟩
  cases hends with
  | settled hkeys => exact .settled hkeys
  | cycle hkey hcircles => exact .cycle hkey hcircles
  | record hsaid hfails hlogged => exact .record (h _ hsaid) hfails hlogged

/-- A sequence consults what its parts consult. -/
theorem bind {a : α} {o : Except Failure β} (hx : Consults sites said w x keys (.ok a))
    (hf : ∀ w', w.OnlyReads w' → Consults sites said w' (f a) more o) :
    Consults sites said w (x >>= f) (keys ++ more) o := by
  obtain ⟨r, w₁, hr, honly, hends⟩ := hx
  cases hends with
  | settled hkeys =>
    obtain ⟨r, w', hr', honly', hends⟩ := hf w₁ honly
    refine ⟨r, w', (Run.bind_of_ok hr).trans hr', honly.trans honly', ?_⟩
    cases hends with
    | settled hmore =>
      exact .settled fun key hkey => (List.mem_append.mp hkey).elim (hkeys key) (hmore key)
    | cycle hkey h => exact .cycle (List.mem_append_right _ hkey) h
    | record hsaid hfails hlogged =>
      exact .record hsaid hfails ((honly.isLogged _ _).symm.trans hlogged)
  | cycle hkey h =>
    exact ⟨_, w₁, Run.bind_of_error hr, honly, .cycle (List.mem_append_left _ hkey) h⟩
  | record hsaid hfails hlogged =>
    exact ⟨_, w₁, Run.bind_of_error hr, honly, .record hsaid hfails hlogged⟩

/-- It does not matter how often a property is consulted. -/
theorem congr_keys {o : Except Failure α} (hx : Consults sites said w x keys o)
    (h : ∀ key, key ∈ keys ↔ key ∈ more) : Consults sites said w x more o := by
  obtain ⟨r, w', hr, honly, hends⟩ := hx
  refine ⟨r, w', hr, honly, ?_⟩
  cases hends with
  | settled hkeys => exact .settled fun key hkey => hkeys key ((h key).mpr hkey)
  | cycle hkey hcircles => exact .cycle ((h _).mp hkey) hcircles
  | record hsaid hfails hlogged => exact .record hsaid hfails hlogged

/-- A sequence whose second part consults the same once more. -/
theorem bind_again {a : α} {o : Except Failure β} (hx : Consults sites said w x keys (.ok a))
    (hf : ∀ w', w.OnlyReads w' → Consults sites said w' (f a) keys o) :
    Consults sites said w (x >>= f) keys o :=
  (hx.bind hf).congr_keys fun key => by rw [List.mem_append, or_self]

/-- A sequence whose second part consults the same once more, behind something else. -/
theorem bind_around {a : α} {o : Except Failure β} (hx : Consults sites said w x keys (.ok a))
    (hf : ∀ w', w.OnlyReads w' → Consults sites said w' (f a) (more ++ keys) o) :
    Consults sites said w (x >>= f) (keys ++ more) o :=
  (hx.bind hf).congr_keys fun key => by
    rw [List.mem_append, List.mem_append, List.mem_append, or_comm (a := key ∈ more), ← or_assoc,
      or_self]

/-- A sequence whose first part is to fail. -/
theorem bind_error {e : Failure} (hx : Consults sites said w x keys (.error e)) :
    Consults sites said w (x >>= f) keys (.error e) := by
  obtain ⟨r, w₁, hr, honly, hends⟩ := hx
  cases hends with
  | settled hkeys => exact ⟨_, w₁, Run.bind_of_error hr, honly, .settled hkeys⟩
  | cycle hkey h => exact ⟨_, w₁, Run.bind_of_error hr, honly, .cycle hkey h⟩
  | record hsaid hfails hlogged =>
    exact ⟨_, w₁, Run.bind_of_error hr, honly, .record hsaid hfails hlogged⟩

/-- A sequence whose second part consults nothing. -/
theorem bind_still {a : α} {o : Except Failure β} (hx : Consults sites said w x keys (.ok a))
    (hf : ∀ w', w.OnlyReads w' → Consults sites said w' (f a) [] o) :
    Consults sites said w (x >>= f) keys o := by
  have h := hx.bind hf
  rwa [List.append_nil] at h

theorem bind_pure {a : α} (g : α → β) (hx : Consults sites said w x keys (.ok a)) :
    Consults sites said w (x >>= fun a => Pure.pure (g a)) keys (.ok (g a)) :=
  hx.bind_still fun _ _ => pure (g a)

theorem debug {m : String} (hsaid : said m) : Consults sites said w (Run.debug m) [] (.ok ()) := by
  rcases Run.log_cases debugLevel m w with h | ⟨r, h, hfails, hlogged⟩
  · exact ⟨_, w, h, .refl w, .settled nofun⟩
  · exact ⟨_, w, h, .refl w, .record hsaid hfails hlogged⟩

end Consults

namespace SiteConfiguration

/-- Values of properties: the one that each has, where its references lead to no cycle. -/
def Values (sites : List Site.Properties) (value : String → Option String) : Prop :=
  ∀ key, ¬ Circles sites key → IsValue sites key (value key)

/-- The site files that there are: none, or some with their properties. -/
inductive Finds (c : SiteConfiguration) (w : World) : List Site.Properties → Prop
  | missing (h : c.isAvailable w = (.ok false, w)) : Finds c w []
  | held {sites : List Site.Properties} (h : c.Holds w sites) : Finds c w sites

/-- The records of definitions that are found. -/
inductive Reports (sites : List Site.Properties) : String → Prop
  | definition {key : String} {value : Option String} (path : String)
      (h : definition? sites key = some value) :
    Reports sites ("Got key '" ++ key ++ "' with value '" ++ value.getD "None" ++ "' from '"
      ++ path ++ "'")

section Values

variable {c : SiteConfiguration} {w w' : World} {sites : List Site.Properties}
  {value : String → Option String} {key : String}

theorem not_circles_nil (key : String) : ¬ Circles [] key :=
  (IsValue.none rfl : IsValue [] key none).not_circles

theorem Values.eq_none (h : Values [] value) (key : String) : value key = none :=
  (h key (not_circles_nil key)).unique (.none rfl)

theorem Holds.withLoggers (h : c.Holds w sites) (ls : List (String × Logger)) :
    c.Holds (w.withLoggers ls) sites := by
  obtain ⟨directory, hdirectory, his, hsites⟩ := h.files
  obtain ⟨r, hr⟩ := c.directory_eq w.environment
  have hsame := hr w rfl
  rw [hdirectory] at hsame
  cases hsame
  exact ⟨⟨directory, hr (w.withLoggers ls) rfl, his, hsites⟩, h.nonempty, h.keeps⟩

/-- Every property that leads to no cycle has a value. -/
theorem exists_values (h : c.Finds w sites) : ∃ value, Values sites value := by
  cases h with
  | missing => exact ⟨fun _ => none, fun _ _ => .none rfl⟩
  | held h =>
    have hvalue : ∀ key, ∃ v, ¬ Circles sites key → IsValue sites key v := by
      intro key
      -- A world without loggers shows no records, so that none of them can fail.
      obtain ⟨r, -, -, -, hends⟩ := get?_ends (h.withLoggers []) key
      cases hends with
      | value hv => exact ⟨_, fun _ => hv⟩
      | cycle hreach hcycle => exact ⟨none, fun hnot => absurd ⟨_, hreach, hcycle⟩ hnot⟩
      | record hreach hf =>
        have hloggers : (w.withLoggers []).loggers = ({ loggers := [] } : World).loggers := rfl
        have hlogged := (World.isLogged_congr hloggers libraryName debugLevel).symm.trans hf.1
        exact absurd hlogged (by decide +kernel)
    choose value hvalue using hvalue
    exact ⟨value, hvalue⟩

theorem get?_consults (h : c.Holds w sites) (hvalue : Values sites value) (key : String) :
    Consults sites (Reports sites) w (c.get? key) [key] (.ok (value key)) := by
  obtain ⟨r, w', hr, honly, hends⟩ := get?_ends h key
  refine ⟨r, w', hr, honly, ?_⟩
  cases hends with
  | value hv =>
    have hnot := hv.not_circles
    rw [hv.unique (hvalue key hnot)]
    exact .settled fun k hk => List.mem_singleton.mp hk ▸ hnot
  | cycle hreach hcycle => exact .cycle (List.mem_singleton_self key) ⟨_, hreach, hcycle⟩
  | record hreach hf =>
    obtain ⟨hlogged, v, path, reason, hdefinition, hfails, rfl⟩ := hf
    exact .record (.definition path hdefinition) hfails hlogged

theorem pieces_plain {cs : List Char} (h : '$' ∉ cs) : pieces cs = cs.map .text := by
  induction cs with
  | nil => exact pieces_nil
  | cons c cs ih =>
    obtain ⟨hc, hcs⟩ := not_or.mp (mt List.mem_cons.mpr h)
    have hnone : reference? (c :: cs) = none := by
      rw [reference?_eq_none]
      rintro name rest ⟨heq, -⟩
      exact hc (List.cons.inj heq).1.symm
    rw [pieces_text hnone, ih hcs, List.map_cons]

/-- A text without references is its own value. -/
theorem IsValue.of_plain {s : String} (h : plainValue? sites key = some s) (hs : '$' ∉ s.toList) :
    IsValue sites key (some s) := by
  refine .of_pieces (s.toList.map .text) (fun _ => Option.none) h (pieces_plain hs) ?_ ?_
  · intro name hname
    simp at hname
  · simp [List.flatMap_map, Piece.filled]

end Values

/-! ### What the values say -/

/-- A value that is there and not empty. -/
def present? (v : Option String) : Option String := v.filter (· != "")

theorem present?_of_ne {s : String} (h : s ≠ "") : present? (some s) = some s := by
  simp [present?, Option.filter, h]

theorem present?_eq_none {v : Option String} (h : present? v = none) : v = none ∨ v = some "" := by
  cases v with
  | none => exact .inl rfl
  | some s =>
    by_cases hset : s = ""
    · exact .inr (congrArg some hset)
    · rw [present?_of_ne hset] at h
      cases h

theorem present?_eq_some {v : Option String} {s : String} (h : present? v = some s) :
    v = some s ∧ s ≠ "" := by
  obtain ⟨hv, hset⟩ := Option.filter_eq_some_iff.mp h
  exact ⟨hv, by simpa using hset⟩

section Meaning

variable (value : String → Option String)

/-- Whether the resource managers are talked to by HTTPS only. -/
def isSecure : Bool := value "yarn.http.policy" == some "HTTPS_ONLY"

/-- Whether there is more than one resource manager. -/
def hasStandby : Bool :=
  value "yarn.resourcemanager.ha.enabled" == some "true" ||
    value "yarn.resourcemanager.ha.enabled" == some "1"

/-- The names of the resource managers, if there is more than one and they have names. -/
def managerIds? : Option (List String) :=
  if hasStandby value then
    (present? (value "yarn.resourcemanager.ha.rm-ids")).map fun s =>
      (Text.splitOnChar ',' s.toList).map fun id => Text.strip (String.ofList id)
  else none

/-- The property with the address of the resource manager. -/
def addressKey : String :=
  if isSecure value then "yarn.resourcemanager.webapp.https.address"
  else "yarn.resourcemanager.webapp.address"

/-- An address on a host, with the scheme that counts. -/
def located (host : String) : String :=
  if isSecure value then "https://" ++ host else "http://" ++ host

/-- A host with the port that is used if no port is known. -/
def withUsualPort (host : String) : String :=
  if isSecure value then host ++ ":8090" else host ++ ":8088"

/-- The addresses of the resource managers: one for each name that has an address, in the order of
the names; or else the one address that is there, or the host with the usual port. -/
def siteAddresses : List String :=
  match managerIds? value with
  | some ids => ids.filterMap fun id =>
      (present? (value (addressKey value ++ "." ++ id))).map (located value)
  | none =>
    match present? (value (addressKey value)) with
    | some host => [located value host]
    | none =>
      match present? (value "yarn.resourcemanager.hostname") with
      | some host => [located value (withUsualPort value host)]
      | none => []

/-- The properties that are consulted for the names of the resource managers. -/
def idKeys : List String :=
  "yarn.resourcemanager.ha.enabled" ::
    if hasStandby value then ["yarn.resourcemanager.ha.rm-ids"] else []

/-- The properties that are consulted for the addresses. -/
def addressKeys : List String :=
  "yarn.http.policy" :: (idKeys value ++
    match managerIds? value with
    | some ids => ids.map fun id => addressKey value ++ "." ++ id
    | none => addressKey value :: if (present? (value (addressKey value))).isSome then []
      else ["yarn.resourcemanager.hostname"])

end Meaning

section Reading

variable {c : SiteConfiguration} {w w' : World} {sites : List Site.Properties}
  {value : String → Option String}

theorem addressRule_isSecure : addressRule (isSecure value) =
    (addressKey value, if isSecure value then "https" else "http",
      if isSecure value then "8090" else "8088") := by
  unfold addressKey
  cases isSecure value <;> rfl

theorem isSecureOnly_consults (h : c.Holds w sites) (hvalue : Values sites value) :
    Consults sites (Reports sites) w c.isSecureOnly ["yarn.http.policy"] (.ok (isSecure value)) :=
  (get?_consults h hvalue "yarn.http.policy").bind_pure (· == some "HTTPS_ONLY")

theorem isHighlyAvailable_consults (h : c.Holds w sites) (hvalue : Values sites value) :
    Consults sites (Reports sites) w c.isHighlyAvailable ["yarn.resourcemanager.ha.enabled"]
      (.ok (hasStandby value)) :=
  (get?_consults h hvalue _).bind_pure fun v => v == some "true" || v == some "1"

theorem addressesAt_cons (c : SiteConfiguration) (scheme key : String) (keys : List String) :
    c.addressesAt scheme (key :: keys) = c.get? key >>= fun v =>
      c.addressesAt scheme keys >>= fun more =>
        pure (((present? v).map (scheme ++ "://" ++ ·)).toList ++ more) := by
  refine congrArg (c.get? key >>= ·) (funext fun v => ?_)
  cases v with
  | none => rfl
  | some s =>
    by_cases hset : s = ""
    · subst hset
      rfl
    · simp [present?_of_ne hset]

/-- The addresses by some properties are those of the properties that have one, in their order. -/
theorem addressesAt_consults (h : c.Holds w sites) (hvalue : Values sites value) (scheme : String)
    (keys : List String) : Consults sites (Reports sites) w (c.addressesAt scheme keys) keys
      (.ok (keys.filterMap fun key => (present? (value key)).map (scheme ++ "://" ++ ·))) := by
  induction keys generalizing w with
  | nil => exact .pure []
  | cons key keys ih =>
    have hfound : (key :: keys).filterMap (fun key =>
        (present? (value key)).map (scheme ++ "://" ++ ·)) =
        ((present? (value key)).map (scheme ++ "://" ++ ·)).toList ++ keys.filterMap fun key =>
          (present? (value key)).map (scheme ++ "://" ++ ·) := by
      rw [List.filterMap_cons]
      cases present? (value key) <;> rfl
    rw [addressesAt_cons, hfound]
    exact (get?_consults h hvalue key).bind fun w' honly =>
      (ih (h.of_onlyReads honly)).bind_pure
        (((present? (value key)).map (scheme ++ "://" ++ ·)).toList ++ ·)

theorem resourceManagerIds_consults (h : c.Holds w sites) (hvalue : Values sites value) :
    Consults sites (Reports sites) w c.resourceManagerIds ["yarn.resourcemanager.ha.rm-ids"]
      (.ok ((present? (value "yarn.resourcemanager.ha.rm-ids")).map fun s =>
        (Text.splitOnChar ',' s.toList).map fun id => Text.strip (String.ofList id))) := by
  refine (get?_consults h hvalue "yarn.resourcemanager.ha.rm-ids").bind_still fun w' _ => ?_
  cases value "yarn.resourcemanager.ha.rm-ids" with
  | none => exact .pure none
  | some s =>
    by_cases hset : s = ""
    · subst hset
      exact .pure none
    · rw [present?_of_ne hset]
      simp only
      exact .pure _

/-- The names that are found again are those that were found. -/
theorem standbyIds_consults (h : c.Holds w sites) (hvalue : Values sites value) :
    Consults sites (Reports sites) w c.standbyIds (idKeys value) (.ok (managerIds? value)) := by
  refine (isHighlyAvailable_consults h hvalue).bind fun w₁ h₁ => ?_
  unfold managerIds?
  cases hasStandby value with
  | false => exact .pure none
  | true =>
    have hids := fun {w'} (h' : w.OnlyReads w') =>
      resourceManagerIds_consults (h.of_onlyReads h') hvalue
    cases hfound : (present? (value "yarn.resourcemanager.ha.rm-ids")).map fun s =>
        (Text.splitOnChar ',' s.toList).map fun id => Text.strip (String.ofList id) with
    | none =>
      rw [hfound] at hids
      exact (hids h₁).bind_still fun w₂ _ => .pure none
    | some ids =>
      rw [hfound] at hids
      exact (hids h₁).bind_again fun w₂ h₂ =>
        (hids (h₁.trans h₂)).bind_still fun w₃ _ => .pure (some ids)

theorem addressBy_consults (h : c.Holds w sites) (hvalue : Values sites value)
    (scheme key : String) : Consults sites (Reports sites) w (c.addressBy scheme key) [key]
      (.ok ((present? (value key)).map (scheme ++ "://" ++ ·))) := by
  cases hpresent : present? (value key) with
  | none =>
    refine (get?_consults h hvalue key).bind_still fun w₁ _ => ?_
    rcases present?_eq_none hpresent with hv | hv <;> rw [hv] <;> exact .pure none
  | some host =>
    obtain ⟨hv, hset⟩ := present?_eq_some hpresent
    refine (get?_consults h hvalue key).bind_again fun w₁ h₁ => ?_
    rw [hv]
    simp only
    have hagain := get?_consults (h.of_onlyReads h₁) hvalue key
    rw [hv] at hagain
    exact hagain.bind_pure fun v => some (scheme ++ "://" ++ v.getD "None")

/-- The properties that are consulted for the name of the host. The policy is for the port. -/
def hostKeys (value : String → Option String) : List String :=
  "yarn.resourcemanager.hostname" ::
    if (present? (value "yarn.resourcemanager.hostname")).isSome then ["yarn.http.policy"] else []

theorem addressByHost_consults (h : c.Holds w sites) (hvalue : Values sites value)
    (scheme : String) : Consults sites (Reports sites) w (c.addressByHost scheme) (hostKeys value)
      (.ok ((present? (value "yarn.resourcemanager.hostname")).map fun host =>
        scheme ++ "://" ++ host ++ ":" ++ (addressRule (isSecure value)).2.2)) := by
  unfold hostKeys addressByHost
  have hread := fun {w'} (h' : w.OnlyReads w') =>
    get?_consults (h.of_onlyReads h') hvalue "yarn.resourcemanager.hostname"
  cases hpresent : present? (value "yarn.resourcemanager.hostname") with
  | none =>
    refine (hread (.refl w)).bind_still fun w₁ _ => ?_
    rcases present?_eq_none hpresent with hv | hv <;> rw [hv] <;> exact .pure none
  | some host =>
    obtain ⟨hv, hset⟩ := present?_eq_some hpresent
    rw [hv] at hread
    have hport := fun {w'} (h' : w.OnlyReads w') =>
      isSecureOnly_consults (h.of_onlyReads h') hvalue
    -- The policy is consulted for the port, between the two looks at the host.
    have hrest : ∀ w₁, w.OnlyReads w₁ → Consults sites (Reports sites) w₁ (do
        let secure ← c.isSecureOnly
        let host ← c.get? "yarn.resourcemanager.hostname"
        return some (scheme ++ "://" ++ host.getD "None" ++ ":" ++ (addressRule secure).2.2))
        (["yarn.http.policy"] ++ ["yarn.resourcemanager.hostname"])
        (.ok (some (scheme ++ "://" ++ host ++ ":" ++ (addressRule (isSecure value)).2.2))) := by
      intro w₁ h₁
      refine (hport h₁).bind fun w₂ h₂ => ?_
      refine (hread (h₁.trans h₂)).bind_still fun w₃ _ => ?_
      rw [Option.getD_some]
      exact .pure _
    have hkeys : (if (some host).isSome = true then ["yarn.http.policy"] else []) =
        ["yarn.http.policy"] := rfl
    rw [hkeys]
    refine (hread (.refl w)).bind_around fun w₁ h₁ => ?_
    simp only
    exact hrest w₁ h₁

/-- A list, unless it is empty. -/
def listed? (l : List String) : Option (List String) := if l = [] then none else some l

/-- The addresses by the names of the resource managers. -/
theorem addressesAt_listed (h : c.Holds w sites) (hvalue : Values sites value)
    (key scheme : String) (ids : List String) : Consults sites (Reports sites) w (do
        match ← c.addressesAt scheme (ids.map fun id => key ++ "." ++ id) with
        | [] => return none
        | found => return some found) (ids.map fun id => key ++ "." ++ id)
      (.ok (listed? (ids.filterMap fun id =>
        (present? (value (key ++ "." ++ id))).map (scheme ++ "://" ++ ·)))) := by
  refine (addressesAt_consults h hvalue scheme _).bind_still fun w' _ => ?_
  rw [List.filterMap_map]
  change Consults sites (Reports sites) w' (match ids.filterMap fun id =>
    (present? (value (key ++ "." ++ id))).map (scheme ++ "://" ++ ·) with
    | [] => pure none
    | found => pure (some found)) [] _
  generalize (ids.filterMap fun id =>
    (present? (value (key ++ "." ++ id))).map (scheme ++ "://" ++ ·)) = found
  cases found <;> exact .pure _

/-- The one address, by its own property or by the name of the host. -/
theorem address_consults (h : c.Holds w sites) (hvalue : Values sites value)
    (scheme key : String) : Consults sites (Reports sites) w (do
        match ← c.addressBy scheme key with
        | some address => return some [address]
        | none => return (← c.addressByHost scheme).map fun address => [address])
      (key :: if (present? (value key)).isSome then [] else hostKeys value)
      (.ok (listed? (match present? (value key) with
        | some host => [scheme ++ "://" ++ host]
        | none => ((present? (value "yarn.resourcemanager.hostname")).map fun host =>
            scheme ++ "://" ++ host ++ ":" ++ (addressRule (isSecure value)).2.2).toList))) := by
  refine (addressBy_consults h hvalue scheme key).bind fun w₁ h₁ => ?_
  cases present? (value key) with
  | some host => exact .pure _
  | none =>
    have hhost := (addressByHost_consults (h.of_onlyReads h₁) hvalue scheme).bind_pure
      (Option.map fun address => [address])
    revert hhost
    cases present? (value "yarn.resourcemanager.hostname") <;> exact id

/-- The properties in the order in which they are consulted for the addresses. The policy can be
among them twice. -/
def consultedKeys (value : String → Option String) : List String :=
  "yarn.http.policy" :: (idKeys value ++
    match managerIds? value with
    | some ids => ids.map fun id => addressKey value ++ "." ++ id
    | none => addressKey value ::
      if (present? (value (addressKey value))).isSome then [] else hostKeys value)

theorem mem_consultedKeys (value : String → Option String) (key : String) :
    key ∈ consultedKeys value ↔ key ∈ addressKeys value := by
  unfold consultedKeys addressKeys hostKeys
  cases managerIds? value with
  | some ids => rfl
  | none =>
    cases (present? (value (addressKey value))).isSome with
    | true => rfl
    | false =>
      cases (present? (value "yarn.resourcemanager.hostname")).isSome with
      | true =>
        simp only [Bool.false_eq_true, if_false, if_true, List.mem_cons, List.mem_append]
        tauto
      | false => rfl

/-- The addresses that are found are those that the values say, and no list of them is empty. -/
theorem addresses_consults (h : c.Holds w sites) (hvalue : Values sites value) :
    Consults sites (Reports sites) w c.addresses (addressKeys value)
      (.ok (listed? (siteAddresses value))) := by
  refine Consults.congr_keys ?looks (mem_consultedKeys value)
  have hlocated : ∀ host, (if isSecure value then "https" else "http") ++ "://" ++ host =
      located value host := by
    intro host
    unfold located
    cases isSecure value <;> rfl
  have hport : ∀ host, located value host ++ ":" ++ (if isSecure value then "8090" else "8088") =
      located value (withUsualPort value host) := by
    intro host
    unfold located withUsualPort
    cases isSecure value <;> simp [String.append_assoc]
  refine (isSecureOnly_consults h hvalue).bind fun w₁ h₁ => ?_
  rw [addressRule_isSecure]
  refine (standbyIds_consults (h.of_onlyReads h₁) hvalue).bind fun w₂ h₂ => ?_
  have hholds := h.of_onlyReads (h₁.trans h₂)
  unfold siteAddresses
  cases managerIds? value with
  | some ids =>
    have hfound := addressesAt_listed hholds hvalue (addressKey value)
      (if isSecure value then "https" else "http") ids
    simp only [hlocated] at hfound
    exact hfound
  | none =>
    dsimp only
    have hfound := address_consults hholds hvalue (if isSecure value then "https" else "http")
      (addressKey value)
    rw [addressRule_isSecure] at hfound
    simp only [hlocated, hport] at hfound
    revert hfound
    cases present? (value (addressKey value)) with
    | some host => exact id
    | none => cases present? (value "yarn.resourcemanager.hostname") <;> exact id

/-- How callers prove who they are by the environment, if it says so. -/
def authenticationWord (w : World) : String :=
  Text.lower (((w.environment.find? (·.1 == "HADOOP_AUTH")).map (·.2)).getD "")

/-- The properties that are consulted for how callers prove who they are. -/
def authenticationKeys (w : World) : List String :=
  if authenticationWord w == "kerberos" || authenticationWord w == "simple" then []
  else ["hadoop.security.authentication"]

/-- Whether callers prove who they are by Kerberos: the environment says so, or it says neither this
nor the simple way, and the site files say so. -/
def saysKerberos (w : World) (value : String → Option String) : Bool :=
  authenticationWord w == "kerberos" || (authenticationWord w != "kerberos" &&
    authenticationWord w != "simple" &&
    (value "hadoop.security.authentication").map Text.lower == some "kerberos")

theorem usesKerberos_eq (c : SiteConfiguration) (w : World) : c.usesKerberos w =
    (if authenticationWord w == "kerberos" || authenticationWord w == "simple" then
      pure (authenticationWord w == "kerberos")
    else c.isAvailable >>= fun available => if !available then pure false else do
      match ← c.get? "hadoop.security.authentication" with
      | none | some "" => return false
      | some s => return Text.lower s == "kerberos" : Run Bool) w := by
  have hvariable : Run.variableOrEmpty "HADOOP_AUTH" w =
      (.ok (((w.environment.find? (·.1 == "HADOOP_AUTH")).map (·.2)).getD ""), w) := rfl
  unfold usesKerberos
  rw [Run.bind_of_ok hvariable]
  rfl

/-- The site files say how callers prove who they are. -/
theorem says_consults (h : c.Holds w sites) (hvalue : Values sites value) :
    Consults sites (Reports sites) w (do
      match ← c.get? "hadoop.security.authentication" with
      | none | some "" => return false
      | some s => return Text.lower s == "kerberos") ["hadoop.security.authentication"]
      (.ok ((value "hadoop.security.authentication").map Text.lower == some "kerberos")) := by
  refine (get?_consults h hvalue "hadoop.security.authentication").bind_still fun w' _ => ?_
  cases value "hadoop.security.authentication" with
  | none => exact .pure false
  | some s =>
    by_cases hset : s = ""
    · subst hset
      exact .pure false
    · simp only
      exact .pure _

theorem usesKerberos_consults (h : c.Finds w sites) (hvalue : Values sites value) :
    Consults sites (Reports sites) w c.usesKerberos (authenticationKeys w)
      (.ok (saysKerberos w value)) := by
  unfold Consults
  rw [usesKerberos_eq]
  unfold saysKerberos authenticationKeys
  cases hword : authenticationWord w == "kerberos" || authenticationWord w == "simple" with
  | true =>
    have hsaid : (authenticationWord w == "kerberos" || (authenticationWord w != "kerberos" &&
        authenticationWord w != "simple" &&
        (value "hadoop.security.authentication").map Text.lower == some "kerberos")) =
        (authenticationWord w == "kerberos") := by
      rcases Bool.or_eq_true_iff.mp hword with h | h <;> rw [eq_of_beq h] <;> rfl
    rw [hsaid]
    exact Consults.pure _
  | false =>
    obtain ⟨hnot, hnot'⟩ := Bool.or_eq_false_iff.mp hword
    simp only [hnot, bne, hnot', Bool.not_false, Bool.true_and, Bool.false_or]
    cases h with
    | missing hmissing =>
      rw [hvalue.eq_none]
      exact ⟨_, _, Run.bind_of_ok hmissing, .refl w, .settled fun key _ => not_circles_nil key⟩
    | held h =>
      obtain ⟨directory, -, havailable, -⟩ := h.exists_directory
      obtain ⟨r, w', hr, hends⟩ := says_consults h hvalue
      exact ⟨r, w', (Run.bind_of_ok havailable).trans hr, hends⟩

/-! ### No site files -/

theorem exists_directory_of_available {b : Bool} (h : c.isAvailable w = (.ok b, w)) :
    ∃ directory, ∀ u : World, u.environment = w.environment →
      c.directory u = (.ok directory, u) := by
  obtain ⟨r, hr⟩ := c.directory_eq w.environment
  cases r with
  | error f =>
    unfold isAvailable at h
    rw [Run.bind_of_error (hr w rfl)] at h
    cases h
  | ok directory => exact ⟨directory, hr⟩

theorem isAvailable_of_onlyReads {b : Bool} (h : c.isAvailable w = (.ok b, w))
    (honly : w.OnlyReads w') : c.isAvailable w' = (.ok b, w') := by
  obtain ⟨directory, hdirectory⟩ := exists_directory_of_available h
  have hsame : w'.environment = w.environment := by rw [honly.same]
  unfold isAvailable at *
  rw [Run.bind_of_ok (hdirectory w rfl), Run.get_bind] at h
  rw [Run.bind_of_ok (hdirectory w' hsame), Run.get_bind, honly.files]
  obtain ⟨hb, -⟩ := Prod.mk.inj h
  exact Prod.ext hb rfl

theorem Finds.of_onlyReads (h : c.Finds w sites) (honly : w.OnlyReads w') : c.Finds w' sites := by
  cases h with
  | missing h => exact .missing (isAvailable_of_onlyReads h honly)
  | held h => exact .held (h.of_onlyReads honly)

/-- Without site files there are no addresses, and asking for them fails. -/
theorem addresses_of_missing (h : c.isAvailable w = (.ok false, w)) :
    ∃ directory, c.addresses w = (.error (Reason.siteFilesMissing directory).failure, w) := by
  obtain ⟨directory, hdirectory⟩ := exists_directory_of_available h
  have hpolicy : c.get? "yarn.http.policy" none w =
      (.error (Reason.siteFilesMissing directory).failure, w) := by
    unfold get?
    rw [Run.bind_of_ok (hdirectory w rfl), Run.get_bind]
    unfold chainLimit resolve
    simp only [List.contains_nil, Bool.false_eq_true, if_false]
    rw [Run.bind_of_ok (hdirectory w rfl), Run.bind_of_ok h]
    rfl
  exact ⟨directory, Run.bind_of_error (Run.bind_of_error hpolicy)⟩

theorem siteAddresses_of_missing (hvalue : Values [] value) : siteAddresses value = [] := by
  simp [siteAddresses, managerIds?, hasStandby, hvalue.eq_none, present?]

theorem authenticationWord_of_onlyReads (honly : w.OnlyReads w') :
    authenticationWord w' = authenticationWord w := by
  rw [honly.same]
  rfl

end Reading
end SiteConfiguration
end ClusterSubmission
