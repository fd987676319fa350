import ClusterSubmission.Negotiator.Connection
import ClusterSubmission.Proofs.SettingsRoundTrip
import ClusterSubmission.Proofs.SiteAddresses

/-!
# Connecting as the settings say

A negotiator that is made from settings talks to the address and proves who the caller is in the way
that the settings say, and else in the way that the environment and the site files say. Where these
do not say an address, or lead to a cycle, there is none. Apart from this the only failures are
those of an address that is none, and of a record on a console that shows the most detailed ones.
-/
namespace ClusterSubmission

open SiteConfiguration

def AuthHandler.isKerberos : AuthHandler → Bool
  | .kerberos _ => true
  | .simple _ => false

namespace Settings

variable (s : Settings) (w : World) (value : String → Option String)

/-- The address that counts: the one of the settings, or else the first one of the site files. -/
def chosenAddress? : Option String :=
  if s.address.isSet then some s.address.plain else (siteAddresses value).head?

/-- Whether Kerberos counts: by the settings, or else by the environment and the site files. -/
def choosesKerberos : Bool :=
  match s.auth with
  | .text method => method == "kerberos"
  | _ => saysKerberos w value

/-- The user of simple authentication: the one of the settings, or else the default of the world. -/
def chosenUser : Value := if s.user.isSet then s.user else .text w.defaultUser

/-- The properties that are consulted for what the settings leave open. -/
def openKeys : List String :=
  (if s.address.isSet then [] else addressKeys value) ++
  (if s.auth.isSet ∨ s.chosenAddress? value = none then [] else authenticationKeys w)

/-- The records on the way to a negotiator: of the definitions that are found, of an address of the
site files, and of the user where simple authentication counts. -/
inductive Reports (sites : List Site.Properties) : String → Prop
  | definition {m : String} (h : SiteConfiguration.Reports sites m) : Reports sites m
  | address {address : String} (hset : s.address.isSet = false)
      (h : (siteAddresses value).head? = some address) :
    Reports sites ("Using ResourceManager address '" ++ address ++ "' from Hadoop configuration")
  | user (hsimple : s.choosesKerberos w value = false) : Reports sites
    ("Using simple HTTP authentication with username '" ++ (s.chosenUser w).plain ++ "'")

/-- How making a negotiator from settings ends. -/
inductive Connects (sites : List Site.Properties) :
    Except Failure RestNegotiator → World → Prop
  | connected {address : String} {base : Value} {n : RestNegotiator} {auth : AuthHandler}
      {w' : World}
      (hkeys : ∀ key ∈ s.openKeys w value, ¬ Circles sites key)
      (haddress : s.chosenAddress? value = some address)
      (hbase : Url.joinValues (.text address) (.text ResourceManager.root) = .ok base)
      (hmanager : n.manager.address = base.plain)
      (hsession : (w'.session n.manager.session).auth = some auth)
      (hauth : auth.isKerberos = s.choosesKerberos w value) : Connects sites (.ok n) w'
  | noAddress {f : Failure} {w' : World} (hkeys : ∀ key ∈ s.openKeys w value, ¬ Circles sites key)
      (haddress : s.chosenAddress? value = none) (hkind : f.kind = .configuration) :
    Connects sites (.error f) w'
  | cycle {key name : String} {w' : World} (hkey : key ∈ s.openKeys w value)
      (hcircles : Circles sites key) :
    Connects sites (.error (Reason.interpolationCycle name).failure) w'
  | unjoined {address : String} {e : Reason} {w' : World}
      (hkeys : ∀ key ∈ s.openKeys w value, ¬ Circles sites key)
      (haddress : s.chosenAddress? value = some address)
      (hbase : Url.joinValues (.text address) (.text ResourceManager.root) = .error e) :
    Connects sites (.error e.failure) w'
  | record {m : String} {r : Reason} {w' : World} (hsaid : s.Reports w value sites m)
      (hfails : Log.renderMarkup ("[bold]" ++ libraryName ++ "[/] - " ++ m) = .error r)
      (hlogged : w.isLogged libraryName debugLevel = true) : Connects sites (.error r.failure) w'

variable {s w value} {sites : List Site.Properties}

/-- Settings with values of their types: the address is a text or left open, and so is the way in
which callers prove who they are. -/
theorem cases_of_typed
    (h : ∀ e ∈ Message.Model.settings.fields.zip s.values, e.1.shape.Takes e.2) :
    (s.address = .null ∨ ∃ a, s.address = .text a) ∧
    (s.auth = .null ∨ s.auth = .text "simple" ∨ s.auth = .text "kerberos") := by
  have haddress : Message.Shape.optionalText.Takes s.address :=
    h _ (List.mem_cons_self ..)
  have hauth : (Message.Shape.optionalChoice ["simple", "kerberos"]).Takes s.auth :=
    h _ (List.mem_cons_of_mem _ (List.mem_cons_self ..))
  constructor
  · rcases haddress with haddress | ⟨es, hshape, -⟩
    · generalize s.address = v at haddress
      cases haddress with
      | optionalText a => exact .inr ⟨a, rfl⟩
      | noText => exact .inl rfl
    · cases hshape
  · rcases hauth with hauth | ⟨es, hshape, -⟩
    · generalize s.auth = v at hauth
      cases hauth with
      | optionalChoice hname =>
        rcases List.mem_pair.mp hname with rfl | rfl
        · exact .inr (.inl rfl)
        · exact .inr (.inr rfl)
      | noChoice => exact .inl rfl
    · cases hshape

/-- The address is the one that counts, or there is none and the search for it fails. -/
theorem address_consults (haddress : s.address = .null ∨ ∃ a, s.address = .text a)
    (h : Finds {} w sites) (hvalue : Values sites value) :
    ∃ o, Consults sites (s.Reports w value sites) w (resourceManagerAddress s {})
      (if s.address.isSet then [] else addressKeys value) o ∧
      match s.chosenAddress? value with
      | some address => o = .ok (.text address)
      | none => ∃ f, o = .error f ∧ f.kind = .configuration := by
  unfold resourceManagerAddress chosenAddress?
  cases hset : s.address.isSet with
  | true =>
    rcases haddress with hnull | ⟨a, ha⟩
    · rw [hnull] at hset
      cases hset
    · rw [ha]
      exact ⟨_, .pure _, rfl⟩
  | false =>
    simp only [Bool.false_eq_true, if_false]
    cases h with
    | missing hmissing =>
      obtain ⟨directory, hnone⟩ := addresses_of_missing hmissing
      rw [siteAddresses_of_missing hvalue]
      exact ⟨_, ⟨_, w, Run.bind_of_error hnone, .refl w, .settled fun key _ => not_circles_nil key⟩,
        _, rfl, rfl⟩
    | held h =>
      have hfound := (addresses_consults h hvalue).mono fun m hm =>
        (Reports.definition hm : s.Reports w value sites m)
      cases hlist : siteAddresses value with
      | nil =>
        rw [hlist] at hfound
        exact ⟨_, hfound.bind_still fun w' _ => .fail .addressMissing, _, rfl, rfl⟩
      | cons address rest =>
        rw [hlist] at hfound
        refine ⟨_, hfound.bind_still fun w' _ => ?_, rfl⟩
        have hsaid : s.Reports w value sites
            ("Using ResourceManager address '" ++ address ++ "' from Hadoop configuration") :=
          .address hset (by rw [hlist, List.head?_cons])
        exact (Consults.debug hsaid).bind_still fun w' _ => .pure (Value.text address)

theorem method_consults
    (hauth : s.auth = .null ∨ s.auth = .text "simple" ∨ s.auth = .text "kerberos")
    (h : Finds {} w sites) (hvalue : Values sites value) :
    Consults sites (SiteConfiguration.Reports sites) w (authenticationMethod s {})
      (if s.auth.isSet then [] else authenticationKeys w)
      (.ok (.text (if s.choosesKerberos w value then "kerberos" else "simple"))) := by
  unfold authenticationMethod choosesKerberos
  rcases hauth with hauth | hauth | hauth <;> rw [hauth]
  · exact (usesKerberos_consults h hvalue).bind_pure fun kerberos =>
      Value.text (if kerberos then "kerberos" else "simple")
  · exact .pure _
  · exact .pure _

/-- The handler of simple authentication is for the user that counts. -/
theorem simpleHandler_eq (s : Settings) (w : World) : simpleHandler s.user w = (do
    Run.debug ("Using simple HTTP authentication with username '" ++ (s.chosenUser w).plain ++ "'")
    return AuthHandler.simple (s.chosenUser w)) w := by
  unfold simpleHandler chosenUser
  cases s.user.isSet with
  | true => rfl
  | false =>
    simp only [Bool.false_eq_true, if_false, pure_bind, bind_pure_comp]
    unfold defaultUser
    rw [map_eq_pure_bind, bind_assoc, Run.get_bind]
    rfl

/-- A handler is set up for the method. The record of the user can fail. -/
theorem handler_consults {w₁ : World} (honly : w.OnlyReads w₁) :
    ∃ auth : AuthHandler, auth.isKerberos = s.choosesKerberos w value ∧
      Consults sites (s.Reports w value sites) w₁ (makeAuthHandler
        (.text (if s.choosesKerberos w value then "kerberos" else "simple")) s.user []) []
        (.ok auth) := by
  cases hchosen : s.choosesKerberos w value with
  | true =>
    have hline : Log.ClosesNothing "Kerberos authentication handler set up".toList :=
      Log.closesNothing_of_notMem (by decide)
    refine ⟨.kerberos {}, rfl, ?_⟩
    exact (Consults.still (Run.debug_of_closesNothing hline w₁)).bind_still fun w' _ => .still rfl
  | false =>
    have hsimple : makeAuthHandler (.text "simple") s.user [] = simpleHandler s.user := rfl
    have huser : s.chosenUser w₁ = s.chosenUser w := by
      rw [chosenUser, honly.same]
      rfl
    have hrecord : Consults sites (s.Reports w value sites) w₁ (do
        Run.debug
          ("Using simple HTTP authentication with username '" ++ (s.chosenUser w).plain ++ "'")
        return AuthHandler.simple (s.chosenUser w)) [] (.ok (.simple (s.chosenUser w))) :=
      (Consults.debug (.user hchosen)).bind_still fun _ _ => .pure _
    refine ⟨.simple (s.chosenUser w), rfl, ?_⟩
    rw [if_neg Bool.false_ne_true, hsimple]
    obtain ⟨r, w', hr, hends⟩ := hrecord
    exact ⟨r, w', by rw [simpleHandler_eq, huser, hr], hends⟩

/-- The address and the method are found before anything is set up. -/
theorem chosen_consults
    (htyped : ∀ e ∈ Message.Model.settings.fields.zip s.values, e.1.shape.Takes e.2)
    (h : Finds {} w sites) (hvalue : Values sites value) :
    ∃ o : Except Failure (Value × Value), Consults sites (s.Reports w value sites) w (do
        let address ← resourceManagerAddress s {}
        let method ← authenticationMethod s {}
        return (address, method)) (s.openKeys w value) o ∧
      match s.chosenAddress? value with
      | some address => o = .ok (.text address,
          .text (if s.choosesKerberos w value then "kerberos" else "simple"))
      | none => ∃ f, o = .error f ∧ f.kind = .configuration := by
  obtain ⟨haddress, hauth⟩ := cases_of_typed htyped
  obtain ⟨o, hfound, ho⟩ := address_consults haddress h hvalue
  unfold openKeys
  cases hchosen : s.chosenAddress? value with
  | none =>
    rw [hchosen] at ho
    obtain ⟨f, rfl, hf⟩ := ho
    simp only [or_true, if_true, List.append_nil]
    exact ⟨_, hfound.bind_error, f, rfl, hf⟩
  | some address =>
    rw [hchosen] at ho
    subst ho
    refine ⟨_, hfound.bind fun w₁ h₁ => ?_, rfl⟩
    have hmethod := method_consults (w := w₁) hauth (h.of_onlyReads h₁) hvalue
    unfold choosesKerberos authenticationKeys saysKerberos at *
    rw [authenticationWord_of_onlyReads h₁] at hmethod
    simp only [reduceCtorEq, or_false]
    exact (hmethod.mono fun m hm => .definition hm).bind_pure fun method =>
      (Value.text address, method)

/-- What is done with the address and the method. -/
def connectTo (s : Settings) (chosen : Value × Value) : Run RestNegotiator := do
  let auth ← makeAuthHandler chosen.2 s.user []
  let manager ← ResourceManager.connect chosen.1 (some auth) s.timeout s.verify s.proxies
  return { manager, renewer := s.renewer }

theorem ofSettings_eq (s : Settings) : RestNegotiator.ofSettings s = (do
    let address ← resourceManagerAddress s {}
    let method ← authenticationMethod s {}
    return (address, method)) >>= s.connectTo := by
  simp only [bind_assoc, pure_bind]
  rfl

/-- A session is opened with the address, if this is one, and with the handler. -/
theorem connect_cases (address : Value) (auth : AuthHandler) (timeout verify proxies : Value)
    (w : World) :
    (∃ e, Url.joinValues address (.text ResourceManager.root) = .error e ∧
      ResourceManager.connect address (some auth) timeout verify proxies w =
        (.error e.failure, w)) ∨
    ∃ base manager w', Url.joinValues address (.text ResourceManager.root) = .ok base ∧
      ResourceManager.connect address (some auth) timeout verify proxies w = (.ok manager, w') ∧
      manager.address = base.plain ∧ (w'.session manager.session).auth = some auth := by
  unfold ResourceManager.connect
  cases Url.joinValues address (.text ResourceManager.root) with
  | error e => exact .inl ⟨e, rfl, rfl⟩
  | ok base =>
    refine .inr ⟨base, _, _, rfl, rfl, rfl, ?_⟩
    simp [World.session]

theorem connects (htyped : ∀ e ∈ Message.Model.settings.fields.zip s.values, e.1.shape.Takes e.2)
    (h : Finds {} w sites) (hvalue : Values sites value) :
    ∃ r w', RestNegotiator.ofSettings s w = (r, w') ∧ s.Connects w value sites r w' := by
  obtain ⟨o, ⟨r, w₁, hr, honly, hends⟩, ho⟩ := chosen_consults htyped h hvalue
  rw [ofSettings_eq]
  cases hends with
  | cycle hkey hcircles => exact ⟨_, w₁, Run.bind_of_error hr, .cycle hkey hcircles⟩
  | record hsaid hfails hlogged =>
    exact ⟨_, w₁, Run.bind_of_error hr, .record hsaid hfails hlogged⟩
  | settled hkeys =>
    cases hchosen : s.chosenAddress? value with
    | none =>
      rw [hchosen] at ho
      obtain ⟨f, rfl, hf⟩ := ho
      exact ⟨_, w₁, Run.bind_of_error hr, .noAddress hkeys hchosen hf⟩
    | some address =>
      rw [hchosen] at ho
      subst ho
      rw [Run.bind_of_ok hr]
      obtain ⟨auth, hauth, r, w₂, hhandler, -, hends⟩ :=
        @handler_consults s w value sites w₁ honly
      unfold connectTo
      cases hends with
      | cycle hkey => cases hkey
      | record hsaid hfails hlogged =>
        rw [honly.isLogged] at hlogged
        exact ⟨_, w₂, Run.bind_of_error hhandler, .record hsaid hfails hlogged⟩
      | settled =>
        rw [Run.bind_of_ok hhandler]
        rcases connect_cases (.text address) auth s.timeout s.verify s.proxies w₂ with
          ⟨e, hbase, hfailed⟩ | ⟨base, manager, w₃, hbase, hopened, hmanager, hsession⟩
        · exact ⟨_, w₂, Run.bind_of_error hfailed, .unjoined hkeys hchosen hbase⟩
        · exact ⟨_, w₃, Run.bind_of_ok hopened,
            .connected hkeys hchosen hbase hmanager hsession hauth⟩

end Settings

/-- Making a negotiator from settings ends as the settings, the environment and the site files say;
and the list of addresses, where there is one, is the one that the site files say and not empty. -/
theorem negotiator_of_settings {s : Settings} {w : World} {sites : List Site.Properties}
    (htyped : ∀ e ∈ Message.Model.settings.fields.zip s.values, e.1.shape.Takes e.2)
    (h : SiteConfiguration.Finds {} w sites) :
    ∃ value, Values sites value ∧
      (∃ r w', RestNegotiator.ofSettings s w = (r, w') ∧ s.Connects w value sites r w') ∧
      (SiteConfiguration.Holds {} w sites → Consults sites (SiteConfiguration.Reports sites) w
        (SiteConfiguration.addresses {}) (addressKeys value)
        (.ok (listed? (siteAddresses value)))) := by
  obtain ⟨value, hvalue⟩ := exists_values h
  exact ⟨value, hvalue, Settings.connects htyped h hvalue, fun h => addresses_consults h hvalue⟩

section Samples

/-- A site file with nothing but the host of the resource manager. -/
def hostText : String :=
  "<c><property><name>yarn.resourcemanager.hostname</name><value>rm</value></property></c>"

def hostSite : Site.Properties := [(some "yarn.resourcemanager.hostname", some "rm")]

def hostWorld : World :=
  { sampleWorld hostText with environment := [("HADOOP_CONF_DIR", "conf")] }

theorem holds_host : SiteConfiguration.Holds {} hostWorld [hostSite] := by
  obtain ⟨⟨directory, hdirectory, his, hsites⟩, hnonempty, hkeeps⟩ :
      sample.Holds hostWorld [hostSite] := sample_holds rfl rfl (by decide +kernel)
  cases hdirectory
  exact ⟨⟨"conf", rfl, his, hsites⟩, hnonempty, hkeeps⟩

/-- What the settings leave open is taken from the site files: the host with the usual port. -/
theorem negotiator_of_settings_host : ∃ n auth w',
    RestNegotiator.ofSettings (Settings.sampleFor "ann") hostWorld = (.ok n, w') ∧
    n.manager.address = "http://rm:8088/ws/v1/cluster/" ∧
    (w'.session n.manager.session).auth = some auth ∧ auth.isKerberos = false := by
  obtain ⟨value, hvalue, ⟨r, w', hr, hends⟩, -⟩ := negotiator_of_settings
    (Settings.isTyped_sampleFor "ann").takes (.held holds_host)
  have hnone : ∀ key, plainValue? [hostSite] key = none → ¬ Circles [hostSite] key ∧
      value key = none := fun key h =>
    ⟨(IsValue.none h).not_circles, (hvalue key (IsValue.none h).not_circles).unique (.none h)⟩
  have hhost : IsValue [hostSite] "yarn.resourcemanager.hostname" (some "rm") :=
    .of_plain rfl (by decide)
  have hpresent : present? (value "yarn.resourcemanager.hostname") = some "rm" := by
    rw [(hvalue _ hhost.not_circles).unique hhost]
    rfl
  obtain ⟨hpolicy, hplain⟩ := hnone "yarn.http.policy" rfl
  obtain ⟨hstandby, hsingle⟩ := hnone "yarn.resourcemanager.ha.enabled" rfl
  obtain ⟨haddress, hunknown⟩ := hnone "yarn.resourcemanager.webapp.address" rfl
  obtain ⟨hmethod, hsimple⟩ := hnone "hadoop.security.authentication" rfl
  have hinsecure : isSecure value = false := by simp [isSecure, hplain]
  have halone : hasStandby value = false := by simp [hasStandby, hsingle]
  have hids : managerIds? value = none := by simp [managerIds?, halone]
  have hkey : addressKey value = "yarn.resourcemanager.webapp.address" := by
    simp [addressKey, hinsecure]
  have hempty : present? (value "yarn.resourcemanager.webapp.address") = none := by
    rw [hunknown]
    rfl
  have hchosen : (Settings.sampleFor "ann").chosenAddress? value = some "http://rm:8088" := by
    simp [Settings.chosenAddress?, Settings.sampleFor, Value.isSet, siteAddresses, hids, hkey,
      hempty, hpresent, located, withUsualPort, hinsecure]
  have hword : authenticationWord hostWorld = "" := by decide +kernel
  have hopen : (Settings.sampleFor "ann").openKeys hostWorld value = ["yarn.http.policy",
      "yarn.resourcemanager.ha.enabled", "yarn.resourcemanager.webapp.address",
      "yarn.resourcemanager.hostname", "hadoop.security.authentication"] := by
    simp only [Settings.openKeys, hchosen, addressKeys, idKeys, halone, hids, hkey, hempty,
      authenticationKeys, hword]
    rfl
  have hkeys : ∀ key ∈ (Settings.sampleFor "ann").openKeys hostWorld value,
      ¬ Circles [hostSite] key := by
    rw [hopen]
    simp only [List.forall_mem_cons]
    refine ⟨hpolicy, hstandby, haddress, hhost.not_circles, hmethod, ?_⟩
    simp
  have hjoined : Url.joinValues (.text "http://rm:8088") (.text ResourceManager.root) =
      .ok (.text "http://rm:8088/ws/v1/cluster/") := rfl
  cases hends with
  | connected _ haddress hbase hmanager hsession hauth =>
    cases hchosen.symm.trans haddress
    cases hjoined.symm.trans hbase
    refine ⟨_, _, w', hr, hmanager, hsession, hauth.trans ?_⟩
    simp [Settings.choosesKerberos, Settings.sampleFor, saysKerberos, hword, hsimple]
  | noAddress _ haddress => cases hchosen.symm.trans haddress
  | cycle hkey hcircles => exact absurd hcircles (hkeys _ hkey)
  | unjoined _ haddress hbase =>
    cases hchosen.symm.trans haddress
    cases hjoined.symm.trans hbase
  | record _ _ hlogged => exact absurd hlogged (by decide +kernel)

/-- Where all records are shown, the user's name alone can keep a negotiator from being made. -/
theorem negotiator_fails_at_debug : ∃ (s : Settings) (w : World) (base : Value) (f : Failure)
    (w' : World), (∀ e ∈ Message.Model.settings.fields.zip s.values, e.1.shape.Takes e.2) ∧
    SiteConfiguration.Finds {} w [] ∧ s.address = .text "http://rm:8088" ∧
    Url.joinValues s.address (.text ResourceManager.root) = .ok base ∧
    RestNegotiator.ofSettings s w = (.error f, w') ∧ f.kind = .markup := by
  let s : Settings := { Settings.sampleFor "[/x]" with address := .text "http://rm:8088" }
  let w : World := { loggers := Settings.shownLoggers }
  have htyped : ∀ e ∈ Message.Model.settings.fields.zip s.values, e.1.shape.Takes e.2 := by
    intro e he
    rcases List.mem_cons.mp he with rfl | he
    · exact .inl (.optionalText _)
    · exact (Settings.isTyped_sampleFor "[/x]").takes e (List.mem_cons_of_mem _ he)
  obtain ⟨f, hf, hkind⟩ : ∃ f, (RestNegotiator.ofSettings s w).1 = .error f ∧
      (f.kind == .markup) = true := exists_of_failsWith (by decide +kernel)
  exact ⟨s, w, _, f, _, htyped, .missing rfl, rfl, rfl, Prod.ext hf rfl, eq_of_beq hkind⟩

end Samples

end ClusterSubmission
