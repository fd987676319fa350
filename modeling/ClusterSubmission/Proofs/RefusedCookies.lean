import ClusterSubmission.Proofs.RequestOutcomes

/-!
# What becomes of a refused cookie

A refusal does not touch the cookies that are kept. So a cookie that the server no longer takes is
sent again with every request of its session to its base, in place of the session's own
authentication, until the session is forgotten or is granted another cookie.
-/
namespace ClusterSubmission

namespace Visit

variable {v : Visit} {id : Nat} {url : String} {plan : RequestPlan} {q : Request}

theorem cachedCookie?_of_forgets (h : v.Forgets id) (url : String) :
    v.after.cachedCookie? id url = none := by
  rw [cachedCookie?_forget h, if_pos rfl]

/-- A call that neither forgets a session nor grants it a cookie for a base leaves the kept one. -/
theorem cachedCookie?_of_quiet (hforgets : ¬ v.Forgets id) (hgrants : ∀ d, ¬ v.Grants id url d) :
    v.after.cachedCookie? id url = v.before.cachedCookie? id url := by
  ext c
  rw [cachedCookie?_after]
  simp [hforgets, hgrants]

/-- A request whose answer is refused does not return, if it raises for its status. -/
theorem Sends.not_returned {a : Response} (h : v.Sends id url plan q)
    (hraise : plan.raiseForStatus.isSet = true)
    (ha : (v.before.server v.before.history q).outcome = .ok a)
    (hrefused : 400 ≤ a.status ∧ a.status < 600) : ¬ v.Returned := by
  intro hv
  obtain ⟨r, hr, hreturned⟩ := exists_requested h.1
  obtain ⟨b, rfl⟩ := hreturned.mp hv
  rcases makeRequest_ends rfl hr with ⟨f, hf, -⟩ | ⟨target, -, q₁, hq₁, -, hends⟩
  · cases hf
  cases h.2.symm.trans hq₁
  rcases hends with ⟨a', f, -, hf, -⟩ | hclass
  · cases hf
  cases hclass with
  | returned b hb hs =>
    cases ha.symm.trans hb
    have := hs hraise
    omega

/-- A cookie that is carried is the one that is kept. -/
theorem Sends.cachedCookie?_eq {c : String} (h : v.Sends id url plan q)
    (hc : q.cookies = ["hadoop.auth=" ++ c]) : v.before.cachedCookie? id url = some c := by
  rw [h.cookies_eq.1] at hc
  cases hkept : v.before.cachedCookie? id url with
  | none =>
    rw [hkept] at hc
    cases hc
  | some d =>
    rw [hkept] at hc
    simpa using hc

end Visit

theorem leads_concat {vs : List Visit} {v : Visit} {w : World} (h : Leads (vs ++ [v]) w) :
    Leads vs v.before ∧ w.cookieCache = v.after.cookieCache := by
  generalize hl : vs ++ [v] = l at h
  cases h with
  | start h => simp at hl
  | call u h hkept =>
    obtain ⟨rfl, hu⟩ := List.append_inj' hl rfl
    cases hu
    exact ⟨h, hkept⟩

/-- After calls that grant a session nothing for a base, what was kept before them is still kept,
unless one of them forgot the session. -/
theorem Leads.cachedCookie?_later {vs later : List Visit} {v : Visit} {w : World} {id : Nat}
    {url : String} (h : Leads (vs ++ v :: later) w)
    (hgrants : ∀ u ∈ later, ∀ d, ¬ u.Grants id url d) :
    ((∃ u ∈ later, u.Forgets id) → w.cachedCookie? id url = none) ∧
      ((∀ u ∈ later, ¬ u.Forgets id) →
        w.cachedCookie? id url = v.after.cachedCookie? id url) := by
  induction later using List.reverseRecOn generalizing w with
  | nil =>
    have hkept : w.cachedCookie? id url = v.after.cachedCookie? id url :=
      World.cachedCookie?_congr (leads_concat h).2 id url
    constructor
    · rintro ⟨u, hu, -⟩
      cases hu
    · intro _
      exact hkept
  | append_singleton later u ih =>
    rw [← List.cons_append, ← List.append_assoc] at h
    obtain ⟨hbefore, hkept⟩ := leads_concat h
    have hearlier : ∀ x ∈ later, ∀ d, ¬ x.Grants id url d := by
      intro x hx
      exact hgrants x (by simp [hx])
    obtain ⟨hforgotten, hstill⟩ := ih hbefore hearlier
    rw [World.cachedCookie?_congr hkept]
    by_cases hu : u.Forgets id
    · rw [Visit.cachedCookie?_of_forgets hu]
      exact ⟨fun _ => rfl, fun hnone => absurd hu (hnone u (by simp))⟩
    · rw [Visit.cachedCookie?_of_quiet hu (hgrants u (by simp))]
      constructor
      · rintro ⟨x, hx, hforgets⟩
        rcases List.mem_append.mp hx with hx | hx
        · exact hforgotten ⟨x, hx, hforgets⟩
        · rw [List.mem_singleton.mp hx] at hforgets
          exact absurd hforgets hu
      · intro hnone
        apply hstill
        intro x hx
        exact hnone x (by simp [hx])

/-- A request of a session is answered with status 401, though it carries a cookie. -/
def Visit.IsRefused (v : Visit) (id : Nat) (url : String) (plan : RequestPlan) (c : String) :
    Prop :=
  ∃ q a, v.Sends id url plan q ∧ q.cookies = ["hadoop.auth=" ++ c] ∧
    (v.before.server v.before.history q).outcome = .ok a ∧ a.status = 401

/-- A refusal takes no kept cookie away. Only a request that does not raise for its status may put
another cookie in its place, the one in the jar of its session. -/
theorem Visit.IsRefused.cachedCookie?_after {v : Visit} {id : Nat} {url : String}
    {plan : RequestPlan} {c : String} (h : v.IsRefused id url plan c) :
    ∃ d, v.after.cachedCookie? id url = some d ∧
      (v.Grants id url d ∧ plan.raiseForStatus.isSet = false ∨
        d = c ∧ ∀ e, ¬ v.Grants id url e) := by
  obtain ⟨q, a, hsends, hc, ha, hstatus⟩ := h
  have hkept := hsends.cachedCookie?_eq hc
  by_cases hgrants : ∃ d, v.Grants id url d
  · obtain ⟨d, hd⟩ := hgrants
    refine ⟨d, (v.cachedCookie?_after id url d).mpr (Or.inl hd), Or.inl ⟨hd, ?_⟩⟩
    by_contra hraise
    exact hsends.not_returned (by simpa using hraise) ha (by omega) hd.2.1
  · have hnone := not_exists.mp hgrants
    refine ⟨c, (cachedCookie?_request hsends.1 id url c).mpr (Or.inr ⟨hnone, hkept⟩), ?_⟩
    exact Or.inr ⟨rfl, hnone⟩

/-- While a session is not granted another cookie, a refused one is sent again with each of its
requests to the base, in place of its own authentication, which is in effect only after the session
was forgotten. Where the refused request did not raise for its status, it may itself have put the
cookie from the jar of the session in the place of the one that was refused. -/
theorem refused_cookie_kept {vs later : List Visit} {v next : Visit} {id : Nat} {url c : String}
    {plan plan' : RequestPlan} {q : Request} (h : Leads (vs ++ v :: later) next.before)
    (hrefused : v.IsRefused id url plan c) (hlater : ∀ u ∈ later, ∀ d, ¬ u.Grants id url d)
    (hnext : next.Sends id url plan' q) :
    ((∃ u ∈ later, u.Forgets id) →
        q.cookies = [] ∧ q.auth = (next.before.session id).auth) ∧
      ((∀ u ∈ later, ¬ u.Forgets id) → q.auth = none ∧
        ∃ d, q.cookies = ["hadoop.auth=" ++ d] ∧
          (v.Grants id url d ∧ plan.raiseForStatus.isSet = false ∨
            d = c ∧ ∀ e, ¬ v.Grants id url e)) := by
  obtain ⟨hcookies, hauth⟩ := hnext.cookies_eq
  obtain ⟨hforgotten, hstill⟩ := h.cachedCookie?_later hlater
  constructor
  · intro hforgets
    rw [hforgotten hforgets] at hcookies hauth
    exact ⟨hcookies, hauth⟩
  · intro hnone
    obtain ⟨d, hd, hwhich⟩ := hrefused.cachedCookie?_after
    rw [hstill hnone, hd] at hcookies hauth
    exact ⟨hauth, d, hcookies, hwhich⟩

/-- A call to a server that grants a cookie once and takes none. -/
def Visit.expiring : Visit where
  call := Visit.granted.call
  before := {
    sessions := [{ auth := some (.simple (.text "alice")) }]
    server := fun sent _ =>
      if sent.isEmpty then ⟨[("hadoop.auth", some "t")], .ok ⟨200, .text "OK", []⟩⟩
      else ⟨[], .ok ⟨401, .text "Unauthorized", []⟩⟩ }

theorem Visit.expiring_isRefused : ∃ plan,
    expiring.again.IsRefused 0 "http://rm:8088/ws/v1/cluster/" plan "t" :=
  ⟨_, _, _, ⟨rfl, rfl⟩, rfl, rfl, rfl⟩

/-- The same call, after the session was refused and forgotten. -/
def Visit.afresh : Visit := ⟨Visit.granted.call, Visit.expiring.again.forgetting.after⟩

theorem refused_cookie_kept_afresh : ∃ plan q,
    Visit.afresh.Sends 0 "http://rm:8088/ws/v1/cluster/" plan q ∧ q.cookies = [] ∧
      q.auth = some (.simple (.text "alice")) := by
  obtain ⟨plan, hrefused⟩ := Visit.expiring_isRefused
  have hleads : Leads ([Visit.expiring] ++ Visit.expiring.again ::
      [Visit.expiring.again.forgetting]) Visit.afresh.before :=
    .call _ (.call _ (.call _ (.start rfl) rfl) rfl) rfl
  have hlater : ∀ u ∈ [Visit.expiring.again.forgetting], ∀ d,
      ¬ u.Grants 0 "http://rm:8088/ws/v1/cluster/" d := by
    intro u hu d hd
    rw [List.mem_singleton.mp hu] at hd
    obtain ⟨⟨p, hp⟩, -⟩ := hd
    cases hp
  obtain ⟨plan', q, hsends⟩ : ∃ plan q,
      Visit.afresh.Sends 0 "http://rm:8088/ws/v1/cluster/" plan q := ⟨_, _, rfl, rfl⟩
  obtain ⟨hcookies, hauth⟩ := (refused_cookie_kept hleads hrefused hlater hsends).1
    ⟨_, List.mem_singleton_self _, rfl⟩
  exact ⟨plan', q, hsends, hcookies, hauth⟩

/-- The request right after the refusal carries the refused cookie, and not the authentication of
its session. -/
theorem refused_cookie_reused :
    (∃ plan, Visit.expiring.again.IsRefused 0 "http://rm:8088/ws/v1/cluster/" plan "t") ∧
      ∃ plan q, Visit.expiring.again.again.Sends 0 "http://rm:8088/ws/v1/cluster/" plan q ∧
        q.cookies = ["hadoop.auth=t"] ∧ q.auth = none ∧
        (Visit.expiring.again.again.before.session 0).auth = some (.simple (.text "alice")) :=
  ⟨Visit.expiring_isRefused, _, _, ⟨rfl, rfl⟩, rfl, rfl, rfl⟩

end ClusterSubmission
