import AuthGateway.Proofs.Pipeline.Refusal
import AuthGateway.Proofs.Settings.Load

/-!
# Where redirects lead

Where the settings redirect whom they turn away, every rejection has one `Location`, and it is the
redirect URL (`Pipeline.location_of_rejects`).  A URL that is empty is refused at startup where
tokens are asked for.  It is not where only a group is required: then every request is turned away,
and led nowhere (`Pipeline.rejects_of_disabled`).  So redirects lead somewhere except in this
one case (`Pipeline.leadsSomewhere_iff`).
-/

namespace AuthGateway

namespace Pipeline

variable {s : Settings} {supplied : Collaborators} {around : Surroundings} {p : Pipeline}
  {c : Conditions} {r : Request} {reason : RejectionReason} {status : RedirectStatus}

/-- A rejection that redirects leads to the redirect URL. -/
theorem location_of_rejects (hbuild : (build s supplied around).2 = .ok p)
    (hstyle : s.token.rejectionStyle = .redirect status) (h : p.Rejects c r reason) (app : App) :
    ∃ response, (p.serve app c r).outcome = .answered response ∧ response.status = status.code
      ∧ response.headers.all "location" = [s.token.redirectUrl] := by
  obtain ⟨answer, hanswer, houtcome⟩ := outcome_of_rejects hbuild h app
  have hplain := Startup.isRejection_of_responder hanswer
  refine ⟨_, houtcome, ?_, ?_⟩
  · rw [Destination.status_finish, Settings.dressed_eq.1, hplain.status, hstyle]
    rfl
  · -- dressing an answer does not touch where it leads
    rw [Destination.all_finish (by decide), Settings.all_dressed (by decide) (by decide)]
    exact (hplain.redirect status hstyle).1

/-- A path that is not scraped. -/
def unscrapedPath (s : Settings) : String :=
  if s.prometheus.path = "/" then "/a" else "/"

/-- Where a group is required and no tokens are asked for, every client is turned away. -/
theorem rejects_of_disabled (hbuild : (build s supplied around).2 = .ok p)
    (henabled : s.token.enabled = false) (hgroup : s.token.requiredGroup ≠ "") (c : Conditions) :
    p.Rejects c (submission (unscrapedPath s)) .noToken := by
  refine (rejects_iff hbuild rfl).2
    ⟨Settings.not_answersOutside (fun _ => ?_) (by simp [submission]), .undecided henabled hgroup⟩
  show unscrapedPath s ≠ s.prometheus.path
  unfold unscrapedPath
  split_ifs with hroot
  · rw [hroot]
    decide
  · exact fun hpath => hroot hpath.symm

/-- Whether every client whom a pipeline turns away is told a place to go to. -/
def LeadsSomewhere (p : Pipeline) : Prop :=
  ∀ (app : App) (c : Conditions) (r : Request) (reason : RejectionReason), r.context = none →
    p.Rejects c r reason → ∃ response location, (p.serve app c r).outcome = .answered response
      ∧ response.headers.all "location" = [location] ∧ location ≠ ""

/-- Where the settings redirect whom they turn away, rejections lead to the redirect URL.  That is
somewhere, except where a group is required, no tokens are asked for and the URL is empty. -/
theorem leadsSomewhere_iff {env : Environment} {s : Settings} {supplied : Collaborators}
    {around : Surroundings} {p : Pipeline} (hload : Settings.load env = .ok s)
    (hbuild : (build s supplied around).2 = .ok p) {status : RedirectStatus}
    (hstyle : s.token.rejectionStyle = .redirect status) :
    (∀ (app : App) (c : Conditions) (r : Request) (reason : RejectionReason),
      p.Rejects c r reason → ∃ response, (p.serve app c r).outcome = .answered response
        ∧ response.status = status.code
        ∧ response.headers.all "location" = [s.token.redirectUrl])
      ∧ (p.LeadsSomewhere ↔ ¬ (s.token.enabled = false ∧ s.token.requiredGroup ≠ ""
        ∧ s.token.redirectUrl = "")) := by
  refine ⟨fun app c r reason h => location_of_rejects hbuild hstyle h app, ?_, ?_⟩
  · rintro hleads ⟨henabled, hgroup, hurl⟩
    have hrejects := rejects_of_disabled hbuild henabled hgroup ⟨0, ⟨0, 0⟩, .empty []⟩
    obtain ⟨response, location, houtcome, hlocation, hne⟩ :=
      hleads Service.app _ _ _ rfl hrejects
    obtain ⟨response', houtcome', -, hlocation'⟩ :=
      location_of_rejects hbuild hstyle hrejects Service.app
    obtain rfl := Outcome.answered.inj (houtcome.symm.trans houtcome')
    rw [hlocation, hurl] at hlocation'
    exact hne (List.head_eq_of_cons_eq hlocation')
  · intro hcovered app c r reason hcontext hrejects
    obtain ⟨response, houtcome, -, hlocation⟩ := location_of_rejects hbuild hstyle hrejects app
    refine ⟨response, s.token.redirectUrl, houtcome, hlocation, ?_⟩
    cases henabled : s.token.enabled with
    | true =>
      have hchecked := Settings.tokensChecked_of_load hload
      exact hchecked.redirectUrl henabled (by simp [hstyle])
    | false =>
      -- then it was the group gate that turned the request away
      have hturns := ((rejects_iff hbuild hcontext).1 hrejects).2
      obtain ⟨hgroup, -⟩ := (turnsAway_iff_of_disabled henabled).1 hturns
      exact fun hurl => hcovered ⟨henabled, hgroup, hurl⟩

/-- By default whoever comes without a token is led to the login page. -/
theorem leadsSomewhere_login :
    ∃ s p response, Settings.load tokenVariables = .ok s
      ∧ (build s .none bareSurroundings).2 = .ok p
      ∧ s.token.rejectionStyle = .redirect .temporary ∧ p.LeadsSomewhere
      ∧ p.Rejects ⟨1000, ⟨0, 0⟩, .empty []⟩ (callerRequest "GET" []) .noToken
      ∧ (p.serve Service.app ⟨1000, ⟨0, 0⟩, .empty []⟩ (callerRequest "GET" [])).outcome
        = .answered response
      ∧ response.headers.all "location" = ["http://localhost:18000/login"] := by
  obtain ⟨s, hs, henabled, hstyle, hurl, hopen, hprometheus, habsent⟩ :
      ∃ s, Settings.load tokenVariables = .ok s ∧ s.token.enabled = true
        ∧ s.token.rejectionStyle = .redirect .temporary
        ∧ s.token.redirectUrl = "http://localhost:18000/login"
        ∧ s.isOpen (callerRequest "GET" []) = false ∧ s.prometheus.enabled = false
        ∧ Extraction.ofHeaders [] s.token.cookieName = .absent :=
    ⟨_, rfl, rfl, rfl, rfl, rfl, rfl, rfl⟩
  obtain ⟨p, hp⟩ := exists_build_tokenVariables hs
  obtain ⟨hlocation, hleads⟩ := leadsSomewhere_iff hs hp hstyle
  have houtside : ¬ s.AnswersOutside (callerRequest "GET" []) :=
    Settings.not_answersOutside (by simp [hprometheus]) (by decide)
  have hrejects : p.Rejects ⟨1000, ⟨0, 0⟩, .empty []⟩ (callerRequest "GET" []) .noToken :=
    (rejects_iff hp rfl).2 ⟨houtside, .absent henabled hopen habsent⟩
  obtain ⟨response, houtcome, -, hurl'⟩ := hlocation Service.app _ _ _ hrejects
  refine ⟨s, p, response, hs, hp, hstyle, hleads.2 ?_, hrejects, houtcome, by rw [hurl', hurl]⟩
  rintro ⟨hdisabled, -, -⟩
  rw [henabled] at hdisabled
  exact absurd hdisabled (by decide)

/-- Variables that require a group, ask for no tokens, and name no place to go to. -/
def groupVariables : Environment := fun name =>
  if name = "JWT_AUTH_REQUIRE_GROUP_CLAIM" then some "ops"
  else if name = "JWT_AUTH_NO_TOKEN_REDIRECT_URL" then some ""
  else none

/-- Not every redirect has somewhere to go: with these variables a caller is told an empty
place. -/
theorem redirect_leads_nowhere :
    ∃ s p response, Settings.load groupVariables = .ok s
      ∧ (build s .none bareSurroundings).2 = .ok p
      ∧ s.token.rejectionStyle = .redirect .temporary
      ∧ p.Rejects ⟨1000, ⟨0, 0⟩, .empty []⟩ (callerRequest "GET" []) .noToken
      ∧ (p.serve Service.app ⟨1000, ⟨0, 0⟩, .empty []⟩ (callerRequest "GET" [])).outcome
        = .answered response
      ∧ response.status = 307 ∧ response.headers.all "location" = [""] := by
  obtain ⟨s, p, hs, hp, hstyle, hurl, henabled, hgroup, hprometheus⟩ :
      ∃ s p, Settings.load groupVariables = .ok s ∧ (build s .none bareSurroundings).2 = .ok p
        ∧ s.token.rejectionStyle = .redirect .temporary ∧ s.token.redirectUrl = ""
        ∧ s.token.enabled = false ∧ s.token.requiredGroup = "ops"
        ∧ s.prometheus.enabled = false :=
    ⟨_, _, rfl, rfl, rfl, rfl, rfl, rfl, rfl⟩
  have houtside : ¬ s.AnswersOutside (callerRequest "GET" []) :=
    Settings.not_answersOutside (by simp [hprometheus]) (by decide)
  have hrejects : p.Rejects ⟨1000, ⟨0, 0⟩, .empty []⟩ (callerRequest "GET" []) .noToken := by
    refine (rejects_iff hp rfl).2 ⟨houtside, .undecided henabled ?_⟩
    rw [hgroup]
    decide
  obtain ⟨response, houtcome, hstatus, hlocation⟩ :=
    location_of_rejects hp hstyle hrejects Service.app
  exact ⟨s, p, response, hs, hp, hstyle, hrejects, houtcome, hstatus, by rw [hlocation, hurl]⟩

end Pipeline

end AuthGateway
