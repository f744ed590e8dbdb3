import AuthGateway.Proofs.Pipeline.Refusal
import AuthGateway.Proofs.Pipeline.WebPrefix

/-!
# Which routes the rules open

A route below a web prefix sees its path without the prefix, and the rules of the whitelist are
written for such paths.  The token gate takes the prefix off on its own.  For a prefix without
captures the two paths are the same, so the gate lets in whatever the rules match of what the route
sees.  There are two exceptions (`Mount.IsPlain.strip_path`).  At the prefix itself the route sees
the root, but the gate is left with an empty path, which no rule matches
(`Whitelist.admits_ofRules_nil`).  Of two slashes behind the prefix the route sees one, but the gate
is left with both.  This is `Pipeline.opensRoute_iff`.
-/

namespace AuthGateway

namespace Pipeline

variable {s : Settings} {supplied : Collaborators} {around : Surroundings} {p : Pipeline}
  {c : Conditions} {r : Request} {g : TokenGate}

/-- The token gate is the one that the settings ask for. -/
theorem tokenGate_of_mem (hbuild : (build s supplied around).2 = .ok p) (hg : .auth g ∈ p.gates) :
    ∃ answer, Startup.responder s.token = .ok answer
      ∧ g = Startup.tokenGate s (Startup.judgeOf s.token supplied) answer := by
  obtain ⟨stage, -, hgate⟩ := Startup.exists_gateStep_of_mem (gatesStep_of_build hbuild) hg
  obtain rfl : Stage.auth = stage := Startup.stage_of_gateStep hgate
  obtain ⟨answer, hanswer, heq⟩ := Startup.auth_of_gateStep hgate
  exact ⟨answer, hanswer, Gate.auth.inj heq⟩

/-- There is a token gate where tokens are asked for. -/
theorem exists_auth_mem (hbuild : (build s supplied around).2 = .ok p)
    (henabled : s.token.enabled = true) : ∃ g, .auth g ∈ p.gates := by
  have hstages := Startup.stages_of_gatesStep (gatesStep_of_build hbuild)
  have hauth : Stage.auth ∈ p.gates.map Gate.stage := by
    rw [hstages]
    exact List.mem_filter.2 ⟨by decide, henabled⟩
  obtain ⟨gate, hgate, hstage⟩ := List.mem_map.1 hauth
  cases gate with
  | auth g => exact ⟨g, hgate⟩
  | recovery | compression | verboseLogging | statsd | prometheus | apm | cors | groupClaim | static
  | profiling | stripPrefix => exact absurd hstage (by simp [Gate.stage])

/-- Whether the token gate lets a request in as whitelisted, without a look at any token. -/
def LetsInOpenly (s : Settings) (g : TokenGate) (c : Conditions) (r : Request) : Prop :=
  (Gate.auth g).enter c r = (.forward (r.withContext ⟨s.token.userProperty, .whitelisted⟩), [])

/-- The token gate lets in as whitelisted what the rules match once the prefix is taken off as a
text. -/
theorem letsInOpenly_iff (hbuild : (build s supplied around).2 = .ok p) (hg : .auth g ∈ p.gates) :
    LetsInOpenly s g c r ↔ s.isOpen r = true := by
  obtain ⟨answer, -, rfl⟩ := tokenGate_of_mem hbuild hg
  constructor
  · intro h
    cases hdecide : ((Startup.tokenGate s (Startup.judgeOf s.token supplied) answer).decide
        c.now r).1 with
    | error reason =>
      have hsettled := Gate.enter_auth_of_error hdecide
      rw [h] at hsettled
      exact absurd hsettled (by simp)
    | ok context =>
      have hforward := Gate.enter_auth_of_ok hdecide
      rw [h] at hforward
      have hcontext : some ⟨s.token.userProperty, .whitelisted⟩ = some context :=
        congrArg Request.context (Passage.forward.inj hforward)
      rcases TokenGate.decide_eq_ok_iff.1 hdecide with ⟨hopen, -⟩ | ⟨-, _, _, -, -, rfl⟩
      · exact hopen
      · exact absurd (RequestContext.mk.inj (Option.some.inj hcontext)).2 (by simp)
  · intro hopen
    have hopen' : (Startup.tokenGate s (Startup.judgeOf s.token supplied) answer).isOpen r.path
        = true := hopen
    unfold LetsInOpenly
    rw [Gate.enter, TokenGate.decide, if_pos hopen']
    rfl

/-- A path that is led to a route below a prefix without captures is looked at as the route sees it,
unless it is the prefix itself, where the route sees the root, or has two slashes behind the prefix,
of which the route sees one. -/
theorem strip_path_of_destination (hweb : Settings.isWebPrefix s.webPrefix = true)
    (hbuild : (build s supplied around).2 = .ok p) (hcolon : ':' ∉ s.webPrefix.toList)
    (hstar : '*' ∉ s.webPrefix.toList) {app : App} (happ : app.IsRooted) {route : Route}
    (hroute : p.destination app r = .route route) :
    (r.path = s.webPrefix ∧ (Mount.strip s.webPrefix r.uri).path = "/")
      ∨ (Mount.IsDoubled s.webPrefix r.path
        ∧ effectivePath s.webPrefix.toList r.path.toList
          = '/' :: (Mount.strip s.webPrefix r.uri).path.toList)
      ∨ (¬ Mount.IsDoubled s.webPrefix r.path
        ∧ effectivePath s.webPrefix.toList r.path.toList
          = (Mount.strip s.webPrefix r.uri).path.toList) := by
  by_cases hne : s.webPrefix = ""
  · right
    right
    rw [hne]
    exact ⟨fun htwo => htwo.1 rfl, rfl⟩
  · have hstart := Settings.head?_of_isWebPrefix hweb hne
    obtain ⟨more, hadmits⟩ := exists_admits_of_destination hbuild happ hstart hroute
    exact (Mount.isPlain_of_not_mem hcolon hstar).strip_path hstart hadmits

/-- Below a web prefix without captures, a request that is led to a route whose path the rules match
is let in as whitelisted, with two exceptions.  For the prefix itself it is not, though the route
sees the root.  With two slashes behind the prefix, of which the route sees one, it is let in if the
rules match the path with both. -/
theorem opensRoute_iff {env : Environment} {s : Settings} {supplied : Collaborators}
    {around : Surroundings} {p : Pipeline} (hload : Settings.load env = .ok s)
    (henabled : s.token.enabled = true) (hcolon : ':' ∉ s.webPrefix.toList)
    (hstar : '*' ∉ s.webPrefix.toList) (hbuild : (build s supplied around).2 = .ok p)
    {app : App} (happ : app.IsRooted) {r : Request} {route : Route}
    (hroute : p.destination app r = .route route)
    (hmatches : (Whitelist.ofSettings s.token).admits
      (Mount.strip s.webPrefix r.uri).path.toList = true) :
    (∃ g, .auth g ∈ p.gates)
      ∧ (∀ g, .auth g ∈ p.gates → ∀ c, LetsInOpenly s g c r ↔ r.path ≠ s.webPrefix
        ∧ (Mount.IsDoubled s.webPrefix r.path → (Whitelist.ofSettings s.token).admits
          ('/' :: (Mount.strip s.webPrefix r.uri).path.toList) = true))
      ∧ (r.path = s.webPrefix → (Mount.strip s.webPrefix r.uri).path = "/")
      ∧ ∀ c seen, arriving c p.gates r = some seen → seen.uri = Mount.strip s.webPrefix r.uri := by
  have hweb := Settings.isWebPrefix_of_load hload
  have hclosed : (Whitelist.ofSettings s.token).admits [] = false :=
    Whitelist.admits_ofRules_nil _ _
  have hself (heq : r.path = s.webPrefix) :
      effectivePath s.webPrefix.toList r.path.toList = [] := by
    rw [heq, Mount.effectivePath_self]
  obtain ⟨hopen, hroot⟩ : (s.isOpen r = true ↔ r.path ≠ s.webPrefix
        ∧ (Mount.IsDoubled s.webPrefix r.path → (Whitelist.ofSettings s.token).admits
          ('/' :: (Mount.strip s.webPrefix r.uri).path.toList) = true))
      ∧ (r.path = s.webPrefix → (Mount.strip s.webPrefix r.uri).path = "/") := by
    rw [Settings.isOpen]
    rcases strip_path_of_destination hweb hbuild hcolon hstar happ hroute with
      ⟨heq, hroot⟩ | ⟨htwo, hmore⟩ | ⟨hone, hsame⟩
    · rw [hself heq, hclosed]
      exact ⟨⟨fun hopen => absurd hopen (by decide), fun h => absurd heq h.1⟩, fun _ => hroot⟩
    · have hne : r.path ≠ s.webPrefix := fun heq =>
        List.cons_ne_nil _ _ (hmore.symm.trans (hself heq))
      rw [hmore]
      exact ⟨⟨fun hopen => ⟨hne, fun _ => hopen⟩, fun h => h.2 htwo⟩, fun heq => absurd heq hne⟩
    · have hne : r.path ≠ s.webPrefix := by
        intro heq
        rw [← hsame, hself heq, hclosed] at hmatches
        exact absurd hmatches (by decide)
      rw [hsame]
      exact ⟨⟨fun _ => ⟨hne, fun htwo => absurd htwo hone⟩, fun _ => hmatches⟩,
        fun heq => absurd heq hne⟩
  refine ⟨exists_auth_mem hbuild henabled, fun g hg c => ?_, hroot, fun c seen =>
    uri_of_arriving hbuild⟩
  exact (letsInOpenly_iff hbuild hg).trans hopen

/-- Below the prefix `/base`, a path that the rule matches behind the prefix is let in. -/
theorem opensRoute_news :
    ∃ s p g, Settings.load (mountVariables "/base" "/public") = .ok s
      ∧ (build s .none bareSurroundings).2 = .ok p ∧ s.token.enabled = true
      ∧ s.webPrefix = "/base" ∧ (pageApp "/public/news").IsRooted
      ∧ (∃ route, p.destination (pageApp "/public/news") (submission "/base/public/news")
        = .route route)
      ∧ .auth g ∈ p.gates
      ∧ LetsInOpenly s g ⟨1000, ⟨0, 0⟩, .empty []⟩ (submission "/base/public/news") := by
  have hmounted : (Route.mounted "/base" ⟨"/public/news", []⟩).admits "/base/public/news"
      = true := by decide
  have hweb : Settings.isWebPrefix "/base" = true := by decide
  obtain ⟨s, p, hs, hp, hmount, henabled, -, -, hrules⟩ :=
    exists_load_mountVariables hweb "/public"
  obtain ⟨route, hroute⟩ := exists_route_pageApp hmounted
  have hdestination : p.destination (pageApp "/public/news") (submission "/base/public/news")
      = .route route := by
    rw [destination, webPrefix_of_build hp, hmount]
    exact hroute
  have hmatches : (Whitelist.ofSettings s.token).admits
      (Mount.strip s.webPrefix (submission "/base/public/news").uri).path.toList = true := by
    rw [hrules, hmount]
    decide
  obtain ⟨⟨g, hg⟩, hopens, -⟩ := opensRoute_iff hs henabled (by rw [hmount]; decide)
    (by rw [hmount]; decide) hp (isRooted_pageApp rfl) hdestination hmatches
  refine ⟨s, p, g, hs, hp, henabled, hmount, isRooted_pageApp rfl, ⟨route, hdestination⟩, hg, ?_⟩
  have hpath : (submission "/base/public/news").path.toList
      = "/base".toList ++ "/public/news".toList := rfl
  rw [hopens g hg, hmount, Mount.isDoubled_iff (by decide) hpath]
  exact ⟨by decide, fun htwo => absurd htwo (by simp)⟩

/-- An application with nothing but a root. -/
def rootApp : App where
  routes := [.get "/" Service.me]
  fallback := none

/-- A request for the prefix itself. -/
def mountRequest : Request :=
  ⟨"GET", .relative "/edge" none, [], [], none⟩

/-- Not every route that the rules match is open: the root below `/edge` is not, though the one rule
matches the root. -/
theorem root_stays_closed :
    ∃ s p route response, Settings.load (mountVariables "/edge" "/") = .ok s
      ∧ (build s .none bareSurroundings).2 = .ok p ∧ s.token.enabled = true
      ∧ s.webPrefix = "/edge" ∧ rootApp.IsRooted
      ∧ p.destination rootApp mountRequest = .route route
      ∧ (Mount.strip s.webPrefix mountRequest.uri).path = "/"
      ∧ (Whitelist.ofSettings s.token).admits
        (Mount.strip s.webPrefix mountRequest.uri).path.toList = true
      ∧ p.Rejects ⟨1000, ⟨0, 0⟩, .empty []⟩ mountRequest .noToken
      ∧ (p.serve rootApp ⟨1000, ⟨0, 0⟩, .empty []⟩ mountRequest).outcome = .answered response
      ∧ response.status = 307 := by
  obtain ⟨s, p, response, hs, hp, henabled, hmount, hprometheus, hopen, habsent, hmatches,
      houtcome, hstatus⟩ :
      ∃ s p response, Settings.load (mountVariables "/edge" "/") = .ok s
        ∧ (build s .none bareSurroundings).2 = .ok p ∧ s.token.enabled = true
        ∧ s.webPrefix = "/edge" ∧ s.prometheus.enabled = false
        ∧ s.isOpen mountRequest = false
        ∧ Extraction.ofHeaders mountRequest.headers s.token.cookieName = .absent
        ∧ (Whitelist.ofSettings s.token).admits ['/'] = true
        ∧ (p.serve rootApp ⟨1000, ⟨0, 0⟩, .empty []⟩ mountRequest).outcome = .answered response
        ∧ response.status = 307 :=
    ⟨_, _, _, rfl, rfl, rfl, rfl, rfl, by decide, rfl, by decide, rfl, rfl⟩
  obtain ⟨route, hroute⟩ : ∃ route, rootApp.destination "/edge" "/edge" = .route route := ⟨_, rfl⟩
  have hdestination : p.destination rootApp mountRequest = .route route := by
    rw [destination, webPrefix_of_build hp, hmount]
    exact hroute
  have hstrip : Mount.strip "/edge" mountRequest.uri = .relative "/" none := by decide
  have hrejects : p.Rejects ⟨1000, ⟨0, 0⟩, .empty []⟩ mountRequest .noToken :=
    (rejects_iff hp rfl).2 ⟨Settings.not_answersOutside (by simp [hprometheus]) (by decide),
      .absent henabled hopen habsent⟩
  refine ⟨s, p, route, response, hs, hp, henabled, hmount, ?_, hdestination, ?_, ?_, hrejects,
    houtcome, hstatus⟩
  · intro route hroute
    rw [List.mem_singleton.1 hroute]
    rfl
  · rw [hmount, hstrip]
    rfl
  · rw [hmount, hstrip]
    exact hmatches

end Pipeline

end AuthGateway
