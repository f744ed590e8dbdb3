import AuthGateway.Proofs.Pipeline.Admission
import AuthGateway.Proofs.Routing.Evasion
import AuthGateway.Proofs.Settings.Load
import Mathlib.Tactic.FinCases

/-!
# What routes see of whitelisted requests below a web prefix

The token gate takes the web prefix off as a text, and the router takes it off as a pattern.  What
arrives at the application has lost it in the router's way (`Pipeline.uri_of_arriving`).  A prefix
guards what lies below it when a request that was let in as whitelisted is only led to routes that
see a path which the rules match as well (`Pipeline.Guards`).  Plain prefixes do, as both ways leave
the same there (`Pipeline.guards_of_isPlain`), but for paths with two slashes behind the prefix, of
which the router leaves one.  Below any other prefix there is a path that evades the rules, and one
rule and one route are enough to be led past them (`Pipeline.isBypassed_of_isEvasion`).  So the
plain prefixes are the ones that guard (`Pipeline.guards_webPrefix`), and `/:t` is not one of them.
-/

namespace AuthGateway

namespace Pipeline

variable {s : Settings} {supplied : Collaborators} {around : Surroundings} {p : Pipeline}

/-! ### Taking off the prefix -/

/-- The gate that takes off the web prefix is the last one, and the only one of its kind. -/
theorem gates_of_build_mounted (hbuild : (build s supplied around).2 = .ok p)
    (hne : s.webPrefix ≠ "") :
    ∃ front, p.gates = front ++ [.stripPrefix s.webPrefix]
      ∧ ∀ g ∈ front, g.stage ≠ .stripPrefix := by
  have hstages : Stage.all = Stage.all.dropLast ++ [.stripPrefix] := rfl
  have hgates := gatesStep_of_build hbuild
  rw [Settings.stages, hstages, List.filter_append,
    List.filter_cons_of_pos (show Stage.isEnabled s .stripPrefix = true from bne_iff_ne.2 hne)]
    at hgates
  obtain ⟨front, back, hfront, hback, hp⟩ := Startup.gatesStep_append_eq_ok.1 hgates
  obtain rfl : [.stripPrefix s.webPrefix] = back := Except.ok.inj hback
  refine ⟨front, hp, fun g hg heq => ?_⟩
  have hmem := Startup.stage_mem_of_enabled hfront hg
  rw [heq] at hmem
  exact absurd hmem (by decide)

/-- What arrives at the application has lost the web prefix, if there is one. -/
theorem uri_of_arriving (hbuild : (build s supplied around).2 = .ok p) {c : Conditions}
    {r r' : Request} (hr : arriving c p.gates r = some r') :
    r'.uri = Mount.strip s.webPrefix r.uri := by
  by_cases hne : s.webPrefix = ""
  · have hgates : ∀ g ∈ p.gates, g.stage ≠ .stripPrefix := by
      intro g hg heq
      have hmem := Startup.stage_mem_of_gatesStep (gatesStep_of_build hbuild) hg
      have henabled := (List.mem_filter.1 hmem).2
      rw [heq, Stage.isEnabled, hne] at henabled
      exact absurd henabled (by decide)
    obtain ⟨context, rfl⟩ := exists_context_of_arriving hgates hr
    rw [hne]
    rfl
  · obtain ⟨front, hp, hfront⟩ := gates_of_build_mounted hbuild hne
    rw [hp, arriving_append] at hr
    obtain ⟨r₀, hr₀, hlast⟩ := Option.bind_eq_some_iff.1 hr
    obtain ⟨context, rfl⟩ := exists_context_of_arriving hfront hr₀
    obtain rfl := Option.some.inj hlast
    rfl

/-! ### Plain prefixes -/

/-- A request is let in as whitelisted and led to a route, which sees it as it arrives. -/
structure IsOpenlyRouted (s : Settings) (p : Pipeline) (app : App) (c : Conditions)
    (r seen : Request) : Prop where
  /-- Nobody has decided about the request before. -/
  context : r.context = none
  arrives : arriving c p.gates r = some seen
  whitelisted : seen.context = some ⟨s.token.userProperty, .whitelisted⟩
  routed : ∃ route, p.destination app r = .route route

/-- Whether routes only see paths that the rules in effect match, of requests that are let in as
whitelisted below a web prefix.  Of a path with two slashes behind the prefix, the rules match what
the route sees with one more slash in front. -/
def Guards (webPrefix : String) : Prop :=
  ∀ {env : Environment} {s : Settings} {supplied : Collaborators} {around : Surroundings}
    {p : Pipeline} {app : App} {c : Conditions} {r seen : Request},
    Settings.load env = .ok s → s.webPrefix = webPrefix → s.token.enabled = true →
    (build s supplied around).2 = .ok p → app.IsRooted → IsOpenlyRouted s p app c r seen →
    (¬ Mount.IsDoubled webPrefix r.path →
        (Whitelist.ofSettings s.token).admits seen.path.toList = true)
      ∧ (Mount.IsDoubled webPrefix r.path →
        (Whitelist.ofSettings s.token).admits ('/' :: seen.path.toList) = true)

/-- Whether some variables with a web prefix let a client's request for a path of some kind in as
whitelisted, to a route that sees a path which no rule in effect matches. -/
def IsBypassed (webPrefix : String) (kind : String → Prop) : Prop :=
  ∃ (env : Environment) (s : Settings) (p : Pipeline) (app : App) (c : Conditions)
    (target : String) (r seen : Request),
    Settings.load env = .ok s ∧ s.webPrefix = webPrefix ∧ s.token.enabled = true
      ∧ (build s .none bareSurroundings).2 = .ok p ∧ app.IsRooted
      ∧ Request.ofParts? "POST" target [] [] = some r ∧ kind r.path
      ∧ IsOpenlyRouted s p app c r seen
      ∧ (Whitelist.ofSettings s.token).admits seen.path.toList = false

/-- A request that is let in as whitelisted is for a path that needs no token. -/
theorem IsOpenlyRouted.isOpen {app : App} {c : Conditions} {r seen : Request}
    (h : IsOpenlyRouted s p app c r seen) (hbuild : (build s supplied around).2 = .ok p)
    (henabled : s.token.enabled = true) : s.isOpen r = true := by
  obtain ⟨-, a, hadmits, hcontext⟩ :=
    admits_of_arriving hbuild (Or.inl henabled) c h.context seen (Or.inr h.arrives)
  rw [h.whitelisted] at hcontext
  obtain rfl := (RequestContext.mk.inj (Option.some.inj hcontext)).2
  cases hadmits with
  | whitelisted hopen => exact hopen

/-- The route that a request is led to matches its path, below the web prefix. -/
theorem exists_admits_of_destination (hbuild : (build s supplied around).2 = .ok p) {app : App}
    (happ : app.IsRooted) (hstart : s.webPrefix.toList.head? = some '/') {r : Request}
    {route : Route} (h : p.destination app r = .route route) :
    ∃ more, Pattern.admits (Pattern.ofText s.webPrefix ++ more) r.uri.path = true := by
  rw [destination, webPrefix_of_build hbuild] at h
  have hroute : app.route? s.webPrefix r.path = some route := by
    unfold App.destination at h
    split at h
    · rename_i found hfound
      rw [hfound, Destination.route.inj h]
    · split at h
      · split_ifs at h
      · exact absurd h (by simp)
  obtain ⟨hmem, hadmits⟩ := App.admits_of_route? hroute
  obtain ⟨more, hmore⟩ := Route.exists_mounted hstart (happ route hmem)
  rw [hmore] at hadmits
  exact ⟨more, hadmits⟩

/-- Plain prefixes guard what lies below them. -/
theorem guards_of_isPlain {webPrefix : String} (hne : webPrefix ≠ "")
    (hplain : Mount.IsPlain (Mount.segmentsOf webPrefix)) : Guards webPrefix := by
  intro env s supplied around p app c r seen hload hprefix henabled hbuild happ hrouted
  subst hprefix
  have hstart := Settings.head?_of_isWebPrefix (Settings.isWebPrefix_of_load hload) hne
  obtain ⟨route, hroute⟩ := hrouted.routed
  obtain ⟨more, hadmits⟩ := exists_admits_of_destination hbuild happ hstart hroute
  have hopen := hrouted.isOpen hbuild henabled
  rw [Request.path, Request.path, uri_of_arriving hbuild hrouted.arrives]
  exact hplain.admits_strip hstart hadmits hopen

/-! ### Other prefixes -/

/-- Variables that ask for tokens, with a web prefix and one rule. -/
def mountVariables (webPrefix rule : String) : Environment := fun name =>
  if name = "WEB_PREFIX" then some webPrefix
  else if name = "JWT_AUTH_PREFIX_WHITELIST_PATHS" then some rule
  else if name = "JWT_AUTH_ENABLED" then some "true"
  else none

/-- What these variables say. -/
theorem exists_load_mountVariables {webPrefix : String}
    (hweb : Settings.isWebPrefix webPrefix = true) (rule : String) :
    ∃ s p, Settings.load (mountVariables webPrefix rule) = .ok s
      ∧ (build s .none bareSurroundings).2 = .ok p ∧ s.webPrefix = webPrefix
      ∧ s.token.enabled = true ∧ s.prometheus.enabled = false ∧ s.profilingEnabled = false
      ∧ Whitelist.ofSettings s.token
        = .ofRules ((Environment.readList rule.toList).map String.ofList) [] := by
  -- the texts that are checked while they are read
  have hpath : (mountVariables webPrefix rule).stringOr "PROMETHEUS_PATH" "/metrics" = "/metrics" :=
    rfl
  have hurl : (mountVariables webPrefix rule).stringOr "JWT_AUTH_NO_TOKEN_REDIRECT_URL"
      "http://localhost:18000/login" = "http://localhost:18000/login" := rfl
  have huser : (mountVariables webPrefix rule).stringOr "JWT_AUTH_USER_PROPERTY" "user" = "user" :=
    rfl
  have htag : Settings.signingTag (mountVariables webPrefix rule) = "HS256" := rfl
  have hread : (mountVariables webPrefix rule).stringOr "WEB_PREFIX" "" = webPrefix := rfl
  have hload : ∃ s, Settings.load (mountVariables webPrefix rule) = .ok s ∧ s.webPrefix = webPrefix
      ∧ s.token.enabled = true ∧ s.prometheus.enabled = false ∧ s.profilingEnabled = false
      ∧ Whitelist.ofSettings s.token
        = .ofRules ((Environment.readList rule.toList).map String.ofList) []
      ∧ s.statsd.enabled = false ∧ s.token.signingMethod = .hs256
      ∧ s.token.rejectionStyle = .redirect .temporary
      ∧ s.token.redirectUrl = "http://localhost:18000/login" := by
    unfold Settings.load Settings.loadPrometheus Settings.loadToken
    dsimp only
    rw [hpath, hurl, huser, htag, hread, hweb]
    exact ⟨_, rfl, rfl, rfl, rfl, rfl, rfl, rfl, rfl, rfl, rfl⟩
  obtain ⟨s, hs, hmount, henabled, hprometheus, hprofiling, hrules, hstatsd, hmethod, hstyle,
    hredirect⟩ := hload
  have hanswer : Startup.responder s.token
      = .ok (.redirect .temporary "http://localhost:18000/login") := by
    unfold Startup.responder Responder.ofSettings
    rw [hstyle, hredirect]
    rfl
  obtain ⟨p, hp⟩ : ∃ p, (build s .none bareSurroundings).2 = .ok p :=
    exists_build hmethod hanswer hstatsd hprometheus
  exact ⟨s, p, hs, hp, hmount, henabled, hprometheus, hprofiling, hrules⟩

/-- Without pages about the process, a submission for a path that needs no token arrives at the
application. -/
theorem arriving_submission (hbuild : (build s supplied around).2 = .ok p)
    (henabled : s.token.enabled = true) (hne : s.webPrefix ≠ "")
    (hprometheus : s.prometheus.enabled = false) (hprofiling : s.profilingEnabled = false)
    {path : String} (hopen : s.isOpen (submission path) = true) (c : Conditions) :
    ∃ seen, arriving c p.gates (submission path) = some seen
      ∧ seen.context = some ⟨s.token.userProperty, .whitelisted⟩ := by
  obtain ⟨outer, admission, inner, hp, houter, hadmission, hinner⟩ := gates_of_build hbuild
  have houtside : ¬ s.AnswersOutside (submission path) :=
    Settings.not_answersOutside (by simp [hprometheus]) (by simp [submission])
  have hadmitted := (arriving_admission_iff (c := c) (Or.inl henabled) rfl houter hadmission).2
    ⟨henabled, houtside, .whitelisted, .whitelisted hopen, rfl⟩
  have hstages : Stage.inner.filter (Stage.isEnabled s) = [.static, .stripPrefix] := by
    have hoff : ¬ Stage.isEnabled s .profiling = true := by
      rw [Stage.isEnabled, hprofiling]
      decide
    have hon : Stage.isEnabled s .stripPrefix = true := bne_iff_ne.2 hne
    rw [Stage.inner, List.filter_cons_of_pos (show Stage.isEnabled s .static = true from rfl),
      List.filter_cons_of_neg hoff, List.filter_cons_of_pos hon, List.filter_nil]
  rw [hstages] at hinner
  obtain rfl := Except.ok.inj hinner
  rw [hp, ← List.append_assoc, arriving_append, hadmitted]
  exact ⟨_, rfl, rfl⟩

/-- With these variables, a submission for a path that the rule matches without the prefix is led to
the route there is for it. -/
theorem exists_isOpenlyRouted {webPrefix rule : String}
    (hweb : Settings.isWebPrefix webPrefix = true) (hne : webPrefix ≠ "")
    (hrule : Environment.readList rule.toList = [rule.toList]) (hnonempty : rule ≠ "")
    {path : String}
    (hopen : Text.beginsWith rule.toList (effectivePath webPrefix.toList path.toList) = true)
    {app : App} (hroute : ∃ route, app.destination webPrefix path = .route route) (c : Conditions) :
    ∃ s p seen, Settings.load (mountVariables webPrefix rule) = .ok s
      ∧ (build s .none bareSurroundings).2 = .ok p ∧ s.webPrefix = webPrefix
      ∧ s.token.enabled = true ∧ IsOpenlyRouted s p app c (submission path) seen
      ∧ (Whitelist.ofSettings s.token).admits seen.path.toList
        = Text.beginsWith rule.toList
          (Mount.strip webPrefix (.relative path none)).path.toList := by
  obtain ⟨s, p, hs, hp, hmount, henabled, hprometheus, hprofiling, hrules⟩ :=
    exists_load_mountVariables hweb rule
  have hadmits (text : List Char) :
      (Whitelist.ofSettings s.token).admits text = Text.beginsWith rule.toList text := by
    rw [hrules, hrule]
    simp [Whitelist.ofRules, Whitelist.admits, hnonempty]
  have hopen' : s.isOpen (submission path) = true := by
    rw [Settings.isOpen, hadmits, hmount]
    exact hopen
  have hne' : s.webPrefix ≠ "" := by
    rw [hmount]
    exact hne
  obtain ⟨seen, hseen, hcontext⟩ :=
    arriving_submission hp henabled hne' hprometheus hprofiling hopen' c
  have hrouted : IsOpenlyRouted s p app c (submission path) seen := by
    refine ⟨rfl, hseen, hcontext, ?_⟩
    rw [destination, webPrefix_of_build hp, hmount]
    exact hroute
  refine ⟨s, p, seen, hs, hp, hmount, henabled, hrouted, ?_⟩
  rw [hadmits, Request.path, uri_of_arriving hp hseen, hmount]
  rfl

/-- An application with one route. -/
def pageApp (pattern : String) : App where
  routes := [⟨pattern, [("POST", fun _ => .answered (.empty 200))]⟩]
  fallback := none

theorem isRooted_pageApp {pattern : String} (h : pattern.toList.head? = some '/') :
    (pageApp pattern).IsRooted := by
  intro route hroute
  rw [List.mem_singleton.1 hroute]
  exact h

/-- What the one route matches is led to it. -/
theorem exists_route_pageApp {pattern webPrefix path : String}
    (h : (Route.mounted webPrefix ⟨pattern, []⟩).admits path = true) :
    ∃ route, (pageApp pattern).destination webPrefix path = .route route := by
  have hcandidates : ((pageApp pattern).routes.filter fun r => (r.mounted webPrefix).admits path)
      = (pageApp pattern).routes :=
    List.filter_eq_self.2 fun r hr => by
      rw [List.mem_singleton.1 hr]
      exact h
  unfold App.destination App.route?
  rw [hcandidates]
  exact ⟨_, rfl⟩

/-- Below a prefix that can be evaded, a route sees a path that no rule matches. -/
theorem isBypassed_of_isEvasion {webPrefix : String}
    (hweb : Settings.isWebPrefix webPrefix = true) (hne : webPrefix ≠ "") {pattern : String}
    (hpattern : pattern.toList.head? = some '/') (hroot : pattern ≠ "/") {path rule : List Char}
    (h : Mount.IsEvasion webPrefix pattern path rule) {kind : String → Prop}
    (hkind : kind (String.ofList path)) : IsBypassed webPrefix kind := by
  have hstart := Settings.head?_of_isWebPrefix hweb hne
  have hmounted : (Route.mounted webPrefix ⟨pattern, []⟩).admits (String.ofList path) = true := by
    unfold Route.mounted
    rw [if_neg fun hself => hroot hself.1, Mount.ofText_append hstart hpattern]
    exact h.matched
  have hrules : Environment.readList (String.ofList rule).toList
      = [(String.ofList rule).toList] := by
    rw [String.toList_ofList]
    exact h.rules
  have hnonempty : String.ofList rule ≠ "" := by
    intro hempty
    exact h.nonempty (String.ofList_eq_empty_iff.1 hempty)
  have hopened : Text.beginsWith (String.ofList rule).toList
      (effectivePath webPrefix.toList (String.ofList path).toList) = true := by
    rw [String.toList_ofList, String.toList_ofList]
    exact h.opened
  have hclient : Request.ofParts? "POST" (String.ofList path) [] []
      = some (submission (String.ofList path)) := by
    unfold Request.ofParts?
    rw [h.target]
    rfl
  obtain ⟨s, p, seen, hs, hp, hmount, henabled, hrouted, hseen⟩ :=
    exists_isOpenlyRouted hweb hne hrules hnonempty hopened (exists_route_pageApp hmounted)
      ⟨0, ⟨0, 0⟩, .empty []⟩
  refine ⟨_, s, p, _, _, _, _, seen, hs, hmount, henabled, hp, isRooted_pageApp hpattern, hclient,
    hkind, hrouted, ?_⟩
  rw [hseen, String.toList_ofList]
  exact h.seen

/-! ### All prefixes -/

/-- Below a plain web prefix, routes only see paths that the rules in effect match, of requests that
are let in as whitelisted, unless there are two slashes behind the prefix.  Every other prefix that
a router takes, and that requests and rules can spell, is a way past the rules; and so are two
slashes behind any prefix. -/
theorem guards_webPrefix {webPrefix : String} (hweb : Settings.isWebPrefix webPrefix = true)
    (hne : webPrefix ≠ "") :
    (Mount.IsPlain (Mount.segmentsOf webPrefix) → Guards webPrefix)
      ∧ (Mount.IsSpellable webPrefix → ¬ Mount.IsPlain (Mount.segmentsOf webPrefix) →
        IsBypassed webPrefix fun path => ¬ Mount.IsDoubled webPrefix path)
      ∧ (Mount.IsSpellable webPrefix → IsBypassed webPrefix (Mount.IsDoubled webPrefix)) := by
  have hstart := Settings.head?_of_isWebPrefix hweb hne
  refine ⟨guards_of_isPlain hne, fun hspell hplain => ?_, fun hspell => ?_⟩
  · obtain ⟨path, rule, hevasion, hone⟩ := Mount.exists_isEvasion hstart hspell hplain
    exact isBypassed_of_isEvasion hweb hne rfl (by decide) hevasion hone
  · obtain ⟨path, rule, hevasion, htwo⟩ := Mount.isEvasion_doubled hstart hspell
    exact isBypassed_of_isEvasion hweb hne rfl (by decide) hevasion htwo

/-- Below the prefix `/base`, a path that begins with a rule behind the prefix is let in, and the
route sees it without the prefix; there is a way past the rules below the prefix `/:t`, and with two
slashes behind `/base`. -/
theorem guards_base :
    ∃ s p seen, Settings.load (mountVariables "/base" "/public") = .ok s
      ∧ (build s .none bareSurroundings).2 = .ok p ∧ s.webPrefix = "/base"
      ∧ IsOpenlyRouted s p (pageApp "/public/news") ⟨1000, ⟨0, 0⟩, .empty []⟩
        (submission "/base/public/news") seen
      ∧ (Whitelist.ofSettings s.token).admits seen.path.toList = true
      ∧ IsBypassed "/:t" (fun path => ¬ Mount.IsDoubled "/:t" path)
      ∧ IsBypassed "/base" (Mount.IsDoubled "/base") := by
  have hweb : Settings.isWebPrefix "/base" = true := by decide
  have hopen : Text.beginsWith "/public".toList
      (effectivePath "/base".toList "/base/public/news".toList) = true := by decide
  have hmatches : (Route.mounted "/base" ⟨"/public/news", []⟩).admits "/base/public/news"
      = true := by decide
  obtain ⟨s, p, seen, hs, hp, hmount, henabled, hrouted, -⟩ :=
    exists_isOpenlyRouted hweb (by decide) (by decide) (by decide) hopen
      (exists_route_pageApp hmatches) ⟨1000, ⟨0, 0⟩, .empty []⟩
  have hplain : Mount.IsPlain (Mount.segmentsOf "/base") := ⟨by decide, by decide, by decide⟩
  have hspell : Mount.IsSpellable "/base" := by
    refine ⟨fun c hc => ?_, by decide, by decide⟩
    fin_cases hc <;> decide
  have hspell' : Mount.IsSpellable "/:t" := by
    refine ⟨fun c hc => ?_, by decide, by decide⟩
    fin_cases hc <;> decide
  have hcapture : ¬ Mount.IsPlain (Mount.segmentsOf "/:t") :=
    fun h => h.head [':', 't'] (by decide) rfl
  have hone : ¬ Mount.IsDoubled "/base" (submission "/base/public/news").path := by
    have hpath : (submission "/base/public/news").path.toList
        = "/base".toList ++ "/public/news".toList := rfl
    rw [Mount.isDoubled_iff (by decide) hpath]
    simp
  refine ⟨s, p, seen, hs, hp, hmount, hrouted, ?_, ?_, ?_⟩
  · exact ((guards_webPrefix hweb (by decide)).1 hplain hs hmount henabled hp
      (isRooted_pageApp rfl) hrouted).1 hone
  · exact (guards_webPrefix (by decide) (by decide)).2.1 hspell' hcapture
  · exact (guards_webPrefix hweb (by decide)).2.2 hspell

/-- Not every prefix guards what lies below it.  Below the prefix `/:t` a path that begins with a
rule is let in as it is, and the route sees the rest of it, which no rule matches. -/
theorem capture_not_guards :
    ∃ s p seen, Settings.load (mountVariables "/:t" "/public") = .ok s
      ∧ (build s .none bareSurroundings).2 = .ok p ∧ s.webPrefix = "/:t"
      ∧ s.token.enabled = true ∧ (pageApp "/private").IsRooted
      ∧ Request.ofParts? "POST" "/public/private" [] [] = some (submission "/public/private")
      ∧ IsOpenlyRouted s p (pageApp "/private") ⟨1000, ⟨0, 0⟩, .empty []⟩
        (submission "/public/private") seen
      ∧ (Whitelist.ofSettings s.token).admits seen.path.toList = false := by
  have hweb : Settings.isWebPrefix "/:t" = true := by decide
  have hopen : Text.beginsWith "/public".toList
      (effectivePath "/:t".toList "/public/private".toList) = true := by decide
  have hmatches : (Route.mounted "/:t" ⟨"/private", []⟩).admits "/public/private" = true := by
    decide
  obtain ⟨s, p, seen, hs, hp, hmount, henabled, hrouted, hseen⟩ :=
    exists_isOpenlyRouted hweb (by decide) (by decide) (by decide) hopen
      (exists_route_pageApp hmatches) ⟨1000, ⟨0, 0⟩, .empty []⟩
  refine ⟨s, p, seen, hs, hp, hmount, henabled, isRooted_pageApp rfl, rfl, hrouted, ?_⟩
  rw [hseen]
  decide

end Pipeline

end AuthGateway
