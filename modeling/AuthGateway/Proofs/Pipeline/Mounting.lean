import AuthGateway.Proofs.Pipeline.Startup
import AuthGateway.Proofs.Pipeline.Transparency
import AuthGateway.Proofs.Routing.Below

/-!
# Mounting below a literal prefix

Three gates know the web prefix: the one that asks for a token takes it off to look for open paths,
the one of the static files takes it off to look for a file, and the last one takes it off for the
application.  Where the variables only differ in the prefix, all other gates are the same, and none
of them looks at the path but for scrapes and pages about the process.  So chains with and without
the prefix are alike for a request and the same request below the prefix (`Startup.alike_below`),
and a literal prefix leads both to the same place (`App.destination_below`): mounting changes
nothing but the target (`Pipeline.mounted_alike`).
-/

namespace AuthGateway

/-! ### Variables with a prefix -/

/-- Variables with a web prefix, which otherwise stay as they are. -/
def Environment.withWebPrefix (env : Environment) (webPrefix : String) : Environment := fun name =>
  if name = "WEB_PREFIX" then some webPrefix else env name

/-- Settings that are loaded with a web prefix are those loaded without, and the prefix. -/
theorem Settings.load_withWebPrefix {env : Environment} {s : Settings} (hload : load env = .ok s)
    {webPrefix : String} (hweb : Settings.isWebPrefix webPrefix = true) :
    load (env.withWebPrefix webPrefix) = .ok { s with webPrefix } := by
  have hread := load_eq_ok_iff.1 hload
  have hbare : webPrefix = (env.withWebPrefix webPrefix).stringOr "WEB_PREFIX" "" := rfl
  exact load_eq_ok_iff.2 ⟨hread.bindAddress, hread.drainSeconds, hread.statsd, hread.prometheus,
    hread.token, hbare, hweb, hread.gzipEnabled, hread.verboseLogging, hread.newRelicEnabled,
    hread.newRelicAppName, hread.corsEnabled, hread.profilingEnabled, hread.staticDirectory⟩

/-- Without the variable there is no web prefix. -/
theorem Settings.webPrefix_of_load {env : Environment} {s : Settings} (hload : load env = .ok s)
    (hunset : env "WEB_PREFIX" = none) : s.webPrefix = "" := by
  rw [(load_eq_ok_iff.1 hload).webPrefix, Environment.stringOr, hunset]
  rfl

/-- What can be set up without a web prefix can be set up with one. -/
theorem Pipeline.exists_build_below {env : Environment} {s : Settings} {supplied : Collaborators}
    {around : Surroundings} {p : Pipeline} (hload : Settings.load env = .ok s)
    (hbuild : (build s supplied around).2 = .ok p) (webPrefix : String) :
    ∃ p', (build { s with webPrefix } supplied around).2 = .ok p' := by
  obtain ⟨answer, hanswer⟩ := Startup.responder_of_load hload
  have hstarts (e : StartupError) : (build s supplied around).2 ≠ .error e := by
    rw [hbuild]
    exact fun h => absurd h (by simp)
  have hstatsd : ∀ cause, ¬ Startup.StatsdFails s supplied around cause := fun cause hfails =>
    hstarts _ ((build_eq_error_iff hanswer _).2 (Or.inl ⟨cause, rfl, hfails⟩))
  have hrecorder : ¬ Startup.RecorderFails s supplied around := fun hfails =>
    hstarts _ ((build_eq_error_iff hanswer _).2 (Or.inr (Or.inl ⟨hstatsd, rfl, hfails⟩)))
  have hkey : ∀ cause, ¬ Startup.KeyFails s supplied cause := fun cause hfails =>
    hstarts _ ((build_eq_error_iff hanswer _).2
      (Or.inr (Or.inr ⟨hstatsd, hrecorder, cause, rfl, hfails⟩)))
  have hanswer' : Startup.responder { s with webPrefix }.token = .ok answer := hanswer
  exact exists_build_of_not_fails hanswer' hstatsd hrecorder hkey

/-! ### Requests below a prefix -/

/-- The same request below a web prefix. -/
def Request.below (webPrefix : String) (r : Request) : Request :=
  { r with uri := { r.uri with path := webPrefix ++ r.uri.path } }

/-- A request with some target, and the same request below a web prefix. -/
def IsMounted (webPrefix : String) (uri : Uri) (r₁ r₂ : Request) : Prop :=
  r₁.uri = uri ∧ r₂ = r₁.below webPrefix

/-- The site asks the file server for the same below a web prefix. -/
theorem Site.serverUri?_below (directory : String) (root : FileTree) (webPrefix : String)
    (uri : Uri) :
    serverUri? ⟨directory, root, webPrefix⟩ { uri with path := webPrefix ++ uri.path }
      = serverUri? ⟨directory, root, ""⟩ uri := by
  have hrest : rest? webPrefix.toList (webPrefix ++ uri.path).toList
      = rest? [] uri.path.toList := by
    unfold rest?
    rw [String.toList_append, Text.after?_append_self]
    rfl
  have hrelative : relativePath? webPrefix.toList (webPrefix ++ uri.path).toList
      = relativePath? [] uri.path.toList := by
    unfold relativePath?
    rw [hrest]
  unfold serverUri?
  dsimp only
  rw [hrelative]
  rfl

namespace Gate

variable {c₁ c₂ : Conditions} {webPrefix : String} {uri : Uri}

/-- A gate that does not look at the path does the same below a web prefix. -/
theorem alike_below {g : Gate}
    (hg : g.stage ∉ [Stage.prometheus, .auth, .static, .profiling, .stripPrefix]) :
    Alike (IsMounted webPrefix uri) c₁ c₂ g g := by
  cases g with
  | prometheus | auth | static | profiling | stripPrefix => exact absurd (by simp [stage]) hg
  | recovery | compression | verboseLogging | statsd | apm =>
    refine ⟨fun h => .forward h, fun _ => rfl, ?_⟩
    rintro r _ ⟨-, rfl⟩ outcome
    rfl
  | cors =>
    refine ⟨?_, fun _ => rfl, ?_⟩
    · rintro r _ ⟨rfl, rfl⟩
      have hpreflight : CrossOrigin.preflight? (r.below webPrefix) = CrossOrigin.preflight? r := rfl
      unfold enter
      dsimp only
      rw [hpreflight]
      cases CrossOrigin.preflight? r with
      | none => exact .forward ⟨rfl, rfl⟩
      | some response => exact .settled _
    · rintro r _ ⟨-, rfl⟩ outcome
      rfl
  | groupClaim g =>
    refine ⟨?_, ?_, fun _ _ => rfl⟩
    · rintro r _ ⟨rfl, rfl⟩
      exact settle_alike rfl fun context => ⟨rfl, rfl⟩
    · rintro r _ ⟨rfl, rfl⟩
      unfold enter
      dsimp only
      rw [tokens_settle, tokens_settle]
      rfl

/-- The gate for scrapes does the same to requests that are none. -/
theorem alike_prometheus_below {path : String} (hplain : uri.path ≠ path)
    (hbelow : webPrefix ++ uri.path ≠ path) (latency : Bool) :
    Alike (IsMounted webPrefix uri) c₁ c₂ (.prometheus path latency)
      (.prometheus path latency) := by
  refine ⟨?_, fun _ => rfl, fun _ _ => rfl⟩
  rintro r _ ⟨rfl, rfl⟩
  rw [enter_prometheus (show r.path ≠ path from hplain),
    enter_prometheus (show (r.below webPrefix).path ≠ path from hbelow)]
  exact .forward ⟨rfl, rfl⟩

/-- The gate of the pages about the process does the same to requests for none of them. -/
theorem alike_profiling_below {p : Profiler} (hplain : ∀ now, p.page? now uri.path = none)
    (hbelow : ∀ now, p.page? now (webPrefix ++ uri.path) = none) :
    Alike (IsMounted webPrefix uri) c₁ c₂ (.profiling p) (.profiling p) := by
  refine ⟨?_, fun _ => rfl, fun _ _ => rfl⟩
  rintro r _ ⟨rfl, rfl⟩
  have hplain' : p.page? c₁.now r.path = none := hplain c₁.now
  have hbelow' : p.page? c₂.now (r.below webPrefix).path = none := hbelow c₂.now
  unfold enter
  dsimp only
  rw [hplain', hbelow']
  exact .forward ⟨rfl, rfl⟩

/-- The gate that asks for a token does the same below a web prefix that it knows. -/
theorem alike_auth_below (hnow : c₁.now = c₂.now) {g : TokenGate} (hbare : g.webPrefix = "") :
    Alike (IsMounted webPrefix uri) c₁ c₂ (.auth g) (.auth { g with webPrefix }) := by
  have hopen (r : Request) :
      g.isOpen r.path = TokenGate.isOpen { g with webPrefix } (r.below webPrefix).path := by
    have hbelow : (r.below webPrefix).path.toList = webPrefix.toList ++ r.path.toList :=
      String.toList_append
    unfold TokenGate.isOpen
    dsimp only
    rw [hbelow, Mount.effectivePath_append, hbare]
    rfl
  have hdecide (r : Request) :
      (g.decide c₂.now r).1
          = (TokenGate.decide { g with webPrefix } c₂.now (r.below webPrefix)).1
        ∧ Event.tokens (g.decide c₂.now r).2
          = Event.tokens (TokenGate.decide { g with webPrefix } c₂.now (r.below webPrefix)).2 :=
    TokenGate.decide_congr (hopen r) rfl rfl rfl rfl
  refine ⟨?_, ?_, fun _ _ => rfl⟩
  · rintro r _ ⟨rfl, rfl⟩
    rw [enter_auth, enter_auth, hnow]
    exact settle_alike (hdecide r).1 fun context => ⟨rfl, rfl⟩
  · rintro r _ ⟨rfl, rfl⟩
    rw [enter_auth, enter_auth, hnow, tokens_settle, tokens_settle]
    exact (hdecide r).2

/-- The gate of the static files does the same below a web prefix that it knows. -/
theorem alike_static_below (directory : String) (root : FileTree) :
    Alike (IsMounted webPrefix uri) c₁ c₂ (.static ⟨directory, root, ""⟩)
      (.static ⟨directory, root, webPrefix⟩) := by
  refine ⟨?_, fun _ => rfl, fun _ _ => rfl⟩
  rintro r _ ⟨rfl, rfl⟩
  have houtcome : siteOutcome? ⟨directory, root, webPrefix⟩ (r.below webPrefix)
      = siteOutcome? ⟨directory, root, ""⟩ r := by
    unfold siteOutcome? Request.below
    dsimp only
    rw [Site.serverUri?_below]
  unfold enter enterSite
  dsimp only
  rw [houtcome]
  cases siteOutcome? ⟨directory, root, ""⟩ r with
  | none => exact .forward ⟨rfl, rfl⟩
  | some outcome => exact .settled outcome

end Gate

/-! ### The whole -/

/-- Away from the pages about the process there are none. -/
theorem Profiler.page?_eq_none {p : Profiler} {path : String}
    (h : Text.beginsWith root.toList path.toList = false) (now : Int) :
    p.page? now path = none := by
  have hafter : Text.after? root.toList path.toList = none := by
    rw [Text.beginsWith] at h
    exact Option.isSome_eq_false_iff.1 h |> Option.isNone_iff_eq_none.1
  unfold page?
  rw [hafter]
  rfl

/-- Whether a path is neither for scrapes nor for pages about the process, where there are any. -/
structure Settings.IsPlainPath (s : Settings) (path : String) : Prop where
  scrape : s.prometheus.enabled = true → path ≠ s.prometheus.path
  page : s.profilingEnabled = true → Text.beginsWith Profiler.root.toList path.toList = false

/-- At every stage but the last, the gates with and without a web prefix are alike. -/
theorem Startup.alike_below {s : Settings} {supplied : Collaborators} {around : Surroundings}
    {c₁ c₂ : Conditions} {webPrefix : String} {uri : Uri} (hbare : s.webPrefix = "")
    (hnow : c₁.now = c₂.now) (hplain : s.IsPlainPath uri.path)
    (hbelow : s.IsPlainPath (webPrefix ++ uri.path)) {stage : Stage}
    (hstage : stage ≠ .stripPrefix) (henabled : stage.isEnabled s = true) {g₁ g₂ : Gate}
    (h₁ : (gateStep s supplied around stage).2 = .ok g₁)
    (h₂ : (gateStep { s with webPrefix } supplied around stage).2 = .ok g₂) :
    Gate.Alike (IsMounted webPrefix uri) c₁ c₂ g₁ g₂ := by
  cases stage with
  | stripPrefix => exact absurd rfl hstage
  | recovery | compression | verboseLogging | apm | cors =>
    obtain rfl := Except.ok.inj h₁
    obtain rfl := Except.ok.inj h₂
    exact Gate.alike_below (by simp [Gate.stage])
  | statsd =>
    obtain ⟨client, hclient, rfl⟩ := exists_of_map_eq_ok h₁
    obtain ⟨client', hclient', rfl⟩ := exists_of_map_eq_ok h₂
    obtain rfl : client = client' := Except.ok.inj (hclient.symm.trans hclient')
    exact Gate.alike_below (by simp [Gate.stage])
  | prometheus =>
    obtain ⟨_, -, rfl⟩ := exists_of_map_eq_ok h₁
    obtain ⟨_, -, rfl⟩ := exists_of_map_eq_ok h₂
    exact Gate.alike_prometheus_below (hplain.scrape henabled) (hbelow.scrape henabled) _
  | auth =>
    obtain ⟨answer, hanswer, rfl⟩ := auth_of_gateStep h₁
    obtain ⟨answer', hanswer', rfl⟩ := auth_of_gateStep h₂
    obtain rfl := Except.ok.inj (hanswer.symm.trans hanswer')
    exact Gate.alike_auth_below hnow hbare
  | groupClaim =>
    obtain ⟨answer, hanswer, rfl⟩ := groupClaim_of_gateStep h₁
    obtain ⟨answer', hanswer', rfl⟩ := groupClaim_of_gateStep h₂
    obtain rfl := Except.ok.inj (hanswer.symm.trans hanswer')
    exact Gate.alike_below (by simp [Gate.stage])
  | static =>
    obtain rfl := Except.ok.inj h₁
    obtain rfl := Except.ok.inj h₂
    rw [hbare]
    exact Gate.alike_static_below _ _
  | profiling =>
    obtain rfl := Except.ok.inj h₁
    obtain rfl := Except.ok.inj h₂
    exact Gate.alike_profiling_below (Profiler.page?_eq_none (hplain.page henabled))
      (Profiler.page?_eq_none (hbelow.page henabled))

namespace Pipeline

variable {env : Environment} {s : Settings} {supplied : Collaborators} {around : Surroundings}
  {p p' : Pipeline} {webPrefix : String} {c c' : Conditions}

/-- Without a web prefix the gates are those of all stages but the last; with one they are alike,
and there is one more that takes it off. -/
theorem exists_chainsAlike_below (hbare : s.webPrefix = "") (hne : webPrefix ≠ "")
    (hbuild : (build s supplied around).2 = .ok p)
    (hbuild' : (build { s with webPrefix } supplied around).2 = .ok p') (hnow : c.now = c'.now)
    {uri : Uri} (hplain : s.IsPlainPath uri.path)
    (hbelow : s.IsPlainPath (webPrefix ++ uri.path)) :
    ∃ front, p'.gates = front ++ [.stripPrefix webPrefix]
      ∧ Gate.ChainsAlike (IsMounted webPrefix uri) c c' p.gates front := by
  have hstages : Stage.all = Stage.all.dropLast ++ [.stripPrefix] := rfl
  have hoff : ¬ Stage.isEnabled s .stripPrefix = true := by
    rw [Stage.isEnabled, hbare]
    decide
  have hon : Stage.isEnabled { s with webPrefix } .stripPrefix = true := bne_iff_ne.2 hne
  have hgates := gatesStep_of_build hbuild
  have hgates' := gatesStep_of_build hbuild'
  rw [Settings.stages, hstages, List.filter_append, List.filter_cons_of_neg hoff, List.filter_nil,
    List.append_nil] at hgates
  rw [Settings.stages, hstages, List.filter_append, List.filter_cons_of_pos hon, List.filter_nil]
    at hgates'
  obtain ⟨front, back, hfront, hback, hp'⟩ := Startup.gatesStep_append_eq_ok.1 hgates'
  obtain rfl : [.stripPrefix webPrefix] = back := Except.ok.inj hback
  refine ⟨front, hp', Startup.chainsAlike_of_gatesStep (fun stage hstage => Or.inl ?_) hgates
    hfront⟩
  have hstage' : stage ≠ .stripPrefix := by
    rintro rfl
    exact absurd hstage (by decide)
  refine ⟨?_, fun g₁ g₂ henabled hg₁ hg₂ =>
    Startup.alike_below hbare hnow hplain hbelow hstage' henabled hg₁ hg₂⟩
  cases stage with
  | stripPrefix => exact absurd rfl hstage'
  | recovery | compression | verboseLogging | statsd | prometheus | apm | cors | auth | groupClaim
  | static | profiling => rfl

/-- Mounting below a literal prefix changes nothing but the prefix.  The variables that say what is
built without one, together with the prefix, say what is built with it.  A request whose path has
something behind its first slash, and which is no scrape and for no page about the process either
way, is then answered below the prefix exactly as it is without: it is open or not in the same way,
the same tokens are put to the judge, and the same handler of the application gets the same
request. -/
theorem mounted_alike (hload : Settings.load env = .ok s) (hunset : env "WEB_PREFIX" = none)
    (hweb : Settings.isWebPrefix webPrefix = true) (hne : webPrefix ≠ "")
    (hchars : ∀ c ∈ webPrefix.toList, c ≠ ':' ∧ c ≠ '*')
    (hbuild : (build s supplied around).2 = .ok p) {app : App} (happ : app.IsRooted) {r : Request}
    (hpath : Mount.GoesOn r.path) (hplain : s.IsPlainPath r.path)
    (hbelow : s.IsPlainPath (webPrefix ++ r.path)) :
    ∃ p', Settings.load (env.withWebPrefix webPrefix) = .ok { s with webPrefix }
      ∧ (build { s with webPrefix } supplied around).2 = .ok p'
      ∧ Settings.isOpen { s with webPrefix } (r.below webPrefix) = s.isOpen r
      ∧ p'.destination app (r.below webPrefix) = p.destination app r
      ∧ ∀ c c' : Conditions, c.now = c'.now →
        (p'.serve app c' (r.below webPrefix)).outcome = (p.serve app c r).outcome
        ∧ arriving c' p'.gates (r.below webPrefix) = arriving c p.gates r
        ∧ Event.tokens (p'.serve app c' (r.below webPrefix)).events
          = Event.tokens (p.serve app c r).events := by
  have hbare := Settings.webPrefix_of_load hload hunset
  have hliteral : Mount.IsLiteral webPrefix := ⟨Settings.head?_of_isWebPrefix hweb hne, hchars⟩
  obtain ⟨p', hbuild'⟩ := exists_build_below hload hbuild webPrefix
  have hdestination : p.destination app r = p'.destination app (r.below webPrefix) := by
    unfold destination
    rw [webPrefix_of_build hbuild, webPrefix_of_build hbuild', hbare]
    exact (App.destination_below happ hliteral hpath).symm
  have hopen : Settings.isOpen { s with webPrefix } (r.below webPrefix) = s.isOpen r := by
    have htext : (r.below webPrefix).path.toList = webPrefix.toList ++ r.path.toList :=
      String.toList_append
    unfold Settings.isOpen
    dsimp only
    rw [htext, Mount.effectivePath_append, hbare]
    rfl
  refine ⟨p', Settings.load_withWebPrefix hload hweb, hbuild', hopen, hdestination.symm, ?_⟩
  intro c c' hnow
  obtain ⟨front, hp', halike⟩ :=
    exists_chainsAlike_below hbare hne hbuild hbuild' hnow hplain hbelow
  have hstart : IsMounted webPrefix r.uri r (r.below webPrefix) := ⟨rfl, rfl⟩
  -- the last gate takes the prefix off again
  have hlast {r₁ r₂ : Request} (h : IsMounted webPrefix r.uri r₁ r₂) :
      ((Gate.stripPrefix webPrefix).enter c' r₂) = (.forward r₁, []) := by
    obtain ⟨huri, rfl⟩ := h
    have hstrip : Mount.strip webPrefix (r₁.below webPrefix).uri = r₁.uri :=
      Mount.strip_append hliteral.start (by rw [huri]; exact hpath)
    unfold Gate.enter
    dsimp only
    rw [hstrip]
    rfl
  have hreply := serve_alike hdestination rfl (by
    rw [hp', ← List.append_nil p.gates]
    refine halike.serveThrough_append hstart fun {r₁ r₂} h => ?_
    have hforward : ((Gate.stripPrefix webPrefix).enter c' r₂).1 = .forward r₁ := by rw [hlast h]
    constructor
    · exact (serveThrough_of_forward hforward _ []).symm
    · rw [serveThrough_eq_of_forward hforward, hlast h]
      rfl)
  refine ⟨hreply.outcome.symm, ?_, hreply.tokens.symm⟩
  rw [hp', arriving_append]
  have hfront := halike.arriving hstart
  generalize arriving c p.gates r = plain at hfront
  generalize arriving c' front (r.below webPrefix) = mounted at hfront
  cases hfront with
  | none => rfl
  | some h =>
    rw [Option.bind_some, arriving_of_forward (congrArg Prod.fst (hlast h))]
    rfl

/-- What becomes of the health check by default, where tokens are asked for. -/
theorem exists_build_healthRequest :
    ∃ s p, Settings.load tokenVariables = .ok s ∧ (build s .none bareSurroundings).2 = .ok p
      ∧ s.prometheus.enabled = false ∧ s.profilingEnabled = false
      ∧ arriving ⟨1000, ⟨0, 0⟩, .empty []⟩ p.gates healthRequest
        = some (healthRequest.withContext ⟨"user", .whitelisted⟩) :=
  ⟨_, _, rfl, rfl, rfl, rfl, rfl⟩

/-- By default the health check arrives below a prefix as it does without, let in as whitelisted. -/
theorem mounted_alike_healthRequest :
    ∃ s p p', Settings.load tokenVariables = .ok s
      ∧ (build s .none bareSurroundings).2 = .ok p
      ∧ Settings.load (tokenVariables.withWebPrefix "/base/v1")
        = .ok { s with webPrefix := "/base/v1" }
      ∧ (build { s with webPrefix := "/base/v1" } .none bareSurroundings).2 = .ok p'
      ∧ arriving ⟨1000, ⟨2, 0⟩, .empty []⟩ p'.gates (healthRequest.below "/base/v1")
        = some (healthRequest.withContext ⟨"user", .whitelisted⟩)
      ∧ (p'.serve Service.app ⟨1000, ⟨2, 0⟩, .empty []⟩ (healthRequest.below "/base/v1")).outcome
        = (p.serve Service.app ⟨1000, ⟨0, 0⟩, .empty []⟩ healthRequest).outcome := by
  obtain ⟨s, p, hs, hp, hprometheus, hprofiling, harrives⟩ := exists_build_healthRequest
  have hplain (path : String) : s.IsPlainPath path := by
    constructor
    · rw [hprometheus]
      exact fun h => absurd h (by decide)
    · rw [hprofiling]
      exact fun h => absurd h (by decide)
  have happ : Service.app.IsRooted := by
    unfold App.IsRooted
    decide
  have hweb : Settings.isWebPrefix "/base/v1" = true := by decide
  have hchars : ∀ c ∈ "/base/v1".toList, c ≠ ':' ∧ c ≠ '*' := by
    have hall : "/base/v1".toList.all (fun c => c ≠ ':' && c ≠ '*') = true := by decide
    intro c hc
    simpa using List.all_eq_true.1 hall c hc
  have hpath : Mount.GoesOn healthRequest.path := ⟨'a', _, rfl, by decide⟩
  obtain ⟨p', hs', hp', -, -, hserve⟩ := mounted_alike hs rfl hweb (by decide) hchars hp happ hpath
    (hplain _) (hplain _)
  obtain ⟨houtcome, harriving, -⟩ :=
    hserve ⟨1000, ⟨0, 0⟩, .empty []⟩ ⟨1000, ⟨2, 0⟩, .empty []⟩ rfl
  exact ⟨s, p, p', hs, hp, hs', hp', harriving.trans harrives, houtcome⟩

end Pipeline

end AuthGateway
