import AuthGateway.Proofs.Files.Redirect
import AuthGateway.Proofs.Pipeline.Rejection

/-!
# Following a redirect of the static files

What the gate of the static files answers to a request that arrives there is delivered with its
status and its body (`Pipeline.outcome_of_site`).  So a client that is sent from a directory to the
directory with a slash can be followed through the whole pipeline: the place that is named is right
only where there is no web prefix, and there the page is delivered when the path leads to a
directory as it stands.
-/

namespace AuthGateway

/-- The site that the gate of the static files shows. -/
def Startup.siteOf (s : Settings) (around : Surroundings) : Site :=
  ⟨s.staticDirectory, around.directory s.staticDirectory, s.webPrefix⟩

namespace Pipeline

variable {s : Settings} {supplied : Collaborators} {around : Surroundings} {p : Pipeline}
  {c : Conditions} {r r' : Request} {response : Response}

/-! ### At the static files -/

/-- The gates in front of the static files, and those from there on. -/
theorem exists_gates_static (hbuild : (build s supplied around).2 = .ok p) :
    ∃ outer admission rest,
      p.gates = outer ++ (admission ++ .static (Startup.siteOf s around) :: rest)
        ∧ (Startup.gatesStep s supplied around
          (Stage.outer.filter (Stage.isEnabled s))).2 = .ok outer
        ∧ (∀ g ∈ admission, g.stage ∈ Stage.admission)
        ∧ ∀ c r, p.arrivingAt c .static r = (arriving c outer r).bind (arriving c admission) := by
  obtain ⟨outer, admission, inner, hp, houter, hadmission, hinner⟩ := gates_of_build hbuild
  have hfirst := takeWhile_static hinner
  have hstages : ∀ g ∈ admission, g.stage ∈ Stage.admission := fun g hg =>
    Startup.stage_mem_of_enabled hadmission hg
  have harriving (c : Conditions) (r : Request) :
      p.arrivingAt c .static r = (arriving c outer r).bind (arriving c admission) := by
    rw [arrivingAt, hp, takeWhile_stage (by decide) houter hadmission, hfirst, List.append_nil,
      arriving_append]
  rw [Stage.inner, List.filter_cons_of_pos (show Stage.isEnabled s .static = true from rfl)]
    at hinner
  obtain ⟨gate, rest, hgate, -, rfl⟩ := Startup.gatesStep_cons_eq_ok.1 hinner
  obtain rfl := Except.ok.inj hgate
  exact ⟨outer, admission, rest, hp, houter, hstages, harriving⟩

/-- A request is at the static files what it was outside, but for its context. -/
theorem exists_context_of_arrivingAt (hbuild : (build s supplied around).2 = .ok p)
    (harrives : p.arrivingAt c .static r = some r') : ∃ context, r' = { r with context } := by
  obtain ⟨outer, admission, rest, -, houter, hstages, harriving⟩ := exists_gates_static hbuild
  rw [harriving] at harrives
  obtain ⟨r₀, hr₀, hr'⟩ := Option.bind_eq_some_iff.1 harrives
  obtain ⟨rfl, -⟩ := forward_of_arriving_outer houter hr₀
  refine arriving_preserves (P := fun x => ∃ context, x = { r₀ with context }) ?_ ⟨r₀.context, rfl⟩
    hr'
  rintro g hg r₁ r₂ ⟨context, rfl⟩ hforward
  have hstage : g.stage ≠ .stripPrefix := by
    intro hstrip
    have hmem := hstages g hg
    rw [hstrip] at hmem
    exact absurd hmem (by decide)
  obtain ⟨context', rfl⟩ := exists_context_of_enter hstage hforward
  exact ⟨context', rfl⟩

/-- What the static files answer is delivered, dressed. -/
theorem outcome_of_site (hbuild : (build s supplied around).2 = .ok p)
    (harrives : p.arrivingAt c .static r = some r') {events : List Event}
    (henter : (Gate.static (Startup.siteOf s around)).enter c r' = (.answer response, events))
    (app : App) : (p.serve app c r).outcome
      = .answered ((p.destination app r).finish r.method (s.dressed r response)) := by
  obtain ⟨outer, admission, rest, hp, houter, hstages, harriving⟩ := exists_gates_static hbuild
  rw [harriving] at harrives
  obtain ⟨r₀, hr₀, hr'⟩ := Option.bind_eq_some_iff.1 harrives
  obtain ⟨heq, hforward⟩ := forward_of_arriving_outer houter hr₀
  rw [heq] at hr'
  have hsettled : ((Gate.static (Startup.siteOf s around)).enter c r').1
      = .settled (.answered response) := by
    rw [henter]
    rfl
  have hinside : ∀ g ∈ admission, g.stage ∈ Stage.admission ++ Stage.inner :=
    fun g hg => List.mem_append_left _ (hstages g hg)
  refine outcome_of_answered hp houter hforward ?_
  rw [serveThrough_append_inside hinside hr', serveThrough_of_settled hsettled]

/-- What the static files answer to a request for a page keeps its status, its body, and the place
that it names. -/
theorem delivered_of_site (hbuild : (build s supplied around).2 = .ok p)
    (hmethod : r.method = "GET") (harrives : p.arrivingAt c .static r = some r')
    {events : List Event}
    (henter : (Gate.static (Startup.siteOf s around)).enter c r' = (.answer response, events))
    (app : App) : ∃ delivered, (p.serve app c r).outcome = .answered delivered
      ∧ delivered.status = response.status ∧ delivered.body = response.body
      ∧ delivered.headers.all "location" = response.headers.all "location" := by
  have hhead : (p.destination app r).answersHead r.method = false :=
    Destination.answersHead_of_ne (by simp [hmethod])
  refine ⟨_, outcome_of_site hbuild harrives henter app, ?_, ?_, ?_⟩
  · rw [Destination.status_finish, Settings.dressed_eq.1]
  · rw [Destination.body_finish_of_not_answersHead hhead, Settings.dressed_eq.2]
  · rw [Destination.all_finish (by decide), Settings.all_dressed (by decide) (by decide)]

/-! ### Following -/

/-- A client asks for a directory with a page, without a slash at the end, and is sent on by the
static files.  The place that the answer names can be asked for.  It is the path of the request with
a slash behind it, and the query, exactly when there is no web prefix, and no more than one slash in
front of the path.  It is that, and the static files send the page to who asks for it there, exactly
when in addition the path leads to a directory as it stands.  Without a web prefix, the page is
delivered then. -/
theorem redirect_iff (hbuild : (build s supplied around).2 = .ok p) {target : String}
    (hread : Uri.ofText? target = some r.uri) (hmethod : r.method = "GET")
    (hplain : FileServer.IsUnconditional r.headers)
    (harrives : p.arrivingAt c .static r = some r') {relative : List Char}
    (hrelative : Site.relativePath? s.webPrefix.toList r.path.toList = some relative)
    {modified : Int} {entries : List (String × FileTree)} {page : File}
    (hnames : (Startup.siteOf s around).Names relative (.directory modified entries))
    (hpage : entries.lookup FileTree.indexName = some (.file page)) {redirect : Response}
    (henter : (Gate.static (Startup.siteOf s around)).enter c r' = (.answer redirect, []))
    (hstatus : redirect.status = 307) :
    ∃ uri, Uri.ofText? (Site.placeOf relative r.uri.query) = some uri
      ∧ (∀ app, ∃ delivered, (p.serve app c r).outcome = .answered delivered
        ∧ delivered.status = 307
        ∧ delivered.headers.all "location" = [Site.placeOf relative r.uri.query])
      ∧ (Site.placeOf relative r.uri.query = Site.ownPlace r.uri
        ↔ s.webPrefix = "" ∧ r.path = String.ofList ('/' :: relative))
      ∧ ∀ c₂ r₂, p.arrivingAt c₂ .static { r with uri } = some r₂ →
        (Site.placeOf relative r.uri.query = Site.ownPlace r.uri
            ∧ (Startup.siteOf s around).Sends c₂ r₂ page
          ↔ (Startup.siteOf s around).IsPlainDirectory r.uri relative)
        ∧ (s.webPrefix = "" →
          (∃ t, (Startup.siteOf s around).locate? relative = some t ∧ t.isDirectory = true) →
          ∀ app, ∃ delivered, (p.serve app c₂ { r with uri }).outcome = .answered delivered
            ∧ delivered.status = 200 ∧ delivered.body = page.content) := by
  have hdown := Site.isDown_of_relativePath? hrelative
  -- no gate in front of the static files changes the target
  obtain ⟨context, rfl⟩ := exists_context_of_arrivingAt hbuild harrives
  obtain ⟨hshows, hne, hlast, hfits, hredirect⟩ :=
    hnames.redirect_of_enter (r := { r with context }) hpage hmethod hplain hrelative henter
      hstatus
  have huri : Uri.ofText? (Site.placeOf relative r.uri.query)
      = some (Site.asked (relative ++ ['/']) r.uri.query) :=
    Site.ofText?_placeOf (s := Startup.siteOf s around) (Uri.isPlain_of_ofText? hread) hrelative
      hne hfits
  have hown : Site.placeOf relative r.uri.query = Site.ownPlace r.uri
      ↔ s.webPrefix = "" ∧ r.path = String.ofList ('/' :: relative) :=
    Site.placeOf_eq_iff (s := Startup.siteOf s around) hrelative hne
  refine ⟨_, huri, ?_, hown, ?_⟩
  · intro app
    obtain ⟨delivered, houtcome, hstatus', -, hplace⟩ :=
      delivered_of_site hbuild hmethod harrives henter app
    refine ⟨delivered, houtcome, hstatus'.trans hstatus, ?_⟩
    rw [hplace, hredirect]
    rfl
  · intro c₂ r₂ harrives₂
    obtain ⟨context₂, rfl⟩ := exists_context_of_arrivingAt hbuild harrives₂
    have hfollow (hweb : s.webPrefix = "") := hnames.follow_iff (c := c₂)
      (r := { r with uri := Site.asked (relative ++ ['/']) r.uri.query, context := context₂ })
      hpage hdown hne hlast hshows hweb hmethod rfl hplain
    constructor
    · constructor
      · rintro ⟨heq, hsends⟩
        obtain ⟨hweb, hpath⟩ := hown.1 heq
        exact ⟨hweb, hpath, (hfollow hweb).1 hsends⟩
      · rintro ⟨hweb, hpath, hdirectory⟩
        exact ⟨hown.2 ⟨hweb, hpath⟩, (hfollow hweb).2 hdirectory⟩
    · intro hweb hdirectory app
      obtain ⟨response, henter₂, hstatus₂, hbody₂⟩ := (hfollow hweb).2 hdirectory
      obtain ⟨delivered, houtcome, hstatus', hbody', -⟩ :=
        delivered_of_site (r := { r with uri := Site.asked (relative ++ ['/']) r.uri.query })
          hbuild hmethod harrives₂ henter₂ app
      exact ⟨delivered, houtcome, hstatus'.trans hstatus₂, hbody'.trans hbody₂⟩

/-- Variables that name a web prefix, if any, and nothing else. -/
def siteVariables (webPrefix : Option String) : Environment := fun name =>
  if name = "WEB_PREFIX" then webPrefix else none

/-- A directory with a page. -/
def docs : List (String × FileTree) :=
  [("index.html", .file ⟨[0x64], 0⟩)]

/-- Surroundings with this directory among the static files. -/
def docsSurroundings : Surroundings :=
  { bareSurroundings with directory := fun _ => .directory 0 [("docs", .directory 0 docs)] }

/-- The gates that come of these variables. -/
theorem exists_build_siteVariables :
    ∃ s p, Settings.load (siteVariables none) = .ok s
      ∧ (build s .none docsSurroundings).2 = .ok p ∧ s.webPrefix = ""
      ∧ Startup.siteOf s docsSurroundings
        = ⟨"./browser/dist", .directory 0 [("docs", .directory 0 docs)], ""⟩
      ∧ p.gates = [.recovery, .compression, .verboseLogging, .cors,
        .static (Startup.siteOf s docsSurroundings)] :=
  ⟨_, _, rfl, rfl, rfl, rfl, rfl⟩

/-- Without a web prefix, who asks for the directory is sent to the page. -/
theorem redirect_iff_docs :
    ∃ s p, Settings.load (siteVariables none) = .ok s
      ∧ (build s .none docsSurroundings).2 = .ok p
      ∧ (∀ app c, ∃ delivered, (p.serve app c (Site.pageAt "/docs")).outcome = .answered delivered
        ∧ delivered.status = 307 ∧ delivered.headers.all "location" = ["/docs/"])
      ∧ ∀ app c, ∃ delivered, (p.serve app c (Site.pageAt "/docs/")).outcome = .answered delivered
        ∧ delivered.status = 200 ∧ delivered.body = [0x64] := by
  obtain ⟨s, p, hs, hp, hweb, hsite, hgates⟩ := exists_build_siteVariables
  have harrives (c : Conditions) (path : String) :
      p.arrivingAt c .static (Site.pageAt path) = some (Site.pageAt path) := by
    rw [arrivingAt, hgates]
    rfl
  have hrelative : Site.relativePath? s.webPrefix.toList (Site.pageAt "/docs").path.toList
      = some "docs".toList := by
    rw [hweb]
    decide
  have hnames : (Startup.siteOf s docsSurroundings).Names "docs".toList (.directory 0 docs) := by
    rw [hsite]
    exact ⟨"docs", by decide, by decide, by decide, rfl, by decide⟩
  have henter (c : Conditions) : (Gate.static (Startup.siteOf s docsSurroundings)).enter c
      (Site.pageAt "/docs") = (.answer ((Response.empty 307).add "location" "/docs/"), []) := by
    rw [hsite]
    rfl
  have hread : Uri.ofText? "/docs" = some (Site.pageAt "/docs").uri := rfl
  have hredirect (c : Conditions) := redirect_iff hp hread rfl ⟨rfl, rfl, rfl⟩
    (harrives c "/docs") hrelative hnames rfl (henter c) rfl
  refine ⟨s, p, hs, hp, fun app c => ?_, fun app c => ?_⟩
  · obtain ⟨uri, -, hdelivered, -⟩ := hredirect c
    exact hdelivered app
  · obtain ⟨uri, huri, -, -, hfollow⟩ := hredirect c
    obtain rfl : .relative "/docs/" none = uri := Option.some.inj huri
    refine (hfollow c _ (harrives c "/docs/")).2 hweb ?_ app
    rw [hsite]
    exact ⟨.directory 0 docs, rfl, rfl⟩

/-- Below a web prefix the place that is named lacks the prefix, and nothing is found there. -/
theorem redirect_leaves_webPrefix :
    ∃ s p, Settings.load (siteVariables (some "/edge")) = .ok s
      ∧ (build s .none docsSurroundings).2 = .ok p
      ∧ Site.ownPlace (Site.pageAt "/edge/docs").uri = "/edge/docs/"
      ∧ (∃ delivered, (p.serve Service.app Site.atStart (Site.pageAt "/edge/docs")).outcome
          = .answered delivered
        ∧ delivered.status = 307 ∧ delivered.headers.all "location" = ["/docs/"])
      ∧ (p.serve Service.app Site.atStart (Site.pageAt "/docs/")).outcome.status? = some 404 :=
  ⟨_, _, rfl, rfl, rfl, ⟨_, rfl, rfl, rfl⟩, rfl⟩

end Pipeline

end AuthGateway
