import AuthGateway.Proofs.Http.Header
import AuthGateway.Proofs.Pipeline.Assembly
import AuthGateway.Proofs.Routing.Destination

/-!
# Answers as they are delivered

An answer that is given at the gates of admission or behind them is dressed by the gates outside and
then gets the last touch of the place that the request leads to.  Neither changes the status, nor
any field but those of content coding, origins and methods; only the head of a page loses its body.
So the answer that the settings ask for (`TokenSettings.IsRejection`) is delivered as one
(`TokenSettings.IsRejection.delivered`).
-/

namespace AuthGateway

/-! ### On the way out -/

namespace Settings

variable {s : Settings} {r r' : Request} {response : Response}

/-- Dressing changes fields of an answer and nothing else. -/
theorem dressed_eq : (s.dressed r response).status = response.status
    ∧ (s.dressed r response).body = response.body := by
  unfold dressed
  dsimp only
  split_ifs
  · exact ⟨ContentCoding.status_apply.trans CrossOrigin.status_expose,
      ContentCoding.body_apply.trans CrossOrigin.body_expose⟩
  · exact ⟨ContentCoding.status_apply, ContentCoding.body_apply⟩
  · exact ⟨CrossOrigin.status_expose, CrossOrigin.body_expose⟩
  · exact ⟨rfl, rfl⟩

theorem all_dressed {name : String} (hcoding : name ∉ ContentCoding.touched)
    (horigin : name ∉ CrossOrigin.touched) :
    (s.dressed r response).headers.all name = response.headers.all name := by
  unfold dressed
  dsimp only
  split_ifs
  · exact (ContentCoding.all_apply hcoding).trans (CrossOrigin.all_expose horigin)
  · exact ContentCoding.all_apply hcoding
  · exact CrossOrigin.all_expose horigin
  · rfl

/-- An answer is dressed alike for requests that accept the same content and come from the same
origin. -/
theorem dressed_congr
    (haccept : r.headers.all "accept-encoding" = r'.headers.all "accept-encoding")
    (horigin : r.headers.all "origin" = r'.headers.all "origin") :
    s.dressed r response = s.dressed r' response := by
  unfold dressed
  dsimp only
  rw [ContentCoding.apply_congr haccept, CrossOrigin.expose_congr horigin]

end Settings

/-- Whether an answer is the rejection that settings ask for.  The body of a challenge is left out
of the head of a page. -/
structure TokenSettings.IsRejection (s : TokenSettings) (isHead : Bool) (response : Response) :
    Prop where
  status : response.status = s.rejectionStyle.status
  redirect : ∀ status, s.rejectionStyle = .redirect status →
    response.headers.all "location" = [s.redirectUrl]
      ∧ response.headers.all "www-authenticate" = []
  challenge : s.rejectionStyle = .challenge →
    response.headers.all "www-authenticate" = ["Bearer realm=\"" ++ s.redirectUrl ++ "\""]
      ∧ response.headers.all "location" = []
      ∧ response.body = if isHead then [] else Utf8.encode "Not authorized"

/-- The gates of admission answer with the rejection that the settings ask for. -/
theorem Startup.isRejection_of_responder {s : TokenSettings} {answer : Responder}
    (h : responder s = .ok answer) : s.IsRejection false answer.response := by
  -- a value that cannot stand in a field would have stopped the startup
  have hvalue {field value v : String} (hv : Responder.headerValue field value = .ok v) :
      v = value := by
    unfold Responder.headerValue at hv
    split_ifs at hv
    exact (Except.ok.inj hv).symm
  have hsettings : Responder.ofSettings s = .ok answer := by
    unfold responder at h
    cases hof : Responder.ofSettings s with
    | error e =>
      rw [hof] at h
      cases h
    | ok a =>
      rw [hof] at h
      rw [Except.ok.inj h]
  unfold Responder.ofSettings at hsettings
  split at hsettings
  · rename_i status hstyle
    obtain ⟨location, hlocation, rfl⟩ := exists_of_map_eq_ok hsettings
    obtain rfl := hvalue hlocation
    constructor
    · rw [hstyle]
      rfl
    · intro status' hstyle'
      exact ⟨Headers.all_add_self, Headers.all_add_of_ne (by decide)⟩
    · intro hstyle'
      rw [hstyle] at hstyle'
      exact absurd hstyle' (by simp)
  · rename_i hstyle
    obtain ⟨authenticate, hauthenticate, rfl⟩ := exists_of_map_eq_ok hsettings
    obtain rfl := hvalue hauthenticate
    constructor
    · rw [hstyle]
      rfl
    · intro status hstyle'
      rw [hstyle] at hstyle'
      exact absurd hstyle' (by simp)
    · intro _
      exact ⟨Headers.all_add_self, Headers.all_add_of_ne (by decide), rfl⟩

/-- A rejection stays one on its way out. -/
theorem TokenSettings.IsRejection.delivered {t : TokenSettings} {response : Response}
    (h : t.IsRejection false response) {s : Settings} {r : Request} {d : Destination}
    {method : String} :
    t.IsRejection (d.answersHead method) (d.finish method (s.dressed r response)) := by
  -- the fields that make it a rejection are kept
  have hfields (name : String) (hcoding : name ∉ ContentCoding.touched)
      (horigin : name ∉ CrossOrigin.touched) (hallow : "allow" ≠ name) :
      (d.finish method (s.dressed r response)).headers.all name = response.headers.all name :=
    (Destination.all_finish hallow).trans (Settings.all_dressed hcoding horigin)
  have hlocation := hfields "location" (by decide) (by decide) (by decide)
  have hauthenticate := hfields "www-authenticate" (by decide) (by decide) (by decide)
  constructor
  · rw [Destination.status_finish, Settings.dressed_eq.1]
    exact h.status
  · intro status hstyle
    rw [hlocation, hauthenticate]
    exact h.redirect status hstyle
  · intro hstyle
    obtain ⟨hchallenge, hnone, hbody⟩ := h.challenge hstyle
    rw [hlocation, hauthenticate]
    refine ⟨hchallenge, hnone, ?_⟩
    split_ifs with hhead
    · exact Destination.body_finish_of_answersHead hhead
    · rw [Destination.body_finish_of_not_answersHead (Bool.not_eq_true _ ▸ hhead),
        Settings.dressed_eq.2]
      exact hbody

end AuthGateway
