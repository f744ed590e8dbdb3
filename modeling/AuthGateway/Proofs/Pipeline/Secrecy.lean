import AuthGateway.Proofs.Gate.Agreement
import AuthGateway.Proofs.Pipeline.Admission
import AuthGateway.Proofs.Pipeline.Parallel
import AuthGateway.Proofs.Settings.Unchecked
import AuthGateway.Proofs.Token.Secrecy
import AuthGateway.Proofs.Token.Times
import AuthGateway.Service.Routes

/-!
# The secret stays inside

Two environments with different shared secrets are loaded and set up side by side.  The settings
differ in the secret only, which no description shows (`Settings.load_secret`), and all gates are
the same but the one that asks for a token (`Startup.agree_gateStep`).  Its judges agree on every
token that carries the authentication code of neither secret, so that no run over such requests
tells the pipelines apart (`Pipeline.run_eq_of_agree`, by induction on the requests).
-/

namespace AuthGateway

open Startup

variable {env₁ env₂ : Environment} {s : Settings} {secret secret₁ secret₂ : String}

/-! ### Settings -/

/-- Settings with another secret. -/
def Settings.withSecret (secret : String) (s : Settings) : Settings :=
  s.withUnchecked secret s.token.exactRules

/-- Environments that agree on all variables but the secret are loaded alike. -/
theorem Settings.load_secret (henv : ∀ name, name ≠ "JWT_AUTH_SECRET" → env₁ name = env₂ name)
    (hsecret : env₂ "JWT_AUTH_SECRET" = some secret) :
    Settings.load env₂ = (Settings.load env₁).map (Settings.withSecret secret) := by
  have hagree (name : String) (hname : Environment.isUnchecked name = false) :
      env₁ name = env₂ name := by
    refine henv name ?_
    rintro rfl
    exact absurd hname (by decide)
  rw [Settings.load_eq_map hagree]
  cases hload : Settings.load env₁ with
  | error e => rfl
  | ok s =>
    have hread := tokensReadFrom_of_loadToken (load_eq_ok_iff.1 hload).token
    have hrules : s.token.exactRules = env₂.listOr "JWT_AUTH_EXACT_WHITELIST_PATHS" [] := by
      rw [hread.exactRules, Environment.listOr_congr (henv _ (by decide))]
    have htext : env₂.stringOr "JWT_AUTH_SECRET" "" = secret := by
      rw [Environment.stringOr, hsecret, Option.getD_some]
    show Except.ok _ = Except.ok _
    rw [Settings.withSecret, hrules, htext]

/-- The description of settings does not show the secret. -/
theorem Settings.describe_withSecret (secret : String) (s : Settings) :
    (s.withSecret secret).describe = s.describe :=
  rfl

/-! ### Startup -/

namespace Startup

variable {supplied : Collaborators} {around : Surroundings}

/-- Whether a token carries the code of neither secret. -/
def CarriesNeither (secret₁ secret₂ token : String) : Prop :=
  ¬ CarriesCode secret₁ token ∧ ¬ CarriesCode secret₂ token

/-- The judges agree on tokens that carry the code of neither secret. -/
theorem agreeOn_judgeOf (hmethod : s.token.signingMethod = .hs256) :
    (judgeOf (s.withSecret secret₁).token supplied).AgreeOn (CarriesNeither secret₁ secret₂)
      (judgeOf (s.withSecret secret₂).token supplied) := by
  cases hjudge : supplied.judge with
  | some judge =>
    have hsame (secret : String) : judgeOf (s.withSecret secret).token supplied = judge := by
      rw [judgeOf, hjudge, Option.getD_some]
    rw [hsame, hsame]
    exact .refl _ judge
  | none =>
    have hown (secret : String) : judgeOf (s.withSecret secret).token supplied
        = (Verifier.ofSecret .hs256 secret s.token.clockSkew s.token.debug).judge := by
      rw [judgeOf, hjudge, Option.getD_none, ← hmethod]
      rfl
    rw [hown, hown]
    constructor
    · rintro now token ⟨h₁, h₂⟩
      exact Verifier.verify_congr h₁ h₂
    · rintro now token ⟨h₁, h₂⟩
      show Verifier.log _ _ = Verifier.log _ _
      rw [Verifier.verify_congr h₁ h₂, Verifier.log_congr]

/-- What is logged about the judge. -/
def judgeLog (s : TokenSettings) (supplied : Collaborators) : List LogEntry :=
  if supplied.judge.isSome then [] else [readyEntry s]

/-- A secret that is not empty gives a judge, and the entries about it do not show the secret. -/
theorem judgeStep_withSecret (hmethod : s.token.signingMethod = .hs256) (hsecret : secret ≠ "") :
    judgeStep (s.withSecret secret).token supplied
      = (judgeLog s.token supplied, .ok (judgeOf (s.withSecret secret).token supplied)) := by
  have hmethod' : (s.withSecret secret).token.signingMethod = .hs256 := hmethod
  have hempty : emptySecretLog (s.withSecret secret).token = [] := by
    unfold emptySecretLog
    rw [if_neg]
    rintro ⟨-, hnone⟩
    exact hsecret hnone
  unfold judgeStep judgeOf judgeLog
  -- a judge that is supplied takes the place of the verifier, which alone holds the secret
  cases supplied.judge with
  | some judge => rfl
  | none =>
    unfold verifierStep Verifier.ofSecret
    rw [hempty, hmethod']
    rfl

/-- The gate that asks for a token is set up over the responder, and the entries about it do not
show the secret. -/
theorem tokenGateStep_withSecret (hmethod : s.token.signingMethod = .hs256)
    (hsecret : secret ≠ "") :
    tokenGateStep (s.withSecret secret) supplied
      = match responder s.token with
        | .error e => (judgeLog s.token supplied, .error e)
        | .ok r => (judgeLog s.token supplied ++ Whitelist.settingsLog s.token,
          .ok { tokenGate s (judgeOf s.token supplied) r with
            judge := judgeOf (s.withSecret secret).token supplied }) := by
  have hresponder : responder (s.withSecret secret).token = responder s.token := rfl
  unfold tokenGateStep
  rw [judgeStep_withSecret hmethod hsecret, hresponder]
  cases responder s.token with
  | error e => rfl
  | ok r => rfl

variable (supplied) (around) (hmethod : s.token.signingMethod = .hs256) (h₁ : secret₁ ≠ "")
  (h₂ : secret₂ ≠ "")

include hmethod h₁ h₂

/-- Every stage gets the same gate, but for judges that agree. -/
theorem agree_gateStep (stage : Stage) :
    Matches (Gate.Agree (CarriesNeither secret₁ secret₂) s.token.cookieName)
      (gateStep (s.withSecret secret₁) supplied around stage).2
      (gateStep (s.withSecret secret₂) supplied around stage).2 := by
  have hsame (h : (gateStep (s.withSecret secret₁) supplied around stage).2
      = (gateStep (s.withSecret secret₂) supplied around stage).2) :
      Matches (Gate.Agree (CarriesNeither secret₁ secret₂) s.token.cookieName)
        (gateStep (s.withSecret secret₁) supplied around stage).2
        (gateStep (s.withSecret secret₂) supplied around stage).2 :=
    .of_eq .same h
  cases stage with
  | auth =>
    unfold gateStep
    rw [tokenGateStep_withSecret hmethod h₁, tokenGateStep_withSecret hmethod h₂]
    cases responder s.token with
    | error e => exact .error e
    | ok r => exact .ok (.auth rfl (agreeOn_judgeOf hmethod))
  | recovery | compression | verboseLogging | statsd | prometheus | apm | cors | groupClaim
  | static | profiling | stripPrefix => exact hsame rfl

/-- Every stage logs the same while its gate is set up. -/
theorem log_gateStep (stage : Stage) :
    (gateStep (s.withSecret secret₁) supplied around stage).1
      = (gateStep (s.withSecret secret₂) supplied around stage).1 := by
  cases stage with
  | auth =>
    unfold gateStep
    rw [tokenGateStep_withSecret hmethod h₁, tokenGateStep_withSecret hmethod h₂]
    cases responder s.token with
    | error e => rfl
    | ok r => rfl
  | recovery | compression | verboseLogging | statsd | prometheus | apm | cors | groupClaim
  | static | profiling | stripPrefix => rfl

end Startup

/-! ### Runs -/

namespace Pipeline

variable {P : String → Prop} {cookieName : String} {p₁ p₂ : Pipeline} {app : App}

/-- Pipelines with gates that agree serve a request alike. -/
theorem serve_eq_of_agree (h : SameButGates (Gate.Agree P cookieName) p₁ p₂) (c : Conditions)
    {r : Request} (hr : r.PresentsOnly P cookieName) : p₁.serve app c r = p₂.serve app c r := by
  have hdestination : p₁.destination app r = p₂.destination app r := by
    unfold destination
    rw [h.webPrefix]
  unfold serve
  dsimp only
  rw [hdestination, Gate.serveThrough_eq_of_agree h.gates hr]

/-- Pipelines with gates that agree give the same replies all along a run, and end with the same
metrics. -/
theorem run_eq_of_agree (h : SameButGates (Gate.Agree P cookieName) p₁ p₂) (recorder : Recorder)
    {requests : List (Moment × Request)}
    (hr : ∀ request ∈ requests, request.2.PresentsOnly P cookieName) :
    p₁.run app recorder requests = p₂.run app recorder requests := by
  induction requests generalizing recorder with
  | nil => rfl
  | cons request requests ih =>
    obtain ⟨m, r⟩ := request
    have hreply : p₁.serve app ⟨m.now, m.elapsed, recorder⟩ r
        = p₂.serve app ⟨m.now, m.elapsed, recorder⟩ r :=
      serve_eq_of_agree h _ (hr (m, r) List.mem_cons_self)
    have hrest (recorder : Recorder) := ih recorder fun request' h' =>
      hr request' (List.mem_cons_of_mem _ h')
    rw [run, run, hreply, hrest]

/-- Settings that differ in the secret only are set up alike. -/
theorem build_withSecret (hmethod : s.token.signingMethod = .hs256) (hne₁ : secret₁ ≠ "")
    (hne₂ : secret₂ ≠ "") (supplied : Collaborators) (around : Surroundings) :
    (build (s.withSecret secret₁) supplied around).1
        = (build (s.withSecret secret₂) supplied around).1
      ∧ Matches
        (SameButGates (Gate.Agree (CarriesNeither secret₁ secret₂) s.token.cookieName))
        (build (s.withSecret secret₁) supplied around).2
        (build (s.withSecret secret₂) supplied around).2 := by
  have hagree := agree_gateStep supplied around hmethod hne₁ hne₂
  have hlog := log_gateStep supplied around hmethod hne₁ hne₂
  exact ⟨log_build rfl hagree hlog, matches_build rfl rfl hagree⟩

/-- A shared secret shows nowhere but in what is accepted.  Where two environments agree on all
variables but the secret, and neither secret is empty, loading gives the same error or settings with
the same description, key material has the same description, and the startup logs the same and ends
with the same error or with a pipeline.  All along a run over requests that present no token with
the authentication code of either secret, the two pipelines give the same responses, log the same
entries, send the same datagrams and leave the same metrics behind.  What is wrong with such a
token is the same for both as well. -/
theorem secret_hidden (henv : ∀ name, name ≠ "JWT_AUTH_SECRET" → env₁ name = env₂ name)
    (hset₁ : env₁ "JWT_AUTH_SECRET" = some secret₁) (hset₂ : env₂ "JWT_AUTH_SECRET" = some secret₂)
    (hne₁ : secret₁ ≠ "") (hne₂ : secret₂ ≠ "")
    (htag : SigningMethod.ofTag (Settings.signingTag env₁) = .hs256) :
    Settings.loadLog env₁ = Settings.loadLog env₂
      ∧ (KeyMaterial.resolve .hs256 secret₁).describe = (KeyMaterial.resolve .hs256 secret₂).describe
      ∧ (∀ token, CarriesNeither secret₁ secret₂ token →
        Verifier.findFlaw .hs256 (.shared (Utf8.encode secret₁)) token.toList
          = Verifier.findFlaw .hs256 (.shared (Utf8.encode secret₂)) token.toList)
      ∧ Matches (fun s₁ s₂ => s₁.describe = s₂.describe ∧ ∀ supplied around,
          (build s₁ supplied around).1 = (build s₂ supplied around).1
            ∧ Matches (fun p₁ p₂ => p₁.recorder = p₂.recorder
                ∧ ∀ (app : App) (recorder : Recorder) (requests : List (Moment × Request)),
                  (∀ request ∈ requests, request.2.PresentsOnly (CarriesNeither secret₁ secret₂)
                    s₁.token.cookieName) →
                  p₁.run app recorder requests = p₂.run app recorder requests)
              (build s₁ supplied around).2 (build s₂ supplied around).2)
          (Settings.load env₁) (Settings.load env₂) := by
  refine ⟨?_, rfl, fun token h => Verifier.findFlaw_congr h.1 h.2, ?_⟩
  · have hsigning := Environment.stringOr_congr (henv "JWT_AUTH_SIGNING_METHOD" (by decide)) "HS256"
    exact congrArg SigningMethod.tagLog hsigning
  · have hload₁ := Settings.load_secret (fun _ _ => rfl) hset₁
    have hload₂ := Settings.load_secret henv hset₂
    rw [hload₂]
    cases hload : Settings.load env₁ with
    | error e => exact .error e
    | ok s =>
      have hread := Settings.tokensReadFrom_of_loadToken (Settings.load_eq_ok_iff.1 hload).token
      have hmethod : s.token.signingMethod = .hs256 := hread.signingMethod.trans htag
      -- both settings are then `s` with a secret, the first with its own
      have hself : s = s.withSecret secret₁ := by
        rw [hload] at hload₁
        exact Except.ok.inj hload₁
      refine .ok ⟨(Settings.describe_withSecret secret₂ s).symm, fun supplied around => ?_⟩
      obtain ⟨hlog, hbuild⟩ := build_withSecret hmethod hne₁ hne₂ supplied around
      rw [← hself] at hlog hbuild
      refine ⟨hlog, hbuild.mono fun p₁ p₂ hp => ⟨hp.recorder, ?_⟩⟩
      intro app recorder requests hrequests
      exact run_eq_of_agree hp recorder hrequests

/-- Variables that ask for tokens under a secret, and for entries about those that are refused. -/
def secretVariables (secret : String) : Environment
  | "JWT_AUTH_ENABLED" => some "true"
  | "JWT_AUTH_DEBUG" => some "true"
  | "JWT_AUTH_SECRET" => some secret
  | _ => none

/-- A request with a token that is signed with the secret `secret`. -/
def foreignRequest : Request :=
  ⟨"GET", .relative "/api/v1/me" none, [("authorization", "Bearer " ++ Verifier.boundedToken)], [],
    none⟩

/-- Two gateways that have other secrets refuse this token in the same way. -/
theorem secret_hidden_foreignRequest :
    ∃ s₁ s₂ p₁ p₂, Settings.load (secretVariables "alpha") = .ok s₁
      ∧ Settings.load (secretVariables "beta") = .ok s₂ ∧ s₁.describe = s₂.describe
      ∧ (build s₁ .none bareSurroundings).2 = .ok p₁
      ∧ (build s₂ .none bareSurroundings).2 = .ok p₂
      ∧ p₁.run Service.app p₁.recorder [(⟨2000, ⟨0, 0⟩⟩, foreignRequest)]
        = p₂.run Service.app p₂.recorder [(⟨2000, ⟨0, 0⟩⟩, foreignRequest)] := by
  have henv (name : String) (hname : name ≠ "JWT_AUTH_SECRET") :
      secretVariables "alpha" name = secretVariables "beta" name := by
    unfold secretVariables
    split
    all_goals first
      | rfl
      | exact absurd rfl hname
  obtain ⟨s₁, hload₁, hcookie, p₁, hbuild₁⟩ :
      ∃ s₁, Settings.load (secretVariables "alpha") = .ok s₁ ∧ s₁.token.cookieName = "access_token"
        ∧ ∃ p₁, (build s₁ .none bareSurroundings).2 = .ok p₁ := ⟨_, rfl, rfl, _, rfl⟩
  obtain ⟨-, -, -, hmatches⟩ :=
    secret_hidden henv rfl rfl (by decide) (by decide) (by decide)
  obtain ⟨s₂, hload₂, hdescribe, hstartup⟩ := hmatches.exists_of_ok hload₁
  obtain ⟨p₂, hbuild₂, hrecorder, hrun⟩ := (hstartup .none bareSurroundings).2.exists_of_ok hbuild₁
  refine ⟨s₁, s₂, p₁, p₂, hload₁, hload₂, hdescribe, hbuild₁, hbuild₂, ?_⟩
  have hneither : CarriesNeither "alpha" "beta" Verifier.boundedToken :=
    ⟨by decide +kernel, by decide +kernel⟩
  rw [← hrecorder]
  refine hrun Service.app p₁.recorder _ fun request hrequest token htoken => ?_
  rw [List.mem_singleton.1 hrequest, hcookie] at htoken
  have hfound : Extraction.ofHeaders foreignRequest.headers "access_token"
      = .found Verifier.boundedToken := by decide +kernel
  rw [hfound] at htoken
  rw [← Extraction.found.inj htoken]
  exact hneither

end Pipeline

end AuthGateway
