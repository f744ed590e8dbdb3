import AuthGateway.Proofs.Admission.Whitelist
import AuthGateway.Proofs.Pipeline.Parallel
import AuthGateway.Proofs.Settings.Unchecked

/-!
# From the variables to the whitelist

The text of two list variables, the status for rejected requests and the web prefix decide which
paths need no token (`Whitelist.opens_iff`).  Where rejections redirect, the exact
rules are no part of the whitelist, and the pipeline is the same whatever they are
(`Pipeline.build_exactRules`).  Together this is `Pipeline.whitelist_exact`.
-/

namespace AuthGateway

open Startup

variable {env env₁ env₂ : Environment} {s s₁ s₂ : Settings}

/-- Environments that agree on all variables but the exact rules are loaded alike: the settings are
the same but for these rules. -/
theorem Settings.load_exactRules
    (henv : ∀ name, name ≠ "JWT_AUTH_EXACT_WHITELIST_PATHS" → env₂ name = env₁ name)
    (hload : Settings.load env₁ = .ok s) :
    ∃ rules, Settings.load env₂ = .ok (s.withUnchecked s.token.secret rules) := by
  have hread := tokensReadFrom_of_loadToken (load_eq_ok_iff.1 hload).token
  have hagree (name : String) (hname : Environment.isUnchecked name = false) :
      env₁ name = env₂ name := by
    refine (henv name ?_).symm
    rintro rfl
    exact absurd hname (by decide)
  have hsecret : s.token.secret = env₂.stringOr "JWT_AUTH_SECRET" "" := by
    rw [hread.secret, Environment.stringOr_congr (henv _ (by decide))]
  refine ⟨env₂.listOr "JWT_AUTH_EXACT_WHITELIST_PATHS" [], ?_⟩
  rw [Settings.load_eq_map hagree, hload, hsecret]
  rfl

/-- Where rejections redirect, the exact rules make no difference to any gate. -/
theorem Pipeline.build_exactRules (hstyle : s.token.rejectionStyle.admitsExactRules = false)
    (rules : List String) (supplied : Collaborators) (around : Surroundings) :
    (build (s.withUnchecked s.token.secret rules) supplied around).2
      = (build s supplied around).2 := by
  have hwhitelist : Whitelist.ofSettings (s.withUnchecked s.token.secret rules).token
      = Whitelist.ofSettings s.token := by
    unfold Whitelist.ofSettings Settings.withUnchecked Settings.withUncheckedToken
    dsimp only
    rw [hstyle]
    rfl
  have hgates (stage : Stage) :
      (gateStep (s.withUnchecked s.token.secret rules) supplied around stage).2
        = (gateStep s supplied around stage).2 := by
    cases stage with
    | auth =>
      have hgate (judge : TokenJudge) (responder : Responder) :
          tokenGate (s.withUnchecked s.token.secret rules) judge responder
            = tokenGate s judge responder := by
        unfold tokenGate
        rw [hwhitelist]
        rfl
      have hjudge : judgeStep (s.withUnchecked s.token.secret rules).token supplied
          = judgeStep s.token supplied := rfl
      have hresponder : responder (s.withUnchecked s.token.secret rules).token
          = responder s.token := rfl
      unfold gateStep tokenGateStep
      rw [hjudge, hresponder]
      cases judgeStep s.token supplied with
      | mk log result =>
        cases result with
        | error e => rfl
        | ok judge =>
          cases responder s.token with
          | error e => rfl
          | ok answer =>
            dsimp only
            rw [hgate]
            rfl
    | recovery | compression | verboseLogging | statsd | prometheus | apm | cors | groupClaim
    | static | profiling | stripPrefix => rfl
  have hmatches : Matches (SameButGates Eq)
      (build (s.withUnchecked s.token.secret rules) supplied around).2
      (build s supplied around).2 := matches_build rfl rfl fun stage =>
      .of_eq (fun _ => rfl) (hgates stage)
  exact hmatches.eq fun _ _ => SameButGates.eq

namespace Pipeline

/-- The text of the variables decides which paths need no token.  For every accepted environment
these are the paths that, without the web prefix in front, begin with a rule of the one list, or,
where rejections answer 401, are a rule of the other.  So blank pieces, the order of the rules and
their repetition do not matter, more rules let in more paths, and where rejections redirect the
list of exact rules changes no decision of the gateway. -/
theorem whitelist_exact (hload : Settings.load env = .ok s) :
    (∀ path, Whitelist.opens s path = true ↔ Whitelist.IsOpenPath env path)
      ∧ (∀ env' s', Settings.load env' = .ok s' → Whitelist.Covers env env' →
          ∀ path, Whitelist.opens s path = true → Whitelist.opens s' path = true)
      ∧ (∀ env' s', Settings.load env' = .ok s' →
          Whitelist.Covers env env' → Whitelist.Covers env' env →
          ∀ path, Whitelist.opens s path = Whitelist.opens s' path)
      ∧ (¬ Demand.HasStatus env 401 →
          ∀ env', (∀ name, name ≠ "JWT_AUTH_EXACT_WHITELIST_PATHS" → env' name = env name) →
          ∃ s', Settings.load env' = .ok s' ∧ ∀ supplied around,
            (build s' supplied around).2 = (build s supplied around).2) := by
  refine ⟨fun path => Whitelist.opens_iff hload, ?_, ?_, ?_⟩
  · intro env' s' hload' hcovers path hopen
    exact (Whitelist.opens_iff hload').2 (((Whitelist.opens_iff hload).1 hopen).of_covers hcovers)
  · intro env' s' hload' hcovers hcovers' path
    rw [Bool.eq_iff_iff, Whitelist.opens_iff hload, Whitelist.opens_iff hload']
    exact ⟨fun hopen => hopen.of_covers hcovers, fun hopen => hopen.of_covers hcovers'⟩
  · intro hstatus env' henv
    obtain ⟨rules, hload'⟩ := Settings.load_exactRules henv hload
    have hread := Settings.tokensReadFrom_of_loadToken (Settings.load_eq_ok_iff.1 hload).token
    have hstyle : s.token.rejectionStyle.admitsExactRules = false := by
      rw [← Bool.not_eq_true, Whitelist.admitsExactRules_iff hread.rejectionStyle]
      exact hstatus
    exact ⟨_, hload', build_exactRules hstyle rules⟩

/-- Variables with two lists of rules that hold blank pieces, below a web prefix. -/
def whitelistVariables : Environment
  | "WEB_PREFIX" => some "/app"
  | "JWT_AUTH_NO_TOKEN_STATUS_CODE" => some "401"
  | "JWT_AUTH_PREFIX_WHITELIST_PATHS" => some ", /public ,"
  | "JWT_AUTH_EXACT_WHITELIST_PATHS" => some " ,/about"
  | _ => none

/-- A path below a rule and a path that is a rule need no token, and others do. -/
theorem whitelist_exact_whitelistVariables :
    (∃ s, Settings.load whitelistVariables = .ok s)
      ∧ Whitelist.IsOpenPath whitelistVariables "/app/public/logo".toList
      ∧ Whitelist.IsOpenPath whitelistVariables "/app/about".toList
      ∧ ¬ Whitelist.IsOpenPath whitelistVariables "/app/about/us".toList := by
  obtain ⟨s, hload, hlogo, habout, hus⟩ : ∃ s, Settings.load whitelistVariables = .ok s
      ∧ Whitelist.opens s "/app/public/logo".toList = true
      ∧ Whitelist.opens s "/app/about".toList = true
      ∧ Whitelist.opens s "/app/about/us".toList = false := ⟨_, rfl, by decide, by decide, by decide⟩
  have hexact := (whitelist_exact hload).1
  refine ⟨⟨s, hload⟩, (hexact _).1 hlogo, (hexact _).1 habout, fun hopen => ?_⟩
  rw [← hexact, hus] at hopen
  exact absurd hopen (by decide)

end Pipeline

end AuthGateway
