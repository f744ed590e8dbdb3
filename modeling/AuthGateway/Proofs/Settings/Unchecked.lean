import AuthGateway.Proofs.Settings.Diagnostics

/-!
# Variables that are never refused

The secret and the exact whitelist rules are taken as they are set.  No other field of the settings
depends on them, and neither does the error where the variables are refused
(`Settings.load_eq_map`).
-/

namespace AuthGateway

/-- Whether a variable is one of the two whose text is never looked at while variables are
loaded. -/
def Environment.isUnchecked (name : String) : Bool :=
  ["JWT_AUTH_SECRET", "JWT_AUTH_EXACT_WHITELIST_PATHS"].contains name

namespace Settings

/-- Settings about tokens with another secret and other exact rules. -/
def withUncheckedToken (secret : String) (exactRules : List String) (t : TokenSettings) :
    TokenSettings :=
  { t with secret, exactRules }

/-- Settings with another secret and other exact rules. -/
def withUnchecked (secret : String) (exactRules : List String) (s : Settings) : Settings :=
  { s with token := withUncheckedToken secret exactRules s.token }

variable {env₁ env₂ : Environment}

variable (henv : ∀ name, Environment.isUnchecked name = false → env₁ name = env₂ name)

include henv

theorem boolOr_eq {name : String} (hname : Environment.isUnchecked name = false) (default : Bool) :
    env₂.boolOr name default = env₁.boolOr name default :=
  (Environment.boolOr_congr (henv name hname) default).symm

theorem wordOr_eq {name : String} (hname : Environment.isUnchecked name = false)
    (bits default : Nat) : env₂.wordOr bits name default = env₁.wordOr bits name default :=
  (Environment.wordOr_congr (henv name hname) bits default).symm

theorem stringOr_eq {name : String} (hname : Environment.isUnchecked name = false)
    (default : String) : env₂.stringOr name default = env₁.stringOr name default :=
  (Environment.stringOr_congr (henv name hname) default).symm

theorem listOr_eq {name : String} (hname : Environment.isUnchecked name = false)
    (default : List String) : env₂.listOr name default = env₁.listOr name default :=
  (Environment.listOr_congr (henv name hname) default).symm

theorem loadRejectionStyle_eq : loadRejectionStyle env₂ = loadRejectionStyle env₁ := by
  unfold loadRejectionStyle
  rw [wordOr_eq henv (by decide)]

theorem loadStatsd_eq : loadStatsd env₂ = loadStatsd env₁ := by
  unfold loadStatsd
  simp (disch := decide) only [boolOr_eq henv, wordOr_eq henv, stringOr_eq henv]

theorem loadPrometheus_eq : loadPrometheus env₂ = loadPrometheus env₁ := by
  unfold loadPrometheus
  simp (disch := decide) only [boolOr_eq henv, stringOr_eq henv]

/-- Settings about tokens, or the error, are the same up to the two fields. -/
theorem loadToken_eq_map :
    loadToken env₂ = withUncheckedToken (env₂.stringOr "JWT_AUTH_SECRET" "")
      (env₂.listOr "JWT_AUTH_EXACT_WHITELIST_PATHS" []) <$> loadToken env₁ := by
  unfold loadToken signingTag
  -- every read but these two has the same result, and the map goes through them to the record
  simp (disch := decide) only [boolOr_eq henv, wordOr_eq henv, stringOr_eq henv, listOr_eq henv,
    loadRejectionStyle_eq henv, map_bind]
  rfl

/-- Settings, or the error, are the same up to the two fields. -/
theorem load_eq_map :
    load env₂ = withUnchecked (env₂.stringOr "JWT_AUTH_SECRET" "")
      (env₂.listOr "JWT_AUTH_EXACT_WHITELIST_PATHS" []) <$> load env₁ := by
  unfold load
  simp (disch := decide) only [boolOr_eq henv, wordOr_eq henv, stringOr_eq henv,
    loadStatsd_eq henv, loadPrometheus_eq henv, loadToken_eq_map henv, map_bind, bind_map_left]
  rfl

end Settings

end AuthGateway
