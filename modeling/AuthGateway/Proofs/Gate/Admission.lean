import AuthGateway.Gate.Basic
import Mathlib.Tactic.SplitIfs

/-!
# Whom the gates of admission let in

Both gates decide first and then let the request through with its context, or answer it with the one
rejection (`settle_of_ok`, `settle_of_error`).  The token gate lets in open paths and verified
tokens (`TokenGate.decide_eq_ok_iff`); the group gate keeps the context that it finds and lets in
whoever needs no group or belongs to it (`GroupGate.decide_eq_ok_iff`).  All others are turned away,
each for one reason (`TokenGate.decide_eq_error_iff`, `GroupGate.decide_eq_error_iff`).
-/

namespace AuthGateway

/-! ### By token -/

/-- The token gate lets in a request whose path is open, or else one that presents a token with a
good verdict. -/
theorem TokenGate.decide_eq_ok_iff {g : TokenGate} {now : Int} {r : Request}
    {context : RequestContext} :
    (g.decide now r).1 = .ok context ↔
      (g.isOpen r.path = true ∧ context = ⟨g.userProperty, .whitelisted⟩)
        ∨ (g.isOpen r.path = false ∧ ∃ token claims,
          Extraction.ofHeaders r.headers g.cookieName = .found token
            ∧ g.judge.verdict now token = .ok claims
            ∧ context = ⟨g.userProperty, .authenticated claims⟩) := by
  rw [decide]
  cases hopen : g.isOpen r.path with
  | true =>
    rw [if_pos rfl]
    constructor
    · intro h
      exact Or.inl ⟨rfl, (Except.ok.inj h).symm⟩
    · rintro (⟨-, rfl⟩ | ⟨h, -⟩)
      · rfl
      · exact absurd h (by decide)
  | false =>
    rw [if_neg (by decide)]
    constructor
    · intro h
      refine Or.inr ⟨rfl, ?_⟩
      split at h
      · rename_i token hfound
        dsimp only [decideToken] at h
        split at h
        · rename_i claims hverdict
          exact ⟨token, claims, hfound, hverdict, (Except.ok.inj h).symm⟩
        · exact absurd h (by simp)
      · exact absurd h (by simp)
      · exact absurd h (by simp)
    · rintro (⟨h, -⟩ | ⟨-, token, claims, hfound, hverdict, rfl⟩)
      · exact absurd h (by decide)
      · rw [hfound]
        simp only [decideToken, hverdict]

/-- The token gate turns a request away whose path is not open: it presents no token, or nothing
that can be read as one, or a token with a bad verdict. -/
theorem TokenGate.decide_eq_error_iff {g : TokenGate} {now : Int} {r : Request}
    {reason : RejectionReason} :
    (g.decide now r).1 = .error reason ↔ g.isOpen r.path = false
      ∧ ((Extraction.ofHeaders r.headers g.cookieName = .absent ∧ reason = .noToken)
        ∨ (Extraction.ofHeaders r.headers g.cookieName = .malformed ∧ reason = .invalidToken)
        ∨ ∃ token e, Extraction.ofHeaders r.headers g.cookieName = .found token
          ∧ g.judge.verdict now token = .error e ∧ reason = .invalidToken) := by
  rw [decide]
  cases hopen : g.isOpen r.path with
  | true => simp
  | false =>
    rw [if_neg (by decide)]
    cases Extraction.ofHeaders r.headers g.cookieName with
    | absent | malformed => simp [eq_comm (a := reason)]
    | found token =>
      dsimp only [decideToken]
      cases hverdict : g.judge.verdict now token with
      | ok claims => simp [hverdict]
      | error e => simp [hverdict, eq_comm (a := reason)]

/-! ### By group -/

/-- A caller belongs to a group when the `groups` claim is an array with the group in it. -/
theorem Claims.isMemberOf_iff {c : Claims} {group : String} :
    c.isMemberOf group = true ↔
      ∃ items, c.get? "groups" = some (.array items) ∧ Json.string group ∈ items := by
  rw [isMemberOf, List.contains_iff_mem]
  constructor
  · intro h
    unfold Json.stringItems at h
    split at h
    · rename_i items hgroups
      obtain ⟨v, hv, hstring⟩ := List.mem_filterMap.1 h
      refine ⟨items, hgroups, ?_⟩
      cases v with
      | string s =>
        obtain rfl : s = group := Option.some.inj hstring
        exact hv
      | null | bool | number | array | object => exact absurd hstring (by simp [Json.string?])
    · exact absurd h List.not_mem_nil
  · rintro ⟨items, hgroups, hmem⟩
    rw [hgroups]
    exact List.mem_filterMap.2 ⟨.string group, hmem, rfl⟩

/-- The group gate keeps the context of a request that it lets in: one that needed no token, or
whose caller belongs to the group. -/
theorem GroupGate.decide_eq_ok_iff {g : GroupGate} {found : Option RequestContext}
    {context : RequestContext} :
    (g.decide found).1 = .ok context ↔ found = some context
      ∧ ∀ claims, context.admission = .authenticated claims → claims.isMemberOf g.group = true := by
  cases found with
  | none =>
    constructor
    · intro h
      exact absurd h (by simp [decide])
    · rintro ⟨h, -⟩
      exact absurd h (by simp)
  | some c =>
    obtain ⟨userProperty, admission⟩ := c
    cases admission with
    | whitelisted =>
      constructor
      · intro h
        obtain rfl := Except.ok.inj h
        exact ⟨rfl, fun claims hclaims => absurd hclaims (by simp)⟩
      · rintro ⟨h, -⟩
        obtain rfl := Option.some.inj h
        rfl
    | authenticated claims =>
      rw [decide]
      dsimp only
      split_ifs with hmember
      · constructor
        · intro h
          obtain rfl := Except.ok.inj h
          refine ⟨rfl, fun claims' hclaims => ?_⟩
          obtain rfl := Admission.authenticated.inj hclaims
          exact hmember
        · rintro ⟨h, -⟩
          obtain rfl := Option.some.inj h
          rfl
      · constructor
        · intro h
          exact absurd h (by simp)
        · rintro ⟨h, hmember'⟩
          obtain rfl := Option.some.inj h
          exact absurd (hmember' claims rfl) hmember

/-- The group gate turns a request away that nobody has decided about, and one whose caller does not
belong to the group. -/
theorem GroupGate.decide_eq_error_iff {g : GroupGate} {found : Option RequestContext}
    {reason : RejectionReason} :
    (g.decide found).1 = .error reason ↔ (found = none ∧ reason = .noToken)
      ∨ ∃ context claims, found = some context ∧ context.admission = .authenticated claims
        ∧ claims.isMemberOf g.group = false ∧ reason = .notInRequiredGroup := by
  cases found with
  | none => simp [decide, eq_comm (a := reason)]
  | some c =>
    obtain ⟨userProperty, admission⟩ := c
    cases admission with
    | whitelisted => simp [decide]
    | authenticated claims =>
      rw [decide]
      dsimp only
      split_ifs with hmember
      · simp [hmember]
      · simp [hmember, eq_comm (a := reason)]

/-! ### Passing -/

namespace Gate

section Settle

variable {responder : Responder} {r : Request} {d : Decision × List Event}

theorem settle_of_ok {context : RequestContext} (h : d.1 = .ok context) :
    (settle responder r d).1 = .forward (r.withContext context) := by
  obtain ⟨decision, events⟩ := d
  obtain rfl : decision = .ok context := h
  rfl

/-- Every rejection is answered alike. -/
theorem settle_of_error {reason : RejectionReason} (h : d.1 = .error reason) :
    (settle responder r d).1 = .settled (.answered responder.response) := by
  obtain ⟨decision, events⟩ := d
  obtain rfl : decision = .error reason := h
  rfl

end Settle

variable {c : Conditions} {r : Request}

theorem enter_auth_of_ok {g : TokenGate} {context : RequestContext}
    (h : (g.decide c.now r).1 = .ok context) :
    ((auth g).enter c r).1 = .forward (r.withContext context) :=
  settle_of_ok h

theorem enter_auth_of_error {g : TokenGate} {reason : RejectionReason}
    (h : (g.decide c.now r).1 = .error reason) :
    ((auth g).enter c r).1 = .settled (.answered g.responder.response) :=
  settle_of_error h

theorem enter_groupClaim_of_ok {g : GroupGate} {context : RequestContext}
    (h : (g.decide r.context).1 = .ok context) :
    ((groupClaim g).enter c r).1 = .forward (r.withContext context) :=
  settle_of_ok h

theorem enter_groupClaim_of_error {g : GroupGate} {reason : RejectionReason}
    (h : (g.decide r.context).1 = .error reason) :
    ((groupClaim g).enter c r).1 = .settled (.answered g.responder.response) :=
  settle_of_error h

end Gate

end AuthGateway
