import AuthGateway.Proofs.Http.Header
import AuthGateway.Proofs.Routing.Mount
import AuthGateway.Service.Routes

/-!
# Where requests lead

Where a request leads, a handler answers it: one of the application, or one that always answers
(`App.AlwaysAnswers.handler_ne_panicked`).

There the response gets its last touch, whoever has made it.  The status stays
(`Destination.status_finish`), and so do all fields but the list of methods
(`Destination.all_finish`).  The body goes where a route makes the head of a page, and stays
otherwise (`Destination.body_finish_of_answersHead`, `Destination.body_finish_of_not_answersHead`).
-/

namespace AuthGateway

namespace Destination

variable {method : String} {d : Destination} {response : Response}

/-- Whether a route makes the head of a page for requests with a method. -/
def answersHead (method : String) : Destination → Bool
  | .route r => method == "HEAD" && (r.handler? method).isSome
  | _ => false

/-- Only a request for the head of a page gets one. -/
theorem answersHead_of_ne (h : method ≠ "HEAD") : d.answersHead method = false := by
  cases d with
  | route r => exact Bool.and_eq_false_imp.2 fun hmethod => absurd (beq_iff_eq.1 hmethod) h
  | fallback | nowhere => rfl

theorem status_finish : (d.finish method response).status = response.status := by
  unfold finish
  split
  · split_ifs <;> rfl
  · rfl

theorem all_finish {name : String} (hname : "allow" ≠ name) :
    (d.finish method response).headers.all name = response.headers.all name := by
  unfold finish
  split
  · split_ifs
    · rfl
    · exact Headers.all_add_of_ne hname
    · rfl
    · rfl
  · rfl

/-- The head of a page has no body. -/
theorem body_finish_of_answersHead (h : d.answersHead method = true) :
    (d.finish method response).body = [] := by
  cases d with
  | fallback | nowhere => exact absurd h Bool.false_ne_true
  | route r =>
    obtain ⟨hmethod, hsome⟩ := Bool.and_eq_true_iff.1 h
    have hnone : ¬ (r.handler? method).isNone = true := by
      rw [Option.isNone_iff_eq_none]
      exact Option.isSome_iff_ne_none.1 hsome
    unfold finish
    dsimp only
    rw [if_neg hnone, if_pos (beq_iff_eq.1 hmethod)]

/-- Everything else keeps its body. -/
theorem body_finish_of_not_answersHead (h : d.answersHead method = false) :
    (d.finish method response).body = response.body := by
  unfold finish
  split
  · split_ifs with hnone _ hmethod
    · rfl
    · rfl
    · -- this would be the head of a page
      refine absurd h ?_
      rw [answersHead, hmethod]
      simpa [Option.isNone_iff_eq_none, Option.isSome_iff_ne_none, hmethod] using hnone
    · rfl
  · rfl

end Destination

/-! ### Applications whose handlers answer -/

namespace App

/-- Whether no handler of an application breaks off. -/
structure AlwaysAnswers (a : App) : Prop where
  routes : ∀ route ∈ a.routes, ∀ h ∈ route.handlers, ∀ r payload, h.2 r ≠ .panicked payload
  fallback : ∀ h ∈ a.fallback, ∀ r payload, h r ≠ .panicked payload

/-- Wherever a request leads, it is answered when all handlers answer. -/
theorem AlwaysAnswers.handler_ne_panicked {a : App} (ha : a.AlwaysAnswers)
    (webPrefix path method : String) (r : Request) (payload : PanicPayload) :
    (a.destination webPrefix path).handler method r ≠ .panicked payload := by
  unfold destination
  split
  · rename_i route hroute
    have hmem := (admits_of_route? hroute).1
    have hlookup {name : String} {h : Handler} (hname : route.handlers.lookup name = some h) :
        h r ≠ .panicked payload := by
      obtain ⟨before, after, hhandlers, -⟩ := List.lookup_eq_some_iff.1 hname
      have hin : (name, h) ∈ route.handlers := by
        rw [hhandlers]
        exact List.mem_append_right before List.mem_cons_self
      exact ha.routes route hmem _ hin r payload
    show ((route.handler? method).getD fun _ => .answered (.empty 405)) r ≠ .panicked payload
    cases hhandler : route.handler? method with
    | none => exact fun heq => absurd heq (by simp)
    | some h =>
      rcases Option.or_eq_some_iff.1 hhandler with hname | ⟨-, hget⟩
      · exact hlookup hname
      · split_ifs at hget
        exact hlookup hget
  · split
    · rename_i h hfallback
      split_ifs
      · exact ha.fallback h hfallback r payload
      · exact fun heq => absurd heq (by simp [Destination.handler])
    · exact fun heq => absurd heq (by simp [Destination.handler])

end App

/-- The service always answers. -/
theorem Service.app_alwaysAnswers : Service.app.AlwaysAnswers := by
  constructor
  · intro route hroute h hh r payload
    simp only [Service.app, List.mem_cons, List.not_mem_nil, or_false] at hroute
    rcases hroute with rfl | rfl
    · obtain rfl := List.mem_singleton.1 hh
      simp [health]
    · obtain rfl := List.mem_singleton.1 hh
      simp [me]
  · intro h hh r payload
    obtain rfl := Option.some.inj hh
    simp [notFound]

end AuthGateway
