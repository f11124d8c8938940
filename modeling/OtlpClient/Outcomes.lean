import Mathlib.Data.List.Basic
import Mathlib.Tactic.Common

/-!
# Outcomes — the result of one export attempt

`outcomes.py`, over a type of seconds: a float in the code, a number of an ordered field where
exact arithmetic is wanted.
-/

namespace OtlpClient

/-- Some records were rejected. -/
structure PartialSuccess where
  rejected : Int
  message : String := ""
  deriving DecidableEq, Repr

/-- `Success | PartialSuccess | Retryable | Permanent`. -/
inductive ExportOutcome (T : Type) where
  | success
  | partialSuccess (p : PartialSuccess)
  | retryable (status : Option Int) (message : String) (retryAfter : Option T)
  | permanent (status : Option Int) (message : String)
  deriving DecidableEq, Repr

namespace ExportOutcome

variable {T : Type}

/-- `isinstance(outcome, Retryable)`. -/
def isRetryable : ExportOutcome T → Bool
  | .retryable .. => true
  | _ => false

/-- `isinstance(outcome, Success | PartialSuccess)`. -/
def isAccepted : ExportOutcome T → Bool
  | .success | .partialSuccess _ => true
  | _ => false

/-- `is_credential_rejection`: the collector refused the credentials, not the payload. -/
def isCredentialRejection : ExportOutcome T → Bool
  | .permanent (some status) _ => [401, 403].contains status
  | _ => false

theorem isRetryable_of_rejection {o : ExportOutcome T} (h : o.isCredentialRejection = true) :
    o.isRetryable = false := by
  cases o <;> first | rfl | cases h

end ExportOutcome

end OtlpClient
