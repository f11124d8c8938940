import OtlpClient.Support.Python

/-!
# Errors — what an export raises

`errors.py`, next to the exceptions of Python and of what the client is given.
-/

namespace OtlpClient

/-- An exception, with `str(exc)`. -/
inductive Exn where
  /-- `OTLPConfigError`. -/
  | config (message : String)
  /-- `OTLPTransportError`. -/
  | transport (message : String)
  /-- `OTLPPermanentError`. -/
  | permanent (message : String)
  | builtin (e : PyError)
  /-- `asyncio.CancelledError`, which is no `Exception`. -/
  | cancelled
  /-- Any other class. -/
  | other (type message : String)
  deriving DecidableEq, Repr

/-- `str(exc)`. -/
def Exn.text : Exn → String
  | .config message | .transport message | .permanent message | .other _ message => message
  | .builtin e => e.text
  | .cancelled => ""

end OtlpClient
