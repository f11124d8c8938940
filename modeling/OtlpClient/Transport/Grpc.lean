import OtlpClient.Transport.Http

/-!
# Transport — OTLP/gRPC

`transport/grpc.py`.  What the call answers, or the `AioRpcError` it raised, is a `Rpc.Reply`.
-/

namespace OtlpClient

namespace Rpc

/-- `grpc.StatusCode`. -/
inductive StatusCode where
  | ok
  | cancelled
  | unknown
  | invalidArgument
  | deadlineExceeded
  | notFound
  | alreadyExists
  | permissionDenied
  | unauthenticated
  | resourceExhausted
  | failedPrecondition
  | aborted
  | outOfRange
  | unimplemented
  | internal
  | unavailable
  | dataLoss
  deriving DecidableEq, Repr

/-- `AioRpcError`. -/
structure Error where
  code : StatusCode
  details : Option String
  trailingMetadata : Option (List (String × String))

inductive Reply where
  | response (raw : Bytes)
  | failed (exc : Error)

/-- The arguments of a call, with the method it is of. -/
structure Call where
  method : String
  payload : Bytes
  timeout : Binary64
  metadata : List (String × String)
  compression : Option Compression

/-- `float()` at a str, division by `1000.0`, and `str` at a status code. -/
structure Lib where
  float : String → Except PyError Binary64
  divThousand : Binary64 → Binary64
  str : StatusCode → String

end Rpc

/-- `_METHODS`. -/
def rpcMethod : SignalKind → String
  | .metrics => "/opentelemetry.proto.collector.metrics.v1.MetricsService/Export"
  | .logs => "/opentelemetry.proto.collector.logs.v1.LogsService/Export"
  | .traces => "/opentelemetry.proto.collector.trace.v1.TraceService/Export"
  | .profiles => "/opentelemetry.proto.collector.profiles.v1development.ProfilesService/Export"

/-- `_pushback`: the first hint decides. -/
def pushback (lib : Rpc.Lib) (exc : Rpc.Error) : Except PyError (Option Binary64) :=
  match (exc.trailingMetadata.getD []).lookup "grpc-retry-pushback-ms" with
  | none => .ok none
  | some value =>
      match lib.float value with
      | .ok x => .ok (some (Binary64.max .posZero (lib.divThousand x)))
      | .error (.typeError _) | .error (.valueError _) => .ok none
      | .error e => .error e

structure GRPCTransport where
  config : OTLPConfig
  encoder : Encoder

namespace GRPCTransport

variable (t : GRPCTransport) (lib : Rpc.Lib)

/-- The codes that are retried. -/
def retryable : List Rpc.StatusCode := [.unavailable, .deadlineExceeded, .resourceExhausted]

/-- The HTTP status of the two codes that refuse credentials. -/
def authStatus : Rpc.StatusCode → Option Int
  | .unauthenticated => some 401
  | .permissionDenied => some 403
  | _ => none

/-- `_classify`. -/
def classify (exc : Rpc.Error) : Except PyError (ExportOutcome Binary64) :=
  let details := exc.details.getD ""
  let message := if details.isEmpty then lib.str exc.code else details
  if exc.code ∈ retryable then do
    return .retryable none message (← pushback lib exc)
  else return .permanent (authStatus exc.code) message

/-- The call that is made for a payload. -/
def call (kind : SignalKind) (payload : Bytes) (headers : Headers) : Rpc.Call where
  method := rpcMethod kind
  payload := payload
  timeout := t.config.timeoutFor kind
  -- The keys go out as they were configured.
  metadata := headers
  compression := match t.config.compressionFor kind with
    | .gzip => some .gzip
    | .none => none

/-- `GRPCTransport.send`. -/
def send (answer : Rpc.Call → Rpc.Reply) (kind : SignalKind) (payload : Bytes)
    (headers : Headers) : Except PyError (ExportOutcome Binary64) :=
  match answer (t.call kind payload headers) with
  | .failed exc => classify lib exc
  | .response raw => do
      match ← t.encoder.decodeResponse kind raw with
      | some p => return .partialSuccess p
      | none => return .success

end GRPCTransport

/-- A hint is never negative and never a NaN. -/
theorem pushback_nonneg {lib : Rpc.Lib} {exc : Rpc.Error} {x : Binary64}
    (h : pushback lib exc = .ok (some x)) : x.isNaN = false ∧ x.lt .posZero = false := by
  unfold pushback at h
  split at h
  · cases h
  · split at h
    · cases h
      exact Binary64.max_zero _
    · cases h
    · cases h
    · cases h

/-- A call that failed is retried at the three codes, and refuses the credentials at the two. -/
theorem classify_ok {lib : Rpc.Lib} {exc : Rpc.Error} {outcome : ExportOutcome Binary64}
    (h : GRPCTransport.classify lib exc = .ok outcome) :
    (outcome.isRetryable = true ↔ exc.code ∈ GRPCTransport.retryable) ∧
      (outcome.isCredentialRejection = true ↔
        exc.code = .unauthenticated ∨ exc.code = .permissionDenied) := by
  obtain ⟨code, details, trailing⟩ := exc
  unfold GRPCTransport.classify at h
  dsimp only at h
  by_cases hr : code ∈ GRPCTransport.retryable
  · rw [if_pos hr] at h
    have hne : code ≠ .unauthenticated ∧ code ≠ .permissionDenied := by
      constructor <;> rintro rfl <;> revert hr <;> decide
    cases hp : pushback lib ⟨code, details, trailing⟩ with
    | error e =>
        rw [hp] at h
        cases h
    | ok seconds =>
        rw [hp] at h
        cases h
        exact ⟨iff_of_true rfl hr, iff_of_false nofun (not_or.mpr hne)⟩
  · rw [if_neg hr] at h
    cases h
    refine ⟨iff_of_false nofun hr, ?_⟩
    cases code <;> simp [GRPCTransport.authStatus, ExportOutcome.isCredentialRejection]

end OtlpClient
