import OtlpClient.Model.Common
import OtlpClient.Retry
import OtlpClient.Support.Text

/-!
# Client — one export

`OTLPClient._headers` and `OTLPClient._export`, with everything they call outside the client (the
provider, the transport, the clock, the jitter, the sleep) answered by a `World` that may look at
all that happened before.  What happens is recorded: `Event`, oldest first.

* `attempt_rule`, `exportSignal_spec`: an attempt and an export, by what their parts keep.
-/

namespace OtlpClient

/-- A call the client makes, with its answer. -/
inductive Event (T : Type) where
  | headers (kind : SignalKind) (result : Except Exn Headers)
  | invalidate (kind : SignalKind) (result : Except Exn Unit)
  | send (kind : SignalKind) (payload : Bytes) (headers : Headers)
      (result : Except Exn (ExportOutcome T))
  | sleep (seconds : T) (result : Except Exn Unit)
  | monotonic (now : T)
  | jitter (x : T)

/-- The answers to the calls of a client, given what happened before. -/
structure World (T : Type) where
  headers : List (Event T) → SignalKind → Except Exn Headers
  invalidate : List (Event T) → SignalKind → Except Exn Unit
  send : List (Event T) → SignalKind → Bytes → Headers → Except Exn (ExportOutcome T)
  sleep : List (Event T) → T → Except Exn Unit
  monotonic : List (Event T) → T
  jitter : List (Event T) → T

/-- What one export changes: the record, and its `reauthed` variable. -/
structure Export (T : Type) where
  trace : List (Event T) := []
  reauthed : Bool := false

/-- The client: its configured headers, its encoder, its policy, and whether it has a provider. -/
structure OTLPClient (T Data : Type) where
  headersFor : SignalKind → Headers
  encode : SignalKind → List Data → Except Exn Bytes
  policy : RetryPolicy T
  hasCredentials : Bool

/-- `str(kind)`. -/
def SignalKind.value : SignalKind → String
  | .metrics => "metrics"
  | .logs => "logs"
  | .traces => "traces"
  | .profiles => "profiles"

namespace Export

variable {T : Type}

def record (e : Event T) (s : Export T) : Export T := { s with trace := s.trace ++ [e] }

/-- A call: the world answers, and the answer is recorded. -/
def call {α : Type} (answer : List (Event T) → Except Exn α) (event : Except Exn α → Event T) :
    Effect Exn (Export T) α :=
  Effect.call (fun s => answer s.trace) fun result => record (event result)

/-- A call that never raises. -/
def read {α : Type} (answer : List (Event T) → α) (event : α → Event T) :
    Effect Exn (Export T) α := fun s =>
  (.ok (answer s.trace), s.record (event (answer s.trace)))

end Export

namespace OTLPClient

variable {T Data : Type} (client : OTLPClient T Data) (world : World T) (kind : SignalKind)

/-- `_headers`: the provider's headers over the configured ones. -/
def headers : Effect Exn (Export T) Headers := do
  let static := client.headersFor kind
  if client.hasCredentials then
    return Dict.update static (← Export.call (world.headers · kind) (.headers kind))
  else return static

/-- `resolve`: an `OTLPTransportError` of the provider is an outcome to be retried. -/
def resolve : Effect Exn (Export T) (Headers ⊕ ExportOutcome T) :=
  tryCatch (Sum.inl <$> client.headers world kind) fun
    | .transport message =>
        pure (.inr (.retryable none ("credential provider failed: " ++ message) none))
    | e => throw e

def transportSend (payload : Bytes) (headers : Headers) :
    Effect Exn (Export T) (ExportOutcome T) :=
  Export.call (world.send · kind payload headers) (.send kind payload headers)

/-- `attempt`: send, and send once more with new headers where the credentials are refused for the
first time in the export. -/
def attempt (payload : Bytes) : Effect Exn (Export T) (ExportOutcome T) := do
  match ← client.resolve world kind with
  | .inr outcome => return outcome
  | .inl headers => do
      let outcome ← transportSend world kind payload headers
      let s ← get
      -- The flag outlives the attempt: one re-authentication an export.
      if (!s.reauthed && client.hasCredentials && outcome.isCredentialRejection) = true then do
        modify fun s => { s with reauthed := true }
        Export.call (world.invalidate · kind) (.invalidate kind)
        match ← client.resolve world kind with
        | .inr outcome => return outcome
        | .inl headers => transportSend world kind payload headers
      else return outcome

/-- The loop over `attempt`. -/
def deliver [Seconds T] (payload : Bytes) (rounds : Nat) :
    Effect Exn (Export T) (Option (ExportOutcome T)) :=
  withRetry (client.attempt world kind payload) client.policy
    (fun seconds => Export.call (world.sleep · seconds) (.sleep seconds))
    (Export.read world.monotonic .monotonic) (Export.read world.jitter .jitter) rounds

/-- The outcome of an export, or the exception it raises. -/
def conclude : ExportOutcome T → Except Exn (ExportOutcome T)
  | .permanent status message =>
      .error (.permanent ("collector rejected " ++ kind.value ++ " (status " ++
        (status.map Int.repr).getD "None" ++ "): " ++ message))
  | .retryable _ message _ =>
      .error (.transport ("could not deliver " ++ kind.value ++ " after retries: " ++ message))
  | outcome => .ok outcome

/-- `_export`, for at most so many attempts. -/
def exportSignal [Seconds T] (data : List Data) (rounds : Nat) :
    Effect Exn (Export T) (Option (ExportOutcome T)) := do
  -- Nothing is encoded and nothing is sent.
  if data.isEmpty then return some .success
  else
    match client.encode kind data with
    | .error e => throw e
    | .ok payload => do
        modify fun s => { s with reauthed := false }
        match ← client.deliver world kind payload rounds with
        | none => return none
        | some outcome =>
            match conclude kind outcome with
            | .error e => throw e
            | .ok outcome => return some outcome

/-! ### What an export keeps -/

variable {client world kind}

/-- An attempt, by what its two calls for headers, its sends and its invalidation keep. -/
theorem attempt_rule {payload : Bytes} {I : Export T → Prop} {F : Headers → Export T → Prop}
    {S Q : ExportOutcome T → Export T → Prop} {E : Exn → Export T → Prop}
    (hresolve : Effect.Spec I (client.resolve world kind) (Sum.elim F Q) E)
    (hsend : ∀ headers,
      Effect.Spec (F headers) (transportSend world kind payload headers) S E)
    (hinvalidate : ∀ o, client.hasCredentials = true → o.isCredentialRejection = true →
      Effect.Spec (fun s => s.reauthed = true ∧ S o { s with reauthed := false })
        (Export.call (world.invalidate · kind) (.invalidate kind)) (fun _ => I) E)
    (hreturn : ∀ o s, S o s → Q o s) :
    Effect.Spec I (client.attempt world kind payload) Q E := by
  refine .bind hresolve fun r => ?_
  cases r with
  | inr o => exact .pure fun s h => h
  | inl headers =>
      refine .bind (hsend headers) fun o => .bind .get fun s₀ => ?_
      by_cases hre :
          (!s₀.reauthed && client.hasCredentials && o.isCredentialRejection) = true
      · rw [if_pos hre]
        simp only [Bool.and_eq_true, Bool.not_eq_true'] at hre
        obtain ⟨⟨hno, hcred⟩, ho⟩ := hre
        refine .bind (.modifies fun s h => ?_) fun _ =>
          .bind (hinvalidate o hcred ho) fun _ => .bind hresolve fun r => ?_
        · -- But for the flag the state is still that of the send.
          obtain ⟨rfl, h⟩ := h
          refine ⟨rfl, ?_⟩
          obtain ⟨tr, re⟩ := s₀
          cases hno
          exact h
        · cases r with
          | inr o' => exact .pure fun s h => h
          | inl headers' =>
              exact (hsend headers').conseq (fun s h => h) hreturn fun _ _ h => h
      · rw [if_neg hre]
        exact .pure fun s h => hreturn o s h.2

/-- What is returned is the outcome of the loop. -/
theorem conclude_ok {o o' : ExportOutcome T} (h : conclude kind o = .ok o') : o' = o := by
  cases o with
  | retryable status message retryAfter => cases h
  | permanent status message => cases h
  | _ => exact (Except.ok.inj h).symm

/-- Data that does not encode is raised before the first attempt. -/
theorem exportSignal_error [Seconds T] {data : List Data} {e : Exn} (hd : data ≠ [])
    (he : client.encode kind data = .error e) (rounds : Nat) (s : Export T) :
    client.exportSignal world kind data rounds s = (.error e, s) := by
  unfold exportSignal
  rw [if_neg (by simpa using hd), he]
  rfl

/-- An export, by what its loop keeps. -/
theorem exportSignal_spec [Seconds T] {data : List Data} {rounds : Nat} {P I : Export T → Prop}
    {R Q : Option (ExportOutcome T) → Export T → Prop} {E : Exn → Export T → Prop}
    (hempty : ∀ s, P s → Q (some .success) s)
    (hencode : ∀ e s, client.encode kind data = .error e → P s → E e s)
    (hstart : ∀ s, P s → I { s with reauthed := false })
    (hdeliver : ∀ payload, client.encode kind data = .ok payload →
      Effect.Spec I (client.deliver world kind payload rounds) R E)
    (hnone : ∀ s, R none s → Q none s)
    (hraise : ∀ o e s, conclude kind o = .error e → R (some o) s → E e s)
    (hreturn : ∀ o s, R (some o) s → Q (some o) s) :
    Effect.Spec P (client.exportSignal world kind data rounds) Q E := by
  unfold exportSignal
  by_cases hd : data.isEmpty = true
  · rw [if_pos hd]
    exact .pure hempty
  · rw [if_neg hd]
    cases hp : client.encode kind data with
    | error e => exact .throw fun s => hencode e s hp
    | ok payload =>
        refine .bind (.modifies hstart) fun _ => .bind (hdeliver payload hp) fun result => ?_
        cases result with
        | none => exact .pure hnone
        | some o =>
            dsimp only
            cases ho : conclude kind o with
            | error e => exact .throw fun s => hraise o e s ho
            | ok o' =>
                rw [conclude_ok ho]
                exact .pure (hreturn o)

end OTLPClient

end OtlpClient
