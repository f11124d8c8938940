import Mathlib.Logic.Function.Basic
import OtlpClient.Support.Machine
import OtlpClient.Transport.Http

/-!
# Credentials — the machine of a token

`OAuth2ClientCredentials` in `credentials.py`: the reading of a token response, and the calls of
`headers` and `invalidate` on one provider, any number of them at once.  A step takes the event loop
from one suspension point of one call to the next.  Times are of any type with the arithmetic and the
comparison the code makes.

* `refresh`: the token and the time to live of a reply, or what `_refresh` raises.
* `Step`: the steps.
* `run_coherent`: whoever requests a token holds the lock, in every run.
-/

namespace OtlpClient

/-- `bool(value)`. -/
def Proto.Json.truthy : Proto.Json → Bool
  | .null => false
  | .bool b => b
  | .int n => n != 0
  | .float x => !x.isZero
  | .str s => !s.isEmpty
  | .arr js => !js.isEmpty
  | .obj kvs => !kvs.isEmpty

/-- `json.loads`, `str` and `float` at a document. -/
structure TokenLib (T : Type) where
  json : Proto.JsonLib
  float : Proto.Json → Except PyError T

/-- The provider, with what it reads of its arguments after it has sent a request. -/
structure OAuth2ClientCredentials (T : Type) where
  lib : TokenLib T
  expirySkew : T
  defaultTtl : T

namespace OAuth2ClientCredentials

/-! ### `_refresh` -/

section Refresh

variable {T : Type} [Zero T] [LT T] [DecidableLT T] (c : OAuth2ClientCredentials T)

/-- `max(ttl, 0.0)`. -/
def atLeastZero (ttl : T) : T := if ttl < 0 then 0 else ttl

/-- The time to live that `expires_in` gives. -/
def readTtl (expiresIn : Proto.Json) : Except Exn T :=
  match expiresIn with
  | .null => .ok (atLeastZero c.defaultTtl)
  | value =>
      match c.lib.float value with
      | .ok ttl => .ok (atLeastZero ttl)
      | .error (.typeError _) | .error (.valueError _) =>
          .error (.permanent "token endpoint returned a malformed expires_in")
      | .error e => .error (.builtin e)

/-- The `error` and `error_description` of a rejection. -/
def rejectionDetail (body : Proto.Json) : Except PyError String :=
  match body with
  | .obj kvs => do
      let error ← Proto.Json.strOf c.lib.json ((kvs.lookup "error").getD (.str "unknown_error"))
      let description := body.get "error_description"
      if description.truthy then
        return error ++ ": " ++ (← Proto.Json.strOf c.lib.json description)
      else return error
  | _ => return ""

/-- A response below 500 whose body is JSON. -/
def readToken (status : Int) (body : Proto.Json) : Except Exn (String × T) :=
  if 400 ≤ status then do
    let detail ← (c.rejectionDetail body).mapError .builtin
    .error (.permanent ("token endpoint rejected the credentials (" ++ detail ++ ")"))
  else if (body.get "access_token").truthy then do
    let token ← (Proto.Json.strOf c.lib.json (body.get "access_token")).mapError .builtin
    return (token, ← c.readTtl (body.get "expires_in"))
  else .error (.permanent "token endpoint returned no access_token")

/-- `_refresh`, from the reply of the token endpoint to the assignments. -/
def refresh : Reply → Except Exn (String × T)
  | .failed type message =>
      .error (.transport ("could not reach the token endpoint: " ++ type ++ ": " ++ message))
  | .response r =>
      if 500 ≤ r.status then
        .error (.transport ("token endpoint returned status " ++ r.status.repr))
      else
        match c.lib.json.loads r.body with
        | .error (.valueError _) =>
            .error (.permanent "token endpoint returned a non-JSON body")
        | .error e => .error (.builtin e)
        | .ok body => c.readToken r.status body

end Refresh

/-! ### The machine -/

/-- Where a call of `headers` is. -/
inductive CallPc where
  | idle
  /-- At `async with self._lock`. -/
  | acquiring
  /-- At an await of `_refresh`. -/
  | requesting
  deriving DecidableEq, Repr

/-- What a step does that its state does not keep. -/
inductive Event (T : Type) where
  /-- A token request is sent. -/
  | requested (n : Nat)
  /-- `_refresh` stores a token, at a reading of the clock. -/
  | minted (n : Nat) (token : String) (now ttl : T)
  /-- `headers` returns, at a reading of the clock. -/
  | returned (n : Nat) (header : String) (now : T)
  /-- `headers` raises. -/
  | raised (n : Nat) (e : Exn)
  | invalidated
  /-- The clock goes on. -/
  | ticked (now : T)

/-- The provider and the calls of `headers` on it, by number. -/
structure State (T : Type) where
  token : Option String := none
  expiresAt : T
  /-- The holder of `_lock`. -/
  lock : Option Nat := none
  call : Nat → CallPc
  /-- What `_monotonic` reads. -/
  now : T

variable {T : Type}

/-- A provider that has just been built. -/
def init [Zero T] (now : T) : State T where
  expiresAt := 0
  call _ := .idle
  now := now

/-- The `authorization` header. -/
def bearer : Option String → String
  | some token => "Bearer " ++ token
  | none => "Bearer None"

/-- A call ends. -/
def leave (s : State T) (n : Nat) : State T :=
  { s with
    call := Function.update s.call n .idle
    lock := if s.lock = some n then none else s.lock }

/-- Whoever requests a token holds the lock. -/
def Coherent (s : State T) : Prop := ∀ n, s.lock = some n ↔ s.call n = .requesting

theorem init_coherent [Zero T] (now : T) : Coherent (init now) := fun _ => ⟨nofun, nofun⟩

/-- A call that ends gives the lock back, if it held it. -/
theorem Coherent.leave {s : State T} (h : Coherent s) (n : Nat) : Coherent (leave s n) := by
  intro n'
  unfold OAuth2ClientCredentials.leave
  dsimp only
  by_cases hn : n' = n
  · subst hn
    rw [Function.update_self]
    refine ⟨fun hl => ?_, nofun⟩
    by_cases hs : s.lock = some n'
    · rw [if_pos hs] at hl
      cases hl
    · rw [if_neg hs] at hl
      exact absurd hl hs
  · rw [Function.update_of_ne hn, ← h n']
    by_cases hs : s.lock = some n
    · rw [if_pos hs, hs]
      exact ⟨nofun, fun e => absurd (Option.some.inj e).symm hn⟩
    · rw [if_neg hs]

variable [Zero T] [Add T] [Sub T] [LT T] [DecidableLT T] (c : OAuth2ClientCredentials T)

/-- `_usable`. -/
def Usable (s : State T) : Prop := s.token ≠ none ∧ s.now < s.expiresAt - c.expirySkew

instance (s : State T) : Decidable (c.Usable s) := inferInstanceAs (Decidable (_ ∧ _))

/-- `headers`, until it returns or awaits the lock. -/
def headers (s : State T) (n : Nat) : State T × List (Event T) :=
  if c.Usable s then (s, [.returned n (bearer s.token) s.now])
  else ({ s with call := Function.update s.call n .acquiring }, [])

/-- `headers` with the lock, until it returns or awaits the token endpoint. -/
def recheck (s : State T) (n : Nat) : State T × List (Event T) :=
  -- Another call may have minted while this one waited.
  if c.Usable s then (leave s n, [.returned n (bearer s.token) s.now])
  else
    ({ s with lock := some n, call := Function.update s.call n .requesting }, [.requested n])

/-- `headers` when the token endpoint has answered. -/
def respond (s : State T) (n : Nat) (reply : Reply) : State T × List (Event T) :=
  match c.refresh reply with
  | .ok (token, ttl) =>
      -- No await between the assignments and the return: nobody moves in between.
      (leave { s with token := some token, expiresAt := s.now + ttl } n,
        [.minted n token s.now ttl, .returned n (bearer (some token)) s.now])
  | .error e => (leave s n, [.raised n e])

/-- Which call moves, and what else may happen. -/
inductive Action (T : Type) where
  | headers (n : Nat)
  | acquire (n : Nat)
  | respond (n : Nat) (reply : Reply)
  /-- `CancelledError` is raised at the await a call is at. -/
  | cancel (n : Nat)
  | invalidate
  | tick (now : T)

inductive Step : Machine (State T) (Action T) (Event T) where
  | headers {s : State T} {n : Nat} (hn : s.call n = .idle) :
      Step s (.headers n) (c.headers s n).1 (c.headers s n).2
  | acquire {s : State T} {n : Nat} (hn : s.call n = .acquiring) (hl : s.lock = none) :
      Step s (.acquire n) (c.recheck s n).1 (c.recheck s n).2
  | respond {s : State T} {n : Nat} {reply : Reply} (hn : s.call n = .requesting) :
      Step s (.respond n reply) (c.respond s n reply).1 (c.respond s n reply).2
  -- The lock is given back, and the token stays what it was.
  | cancel {s : State T} {n : Nat} (hn : s.call n ≠ .idle) :
      Step s (.cancel n) (leave s n) [.raised n .cancelled]
  | invalidate {s : State T} : Step s .invalidate { s with token := none } [.invalidated]
  | tick {s : State T} {now : T} (h : ¬ now < s.now) :
      Step s (.tick now) { s with now := now } [.ticked now]

/-- A run of the provider, from its construction. -/
abbrev Run (now : T) : State T → List (Event T) → Prop := Machine.Run c.Step (init now)

variable {c}

theorem Step.coherent {s s' : State T} {a : Action T} {es : List (Event T)}
    (hs : c.Step s a s' es) (h : Coherent s) : Coherent s' := by
  cases hs with
  | @headers _ n hn =>
      unfold OAuth2ClientCredentials.headers
      by_cases hu : c.Usable s
      · rw [if_pos hu]
        exact h
      · rw [if_neg hu]
        intro n'
        by_cases he : n' = n
        · subst he
          have hne : s.lock ≠ some n' := fun hl => by
            rw [(h n').mp hl] at hn
            cases hn
          dsimp only
          rw [Function.update_self]
          exact ⟨fun hl => absurd hl hne, nofun⟩
        · dsimp only
          rw [Function.update_of_ne he]
          exact h n'
  | @acquire _ n hn hl =>
      unfold OAuth2ClientCredentials.recheck
      by_cases hu : c.Usable s
      · rw [if_pos hu]
        exact h.leave n
      · rw [if_neg hu]
        intro n'
        dsimp only
        by_cases he : n' = n
        · subst he
          rw [Function.update_self]
          exact ⟨fun _ => rfl, fun _ => rfl⟩
        · -- Nobody held the lock, so nobody else requests.
          rw [Function.update_of_ne he, ← h n', hl]
          exact ⟨fun e => absurd (Option.some.inj e).symm he, nofun⟩
  | @respond _ n reply hn =>
      unfold OAuth2ClientCredentials.respond
      cases c.refresh reply with
      | ok minted =>
          exact Coherent.leave
            (s := { s with token := some minted.1, expiresAt := s.now + minted.2 }) h n
      | error e => exact h.leave n
  | @cancel _ n hn => exact h.leave n
  | invalidate => exact h
  | tick _ => exact h

theorem run_coherent {now : T} {s : State T} {tr : List (Event T)} (hr : c.Run now s tr) :
    Coherent s :=
  Machine.Run.invariant (I := fun s _ => Coherent s) hr (init_coherent now)
    fun _ _ _ _ _ _ h hs => hs.coherent h

end OAuth2ClientCredentials

end OtlpClient
