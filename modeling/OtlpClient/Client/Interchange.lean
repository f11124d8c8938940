import OtlpClient.Client.Delivery
import OtlpClient.Support.Relational
import OtlpClient.Transport.Grpc

/-!
# Client — one transport for another

What an export does depends on its transport only through the class of what it answers: accepted, to
be retried after so long, refused credentials, or rejected.  `transport/grpc.py` gives its errors
the statuses `transport/http.py` would see, so that one client serves both.

* `exportSignal_rel`: exports whose sends are answered alike do alike.
* `transports_agree`: both transports class what corresponds alike.
* `exports_interchangeable`: an export over gRPC does what it does over HTTP.
-/

namespace OtlpClient

variable {T : Type}

/-! ### Alike -/

/-- Outcomes a client treats alike: it reads no status but those of refused credentials, and no
message. -/
inductive ExportOutcome.Like : ExportOutcome T → ExportOutcome T → Prop where
  | success : Like .success .success
  | partialSuccess (p : PartialSuccess) : Like (.partialSuccess p) (.partialSuccess p)
  | retryable {status status' : Option Int} {message message' : String} (retryAfter : Option T) :
      Like (.retryable status message retryAfter) (.retryable status' message' retryAfter)
  | permanent {status status' : Option Int} {message message' : String}
      (h : (permanent status message : ExportOutcome T).isCredentialRejection =
        (permanent status' message' : ExportOutcome T).isCredentialRejection) :
      Like (.permanent status message) (.permanent status' message')

/-- Exceptions of one class, with one message or with the messages of an outcome. -/
inductive Exn.Like : Exn → Exn → Prop where
  | same (e : Exn) : Like e e
  | transport (message message' : String) : Like (.transport message) (.transport message')
  | permanent (message message' : String) : Like (.permanent message) (.permanent message')

/-- Events that differ in the payload of a send and in the messages of its outcome at most. -/
inductive Event.Like : Event T → Event T → Prop where
  | headers (kind : SignalKind) (result : Except Exn Headers) :
      Like (.headers kind result) (.headers kind result)
  | invalidate (kind : SignalKind) (result : Except Exn Unit) :
      Like (.invalidate kind result) (.invalidate kind result)
  | send (kind : SignalKind) (payload payload' : Bytes) (headers : Headers)
      {result result' : Except Exn (ExportOutcome T)}
      (h : Both ExportOutcome.Like Exn.Like result result') :
      Like (.send kind payload headers result) (.send kind payload' headers result')
  | sleep (seconds : T) (result : Except Exn Unit) :
      Like (.sleep seconds result) (.sleep seconds result)
  | monotonic (now : T) : Like (.monotonic now) (.monotonic now)
  | jitter (x : T) : Like (.jitter x) (.jitter x)

/-- Records event by event alike. -/
structure Export.Like (s t : Export T) : Prop where
  trace : List.Forall₂ Event.Like s.trace t.trace
  reauthed : s.reauthed = t.reauthed

/-- Worlds that answer every call but a send the same where alike has happened. -/
structure World.Around (w w' : World T) (kind : SignalKind) : Prop where
  headers : ∀ tr tr', List.Forall₂ Event.Like tr tr' → w.headers tr kind = w'.headers tr' kind
  invalidate : ∀ tr tr', List.Forall₂ Event.Like tr tr' →
    w.invalidate tr kind = w'.invalidate tr' kind
  sleep : ∀ tr tr' seconds, List.Forall₂ Event.Like tr tr' →
    w.sleep tr seconds = w'.sleep tr' seconds
  monotonic : ∀ tr tr', List.Forall₂ Event.Like tr tr' → w.monotonic tr = w'.monotonic tr'
  jitter : ∀ tr tr', List.Forall₂ Event.Like tr tr' → w.jitter tr = w'.jitter tr'

/-- And that answer the sends of two payloads alike. -/
structure World.Like (w w' : World T) (kind : SignalKind) (payload payload' : Bytes) : Prop
    extends w.Around w' kind where
  send : ∀ tr tr' headers, List.Forall₂ Event.Like tr tr' →
    Both ExportOutcome.Like Exn.Like (w.send tr kind payload headers)
      (w'.send tr' kind payload' headers)

theorem ExportOutcome.Like.isCredentialRejection_eq {o o' : ExportOutcome T} (h : o.Like o') :
    o.isCredentialRejection = o'.isCredentialRejection := by
  cases h with
  | permanent h => exact h
  | _ => rfl

theorem Exn.both_same {α : Type} (r : Except Exn α) : Both Eq Exn.Like r r := by
  cases r with
  | ok a => exact .ok rfl
  | error e => exact .error (.same e)

theorem Both.eq {α : Type} {r r' : Except Exn α} (h : r = r') : Both Eq Exn.Like r r' :=
  h ▸ Exn.both_same r

/-! ### Calls -/

namespace Export

theorem Like.record {s t : Export T} {e e' : Event T} (h : s.Like t) (he : e.Like e') :
    (s.record e).Like (t.record e') :=
  ⟨List.rel_append h.trace (.cons he .nil), h.reauthed⟩

/-- A call that is answered the same. -/
theorem call_rel {α : Type} {answer answer' : List (Event T) → Except Exn α}
    {event : Except Exn α → Event T}
    (h : ∀ tr tr', List.Forall₂ Event.Like tr tr' → answer tr = answer' tr')
    (hevent : ∀ r, (event r).Like (event r)) :
    Effect.Rel Export.Like (Export.call answer event) (Export.call answer' event) Eq Exn.Like :=
  fun s t hst => by
    have heq := h s.trace t.trace hst.trace
    refine ⟨Both.eq heq, ?_⟩
    change (s.record (event (answer s.trace))).Like (t.record (event (answer' t.trace)))
    rw [heq]
    exact hst.record (hevent _)

/-- So is a reading. -/
theorem read_rel {α : Type} {answer answer' : List (Event T) → α} {event : α → Event T}
    (h : ∀ tr tr', List.Forall₂ Event.Like tr tr' → answer tr = answer' tr')
    (hevent : ∀ a, (event a).Like (event a)) :
    Effect.Rel Export.Like (Export.read answer event) (Export.read answer' event) Eq Exn.Like :=
  fun s t hst => by
    have heq := h s.trace t.trace hst.trace
    refine ⟨.ok heq, ?_⟩
    change (s.record (event (answer s.trace))).Like (t.record (event (answer' t.trace)))
    rw [heq]
    exact hst.record (hevent _)

end Export

/-! ### The retry loop -/

section Loop

variable {σ τ : Type} {R : σ → τ → Prop} [Seconds T] {op : Effect Exn σ (ExportOutcome T)}
  {op' : Effect Exn τ (ExportOutcome T)} {policy : RetryPolicy T} {sleep : T → Effect Exn σ Unit}
  {sleep' : T → Effect Exn τ Unit} {monotonic jitter : Effect Exn σ T}
  {monotonic' jitter' : Effect Exn τ T}

theorem raising_rel {α : Type} (r : Except PyError α) :
    Effect.Rel R (raising r) (raising r) Eq Exn.Like := by
  cases r with
  | ok a => exact .pure rfl
  | error e => exact .throw (.same _)

theorem retryDelay_rel (hjitter : Effect.Rel R jitter jitter' Eq Exn.Like) (retryAfter : Option T)
    (capped : T) :
    Effect.Rel R (retryDelay jitter retryAfter capped) (retryDelay jitter' retryAfter capped) Eq
      Exn.Like := by
  cases retryAfter with
  | some seconds => exact .pure rfl
  | none =>
      refine .bind hjitter fun x x' hx => .pure ?_
      rw [hx]

/-- A round of the loop reads nothing of an outcome but whether it is to be retried, and when. -/
theorem retryRound_rel (hop : Effect.Rel R op op' ExportOutcome.Like Exn.Like)
    (hsleep : ∀ d, Effect.Rel R (sleep d) (sleep' d) Eq Exn.Like)
    (hmonotonic : Effect.Rel R monotonic monotonic' Eq Exn.Like)
    (hjitter : Effect.Rel R jitter jitter' Eq Exn.Like) (started : T) (attempt : Nat) :
    Effect.Rel R (retryRound op policy sleep monotonic jitter started attempt)
      (retryRound op' policy sleep' monotonic' jitter' started attempt)
      (Sum.LiftRel ExportOutcome.Like Eq) Exn.Like := by
  unfold retryRound
  refine .bind hop fun o o' ho => ?_
  cases ho with
  | success => exact .pure (.inl .success)
  | partialSuccess p => exact .pure (.inl (.partialSuccess p))
  | permanent h => exact .pure (.inl (.permanent h))
  | retryable retryAfter =>
      refine .bind hmonotonic fun now now' hnow => ?_
      subst hnow
      dsimp only
      split
      · exact .pure (.inl (.retryable retryAfter))
      · unfold backOff
        refine .bind (raising_rel _) fun capped capped' hcapped => ?_
        subst hcapped
        refine .bind (retryDelay_rel hjitter retryAfter capped) fun delay delay' hdelay => ?_
        subst hdelay
        dsimp only
        split
        · exact .pure (.inl (.retryable retryAfter))
        · exact .bind (hsleep delay) fun _ _ _ => .pure (.inr rfl)

theorem withRetry_rel (hop : Effect.Rel R op op' ExportOutcome.Like Exn.Like)
    (hsleep : ∀ d, Effect.Rel R (sleep d) (sleep' d) Eq Exn.Like)
    (hmonotonic : Effect.Rel R monotonic monotonic' Eq Exn.Like)
    (hjitter : Effect.Rel R jitter jitter' Eq Exn.Like) (rounds : Nat) :
    Effect.Rel R (withRetry op policy sleep monotonic jitter rounds)
      (withRetry op' policy sleep' monotonic' jitter' rounds) (Option.Rel ExportOutcome.Like)
      Exn.Like := by
  refine .bind hmonotonic fun started started' hstarted => ?_
  subst hstarted
  refine Effect.Rel.iterate (S := Eq) (fun attempt attempt' hattempt => ?_) rounds 0 0 rfl
  subst hattempt
  exact retryRound_rel hop hsleep hmonotonic hjitter started attempt

end Loop

/-! ### An export -/

namespace OTLPClient

variable {Data : Type} {client client' : OTLPClient T Data} {w w' : World T} {kind : SignalKind}
  {payload payload' : Bytes}

/-- Clients that differ in their encoders at most. -/
structure Like (client client' : OTLPClient T Data) (kind : SignalKind) : Prop where
  headersFor : client.headersFor kind = client'.headersFor kind
  policy : client.policy = client'.policy
  hasCredentials : client.hasCredentials = client'.hasCredentials

theorem headers_rel (hc : client.Like client' kind) (hw : w.Like w' kind payload payload') :
    Effect.Rel Export.Like (client.headers w kind) (client'.headers w' kind) Eq Exn.Like := by
  unfold headers
  dsimp only
  rw [hc.headersFor, hc.hasCredentials]
  split
  · refine .bind (Export.call_rel hw.headers (.headers kind)) fun h h' heq => ?_
    subst heq
    exact .pure rfl
  · exact .pure rfl

theorem resolve_rel (hc : client.Like client' kind) (hw : w.Like w' kind payload payload') :
    Effect.Rel Export.Like (client.resolve w kind) (client'.resolve w' kind)
      (Sum.LiftRel Eq ExportOutcome.Like) Exn.Like := by
  unfold resolve
  refine .tryCatch (F := Exn.Like) ?_ fun e e' he => ?_
  · refine .bind (headers_rel hc hw) fun h h' heq => ?_
    subst heq
    exact .pure (.inl rfl)
  · cases he with
    | same e =>
        cases e with
        | transport message => exact .pure (.inr (.retryable none))
        | _ => exact .throw (.same _)
    | transport message message' => exact .pure (.inr (.retryable none))
    | permanent message message' => exact .throw (.permanent message message')

theorem transportSend_rel (hw : w.Like w' kind payload payload') (h : Headers) :
    Effect.Rel Export.Like (transportSend w kind payload h) (transportSend w' kind payload' h)
      ExportOutcome.Like Exn.Like :=
  .call (fun s t hst => hw.send s.trace t.trace h hst.trace) fun _ _ _ _ hst hr =>
    hst.record (.send kind payload payload' h hr)

theorem attempt_rel (hc : client.Like client' kind) (hw : w.Like w' kind payload payload') :
    Effect.Rel Export.Like (client.attempt w kind payload) (client'.attempt w' kind payload')
      ExportOutcome.Like Exn.Like := by
  unfold attempt
  refine .bind (resolve_rel hc hw) fun r r' hr => ?_
  cases hr with
  | inr ho => exact .pure ho
  | @inl h h' heq =>
      subst heq
      refine .bind (transportSend_rel hw h) fun o o' ho => .bind .get fun s t hst => ?_
      rw [hst.reauthed, hc.hasCredentials, ho.isCredentialRejection_eq]
      split
      · refine .bind (.modifies fun s t hst => ⟨hst.trace, rfl⟩) fun _ _ _ =>
          .bind (Export.call_rel hw.invalidate (.invalidate kind)) fun _ _ _ =>
            .bind (resolve_rel hc hw) fun r r' hr => ?_
        cases hr with
        | inr ho => exact .pure ho
        | @inl h h' heq =>
            subst heq
            exact transportSend_rel hw h
      · exact .pure ho

theorem conclude_like {o o' : ExportOutcome T} (h : o.Like o') :
    Both ExportOutcome.Like Exn.Like (conclude kind o) (conclude kind o') := by
  cases h with
  | success => exact .ok .success
  | partialSuccess p => exact .ok (.partialSuccess p)
  | retryable retryAfter => exact .error (.transport _ _)
  | permanent h => exact .error (.permanent _ _)

/-- Exports of what is encoded do alike in worlds that answer alike. -/
theorem exportSignal_rel [Seconds T] (hc : client.Like client' kind)
    (hw : w.Like w' kind payload payload') {data : List Data}
    (hdata : client.encode kind data = .ok payload)
    (hdata' : client'.encode kind data = .ok payload') (rounds : Nat) :
    Effect.Rel Export.Like (client.exportSignal w kind data rounds)
      (client'.exportSignal w' kind data rounds) (Option.Rel ExportOutcome.Like) Exn.Like := by
  unfold exportSignal
  rw [hdata, hdata']
  split
  · exact .pure (.some .success)
  · refine .bind (.modifies fun s t hst => ⟨hst.trace, rfl⟩) fun _ _ _ => ?_
    have hdeliver : Effect.Rel Export.Like (client.deliver w kind payload rounds)
        (client'.deliver w' kind payload' rounds) (Option.Rel ExportOutcome.Like) Exn.Like := by
      unfold deliver
      rw [hc.policy]
      exact withRetry_rel (attempt_rel hc hw)
        (fun d => Export.call_rel (fun tr tr' h => hw.sleep tr tr' d h) (.sleep d))
        (Export.read_rel hw.monotonic .monotonic) (Export.read_rel hw.jitter .jitter) rounds
    refine .bind hdeliver fun r r' hr => ?_
    cases hr with
    | none => exact .pure .none
    | @some o o' ho =>
        have hconclude : Both ExportOutcome.Like Exn.Like (conclude kind o) (conclude kind o') :=
          conclude_like ho
        dsimp only
        generalize conclude kind o = c at hconclude ⊢
        generalize conclude kind o' = c' at hconclude ⊢
        cases hconclude with
        | ok h => exact .pure (.some h)
        | error he => exact .throw he

end OTLPClient

/-! ### Two transports -/

/-- A world whose sends are calls over gRPC. -/
def World.overGrpc (world : World Binary64) (g : GRPCTransport) (lib : Rpc.Lib)
    (answer : List (Event Binary64) → Rpc.Call → Rpc.Reply) : World Binary64 :=
  { world with
    send := fun tr kind payload headers =>
      (g.send lib (answer tr) kind payload headers).mapError .builtin }

section Transports

variable (t : HTTPTransport) (lib : HttpLib) (g : GRPCTransport) (rpc : Rpc.Lib)

/-- What a collector answers over HTTP, at a reading of the clock, and what it answers over gRPC in
its place. -/
inductive Reply.Like (now : Binary64) (kind : SignalKind) : Reply → Rpc.Reply → Prop where
  | accepted {r : Response} {raw : Bytes} {p : Option PartialSuccess} (hs : IsSuccess r.status)
      (hbody : t.encoder.decodeResponse kind r.body = .ok p)
      (hraw : g.encoder.decodeResponse kind raw = .ok p) :
      Like now kind (.response r) (.response raw)
  | unreachable {type message : String} {exc : Rpc.Error}
      (hcode : exc.code ∈ GRPCTransport.retryable) (hpushback : pushback rpc exc = .ok none) :
      Like now kind (.failed type message) (.failed exc)
  | busy {r : Response} {exc : Rpc.Error} {retryAfter : Option Binary64}
      (hs : r.status ∈ retryableStatuses) (hcode : exc.code ∈ GRPCTransport.retryable)
      (hafter : readRetryAfter lib.date ((r.header "Retry-After").getD "") now = .ok retryAfter)
      (hpushback : pushback rpc exc = .ok retryAfter) : Like now kind (.response r) (.failed exc)
  | refused {r : Response} {exc : Rpc.Error} (hs : r.status = 401 ∨ r.status = 403)
      (hcode : exc.code = .unauthenticated ∨ exc.code = .permissionDenied) :
      Like now kind (.response r) (.failed exc)
  | rejected {r : Response} {exc : Rpc.Error} (hs : ¬ IsSuccess r.status)
      (hs' : r.status ∉ 401 :: 403 :: retryableStatuses)
      (hcode : exc.code ∉ .unauthenticated :: .permissionDenied :: GRPCTransport.retryable) :
      Like now kind (.response r) (.failed exc)

variable {t lib g rpc}

theorem not_isSuccess_of_retryable {status : Int} (h : status ∈ retryableStatuses) :
    ¬ IsSuccess status :=
  fun hs => not_retryable_of_isSuccess hs h

/-- Both transports class what corresponds alike. -/
theorem transports_agree {now : Binary64} {kind : SignalKind} {payload payload' : Bytes}
    {headers : Headers} {post : Request → Reply} {answer : Rpc.Call → Rpc.Reply}
    (h : Reply.Like t lib g rpc now kind (post (t.request lib kind payload headers))
      (answer (g.call kind payload' headers))) :
    Both ExportOutcome.Like Exn.Like
      ((t.send lib post now kind payload headers).mapError .builtin)
      ((g.send rpc answer kind payload' headers).mapError .builtin) := by
  unfold HTTPTransport.send GRPCTransport.send
  generalize post (t.request lib kind payload headers) = reply at h
  generalize answer (g.call kind payload' headers) = reply' at h
  cases h with
  | @accepted r raw p hs hbody hraw =>
      dsimp only
      unfold HTTPTransport.classify
      rw [if_pos hs, hbody, hraw]
      cases p with
      | none => exact .ok .success
      | some p => exact .ok (.partialSuccess p)
  | unreachable hcode hpushback =>
      dsimp only
      unfold GRPCTransport.classify
      rw [if_pos hcode, hpushback]
      exact .ok (.retryable none)
  | @busy r exc retryAfter hs hcode hafter hpushback =>
      dsimp only
      unfold HTTPTransport.classify GRPCTransport.classify
      rw [if_neg (not_isSuccess_of_retryable hs), if_pos hs, hafter, if_pos hcode, hpushback]
      exact .ok (.retryable retryAfter)
  | @refused r exc hs hcode =>
      have hcode' : exc.code ∉ GRPCTransport.retryable := by
        rcases hcode with h | h <;> rw [h] <;> decide
      have hs' : ¬ IsSuccess r.status ∧ r.status ∉ retryableStatuses := by
        rcases hs with h | h <;> rw [h] <;> decide
      dsimp only
      unfold HTTPTransport.classify GRPCTransport.classify
      rw [if_neg hs'.1, if_neg hs'.2, if_neg hcode']
      refine .ok (.permanent ?_)
      rcases hs with h | h <;> rcases hcode with h' | h' <;> rw [h, h'] <;> rfl
  | @rejected r exc hs hs' hcode =>
      simp only [List.mem_cons, not_or] at hs' hcode
      obtain ⟨h401, h403, hr⟩ := hs'
      obtain ⟨hun, hden, hcode⟩ := hcode
      dsimp only
      unfold HTTPTransport.classify GRPCTransport.classify
      rw [if_neg hs, if_neg hr, if_neg hcode]
      refine .ok (.permanent ?_)
      have hhttp : [401, 403].contains r.status = false := by simp [h401, h403]
      have hgrpc : GRPCTransport.authStatus exc.code = none := by
        cases hc : exc.code with
        | unauthenticated => exact absurd hc hun
        | permissionDenied => exact absurd hc hden
        | _ => rfl
      rw [hgrpc]
      exact hhttp

/-- **One export, two transports.**  Let a client be built over OTLP/HTTP and over OTLP/gRPC, with
the same headers, policy and provider, and let the collector answer over gRPC, whenever all that
happened is alike, what corresponds to its answer over HTTP: a decoded response for a decoded
response, a hint for a hint of as many seconds, `UNAUTHENTICATED` or `PERMISSION_DENIED` for a 401
or a 403.  Then an export of what both encoders encode does over gRPC what it does over HTTP: it
returns or raises alike, after the same requests for headers, the same invalidations, the same
sleeps and as many sends with the same headers, in one order. -/
theorem exports_interchangeable [Seconds Binary64] {Data : Type}
    {client client' : OTLPClient Binary64 Data} {world world' : World Binary64}
    {kind : SignalKind} {payload payload' : Bytes} {data : List Data}
    {post : List (Event Binary64) → Request → Reply} {now : List (Event Binary64) → Binary64}
    {answer : List (Event Binary64) → Rpc.Call → Rpc.Reply} (hc : client.Like client' kind)
    (hw : world.Around world' kind) (hdata : client.encode kind data = .ok payload)
    (hdata' : client'.encode kind data = .ok payload')
    (hreply : ∀ tr tr' headers, List.Forall₂ Event.Like tr tr' →
      Reply.Like t lib g rpc (now tr) kind (post tr (t.request lib kind payload headers))
        (answer tr' (g.call kind payload' headers)))
    (rounds : Nat) :
    let http := client.exportSignal (world.overHttp t lib post now) kind data rounds {}
    let grpc := client'.exportSignal (world'.overGrpc g rpc answer) kind data rounds {}
    Both (Option.Rel ExportOutcome.Like) Exn.Like http.1 grpc.1 ∧
      List.Forall₂ Event.Like http.2.trace grpc.2.trace := by
  have hlike : (world.overHttp t lib post now).Like (world'.overGrpc g rpc answer) kind payload
      payload' :=
    { headers := hw.headers
      invalidate := hw.invalidate
      sleep := hw.sleep
      monotonic := hw.monotonic
      jitter := hw.jitter
      send := fun tr tr' headers htr => transports_agree (hreply tr tr' headers htr) }
  obtain ⟨hends, hstates⟩ :=
    OTLPClient.exportSignal_rel hc hlike hdata hdata' rounds {} {} ⟨.nil, rfl⟩
  exact ⟨hends, hstates.trace⟩

/-- A client with a provider, that exports one body. -/
def bearerClient : OTLPClient Binary64 Unit where
  headersFor _ := []
  encode _ _ := .ok []
  policy := doublePolicy
  hasCredentials := true

/-- Refuses the credentials of every request. -/
def refusingPost (_ : List (Event Binary64)) (_ : Request) : Reply :=
  .response { status := 401, header := fun _ => none, body := [] }

/-- Refuses the credentials of every call. -/
def refusingAnswer (_ : List (Event Binary64)) (_ : Rpc.Call) : Rpc.Reply :=
  .failed { code := .unauthenticated, details := none, trailingMetadata := none }

/-- The gRPC transport of the JSON encoder. -/
def GRPCTransport.plain (json : Proto.JsonLib) : GRPCTransport where
  config := { timeout := .one }
  encoder := JSONEncoder.encoder json

/-- Reads no text as a number, and names the one code of `refusingAnswer`. -/
def Rpc.Lib.unread : Rpc.Lib where
  float _ := .error (.valueError "could not convert string to float")
  divThousand x := x
  str code := if code = .unauthenticated then "StatusCode.UNAUTHENTICATED" else ""

theorem calmWorld_around (kind : SignalKind) : calmWorld.Around calmWorld kind where
  headers _ _ _ := rfl
  invalidate _ _ _ := rfl
  sleep _ _ _ _ := rfl
  monotonic _ _ _ := rfl
  jitter _ _ _ := rfl

theorem exports_interchangeable_refused :
    let http := @OTLPClient.exportSignal _ _ bearerClient
      (calmWorld.overHttp (.plain (.only [] .null)) .plain refusingPost fun _ => .posZero) .metrics
      .rounded [()] 1 {}
    let grpc := @OTLPClient.exportSignal _ _ bearerClient
      (calmWorld.overGrpc (.plain (.only [] .null)) .unread refusingAnswer) .metrics .rounded [()] 1
      {}
    Both (Option.Rel ExportOutcome.Like) Exn.Like http.1 grpc.1 ∧
      List.Forall₂ Event.Like http.2.trace grpc.2.trace :=
  @exports_interchangeable _ _ _ _ .rounded _ _ _ _ _ _ _ _ _ _ _ _ ⟨rfl, rfl, rfl⟩
    (calmWorld_around .metrics) rfl rfl
    (fun _ _ _ _ => Reply.Like.refused (Or.inl rfl) (Or.inl rfl)) 1

end Transports

end OtlpClient
