import OtlpClient.Client
import OtlpClient.Transport.Http

/-!
# Client — partial successes

Where a partial success that an export returns comes from.

* `exportSignal_report`: a send answered with it.
* `export_report`: over HTTP, the body of a 2xx response.
-/

namespace OtlpClient

/-- A world whose sends are posts over HTTP: what was sent before decides the reply and the reading
of the wall clock. -/
def World.overHttp (world : World Binary64) (t : HTTPTransport) (lib : HttpLib)
    (post : List (Event Binary64) → Request → Reply) (now : List (Event Binary64) → Binary64) :
    World Binary64 :=
  { world with
    send := fun tr kind payload headers =>
      (t.send lib (post tr) (now tr) kind payload headers).mapError .builtin }

namespace OTLPClient

variable {T Data : Type} {client : OTLPClient T Data} {world : World T} {kind : SignalKind}
  {payload : Bytes}

/-- Some send of the signal was answered with the partial success. -/
def Reported (world : World T) (kind : SignalKind) (p : PartialSuccess) : Prop :=
  ∃ tr payload headers, world.send tr kind payload headers = .ok (.partialSuccess p)

/-- A partial success is one a send was answered with. -/
def Truthful (world : World T) (kind : SignalKind) (o : ExportOutcome T) : Prop :=
  ∀ p, o = .partialSuccess p → Reported world kind p

theorem truthful_of_retryable {o : ExportOutcome T} (h : o.isRetryable = true) :
    Truthful world kind o := by
  rintro p rfl
  cases h

/-- What resolving the headers gives instead is to be retried. -/
theorem resolve_truthful : Effect.Spec (fun _ => True) (client.resolve world kind)
    (Sum.elim (fun _ _ => True) fun o _ => Truthful world kind o) (fun _ _ => True) := by
  refine .tryCatch (F := fun _ _ => True) (.bind .trivial fun hs => .pure fun s h => h) fun e => ?_
  cases e with
  | transport message => exact .pure fun s _ => truthful_of_retryable rfl
  | _ => exact .throw fun _ _ => trivial

theorem transportSend_truthful (hs : Headers) :
    Effect.Spec (fun _ => True) (transportSend world kind payload hs)
      (fun o _ => Truthful world kind o) (fun _ _ => True) := by
  unfold transportSend
  refine .call (fun s o _ ho p hp => ?_) fun _ _ _ _ => trivial
  subst hp
  exact ⟨s.trace, payload, hs, ho⟩

/-- Whichever of its two sends an attempt returns the outcome of. -/
theorem attempt_truthful : Effect.Spec (fun _ => True) (client.attempt world kind payload)
    (fun o _ => Truthful world kind o) (fun _ _ => True) :=
  attempt_rule (I := fun _ => True) resolve_truthful transportSend_truthful
    (fun _ _ _ => .call (fun _ _ _ _ => trivial) fun _ _ _ _ => trivial) fun _ _ h => h

variable [Seconds T]

/-- A partial success an export returns is one a send was answered with. -/
theorem exportSignal_report {data : List Data} {rounds : Nat} {s : Export T} {p : PartialSuccess}
    (h : (client.exportSignal world kind data rounds s).1 = .ok (some (.partialSuccess p))) :
    Reported world kind p := by
  have hdeliver : ∀ payload, Effect.Spec (fun _ => True) (client.deliver world kind payload rounds)
      (fun result _ => ∀ o, result = some o → Truthful world kind o) (fun _ _ => True) := by
    intro payload
    -- The loop returns an outcome of `attempt`, or one that is to be retried.
    refine (withRetry_spec (I := fun _ => True) (Q := fun o _ => Truthful world kind o)
      (E := fun _ _ => True) ?_ (fun _ => .trivial) .trivial .trivial (fun _ _ _ => trivial)
      (fun o s ho _ => truthful_of_retryable ho) rounds).conseq (fun _ _ => trivial) ?_
      fun _ _ _ => trivial
    · refine attempt_truthful.conseq (fun _ h => h) (fun o s ho => ?_) fun _ _ _ => trivial
      by_cases hr : o.isRetryable = true
      · rw [if_pos hr]
        trivial
      · rw [if_neg hr]
        exact ho
    · rintro result s hres o rfl
      exact hres
  have hspec : Effect.Spec (fun _ => True) (client.exportSignal world kind data rounds)
      (fun result _ => ∀ o, result = some o → Truthful world kind o) (fun _ _ => True) := by
    refine exportSignal_spec (I := fun _ => True) ?_ (fun _ _ _ _ => trivial) (fun _ _ => trivial)
      (fun payload _ => hdeliver payload) (fun _ _ => nofun) (fun _ _ _ _ _ => trivial)
      fun _ _ h => h
    rintro s - o ⟨⟩
    exact nofun
  have hs := hspec s trivial
  rcases hr : client.exportSignal world kind data rounds s with ⟨e | result, s'⟩ <;>
    rw [hr] at hs h
  · cases h
  · cases h
    exact hs _ rfl p rfl

end OTLPClient

/-- A partial success that `send` returns is what its decoder read of a 2xx response. -/
theorem HTTPTransport.send_report {t : HTTPTransport} {lib : HttpLib} {post : Request → Reply}
    {now : Binary64} {kind : SignalKind} {payload : Bytes} {headers : Headers} {p : PartialSuccess}
    (h : t.send lib post now kind payload headers = .ok (.partialSuccess p)) :
    ∃ request r, post request = .response r ∧ IsSuccess r.status ∧
      t.encoder.decodeResponse kind r.body = .ok (some p) := by
  unfold HTTPTransport.send at h
  cases hpost : post (t.request lib kind payload headers) with
  | failed type message =>
      rw [hpost] at h
      cases h
  | response r =>
      rw [hpost] at h
      dsimp only [HTTPTransport.classify] at h
      by_cases hs : IsSuccess r.status
      · rw [if_pos hs] at h
        refine ⟨_, r, hpost, hs, ?_⟩
        cases hd : t.encoder.decodeResponse kind r.body with
        | error e =>
            rw [hd] at h
            cases h
        | ok result =>
            rw [hd] at h
            cases result with
            | none => cases h
            | some q =>
                cases h
                rfl
      · rw [if_neg hs] at h
        by_cases hr : r.status ∈ retryableStatuses
        · rw [if_pos hr] at h
          cases hseconds : readRetryAfter lib.date ((r.header "Retry-After").getD "") now with
          | error e =>
              rw [hseconds] at h
              cases h
          | ok seconds =>
              rw [hseconds] at h
              cases h
        · rw [if_neg hr] at h
          cases h

/-- Over HTTP, a partial success that an export returns is what the decoder read of a 2xx
response. -/
theorem export_report [Seconds Binary64] {Data : Type} {client : OTLPClient Binary64 Data}
    {world : World Binary64} {t : HTTPTransport} {lib : HttpLib}
    {post : List (Event Binary64) → Request → Reply} {now : List (Event Binary64) → Binary64}
    {kind : SignalKind} {data : List Data} {rounds : Nat} {s : Export Binary64} {p : PartialSuccess}
    (h : (client.exportSignal (world.overHttp t lib post now) kind data rounds s).1 =
      .ok (some (.partialSuccess p))) :
    ∃ tr request r, post tr request = .response r ∧ IsSuccess r.status ∧
      t.encoder.decodeResponse kind r.body = .ok (some p) := by
  obtain ⟨tr, payload, headers, hsend⟩ := OTLPClient.exportSignal_report h
  change (t.send lib (post tr) (now tr) kind payload headers).mapError Exn.builtin = _ at hsend
  cases ht : t.send lib (post tr) (now tr) kind payload headers with
  | error e =>
      rw [ht] at hsend
      cases hsend
  | ok o =>
      rw [ht] at hsend
      cases hsend
      obtain ⟨request, r, hpost, hs, hd⟩ := HTTPTransport.send_report ht
      exact ⟨tr, request, r, hpost, hs, hd⟩

end OtlpClient
