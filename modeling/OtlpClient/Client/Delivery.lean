import OtlpClient.Client.Reports
import OtlpClient.Encoding.Body
import OtlpClient.Retry.Overflow

/-!
# Client — what an export that returns has delivered

The envelope of `export_metrics`, `export_logs` and `export_traces`, and what the collector has of
it when they return.

* `exportSignal_acks`: an export that returns was acknowledged once, by its last send.
* `HTTPTransport.send_accepted`: over HTTP, by a 2xx response to a request with the payload.
* `export_delivered`: the payload reads as the envelope.
-/

namespace OtlpClient

/-! ### Acknowledgements -/

section Acks

variable {T Data : Type}

/-- A send that was answered with `Success` or `PartialSuccess`. -/
def Event.isAck : Event T → Bool
  | .send _ _ _ (.ok o) => o.isAccepted
  | _ => false

/-- The sends that were acknowledged. -/
def acks (tr : List (Event T)) : List (Event T) := tr.filter Event.isAck

theorem acks_snoc (tr : List (Event T)) (e : Event T) :
    acks (tr ++ [e]) = if e.isAck then acks tr ++ [e] else acks tr := by
  rw [acks, List.filter_append, List.filter_singleton]
  cases e.isAck with
  | true => rfl
  | false => exact List.append_nil _

namespace OTLPClient

variable {client : OTLPClient T Data} {world : World T} {kind : SignalKind} {payload : Bytes}
  {base : List (Event T)}

/-- What has happened since was not acknowledged. -/
def Unacked (base : List (Event T)) (s : Export T) : Prop :=
  ∃ es, s.trace = base ++ es ∧ acks es = []

/-- The last send was acknowledged, and nothing else of what has happened since. -/
def Acked (world : World T) (kind : SignalKind) (payload : Bytes) (base : List (Event T))
    (o : ExportOutcome T) (s : Export T) : Prop :=
  ∃ es headers, s.trace = base ++ es ++ [.send kind payload headers (.ok o)] ∧ acks es = [] ∧
    world.send (base ++ es) kind payload headers = .ok o

/-- Where an outcome leaves the record. -/
def Concluded (world : World T) (kind : SignalKind) (payload : Bytes) (base : List (Event T))
    (o : ExportOutcome T) (s : Export T) : Prop :=
  if o.isAccepted = true then Acked world kind payload base o s else Unacked base s

theorem unacked_refl (s : Export T) : Unacked s.trace s := ⟨[], (List.append_nil _).symm, rfl⟩

theorem Unacked.record {s : Export T} {e : Event T} (h : Unacked base s) (he : e.isAck = false) :
    Unacked base (s.record e) := by
  obtain ⟨es, hes, hno⟩ := h
  refine ⟨es ++ [e], ?_, ?_⟩
  · rw [Export.record, hes, List.append_assoc]
  · rw [acks_snoc, he]
    exact hno

theorem concluded_of_retryable {o : ExportOutcome T} {s : Export T} (ho : o.isRetryable = true)
    (h : Unacked base s) : Concluded world kind payload base o s := by
  rw [Concluded, if_neg]
  · exact h
  · cases o with
    | retryable status message retryAfter => nofun
    | _ => cases ho

theorem resolve_acks : Effect.Spec (Unacked base) (client.resolve world kind)
    (Sum.elim (fun _ => Unacked base) (Concluded world kind payload base))
    (fun _ => Unacked base) := by
  have hheaders : Effect.Spec (Unacked base) (client.headers world kind)
      (fun _ => Unacked base) (fun _ => Unacked base) := by
    unfold headers
    by_cases hcred : client.hasCredentials = true
    · dsimp only
      rw [if_pos hcred]
      exact .bind (.call (fun s _ h _ => h.record rfl) fun s _ h _ => h.record rfl) fun _ =>
        .pure fun _ h => h
    · dsimp only
      rw [if_neg hcred]
      exact .pure fun _ h => h
  refine .tryCatch (F := fun _ => Unacked base) (.bind hheaders fun _ => .pure fun _ h => h) ?_
  intro e
  cases e with
  | transport message => exact .pure fun _ h => concluded_of_retryable rfl h
  | _ => exact .throw fun _ h => h

theorem transportSend_acks (headers : Headers) :
    Effect.Spec (Unacked base) (transportSend world kind payload headers)
      (Concluded world kind payload base) (fun _ => Unacked base) := by
  unfold transportSend
  refine .call (fun s o h hsend => ?_) fun s e h _ => h.record rfl
  rw [Concluded]
  split
  · obtain ⟨es, hes, hno⟩ := h
    rw [hes] at hsend
    refine ⟨es, headers, ?_, hno, hsend⟩
    rw [Export.record, hes]
  · rename_i ho
    exact h.record (Bool.eq_false_iff.mpr ho)

/-- An attempt is acknowledged by its last send. -/
theorem attempt_acks : Effect.Spec (Unacked base) (client.attempt world kind payload)
    (Concluded world kind payload base) (fun _ => Unacked base) := by
  refine attempt_rule resolve_acks transportSend_acks (fun o _ ho => ?_) fun _ _ h => h
  -- Credentials that are refused acknowledge nothing.
  have hrefused : ∀ s : Export T, Concluded world kind payload base o { s with reauthed := false } →
      Unacked base s := by
    intro s h
    rw [Concluded, if_neg] at h
    · exact h
    · cases o with
      | permanent status message => nofun
      | _ => cases ho
  exact .call (fun s _ h _ => (hrefused s h.2).record rfl) fun s _ h _ =>
    (hrefused s h.2).record rfl

/-- What is returned is accepted. -/
theorem isAccepted_of_conclude {o o' : ExportOutcome T} (h : conclude kind o = .ok o') :
    o.isAccepted = true := by
  cases o with
  | success => rfl
  | partialSuccess p => rfl
  | retryable status message retryAfter => cases h
  | permanent status message => cases h

variable [Seconds T]

theorem deliver_acks (rounds : Nat) :
    Effect.Spec (Unacked base) (client.deliver world kind payload rounds)
      (fun result s => match result with
        | some o => Concluded world kind payload base o s
        | none => Unacked base s)
      (fun _ => Unacked base) := by
  refine withRetry_spec (attempt_acks.conseq (fun _ h => h) (fun o s h => ?_) fun _ _ h => h)
    (fun d => .call (fun s _ h _ => h.record rfl) fun s _ h _ => h.record rfl)
    (fun s h => ?_) (fun s h => ?_) (fun _ _ h => h) (fun o s ho h => concluded_of_retryable ho h)
    rounds
  · split
    · rename_i ho
      rw [Concluded, if_neg] at h
      · exact h
      · cases o with
        | retryable status message retryAfter => nofun
        | _ => cases ho
    · exact h
  · exact (h.record rfl : Unacked base (s.record (.monotonic _)))
  · exact (h.record rfl : Unacked base (s.record (.jitter _)))

/-- What an export has had acknowledged, by its result. -/
def Delivered (client : OTLPClient T Data) (world : World T) (kind : SignalKind)
    (data : List Data) (s : Export T) : Option (ExportOutcome T) → Export T → Prop
  | some o, s' => o.isAccepted = true ∧ (data = [] ∧ s' = s ∨ ∃ payload,
      client.encode kind data = .ok payload ∧ Acked world kind payload s.trace o s')
  | none, s' => Unacked s.trace s'

/-- Whatever the world answers, an export of some data that returns was acknowledged by its last send,
which carried the data, and by no other, and an export that raises was acknowledged by none. -/
theorem exportSignal_acks (client : OTLPClient T Data) (world : World T) (kind : SignalKind)
    (data : List Data) (rounds : Nat) (s : Export T) :
    match client.exportSignal world kind data rounds s with
    | (.ok result, s') => Delivered client world kind data s result s'
    | (.error _, s') => Unacked s.trace s' := by
  have hspec : Effect.Spec (fun s' => s' = s) (client.exportSignal world kind data rounds)
      (Delivered client world kind data s) (fun _ => Unacked s.trace) := by
    have hrefl : ∀ s', s' = s → Unacked s.trace s' := by
      rintro s' rfl
      exact unacked_refl s'
    unfold exportSignal
    by_cases hd : data.isEmpty = true
    · rw [if_pos hd]
      exact .pure fun s' hs => ⟨rfl, Or.inl ⟨List.isEmpty_iff.mp hd, hs⟩⟩
    · rw [if_neg hd]
      cases hp : client.encode kind data with
      | error e => exact .throw fun s' hs => hrefl s' hs
      | ok payload =>
          refine .bind (.modifies (I := Unacked s.trace) fun s' hs => hrefl s' hs) fun _ =>
            .bind (deliver_acks rounds) fun result => ?_
          cases result with
          | none => exact .pure fun _ h => h
          | some o =>
              dsimp only
              cases ho : conclude kind o with
              | error e =>
                  refine .throw fun s' h => ?_
                  rw [Concluded, if_neg] at h
                  · exact h
                  · cases o with
                    | success => cases ho
                    | partialSuccess p => cases ho
                    | _ => nofun
              | ok o' =>
                  have hacc := isAccepted_of_conclude ho
                  rw [conclude_ok ho]
                  refine .pure fun s' h => ⟨hacc, Or.inr ⟨payload, hp, ?_⟩⟩
                  rwa [Concluded, if_pos hacc] at h
  have h := hspec s rfl
  rcases hr : client.exportSignal world kind data rounds s with ⟨e | result, s'⟩ <;>
    rw [hr] at h <;> exact h

end OTLPClient

end Acks

/-! ### Over HTTP -/

/-- What the collector said of the records it accepted. -/
def ExportOutcome.partial? {T : Type} : ExportOutcome T → Option PartialSuccess
  | .partialSuccess p => some p
  | _ => none

/-- A send is accepted by a 2xx response to what is posted for it. -/
theorem HTTPTransport.send_accepted {t : HTTPTransport} {lib : HttpLib} {post : Request → Reply}
    {now : Binary64} {kind : SignalKind} {payload : Bytes} {headers : Headers}
    {o : ExportOutcome Binary64} (h : t.send lib post now kind payload headers = .ok o)
    (ho : o.isAccepted = true) :
    ∃ r, post (t.request lib kind payload headers) = .response r ∧ IsSuccess r.status ∧
      t.encoder.decodeResponse kind r.body = .ok o.partial? := by
  unfold HTTPTransport.send at h
  cases hpost : post (t.request lib kind payload headers) with
  | failed type message =>
      rw [hpost] at h
      cases h
      cases ho
  | response r =>
      rw [hpost] at h
      dsimp only [HTTPTransport.classify] at h
      by_cases hs : IsSuccess r.status
      · rw [if_pos hs] at h
        refine ⟨r, rfl, hs, ?_⟩
        cases hd : t.encoder.decodeResponse kind r.body with
        | error e =>
            rw [hd] at h
            cases h
        | ok result =>
            rw [hd] at h
            cases result with
            | none =>
                cases h
                rfl
            | some p =>
                cases h
                rfl
      · rw [if_neg hs] at h
        by_cases hr : r.status ∈ retryableStatuses
        · rw [if_pos hr] at h
          cases hseconds : readRetryAfter lib.date ((r.header "Retry-After").getD "") now with
          | error e =>
              rw [hseconds] at h
              cases h
          | ok seconds =>
              rw [hseconds] at h
              cases h
              cases ho
        · rw [if_neg hr] at h
          cases h
          cases ho

/-! ### Envelopes -/

/-- An envelope of one of the three signals. -/
inductive Envelope where
  | metrics (rm : ResourceMetrics)
  | logs (rl : ResourceLogs)
  | traces (rs : ResourceSpans)

/-- The envelopes of a signal. -/
def payload? : (kind : SignalKind) → List Envelope → Option (Payload kind)
  | .metrics, data => data.mapM fun
      | .metrics rm => some rm
      | _ => none
  | .logs, data => data.mapM fun
      | .logs rl => some rl
      | _ => none
  | .traces, data => data.mapM fun
      | .traces rs => some rs
      | _ => none
  | .profiles, _ => some ()

/-- `encode` of the JSON encoder, to a client.  An envelope of another signal has not the fields
that are read. -/
def JSONEncoder.encodeEnvelopes (F : Proto.FloatText) (d : Dumper) (kind : SignalKind)
    (data : List Envelope) : Except Exn Bytes :=
  match payload? kind data with
  | some payload => (JSONEncoder.body F d kind payload).mapError .builtin
  | none => .error (.other "AttributeError" "")

theorem JSONEncoder.encodeEnvelopes_eq {F : Proto.FloatText} {d : Dumper} {kind : SignalKind}
    {data : List Envelope} {payload : Payload kind} (h : payload? kind data = some payload) :
    JSONEncoder.encodeEnvelopes F d kind data =
      (JSONEncoder.body F d kind payload).mapError .builtin := by
  unfold JSONEncoder.encodeEnvelopes
  rw [h]

/-- What an acknowledgement over HTTP is: of a request that carries the payload, by a 2xx
response that the outcome is read from. -/
structure Delivery (F : Proto.FloatText) (t : HTTPTransport) (lib : HttpLib)
    (post : List (Event Binary64) → Request → Reply) {kind : SignalKind} (data : Payload kind)
    (o : ExportOutcome Binary64) (past : List (Event Binary64)) (body : Bytes)
    (headers : Headers) : Prop where
  carries : readBody F kind body = some data.normalize
  accepted : ∃ r, post past (t.request lib kind body headers) = .response r ∧ IsSuccess r.status ∧
    t.encoder.decodeResponse kind r.body = .ok o.partial?

section Delivered

variable {F : Proto.FloatText} {d : Dumper}
  {client : OTLPClient Binary64 Envelope} {world : World Binary64} {t : HTTPTransport}
  {lib : HttpLib} {post : List (Event Binary64) → Request → Reply}
  {now : List (Event Binary64) → Binary64} {kind : SignalKind}

theorem delivery_of_acked (hF : F.Lawful) (hclient : client.encode = JSONEncoder.encodeEnvelopes F d)
    {data : List Envelope} {payload : Payload kind} (hdata : payload? kind data = some payload)
    (hwell : payload.WellTyped fun _ => True) (hfinite : ∀ x ∈ payload.floats, x.IsFinite)
    {base : List (Event Binary64)} {o : ExportOutcome Binary64} {s : Export Binary64} {body : Bytes}
    (hbody : client.encode kind data = .ok body) (ho : o.isAccepted = true)
    (h : OTLPClient.Acked (world.overHttp t lib post now) kind body base o s) :
    ∃ es headers, s.trace = base ++ es ++ [.send kind body headers (.ok o)] ∧ acks es = [] ∧
      Delivery F t lib post payload o (base ++ es) body headers := by
  obtain ⟨es, headers, htrace, hno, hsend⟩ := h
  refine ⟨es, headers, htrace, hno, ?_, ?_⟩
  · rw [hclient, JSONEncoder.encodeEnvelopes_eq hdata] at hbody
    cases hjson : JSONEncoder.body F d kind payload with
    | error e =>
        rw [hjson] at hbody
        cases hbody
    | ok body' =>
        rw [hjson] at hbody
        cases hbody
        exact readBody_body hF hwell hfinite hjson
  · change (t.send lib (post _) (now _) kind body headers).mapError Exn.builtin = _ at hsend
    cases ht : t.send lib (post (base ++ es)) (now (base ++ es)) kind body headers with
    | error e =>
        rw [ht] at hsend
        cases hsend
    | ok o' =>
        rw [ht] at hsend
        cases hsend
        exact HTTPTransport.send_accepted ht ho

/-- **What an export that returns has delivered.**  Over HTTP with the JSON encoder: an export of
some well-typed envelopes of finite floats that returns was acknowledged once, by its last send; the
body of that request reads, as UTF-8, JSON and OTLP, as the envelopes; the response to it was a 2xx;
and the partial success that is returned, if one is, is what the decoder reads in it. -/
theorem export_delivered [Seconds Binary64] (hF : F.Lawful)
    (hclient : client.encode = JSONEncoder.encodeEnvelopes F d)
    {data : List Envelope} {payload : Payload kind} (hne : data ≠ [])
    (hdata : payload? kind data = some payload) (hwell : payload.WellTyped fun _ => True)
    (hfinite : ∀ x ∈ payload.floats, x.IsFinite) {rounds : Nat} {s s' : Export Binary64}
    {o : ExportOutcome Binary64}
    (h : client.exportSignal (world.overHttp t lib post now) kind data rounds s =
      (.ok (some o), s')) :
    ∃ es body headers, s'.trace = s.trace ++ es ++ [.send kind body headers (.ok o)] ∧
      acks es = [] ∧ Delivery F t lib post payload o (s.trace ++ es) body headers := by
  have hacks := client.exportSignal_acks (world.overHttp t lib post now) kind data rounds s
  rw [h] at hacks
  obtain ⟨ho, hempty | ⟨body, hbody, hacked⟩⟩ := hacks
  · exact absurd hempty.1 hne
  · obtain ⟨es, headers, hdelivery⟩ :=
      delivery_of_acked hF hclient hdata hwell hfinite hbody ho hacked
    exact ⟨es, body, headers, hdelivery⟩

end Delivered

/-! ### One gauge -/

/-- A client without a provider that writes JSON. -/
def jsonClient : OTLPClient Binary64 Envelope where
  headersFor _ := []
  encode := JSONEncoder.encodeEnvelopes .byBits .stdlib
  policy := doublePolicy
  hasCredentials := false

/-- Nothing is raised. -/
def calmWorld : World Binary64 where
  headers _ _ := .ok []
  invalidate _ _ := .ok ()
  send _ _ _ _ := .ok .success
  sleep _ _ := .ok ()
  monotonic _ := .posZero
  jitter _ := .posZero

/-- A collector that accepts what it is sent. -/
def acceptingPost (_ : List (Event Binary64)) (_ : Request) : Reply :=
  .response { status := 200, header := fun _ => none, body := [] }

def gaugeEnvelopes : List Envelope := (show List ResourceMetrics from gaugePayload .one).map .metrics

theorem gaugeEnvelopes_ne_nil : gaugeEnvelopes ≠ [] := List.cons_ne_nil _ _

theorem gaugeEnvelopes_payload : payload? .metrics gaugeEnvelopes = some (gaugePayload .one) := rfl

/-- That collector accepts every payload that is well typed. -/
theorem exportSignal_accepted {kind : SignalKind} {data : List Envelope} {payload : Payload kind}
    (hne : data ≠ []) (hdata : payload? kind data = some payload)
    (hwell : payload.WellTyped fun _ => True) : ∃ s', @OTLPClient.exportSignal _ _ jsonClient
      (calmWorld.overHttp (.plain (.only [] .null)) .plain acceptingPost fun _ => .posZero) kind
      .rounded data 1 {} = (.ok (some .success), s') := by
  obtain ⟨body, hbody⟩ := body_ok .byBits .stdlib hwell trivial
  have hencode : jsonClient.encode kind data = .ok body := by
    rw [show jsonClient.encode = JSONEncoder.encodeEnvelopes .byBits .stdlib from rfl,
      JSONEncoder.encodeEnvelopes_eq hdata, hbody]
    rfl
  unfold OTLPClient.exportSignal
  rw [if_neg (show ¬ data.isEmpty = true by simpa using hne), hencode]
  exact ⟨_, rfl⟩

theorem export_delivered_gauge : ∃ es body headers, ∃ s' : Export Binary64,
    s'.trace = [] ++ es ++ [.send .metrics body headers (.ok .success)] ∧ acks es = [] ∧
      Delivery .byBits (.plain (.only [] .null)) .plain acceptingPost (gaugePayload .one) .success
        ([] ++ es) body headers := by
  obtain ⟨s', hs'⟩ := exportSignal_accepted gaugeEnvelopes_ne_nil gaugeEnvelopes_payload
    (gaugePayload_wellTyped .one)
  obtain ⟨es, body, headers, h⟩ := @export_delivered .byBits .stdlib jsonClient calmWorld _ _ _ _ _
    .rounded Proto.FloatText.byBits_lawful rfl _ (gaugePayload .one) gaugeEnvelopes_ne_nil
    gaugeEnvelopes_payload (gaugePayload_wellTyped .one)
    (List.forall_mem_singleton.mpr (by decide)) _ _ _ _ hs'
  exact ⟨es, body, headers, s', h⟩

/-! ### The three methods -/

/-- What the three methods wrap records in: the resource of the configuration, and `_scope`. -/
structure Wrapping where
  resource : Option Resource := none
  scope : InstrumentationScope

namespace OTLPClient

variable (client : OTLPClient Binary64 Envelope) (wrapping : Wrapping) (world : World Binary64)
  [Seconds Binary64]

/-- `resource or self.resource`. -/
def resourceOr (resource : Option Resource) : Resource :=
  resource.getD (wrapping.resource.getD {})

/-- `scope or self._scope`. -/
def scopeOr (scope : Option InstrumentationScope) : InstrumentationScope :=
  scope.getD wrapping.scope

/-- The three methods. -/
def exportWrapped {α : Type} (kind : SignalKind) (wrap : List α → Envelope) (records : List α)
    (rounds : Nat) : Effect Exn (Export Binary64) (Option (ExportOutcome Binary64)) :=
  if records.isEmpty then pure (some .success)
  else client.exportSignal world kind [wrap records] rounds

/-- `export_metrics`. -/
def exportMetrics (metrics : List Metric) (resource : Option Resource)
    (scope : Option InstrumentationScope) (rounds : Nat) :
    Effect Exn (Export Binary64) (Option (ExportOutcome Binary64)) :=
  client.exportWrapped world .metrics (fun metrics =>
    .metrics ⟨resourceOr wrapping resource, [⟨scopeOr wrapping scope, metrics⟩]⟩) metrics rounds

/-- `export_logs`. -/
def exportLogs (records : List LogRecord) (resource : Option Resource)
    (scope : Option InstrumentationScope) (rounds : Nat) :
    Effect Exn (Export Binary64) (Option (ExportOutcome Binary64)) :=
  client.exportWrapped world .logs (fun records =>
    .logs ⟨resourceOr wrapping resource, [⟨scopeOr wrapping scope, records⟩]⟩) records rounds

/-- `export_traces`. -/
def exportTraces (spans : List Span) (resource : Option Resource)
    (scope : Option InstrumentationScope) (rounds : Nat) :
    Effect Exn (Export Binary64) (Option (ExportOutcome Binary64)) :=
  client.exportWrapped world .traces (fun spans =>
    .traces ⟨resourceOr wrapping resource, [⟨scopeOr wrapping scope, spans⟩]⟩) spans rounds

end OTLPClient

end OtlpClient
