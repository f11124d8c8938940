import OtlpClient.Client.Delivery
import OtlpClient.Processor.Board
import OtlpClient.Processor.Exported
import OtlpClient.Processor.Health
import OtlpClient.Processor.Order

/-!
# Processor — what the collector has

The processor and the client it exports through, as one machine: a batch ends as `_export_batch`
ends, and the calls of the client are kept.  The lock lets one export run at a time, so the calls of
each stand together.

**`collector_in_order`**: the collector acknowledged the batches that were exported, each once and
in order, and reads them as they were submitted.
-/

namespace OtlpClient.Processor

variable {m : Nat} {maxBatch : Int}

/-! ### `_export_batch` -/

/-- A record of one of the three signals. -/
inductive Record where
  | metric (m : Metric)
  | logRecord (r : LogRecord)
  | span (s : Span)

def Record.metric? : Record → Option Metric
  | .metric m => some m
  | _ => none

def Record.logRecord? : Record → Option LogRecord
  | .logRecord r => some r
  | _ => none

def Record.span? : Record → Option Span
  | .span s => some s
  | _ => none

/-- A processor's client, over HTTP, with what both wrap records in. -/
structure Pipeline where
  client : OTLPClient Binary64 Envelope
  wrapping : Wrapping
  resource : Option Resource := none
  scope : Option InstrumentationScope := none
  base : World Binary64
  transport : HTTPTransport
  lib : HttpLib
  post : List (OtlpClient.Event Binary64) → Request → Reply
  now : List (OtlpClient.Event Binary64) → Binary64

namespace Pipeline

variable (P : Pipeline)

def world : World Binary64 := P.base.overHttp P.transport P.lib P.post P.now

/-- `cast`: the records are used as they are, and one of another class has not the fields that are
read. -/
def casting {α β : Type} : Option (List β) → (List β → Effect Exn (Export Binary64) α) →
    Effect Exn (Export Binary64) α
  | some records, k => k records
  | none, _ => throw (.other "AttributeError" "")

/-- `_export_batch`. -/
def exportBatch [Seconds Binary64] (kind : SignalKind) (batch : List Record) (rounds : Nat) :
    Effect Exn (Export Binary64) (Option (ExportOutcome Binary64)) :=
  match kind with
  | .metrics => casting (batch.mapM Record.metric?) fun metrics =>
      P.client.exportMetrics P.wrapping P.world metrics P.resource P.scope rounds
  | .logs => casting (batch.mapM Record.logRecord?) fun records =>
      P.client.exportLogs P.wrapping P.world records P.resource P.scope rounds
  | .traces => casting (batch.mapM Record.span?) fun spans =>
      P.client.exportTraces P.wrapping P.world spans P.resource P.scope rounds
  | .profiles => throw (.builtin (.notImplementedError "no processor branch for profiles"))

/-- The resource of every envelope. -/
def envelopeResource : Resource := OTLPClient.resourceOr P.wrapping P.resource

/-- The scope of every envelope. -/
def envelopeScope : InstrumentationScope := OTLPClient.scopeOr P.wrapping P.scope

/-- The payload of a batch: one envelope with its records. -/
def wrapped (kind : SignalKind) (batch : List Record) : Option (Payload kind) :=
  match kind with
  | .metrics => (batch.mapM Record.metric?).map fun metrics =>
      [(⟨P.envelopeResource, [⟨P.envelopeScope, metrics⟩]⟩ : ResourceMetrics)]
  | .logs => (batch.mapM Record.logRecord?).map fun records =>
      [(⟨P.envelopeResource, [⟨P.envelopeScope, records⟩]⟩ : ResourceLogs)]
  | .traces => (batch.mapM Record.span?).map fun spans =>
      [(⟨P.envelopeResource, [⟨P.envelopeScope, spans⟩]⟩ : ResourceSpans)]
  | .profiles => none

end Pipeline

/-! ### Sound records -/

/-- A record of the signal, well typed, with finite floats. -/
def Record.Sound (kind : SignalKind) : Record → Prop
  | .metric m => kind = .metrics ∧ m.WellTyped (fun _ => True) ∧ ∀ x ∈ m.data.floats, x.IsFinite
  | .logRecord r => kind = .logs ∧ r.WellTyped (fun _ => True) ∧ ∀ x ∈ r.floats, x.IsFinite
  | .span s => kind = .traces ∧ s.WellTyped (fun _ => True) ∧ ∀ x ∈ s.floats, x.IsFinite

/-- So are the resource and the scope. -/
structure Pipeline.Sound (P : Pipeline) : Prop where
  resource : P.envelopeResource.WellTyped fun _ => True
  resourceFloats : ∀ x ∈ P.envelopeResource.attributes.floats, x.IsFinite
  scope : P.envelopeScope.WellTyped fun _ => True
  scopeFloats : ∀ x ∈ P.envelopeScope.attributes.floats, x.IsFinite

/-- A list each element of which is of a class. -/
theorem mapM_of_forall {α β : Type} {f : α → Option β} {p : β → Prop} :
    ∀ {l : List α}, (∀ a ∈ l, ∃ b, f a = some b ∧ p b) →
      ∃ bs, l.mapM f = some bs ∧ (∀ b ∈ bs, p b) ∧ bs.length = l.length
  | [], _ => ⟨[], rfl, nofun, rfl⟩
  | a :: l, h => by
      obtain ⟨b, hb, hp⟩ := h a (List.mem_cons_self ..)
      obtain ⟨bs, hbs, hps, hlen⟩ := mapM_of_forall fun a' ha' =>
        h a' (List.mem_cons_of_mem _ ha')
      refine ⟨b :: bs, ?_, List.forall_mem_cons.mpr ⟨hp, hps⟩, ?_⟩
      · rw [List.mapM_cons, hb, hbs]
        rfl
      · rw [List.length_cons, List.length_cons, hlen]

section Batch

variable {P : Pipeline} {kind : SignalKind} {batch : List Record}

theorem metric?_of_sound {r : Record} (h : r.Sound .metrics) : ∃ m, r.metric? = some m ∧
    m.WellTyped (fun _ => True) ∧ ∀ x ∈ m.data.floats, x.IsFinite := by
  cases r with
  | metric m => exact ⟨m, rfl, h.2⟩
  | logRecord r => cases h.1
  | span s => cases h.1

theorem logRecord?_of_sound {r : Record} (h : r.Sound .logs) : ∃ r', r.logRecord? = some r' ∧
    r'.WellTyped (fun _ => True) ∧ ∀ x ∈ r'.floats, x.IsFinite := by
  cases r with
  | metric m => cases h.1
  | logRecord r => exact ⟨r, rfl, h.2⟩
  | span s => cases h.1

theorem span?_of_sound {r : Record} (h : r.Sound .traces) : ∃ s, r.span? = some s ∧
    s.WellTyped (fun _ => True) ∧ ∀ x ∈ s.floats, x.IsFinite := by
  cases r with
  | metric m => cases h.1
  | logRecord r => cases h.1
  | span s => exact ⟨s, rfl, h.2⟩

/-- The floats of an envelope are those of its resource, its scope and its records. -/
theorem finite_envelope {β : Type} {f : β → List Binary64} {resource scope : List Binary64}
    {l : List β} (hresource : ∀ x ∈ resource, x.IsFinite) (hscope : ∀ x ∈ scope, x.IsFinite)
    (hl : ∀ b ∈ l, ∀ x ∈ f b, x.IsFinite) :
    ∀ x ∈ resource ++ (scope ++ l.flatMap f ++ []) ++ [], x.IsFinite := by
  intro x hx
  simp only [List.append_nil, List.mem_append, List.mem_flatMap] at hx
  rcases hx with hx | hx | ⟨b, hb, hx⟩
  · exact hresource x hx
  · exact hscope x hx
  · exact hl b hb x hx

/-- The envelopes that `_export_batch` exports for a batch. -/
structure Pipeline.Wraps [Seconds Binary64] (P : Pipeline) (kind : SignalKind) (batch : List Record)
    (data : List Envelope) (payload : Payload kind) : Prop where
  ne_nil : data ≠ []
  envelopes : payload? kind data = some payload
  wrapped : P.wrapped kind batch = some payload
  wellTyped : payload.WellTyped fun _ => True
  finite : ∀ x ∈ payload.floats, x.IsFinite
  exports : ∀ rounds, P.exportBatch kind batch rounds =
    P.client.exportSignal P.world kind data rounds

/-- A batch of sound records is exported as one envelope, well typed, with finite floats. -/
theorem Pipeline.Sound.wraps [Seconds Binary64] (hP : P.Sound) (hne : batch ≠ [])
    (hk : kind ∈ signals) (h : ∀ r ∈ batch, r.Sound kind) :
    ∃ data payload, P.Wraps kind batch data payload := by
  have hsome : ∀ {α : Type} {l : List α}, l.length = batch.length → ¬ l.isEmpty = true := by
    intro α l hl he
    rw [List.isEmpty_iff.mp he] at hl
    exact hne (List.eq_nil_of_length_eq_zero hl.symm)
  cases kind with
  | metrics =>
      obtain ⟨l, hl, hsound, hlen⟩ := mapM_of_forall fun r hr => metric?_of_sound (h r hr)
      refine ⟨[.metrics ⟨P.envelopeResource, [⟨P.envelopeScope, l⟩]⟩], _, List.cons_ne_nil _ _, rfl,
        ?_, ?_, ?_, fun rounds => ?_⟩
      · rw [Pipeline.wrapped, hl]
        rfl
      · exact List.forall_mem_singleton.mpr ⟨hP.resource, List.forall_mem_singleton.mpr
          ⟨hP.scope, fun m hm => (hsound m hm).1⟩⟩
      · exact finite_envelope hP.resourceFloats hP.scopeFloats fun m hm => (hsound m hm).2
      · rw [Pipeline.exportBatch, hl]
        exact if_neg (hsome hlen)
  | logs =>
      obtain ⟨l, hl, hsound, hlen⟩ := mapM_of_forall fun r hr => logRecord?_of_sound (h r hr)
      refine ⟨[.logs ⟨P.envelopeResource, [⟨P.envelopeScope, l⟩]⟩], _, List.cons_ne_nil _ _, rfl,
        ?_, ?_, ?_, fun rounds => ?_⟩
      · rw [Pipeline.wrapped, hl]
        rfl
      · exact List.forall_mem_singleton.mpr ⟨hP.resource, List.forall_mem_singleton.mpr
          ⟨hP.scope, fun r hr => (hsound r hr).1⟩⟩
      · exact finite_envelope hP.resourceFloats hP.scopeFloats fun r hr => (hsound r hr).2
      · rw [Pipeline.exportBatch, hl]
        exact if_neg (hsome hlen)
  | traces =>
      obtain ⟨l, hl, hsound, hlen⟩ := mapM_of_forall fun r hr => span?_of_sound (h r hr)
      refine ⟨[.traces ⟨P.envelopeResource, [⟨P.envelopeScope, l⟩]⟩], _, List.cons_ne_nil _ _, rfl,
        ?_, ?_, ?_, fun rounds => ?_⟩
      · rw [Pipeline.wrapped, hl]
        rfl
      · exact List.forall_mem_singleton.mpr ⟨hP.resource, List.forall_mem_singleton.mpr
          ⟨hP.scope, fun s hs => (hsound s hs).1⟩⟩
      · exact finite_envelope hP.resourceFloats hP.scopeFloats fun s hs => (hsound s hs).2
      · rw [Pipeline.exportBatch, hl]
        exact if_neg (hsome hlen)
  | profiles => exact absurd hk (by decide)

end Batch

/-! ### The batches of a board -/

section Batches

variable {α : Type} (kind : SignalKind)

/-- The batch of the signal whose export an event ends, however it ends. -/
def Event.ends : Event α → List α
  | .settled k batch _ => if k = kind then batch else []
  | _ => []

/-- The batch of the signal that an event says is exported. -/
def Event.delivers : Event α → List (List α)
  | .settled k batch .success => if k = kind then [batch] else []
  | .settled k batch (.partialSuccess _) => if k = kind then [batch] else []
  | _ => []

/-- The batches of the signal that were exported, in part at least. -/
def delivered (tr : List (Event α)) : List (List α) := tr.flatMap (Event.delivers kind)

/-- The records of the signal in the batch that is being exported. -/
def Board.carried (b : Board α) : List α :=
  match b.busy with
  | some (k, batch) => if k = kind then batch else []
  | none => []

/-- What was accepted has left its queue or is in it, and what was handed over has come to its end
or is being exported. -/
structure Board.Flows (kind : SignalKind) (b : Board α) (tr : List (Event α)) : Prop where
  accepted : accepted kind tr = departed kind tr ++ b.queue kind
  handed : handed kind tr = tr.flatMap (Event.ends kind) ++ b.carried kind
  ne_nil : ∀ k batch, b.busy = some (k, batch) → batch ≠ []

variable {kind}

/-- An event keeps it that moves as much into the queue, and out of it, as the queue changes. -/
theorem Board.Flows.snoc {b b' : Board α} {tr : List (Event α)} {e : Event α}
    (h : b.Flows kind tr) (hqueue : b.queue kind ++ e.accepts kind = e.departs kind ++ b'.queue kind)
    (hbusy : b.carried kind ++ e.hands kind = e.ends kind ++ b'.carried kind)
    (hne : ∀ k batch, b'.busy = some (k, batch) → batch ≠ []) : b'.Flows kind (tr ++ [e]) where
  accepted := by
    rw [Processor.accepted, departed, List.flatMap_append, List.flatMap_append,
      List.flatMap_singleton, List.flatMap_singleton, List.append_assoc, ← hqueue,
      ← List.append_assoc]
    exact congrArg (· ++ e.accepts kind) h.accepted
  handed := by
    rw [Processor.handed, List.flatMap_append, List.flatMap_append, List.flatMap_singleton,
      List.flatMap_singleton, List.append_assoc, ← hbusy, ← List.append_assoc]
    exact congrArg (· ++ e.hands kind) h.handed
  ne_nil := hne

theorem Board.flows {m : Nat} (kind : SignalKind) {b : Board α} {tr : List (Event α)}
    (hr : Machine.Run (Board.Step m) .empty b tr) : b.Flows kind tr := by
  refine Machine.Run.invariant (I := Board.Flows kind) hr ⟨rfl, rfl, by rintro _ _ ⟨⟩⟩ ?_
  rintro b ⟨⟩ b' tr es - h hs
  cases hs with
  | @accept _ k record hk hroom =>
      refine h.snoc ?_ (List.append_nil _) h.ne_nil
      by_cases hkind : k = kind
      · subst hkind
        simp [Event.accepts, Event.departs, Event.hands, Event.evicts, Board.accept]
      · simp [Event.accepts, Event.departs, Event.hands, Event.evicts, Board.accept, hkind,
          Function.update_of_ne (Ne.symm hkind)]
  | @evict _ k oldest others hq hfull =>
      refine h.snoc ?_ (List.append_nil _) h.ne_nil
      by_cases hkind : k = kind
      · subst hkind
        simp [Event.accepts, Event.departs, Event.hands, Event.evicts, Board.evict, hq]
      · simp [Event.accepts, Event.departs, Event.hands, Event.evicts, Board.evict, hkind,
          Function.update_of_ne (Ne.symm hkind)]
  | @hand _ k hk hnone hne hroom =>
      refine h.snoc ?_ ?_ ?_
      · by_cases hkind : k = kind
        · subst hkind
          simp [Event.accepts, Event.departs, Event.hands, Event.evicts, Board.hand]
        · simp [Event.accepts, Event.departs, Event.hands, Event.evicts, Board.hand, hkind,
            Function.update_of_ne (Ne.symm hkind)]
      · simp [Event.hands, Event.ends, Board.hand, Board.carried, hnone]
      · rintro k' batch ⟨⟩
        exact hne
  | @settle _ k batch result hsome =>
      refine h.snoc (List.append_nil _) ?_ (by rintro _ _ ⟨⟩)
      simp [Event.hands, Event.ends, Board.settle, Board.carried, hsome]
  | log k => exact h.snoc (List.append_nil _) (List.append_nil _) h.ne_nil
  | flush t hnone => exact h.snoc (List.append_nil _) (List.append_nil _) h.ne_nil
  | cancel t => exact h.snoc (List.append_nil _) (List.append_nil _) h.ne_nil

/-- The batch that is being exported was accepted. -/
theorem Board.Flows.mem_accepted {b : Board α} {tr : List (Event α)} (h : b.Flows kind tr)
    {batch : List α} (hbusy : b.busy = some (kind, batch)) {r : α} (hr : r ∈ batch) :
    r ∈ Processor.accepted kind tr := by
  have hhanded : r ∈ Processor.handed kind tr := by
    rw [h.handed, Board.carried, hbusy]
    dsimp only
    rw [if_pos rfl]
    exact List.mem_append_right _ hr
  rw [h.accepted]
  exact List.mem_append_left _ ((parted_departed kind tr).sublist.mem hhanded)

variable (kind)

/-- The records of exported batches are among those of the batches that ended, in order. -/
theorem delivered_sublist (tr : List (Event α)) :
    (delivered kind tr).flatten.Sublist (tr.flatMap (Event.ends kind)) := by
  induction tr with
  | nil => exact .slnil
  | cons e tr ih =>
      rw [delivered, List.flatMap_cons, List.flatMap_cons, List.flatten_append]
      refine List.Sublist.append ?_ ih
      cases e with
      | settled k batch result =>
          have hbatch : (if k = kind then [batch] else []).flatten = Event.ends kind
              (.settled k batch result) := by
            rw [Event.ends]
            split <;> simp
          cases result with
          | success => exact hbatch ▸ List.Sublist.refl _
          | partialSuccess p => exact hbatch ▸ List.Sublist.refl _
          | raised message => exact List.nil_sublist _
          | cancelled => exact List.nil_sublist _
      | _ => exact List.nil_sublist _

end Batches

/-! ### The machine of both -/

/-- The processor, and the calls of the exports that have ended. -/
structure System (m : Nat) where
  processor : State Record m
  wire : List (OtlpClient.Event Binary64) := []

def System.init : System m where
  processor := Processor.init

/-- The steps of both: a batch ends as `_export_batch` ends. -/
inductive System.Step [Seconds Binary64] (P : Pipeline) (maxBatch : Int) :
    Machine (System m) (Action Record) (Event Record) where
  | finish {σ : System m} {t : Task} {kind : SignalKind} {batch : List Record}
      {rest : List SignalKind} {rounds : Nat} {outcome : Except Exn (ExportOutcome Binary64)}
      {x : Export Binary64} {s' : State Record m} {es : List (Event Record)}
      (hf : σ.processor.flush t = .exporting kind batch rest)
      (hx : P.exportBatch kind batch rounds { trace := σ.wire } = (some <$> outcome, x))
      (hs : Processor.Step maxBatch σ.processor (.finish t (.ofExport outcome)) s' es) :
      System.Step P maxBatch σ (.finish t (.ofExport outcome)) ⟨s', x.trace⟩ es
  | other {σ : System m} {a : Action Record} {s' : State Record m} {es : List (Event Record)}
      (ha : ∀ t result, a ≠ .finish t result) (hs : Processor.Step maxBatch σ.processor a s' es) :
      System.Step P maxBatch σ a ⟨s', σ.wire⟩ es

/-- The acknowledgements of a signal. -/
def acksOf (kind : SignalKind) (wire : List (OtlpClient.Event Binary64)) :
    List (OtlpClient.Event Binary64) :=
  (acks wire).filter fun
    | .send k _ _ _ => k = kind
    | _ => false

/-- An acknowledgement on the wire, of a request that carries the batch. -/
def Carried (F : Proto.FloatText) (P : Pipeline) (kind : SignalKind)
    (wire : List (OtlpClient.Event Binary64)) (e : OtlpClient.Event Binary64)
    (batch : List Record) : Prop :=
  ∃ past later body headers o payload, wire = past ++ e :: later ∧
    e = .send kind body headers (.ok o) ∧ P.wrapped kind batch = some payload ∧
      Delivery F P.transport P.lib P.post payload o past body headers

variable {F : Proto.FloatText} {P : Pipeline} {kind : SignalKind}

theorem Carried.append {wire es : List (OtlpClient.Event Binary64)}
    {e : OtlpClient.Event Binary64} {batch : List Record} (h : Carried F P kind wire e batch) :
    Carried F P kind (wire ++ es) e batch := by
  obtain ⟨past, later, body, headers, o, payload, rfl, h⟩ := h
  exact ⟨past, later ++ es, body, headers, o, payload, by simp, h⟩

theorem acksOf_append (kind : SignalKind) (wire es : List (OtlpClient.Event Binary64)) :
    acksOf kind (wire ++ es) = acksOf kind wire ++ acksOf kind es := by
  rw [acksOf, acks, List.filter_append, List.filter_append]
  rfl

/-- What the collector acknowledged of a signal is what was delivered of it. -/
def InStep (F : Proto.FloatText) (P : Pipeline) (kind : SignalKind) (σ : System m)
    (tr : List (Event Record)) : Prop :=
  List.Forall₂ (Carried F P kind σ.wire) (acksOf kind σ.wire) (delivered kind tr)

/-- A run of both is a run of the processor. -/
theorem System.run [Seconds Binary64] {σ : System m} {tr : List (Event Record)}
    (hr : Machine.Run (System.Step P maxBatch) .init σ tr) : Run maxBatch σ.processor tr := by
  refine hr.refines (f := System.processor) (I := fun _ => True) trivial
    (fun _ _ _ _ _ _ => trivial) fun σ a σ' es hs _ => ?_
  cases hs with
  | finish hf hx hs => exact .one hs
  | other ha hs => exact .one hs

/-! ### What a step delivers -/

theorem delivered_append {α : Type} (kind : SignalKind) (tr es : List (Event α)) :
    delivered kind (tr ++ es) = delivered kind tr ++ delivered kind es :=
  List.flatMap_append

/-- Events that end no export deliver nothing. -/
theorem delivered_of_results {α : Type} {es : List (Event α)} (h : results es = []) :
    delivered kind es = [] := by
  refine List.flatMap_eq_nil_iff.mpr fun e he => ?_
  have hnone := List.filterMap_eq_nil_iff.mp h e he
  cases e with
  | settled k batch result => cases hnone
  | _ => rfl

/-- A step ends the export that its action ends, and no other. -/
theorem step_delivered {α : Type} {s s' : State α m} {a : Action α} {es : List (Event α)}
    (hs : Processor.Step maxBatch s a s' es) :
    (∀ t result, a ≠ .finish t result) ∧ delivered kind es = [] ∨
      ∃ t result k batch rest, a = .finish t result ∧ s.flush t = .exporting k batch rest ∧
        delivered kind es = Event.delivers kind (.settled k batch result) := by
  cases hs with
  | @submit _ k records hk =>
      exact Or.inl ⟨nofun, delivered_of_results (submit_results maxBatch k records s)⟩
  | @acquire _ t hf hc hl =>
      exact Or.inl ⟨nofun,
        delivered_of_results (resume_health { s with lock := some t } t signals).2⟩
  | @finish _ t k batch rest result hf hr =>
      refine Or.inr ⟨t, result, k, batch, rest, rfl, hf, ?_⟩
      rw [delivered_append, delivered_of_results (resume_health _ t rest).2, List.append_nil]
      cases result with
      | raised message => rfl
      | _ => exact List.append_nil _
  | @abort _ t k batch rest hf => exact Or.inr ⟨t, .cancelled, k, batch, rest, rfl, hf, rfl⟩
  | _ => exact Or.inl ⟨nofun, rfl⟩

/-- An export that returns has been acknowledged once, and one that raises has not. -/
theorem exportBatch_acks [Seconds Binary64] {d : Dumper} (hF : F.Lawful)
    (hclient : P.client.encode = JSONEncoder.encodeEnvelopes F d) {batch : List Record}
    {data : List Envelope} {payload : Payload kind} (hw : P.Wraps kind batch data payload)
    {rounds : Nat} {s x : Export Binary64} {outcome : Except Exn (ExportOutcome Binary64)}
    (hx : P.exportBatch kind batch rounds s = (some <$> outcome, x)) :
    ∃ es, acks es = [] ∧ ((∃ e, outcome = .error e ∧ x.trace = s.trace ++ es) ∨
      ∃ o body headers, outcome = .ok o ∧ o.isAccepted = true ∧
        x.trace = s.trace ++ es ++ [.send kind body headers (.ok o)] ∧
          Delivery F P.transport P.lib P.post payload o (s.trace ++ es) body headers) := by
  have h := P.client.exportSignal_acks P.world kind data rounds s
  rw [← hw.exports, hx] at h
  cases outcome with
  | error e =>
      obtain ⟨es, htrace, hno⟩ := h
      exact ⟨es, hno, Or.inl ⟨e, rfl, htrace⟩⟩
  | ok o =>
      obtain ⟨ho, hempty | ⟨body, hbody, hacked⟩⟩ := h
      · exact absurd hempty.1 hw.ne_nil
      · obtain ⟨es, headers, htrace, hno, hdelivery⟩ :=
          delivery_of_acked hF hclient hw.envelopes hw.wellTyped hw.finite hbody ho hacked
        exact ⟨es, hno, Or.inr ⟨o, body, headers, rfl, ho, htrace, hdelivery⟩⟩

/-- What is raised delivers nothing. -/
theorem delivers_error {α : Type} (kind k : SignalKind) (batch : List α) (e : Exn) :
    Event.delivers kind (.settled k batch
      (.ofExport (.error e : Except Exn (ExportOutcome Binary64)))) = [] := by
  cases e <;> rfl

/-- What is accepted is delivered. -/
theorem delivers_ok {α : Type} (kind k : SignalKind) (batch : List α) {o : ExportOutcome Binary64}
    (ho : o.isAccepted = true) :
    Event.delivers kind (.settled k batch (.ofExport (.ok o))) = if k = kind then [batch] else [] := by
  cases o with
  | success => rfl
  | partialSuccess p => rfl
  | retryable status message retryAfter => cases ho
  | permanent status message => cases ho

theorem acksOf_of_acks {es : List (OtlpClient.Event Binary64)} (h : acks es = []) :
    acksOf kind es = [] := by
  rw [acksOf, h]
  rfl

theorem acksOf_send {k : SignalKind} {body : Bytes} {headers : Headers} {o : ExportOutcome Binary64}
    (ho : o.isAccepted = true) : acksOf kind [.send k body headers (.ok o)] =
      if k = kind then [.send k body headers (.ok o)] else [] := by
  have hack : acks [(.send k body headers (.ok o) : OtlpClient.Event Binary64)] =
      [.send k body headers (.ok o)] := by
    rw [acks, List.filter_singleton, Event.isAck, ho]
    rfl
  rw [acksOf, hack, List.filter_singleton]
  by_cases hk : k = kind <;> simp [hk]

/-- More on the wire, and more that was delivered, of the signal. -/
theorem InStep.append {σ : System m} {tr es : List (Event Record)} (h : InStep F P kind σ tr)
    (σ' : System m) (new : List (OtlpClient.Event Binary64)) (hwire : σ'.wire = σ.wire ++ new)
    (hnew : List.Forall₂ (Carried F P kind σ'.wire) (acksOf kind new) (delivered kind es)) :
    InStep F P kind σ' (tr ++ es) := by
  rw [InStep, delivered_append]
  rw [hwire] at hnew ⊢
  rw [acksOf_append]
  exact List.rel_append (h.imp fun _ _ h => h.append) hnew

/-- A step keeps the wire and the deliveries in step. -/
theorem inStep_step [Seconds Binary64] {d : Dumper} (hF : F.Lawful)
    (hclient : P.client.encode = JSONEncoder.encodeEnvelopes F d) (hP : P.Sound)
    {σ σ' : System m} {a : Action Record} {tr es : List (Event Record)}
    (hr : Run maxBatch σ.processor tr) (hsound : ∀ kind, ∀ r ∈ accepted kind tr, r.Sound kind)
    (hs : System.Step P maxBatch σ a σ' es) (kind : SignalKind) (h : InStep F P kind σ tr) :
    InStep F P kind σ' (tr ++ es) := by
  cases hs with
  | @other _ _ s' _ ha hs =>
      refine h.append ⟨s', σ.wire⟩ [] (List.append_nil _).symm ?_
      rcases step_delivered hs with ⟨-, hes⟩ | ⟨t, result, k, batch, rest, rfl, -⟩
      · rw [hes]
        exact .nil
      · exact absurd rfl (ha t result)
  | @finish _ t k batch rest rounds outcome x s' _ hf hx hs =>
      have hes : delivered kind es = Event.delivers kind (.settled k batch (.ofExport outcome)) := by
        rcases step_delivered hs with ⟨hno, -⟩ | ⟨t', result, k', batch', rest', heq, hf', hes⟩
        · exact absurd rfl (hno t _)
        · cases heq
          rw [hf] at hf'
          cases hf'
          exact hes
      -- The batch was accepted, and there is something in it.
      have hlock := (run_coherent hr).lockHeld
      have hbusy := busy_some ((hlock.holder t).mpr ⟨_, _, _, hf⟩) hf
      have hflows := Board.flows k (board_run init_coherent hr)
      obtain ⟨data, payload, hw⟩ := hP.wraps (hflows.ne_nil k batch hbusy)
        (hlock.kinds t k batch rest hf).1 fun r hr => hsound k r (hflows.mem_accepted hbusy hr)
      obtain ⟨past, hpast, ⟨e, rfl, htrace⟩ | ⟨o, body, headers, rfl, ho, htrace, hdelivery⟩⟩ :=
        exportBatch_acks hF hclient hw hx
      · refine h.append ⟨s', x.trace⟩ past htrace ?_
        rw [hes, acksOf_of_acks hpast, delivers_error]
        exact .nil
      · refine h.append ⟨s', x.trace⟩ (past ++ [.send k body headers (.ok o)])
          (htrace.trans (List.append_assoc _ _ _)) ?_
        rw [hes, acksOf_append, acksOf_of_acks hpast, acksOf_send ho, delivers_ok kind k batch ho]
        by_cases hk : k = kind
        · subst hk
          rw [if_pos rfl, if_pos rfl]
          exact .cons ⟨σ.wire ++ past, [], body, headers, o, payload, htrace, rfl, hw.wrapped,
            hdelivery⟩ .nil
        · rw [if_neg hk, if_neg hk]
          exact .nil

/-- **What the collector has.**  In every run of a processor and its client over HTTP with the JSON
encoder, where the records are well typed and their floats finite: the acknowledgements of a signal
are those of the batches that were exported, one each and in order, each a 2xx response to a request
whose body reads as the batch in its envelope; and the records of those batches are among those that
were accepted, in order. -/
theorem collector_in_order [Seconds Binary64] {d : Dumper} (hF : F.Lawful)
    (hclient : P.client.encode = JSONEncoder.encodeEnvelopes F d) (hP : P.Sound) {σ : System m}
    {tr : List (Event Record)} (hr : Machine.Run (System.Step P maxBatch) .init σ tr)
    (hsound : ∀ kind, ∀ r ∈ accepted kind tr, r.Sound kind) (kind : SignalKind) :
    List.Forall₂ (Carried F P kind σ.wire) (acksOf kind σ.wire) (delivered kind tr) ∧
      (delivered kind tr).flatten.Sublist (accepted kind tr) := by
  have hstep : InStep F P kind σ tr := by
    refine Machine.Run.invariant (I := fun σ tr =>
      (∀ kind, ∀ r ∈ accepted kind tr, r.Sound kind) → InStep F P kind σ tr) hr (fun _ => .nil)
      (fun σ a σ' tr es hr ih hs hsound => ?_) hsound
    have hbefore : ∀ kind, ∀ r ∈ accepted kind tr, r.Sound kind := fun kind r hr =>
      hsound kind r (by
        rw [accepted, List.flatMap_append]
        exact List.mem_append_left _ hr)
    exact inStep_step hF hclient hP (System.run hr) hbefore hs kind (ih hbefore)
  have hflows := Board.flows kind (board_run init_coherent (System.run hr))
  refine ⟨hstep, (delivered_sublist kind tr).trans ?_⟩
  have hends : (tr.flatMap (Event.ends kind)).Sublist (handed kind tr) := by
    rw [hflows.handed]
    exact List.sublist_append_left _ _
  rw [hflows.accepted]
  exact (hends.trans (parted_departed kind tr).sublist).trans (List.sublist_append_left _ _)

/-! ### One gauge -/

def gauge : Metric :=
  ⟨"g", .gauge [{ timeUnixNano := 1, value := .float .one }], "", ""⟩

theorem gauge_sound : (Record.metric gauge).Sound .metrics := by
  refine ⟨rfl, ⟨List.forall_mem_singleton.mpr ?_⟩, List.forall_mem_singleton.mpr (by decide)⟩
  exact ⟨trivial, (by decide : IsUint64 1), nofun, trivial, (by decide : IsUint32 0), nofun⟩

/-- A pipeline to a collector that accepts what it is sent. -/
def acceptingPipeline : Pipeline where
  client := jsonClient
  wrapping := { scope := { name := "s" } }
  base := calmWorld
  transport := .plain (.only [] .null)
  lib := .plain
  post := acceptingPost
  now _ := .posZero

theorem acceptingPipeline_sound : acceptingPipeline.Sound where
  resource := ⟨trivial, (by decide : IsUint32 0)⟩
  resourceFloats := nofun
  scope := ⟨trivial⟩
  scopeFloats := nofun

/-- The gauge is submitted, and a caller flushes. -/
def gaugeCalling : State Record 1 :=
  let s := (submit 512 .metrics [.metric gauge] (init : State Record 1)).1
  { s with flush := Function.update s.flush (.caller 0) .acquiring }

def gaugeExporting : State Record 1 :=
  (resume { gaugeCalling with lock := some (.caller 0) } (.caller 0) signals).1

def gaugeExported : State Record 1 :=
  (resume { settle gaugeExporting [.metric gauge] .success with
    cancelling := Function.update gaugeExporting.cancelling (.caller 0) false } (.caller 0)
    [.logs, .traces]).1

/-- What has happened until then. -/
def gaugeTrace : List (Event Record) :=
  [.accepted .metrics (.metric gauge), .handed .metrics [.metric gauge],
    .settled .metrics [.metric gauge] .success, .flushed (.caller 0)]

theorem gauge_run : ∃ wire,
    Machine.Run (@System.Step 1 .rounded acceptingPipeline 512) .init ⟨gaugeExported, wire⟩
      gaugeTrace := by
  let _ : Seconds Binary64 := .rounded
  have h₀ : Machine.Run (System.Step acceptingPipeline 512) (System.init : System 1) .init [] := .start
  have h₁ := h₀.next (@System.Step.other 1 _ _ _ _ (.submit .metrics [.metric gauge]) _ _
    nofun (.submit (by decide)))
  have h₂ := h₁.next (@System.Step.other 1 _ _ _ _ (.call 0) gaugeCalling _ nofun
    (.call rfl))
  have h₃ := h₂.next (@System.Step.other 1 _ _ _ _ (.acquire (.caller 0)) gaugeExporting _
    nofun (Step.acquire (s := gaugeCalling) rfl rfl rfl))
  obtain ⟨data, payload, hw⟩ := acceptingPipeline_sound.wraps
    (List.cons_ne_nil (Record.metric gauge) []) (by decide : SignalKind.metrics ∈ signals)
    (List.forall_mem_singleton.mpr gauge_sound)
  obtain ⟨x, hx⟩ := exportSignal_accepted hw.ne_nil hw.envelopes hw.wellTyped
  have hexport := (congrFun (hw.exports 1) {}).trans hx
  exact ⟨x.trace, h₃.next (@System.Step.finish 1 _ _ _ _ (.caller 0) .metrics
    [.metric gauge] [.logs, .traces] 1 (.ok .success) x gaugeExported _ rfl hexport
    (@Step.finish _ _ _ gaugeExporting (.caller 0) _ _ _ .success rfl nofun))⟩

theorem collector_in_order_gauge : ∃ wire, List.Forall₂
    (Carried .byBits acceptingPipeline .metrics wire) (acksOf .metrics wire) [[.metric gauge]] ∧
      [[Record.metric gauge]].flatten.Sublist (accepted .metrics gaugeTrace) := by
  obtain ⟨wire, hr⟩ := gauge_run
  refine ⟨wire, @collector_in_order _ _ _ _ .rounded .stdlib Proto.FloatText.byBits_lawful rfl
    acceptingPipeline_sound ⟨gaugeExported, wire⟩ gaugeTrace hr (fun kind r hr => ?_) .metrics⟩
  cases kind with
  | metrics =>
      rw [List.mem_singleton.mp (hr : r ∈ [Record.metric gauge])]
      exact gauge_sound
  | logs => cases hr
  | traces => cases hr
  | profiles => cases hr

end OtlpClient.Processor
