import OtlpClient.Encoding.Body
import OtlpClient.Model.Builders

/-!
# Encoding — what was built

**`built_readBack`**: what a builder was called with is what a collector reads, whatever the builder
leaves out or fills in.
-/

namespace OtlpClient

open Proto

/-- A call of a builder of the metrics. -/
inductive MetricCall where
  | gauge (a : Model.GaugeArguments)
  | sum_ (a : Model.SumArguments)

/-- The metric a call builds. -/
def MetricCall.build : MetricCall → Metric
  | .gauge a => Model.gauge a
  | .sum_ a => Model.sum_ a

/-! ### What is received -/

/-- A point of the arguments, with a start time that is `0` where there is none. -/
def receivedPoint (a : Model.GaugeArguments) (startTimeUnixNano : Option Int) :
    NumberDataPoint where
  timeUnixNano := a.timeUnixNano
  value := a.value
  attributes := a.attributes.getD []
  startTimeUnixNano := some (startTimeUnixNano.getD 0)

/-- The metric a collector reads. -/
def MetricCall.received : MetricCall → Metric
  | .gauge a =>
      { name := a.name, unit := a.unit, description := a.description,
        data := .gauge [receivedPoint a none] }
  | .sum_ a =>
      { name := a.name, unit := a.unit, description := a.description,
        data := .sum [receivedPoint a.toGaugeArguments a.startTimeUnixNano] a.temporality
          a.isMonotonic }

/-- The record a collector reads: it has every time and every text. -/
def receivedRecord (a : Model.LogArguments) : LogRecord where
  timeUnixNano := a.timeUnixNano
  observedTimeUnixNano := a.observedTimeUnixNano.getD a.timeUnixNano
  body := a.body
  severityNumber := a.severity
  severityText := a.severityText.getD
    (if a.severity = .unspecified then "" else Model.severityName a.severity)
  attributes := a.attributes.getD []
  traceId := some (a.traceId.getD [])
  spanId := some (a.spanId.getD [])
  eventName := a.eventName

/-- The span a collector reads: it has the status it was given, also where that says nothing. -/
def receivedSpan (a : Model.SpanArguments) : Span where
  traceId := a.traceId
  spanId := a.spanId
  name := a.name
  startTimeUnixNano := a.startTimeUnixNano
  endTimeUnixNano := a.endTimeUnixNano
  kind := a.kind
  parentSpanId := some (a.parentSpanId.getD [])
  traceState := a.traceState
  flags := a.flags
  attributes := a.attributes.getD []
  events := a.events
  links := a.links
  status := some { code := a.statusCode, message := a.statusMessage }

theorem normalize_metric (call : MetricCall) : call.build.normalize = call.received := by
  cases call <;> rfl

theorem normalize_logRecord (a : Model.LogArguments) :
    (Model.logRecord a).normalize = receivedRecord a := by
  obtain ⟨body, time, observed, severity, text, attributes, traceId, spanId, eventName⟩ := a
  cases text <;> rfl

theorem normalize_span (a : Model.SpanArguments) : (Model.span a).normalize = receivedSpan a := by
  have hstatus : (Model.span a).status.getD {} =
      { code := a.statusCode, message := a.statusMessage } := by
    unfold Model.span
    dsimp only
    split
    · rename_i hunset
      rw [hunset.1, hunset.2]
      rfl
    · rfl
  unfold Span.normalize
  rw [hstatus]
  rfl

theorem map_normalize {α β : Type} {build : α → β} {normalize : β → β} {received : α → β}
    (h : ∀ a, normalize (build a) = received a) (calls : List α) :
    (calls.map build).map normalize = calls.map received := by
  rw [List.map_map]
  exact List.map_congr_left fun a _ => h a

/-! ### Through the wire -/

/-- The payload is written, and reads as another. -/
def Transmits (F : FloatText) (d : Dumper) {kind : SignalKind} (data data' : Payload kind) :
    Prop :=
  ∃ body, JSONEncoder.body F d kind data = .ok body ∧ readBody F kind body = some data'

/-- A well-typed payload of finite floats, nested no deeper than the library writes. -/
structure Sendable (d : Dumper) {kind : SignalKind} (data : Payload kind) : Prop where
  wellTyped : data.WellTyped fun _ => True
  finite : ∀ x ∈ data.floats, x.IsFinite
  nests : d.Nests data

theorem Sendable.transmits {F : FloatText} (hF : F.Lawful) {d : Dumper} {kind : SignalKind}
    {data : Payload kind} (h : Sendable d data) : Transmits F d data data.normalize := by
  obtain ⟨body, hbody⟩ := body_ok F d h.wellTyped h.nests
  exact ⟨body, hbody, readBody_body hF h.wellTyped h.finite hbody⟩

/-- The payload of metrics in one resource and scope. -/
def metricsPayload (r : Resource) (s : InstrumentationScope) (metrics : List Metric) :
    Payload .metrics :=
  (show List ResourceMetrics from [⟨r, [⟨s, metrics⟩]⟩])

def logsPayload (r : Resource) (s : InstrumentationScope) (records : List LogRecord) :
    Payload .logs :=
  (show List ResourceLogs from [⟨r, [⟨s, records⟩]⟩])

def tracesPayload (r : Resource) (s : InstrumentationScope) (spans : List Span) :
    Payload .traces :=
  (show List ResourceSpans from [⟨r, [⟨s, spans⟩]⟩])

/-- **What a builder is called with is received.**  For any calls of `gauge` and `sum_`, of
`log_record`, or of `span`, that build well-typed data of finite floats, nested no deeper than the
library writes: whichever library writes the body, a collector reads the arguments of each call, in
order.  What was left out reads as its default: an observed time as the time, a severity text as the
name of the severity, a status as `UNSET` with no message. -/
theorem built_readBack {F : FloatText} (hF : F.Lawful) (d : Dumper) (r : Resource)
    (s : InstrumentationScope) :
    (∀ calls : List MetricCall, Sendable d (metricsPayload r s (calls.map MetricCall.build)) →
      Transmits F d (metricsPayload r s (calls.map MetricCall.build))
        (metricsPayload r s.normalize (calls.map MetricCall.received))) ∧
    (∀ calls : List Model.LogArguments, Sendable d (logsPayload r s (calls.map Model.logRecord)) →
      Transmits F d (logsPayload r s (calls.map Model.logRecord))
        (logsPayload r s.normalize (calls.map receivedRecord))) ∧
    (∀ calls : List Model.SpanArguments, Sendable d (tracesPayload r s (calls.map Model.span)) →
      Transmits F d (tracesPayload r s (calls.map Model.span))
        (tracesPayload r s.normalize (calls.map receivedSpan))) := by
  refine ⟨fun calls h => ?_, fun calls h => ?_, fun calls h => ?_⟩
  · rw [← map_normalize normalize_metric]
    exact h.transmits hF
  · rw [← map_normalize normalize_logRecord]
    exact h.transmits hF
  · rw [← map_normalize normalize_span]
    exact h.transmits hF

/-- A sampled span without a status. -/
def sampledSpan : Model.SpanArguments where
  name := "work"
  traceId := [1]
  spanId := [2]
  startTimeUnixNano := 1
  endTimeUnixNano := 2
  flags := Model.spanFlags true (some false)

theorem sampledSpan_sendable :
    Sendable (.orjson .counting) (tracesPayload {} { name := "s" } [Model.span sampledSpan]) where
  wellTyped := by
    refine List.forall_mem_singleton.mpr ⟨⟨trivial, by decide⟩, ?_⟩
    refine List.forall_mem_singleton.mpr ⟨⟨trivial⟩, List.forall_mem_singleton.mpr ?_⟩
    exact
      { startTimeUnixNano := (by decide : IsUint64 1)
        endTimeUnixNano := (by decide : IsUint64 2)
        flags := (by decide : IsUint32 257)
        attributes := trivial
        events := fun _ he => by cases he
        links := fun _ hl => by cases hl }
  finite _ hx := by cases hx
  nests := show Payload.depth _ (tracesPayload _ _ _) ≤ 254 by decide

theorem built_readBack_sampled :
    Transmits .byBits (.orjson .counting) (tracesPayload {} { name := "s" } [Model.span sampledSpan])
      (tracesPayload {} { name := "s", version := some "" } [receivedSpan sampledSpan]) :=
  (built_readBack FloatText.byBits_lawful (.orjson .counting) {} { name := "s" }).2.2 [sampledSpan]
    sampledSpan_sendable

end OtlpClient
