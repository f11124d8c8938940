import OtlpClient.Encoding.Dumps
import OtlpClient.Encoding.Lossless
import OtlpClient.Proto.Lexical
import OtlpClient.Support.Utf8

/-!
# Encoding — the body of a request

The bytes `JSONEncoder.encode` returns.  `json.dumps` escapes what is not ASCII, and `orjson` writes
it as UTF-8.

**`body_readBack`**: a collector that reads the bytes as UTF-8, RFC 8259 JSON and OTLP gets the
payload, whichever library wrote them; `orjson` writes what is nested no deeper than its levels.
-/

namespace OtlpClient

open Proto

/-- The library writes ASCII only. -/
def Dumper.ascii : Dumper → Bool
  | .stdlib => true
  | .orjson _ => false

/-- `JSONEncoder.encode`: the bytes. -/
def JSONEncoder.body (F : FloatText) (d : Dumper) (kind : SignalKind) (data : Payload kind) :
    Except PyError Bytes :=
  (JSONEncoder.encode d kind data).map fun ts => utf8Encode (render F d.ascii ts)

/-- What the encoding keeps of a payload. -/
def Payload.normalize : {kind : SignalKind} → Payload kind → Payload kind
  | .metrics, (data : List ResourceMetrics) => data.map ResourceMetrics.normalize
  | .logs, (data : List ResourceLogs) => data.map ResourceLogs.normalize
  | .traces, (data : List ResourceSpans) => data.map ResourceSpans.normalize
  | .profiles, data => data

/-- The payload of a document. -/
def readDocument : (kind : SignalKind) → Json → Option (Payload kind)
  | .metrics, doc => decodeResourceMetrics doc
  | .logs, doc => decodeResourceLogs doc
  | .traces, doc => decodeResourceSpans doc
  | .profiles, _ => none

/-- The payload of a body. -/
def readBody (F : FloatText) (kind : SignalKind) (body : Bytes) : Option (Payload kind) :=
  ((utf8Decode? body).bind (readText? F)).bind (readDocument kind)

theorem readDocument_document {G : Binary64 → Prop} {kind : SignalKind} {data : Payload kind}
    (h : data.WellTyped G) : ∃ doc, document kind data = .ok doc ∧
      readDocument kind doc = some data.normalize := by
  cases kind with
  | metrics => exact metrics_decode h
  | logs => exact logs_decode h
  | traces => exact traces_decode h
  | profiles => exact h.elim

theorem Dumper.float_of_isFinite (d : Dumper) {x : Binary64} (h : x.IsFinite) :
    d.float x = .float x := by
  cases d with
  | stdlib => exact if_pos h
  | orjson lib => exact if_pos h

theorem body_ok (F : FloatText) (d : Dumper) {kind : SignalKind} {data : Payload kind}
    (h : data.WellTyped fun _ => True) (hnests : d.Nests data) :
    ∃ body, JSONEncoder.body F d kind data = .ok body := by
  obtain ⟨doc, hdoc, -⟩ := readDocument_document h
  refine ⟨utf8Encode (render F d.ascii (d.text doc)), ?_⟩
  rw [JSONEncoder.body, encode_of_fits hdoc (document_fits h hdoc) hnests]
  rfl

/-- What is written for a payload reads as it. -/
theorem readBody_body {F : FloatText} (hF : F.Lawful) {d : Dumper} {kind : SignalKind}
    {data : Payload kind} (h : data.WellTyped fun _ => True)
    (hfinite : ∀ x ∈ data.floats, x.IsFinite) {body : Bytes}
    (hbody : JSONEncoder.body F d kind data = .ok body) :
    readBody F kind body = some data.normalize := by
  obtain ⟨doc, hdoc, hread⟩ := readDocument_document h
  obtain ⟨doc', hdoc', hfloats⟩ := document_floats h
  cases hdoc.symm.trans hdoc'
  cases htext : JSONEncoder.encode d kind data with
  | error err =>
      rw [JSONEncoder.body, htext] at hbody
      cases hbody
  | ok ts =>
      cases encode_eq_text hdoc htext
      rw [JSONEncoder.body, htext] at hbody
      cases hbody
      have hparse : readText? F (render F d.ascii (d.text doc)) = some doc :=
        readText?_render hF d.ascii (fun x hx => d.float_of_isFinite hx)
          fun x hx => hfinite x (hfloats ▸ hx)
      rw [readBody, utf8Decode?_encode, Option.bind_some, hparse, Option.bind_some, hread]

/-- **The body carries the payload.**  For each signal, whichever library writes it: every
well-typed payload of finite floats, nested no deeper than the library writes, is written, and the
bytes read as UTF-8, JSON and OTLP as the payload. -/
theorem body_readBack {F : FloatText} (hF : F.Lawful) (d : Dumper) {kind : SignalKind}
    {data : Payload kind} (h : data.WellTyped fun _ => True)
    (hfinite : ∀ x ∈ data.floats, x.IsFinite) (hnests : d.Nests data) :
    ∃ body, JSONEncoder.body F d kind data = .ok body ∧
      readBody F kind body = some data.normalize := by
  obtain ⟨body, hbody⟩ := body_ok F d h hnests
  exact ⟨body, hbody, readBody_body hF h hfinite hbody⟩

theorem body_readBack_one :
    ∃ body, JSONEncoder.body .byBits (.orjson .counting) .metrics (gaugePayload .one) = .ok body ∧
      readBody .byBits .metrics body = some (gaugePayload .one).normalize :=
  body_readBack FloatText.byBits_lawful (.orjson .counting) (gaugePayload_wellTyped .one)
    (List.forall_mem_singleton.mpr (by decide))
    (show Payload.depth _ (gaugePayload .one) ≤ 254 by decide)

end OtlpClient
