import OtlpClient.Config
import OtlpClient.Encoding.Response
import OtlpClient.Retry

/-!
# Transport — OTLP/HTTP

`transport/http.py`.  What `session.post` answers, or that it raised `ClientError` or
`TimeoutError`, is a `Reply`.

* `send_ok`: `send` returns an outcome that classifies the status when its decoder returns.
* `send_classifies_iff`: with the JSON encoder it does at every reply but one.
-/

namespace OtlpClient

/-- What a transport asks of an encoder. -/
structure Encoder where
  contentType : String
  decodeResponse : SignalKind → Bytes → Except PyError (Option PartialSuccess)

/-- The JSON encoder, to a transport. -/
def JSONEncoder.encoder (lib : Proto.JsonLib) : Encoder where
  contentType := "application/json"
  decodeResponse := JSONEncoder.decodeResponse lib

/-- The arguments of `session.post`. -/
structure Request where
  url : String
  data : Bytes
  headers : Headers
  timeout : Binary64

/-- A response, once its body is read; `header` is the lookup in its headers. -/
structure Response where
  status : Int
  header : String → Option String
  body : Bytes

inductive Reply where
  | response (r : Response)
  | failed (type message : String)

/-- The transport, with what it asks of its configuration. -/
structure HTTPTransport where
  encoder : Encoder
  endpointFor : SignalKind → String
  compressionFor : SignalKind → Compression
  timeouts : SignalKind → Binary64

/-- `gzip.compress`, on or off the loop; `bytes.decode("utf-8", "replace")`; dates. -/
structure HttpLib where
  compress : Bytes → Bytes
  decodeReplace : Bytes → String
  date : DateLib

/-- A 2xx status. -/
def IsSuccess (status : Int) : Prop := 200 ≤ status ∧ status < 300

instance (status : Int) : Decidable (IsSuccess status) := inferInstanceAs (Decidable (_ ∧ _))

/-- `parse_retry_after(header, now_wall=now) if header else None`. -/
def readRetryAfter (lib : DateLib) (header : String) (now : Binary64) :
    Except PyError (Option Binary64) :=
  if header.isEmpty then .ok none else parseRetryAfter lib header now

namespace HTTPTransport

variable (t : HTTPTransport) (lib : HttpLib)

/-- What is posted for a payload. -/
def request (kind : SignalKind) (payload : Bytes) (headers : Headers) : Request :=
  -- A key is replaced where it is spelled the same, and added where it is not.
  let requestHeaders := Dict.set headers "Content-Type" t.encoder.contentType
  match t.compressionFor kind with
  | .gzip =>
      { url := t.endpointFor kind, data := lib.compress payload, timeout := t.timeouts kind,
        headers := Dict.set requestHeaders "Content-Encoding" "gzip" }
  | .none =>
      { url := t.endpointFor kind, data := payload, timeout := t.timeouts kind,
        headers := requestHeaders }

/-- What a response means. -/
def classify (now : Binary64) (kind : SignalKind) (r : Response) :
    Except PyError (ExportOutcome Binary64) :=
  -- The body is decoded at 2xx only.
  if IsSuccess r.status then do
    match ← t.encoder.decodeResponse kind r.body with
    | some p => return .partialSuccess p
    | none => return .success
  else
    let message := String.ofList ((lib.decodeReplace r.body).toList.take 512)
    if r.status ∈ retryableStatuses then do
      let retryAfter ← readRetryAfter lib.date ((r.header "Retry-After").getD "") now
      return .retryable (some r.status) message retryAfter
    else return .permanent (some r.status) message

/-- `HTTPTransport.send`. -/
def send (post : Request → Reply) (now : Binary64) (kind : SignalKind) (payload : Bytes)
    (headers : Headers) : Except PyError (ExportOutcome Binary64) :=
  match post (t.request lib kind payload headers) with
  | .response r => t.classify lib now kind r
  | .failed type message => return .retryable none (type ++ ": " ++ message) none

end HTTPTransport

/-! ### The classification -/

/-- The outcome a status asks for: accepted at 2xx, retryable with a delay that is at least zero at
the retryable statuses, permanent at every other. -/
structure Classifies (status : Int) (outcome : ExportOutcome Binary64) : Prop where
  accepted : outcome.isAccepted = true ↔ IsSuccess status
  retryable : outcome.isRetryable = true ↔ status ∈ retryableStatuses
  retryAfter : ∀ s m x, outcome = .retryable s m (some x) →
    x.isNaN = false ∧ x.lt .posZero = false
  permanent : (∃ m, outcome = .permanent (some status) m) ↔
    ¬ IsSuccess status ∧ status ∉ retryableStatuses

theorem readRetryAfter_ok {lib : DateLib} (hl : lib.Lawful) (header : String) (now : Binary64) :
    ∃ seconds, readRetryAfter lib header now = .ok seconds ∧
      ∀ x ∈ seconds, x.isNaN = false ∧ x.lt .posZero = false := by
  unfold readRetryAfter
  by_cases he : header.isEmpty = true
  · rw [if_pos he]
    exact ⟨none, rfl, nofun⟩
  · rw [if_neg he]
    exact parseRetryAfter_ok hl header now

theorem not_retryable_of_isSuccess {status : Int} (h : IsSuccess status) :
    status ∉ retryableStatuses := by
  obtain ⟨-, h⟩ := h
  simp only [retryableStatuses, List.mem_cons, List.not_mem_nil, or_false]
  omega

theorem classifies_accepted {status : Int} {outcome : ExportOutcome Binary64}
    (h : IsSuccess status) (ho : outcome = .success ∨ ∃ p, outcome = .partialSuccess p) :
    Classifies status outcome := by
  have hr := not_retryable_of_isSuccess h
  rcases ho with rfl | ⟨p, rfl⟩
  · exact ⟨iff_of_true rfl h, iff_of_false nofun hr, nofun, iff_of_false nofun fun hn => hn.1 h⟩
  · exact ⟨iff_of_true rfl h, iff_of_false nofun hr, nofun, iff_of_false nofun fun hn => hn.1 h⟩

/-- `send` returns what the status asks for whenever the decoder, which it runs at 2xx only,
returns. -/
theorem send_ok {t : HTTPTransport} {lib : HttpLib} (hd : lib.date.Lawful) (now : Binary64)
    (kind : SignalKind) (payload : Bytes) (headers : Headers) {r : Response}
    (h : IsSuccess r.status → ∃ result, t.encoder.decodeResponse kind r.body = .ok result) :
    ∃ outcome, t.send lib (fun _ => .response r) now kind payload headers = .ok outcome ∧
      Classifies r.status outcome := by
  simp only [HTTPTransport.send, HTTPTransport.classify]
  by_cases hs : IsSuccess r.status
  · obtain ⟨result, hresult⟩ := h hs
    rw [if_pos hs, hresult]
    cases result with
    | none => exact ⟨.success, rfl, classifies_accepted hs (Or.inl rfl)⟩
    | some p => exact ⟨.partialSuccess p, rfl, classifies_accepted hs (Or.inr ⟨p, rfl⟩)⟩
  · rw [if_neg hs]
    by_cases hr : r.status ∈ retryableStatuses
    · rw [if_pos hr]
      obtain ⟨seconds, hseconds, hnonneg⟩ :=
        readRetryAfter_ok hd ((r.header "Retry-After").getD "") now
      rw [hseconds]
      refine ⟨_, rfl, iff_of_false nofun hs, iff_of_true rfl hr, ?_, ?_⟩
      · rintro s m x ⟨⟩
        exact hnonneg x rfl
      · exact iff_of_false nofun fun hn => hn.2 hr
    · rw [if_neg hr]
      exact ⟨_, rfl, iff_of_false nofun hs, iff_of_false nofun hr, nofun,
        iff_of_true ⟨_, rfl⟩ ⟨hs, hr⟩⟩

/-- At a 2xx response whose count is infinite `send` raises. -/
theorem send_raises {t : HTTPTransport} {lib : HttpLib} {json : Proto.JsonLib} {now : Binary64}
    {kind : SignalKind} {payload : Bytes} {headers : Headers} {r : Response}
    {outcome : ExportOutcome Binary64} (ht : t.encoder = JSONEncoder.encoder json)
    (hs : IsSuccess r.status) (hj : json.Lawful) (hinf : CountIsInfinite json kind r.body)
    (hsend : t.send lib (fun _ => .response r) now kind payload headers = .ok outcome) : False := by
  have hok : ¬ ∃ result, JSONEncoder.decodeResponse json kind r.body = .ok result :=
    fun h => (decodeResponse_ok_iff hj).mp h hinf
  have hdecode : t.encoder.decodeResponse = JSONEncoder.decodeResponse json := by rw [ht]; rfl
  simp only [HTTPTransport.send, HTTPTransport.classify] at hsend
  rw [if_pos hs, hdecode] at hsend
  cases hresult : JSONEncoder.decodeResponse json kind r.body with
  | ok result => exact hok ⟨result, hresult⟩
  | error e =>
      rw [hresult] at hsend
      cases hsend

/-- **What a server can make `send` raise.**  With the JSON encoder, `send` returns the outcome the
status asks for at every status, header and body, except at a 2xx response whose count of rejected
records is infinite. -/
theorem send_classifies_iff {t : HTTPTransport} {lib : HttpLib} {json : Proto.JsonLib}
    (hj : json.Lawful) (hd : lib.date.Lawful) (ht : t.encoder = JSONEncoder.encoder json)
    (now : Binary64) (kind : SignalKind) (payload : Bytes) (headers : Headers) (r : Response) :
    (∃ outcome, t.send lib (fun _ => .response r) now kind payload headers = .ok outcome ∧
        Classifies r.status outcome) ↔
      ¬ (IsSuccess r.status ∧ CountIsInfinite json kind r.body) := by
  constructor
  · rintro ⟨outcome, hsend, -⟩ ⟨hs, hinf⟩
    exact send_raises ht hs hj hinf hsend
  · intro h
    refine send_ok hd now kind payload headers fun hs => ?_
    rw [ht]
    exact (decodeResponse_ok_iff hj).mpr fun hinf => h ⟨hs, hinf⟩

/-! ### A count of `1e999` -/

/-- `{"partialSuccess":{"rejectedDataPoints":1e999}}`. -/
def infiniteCount : Proto.Json :=
  .obj [("partialSuccess", .obj [("rejectedDataPoints", .float .inf)])]

def infiniteCountText : Bytes :=
  ascii "\x7b\"partialSuccess\":\x7b\"rejectedDataPoints\":1e999\x7d\x7d"

/-- The answer of a collector that counts so. -/
def infiniteCountResponse : Response where
  status := 200
  header _ := none
  body := infiniteCountText

/-- Reads no text as a number or a date. -/
def DateLib.unread : DateLib where
  float _ := .error (.valueError "could not convert string to float")
  DateTime := Unit
  parsedateToDatetime _ := .error (.valueError "Invalid date value or format")
  timestamp _ := .posZero
  sub x _ := x

def HttpLib.plain : HttpLib where
  compress payload := payload
  decodeReplace body := String.ofList (body.map fun b => Char.ofNat b.toNat)
  date := .unread

/-- A transport of the JSON encoder. -/
def HTTPTransport.plain (json : Proto.JsonLib) : HTTPTransport where
  encoder := JSONEncoder.encoder json
  endpointFor _ := "http://localhost:4318/v1/metrics"
  compressionFor _ := .none
  timeouts _ := .one

theorem DateLib.unread_lawful : DateLib.unread.Lawful where
  float_error := by
    rintro text e ⟨⟩
    exact ⟨_, rfl⟩
  date_error := by
    rintro text e ⟨⟩
    exact Or.inr ⟨_, rfl⟩

theorem infiniteCount_lawful : (Proto.JsonLib.only infiniteCountText infiniteCount).Lawful :=
  Proto.JsonLib.only_lawful (by decide) (by simp [infiniteCount, Proto.Json.DigitsFit,
    Proto.Json.DigitsFitEntries, Proto.Json.DigitsFitEntry])

theorem infiniteCount_isInfinite :
    CountIsInfinite (.only infiniteCountText infiniteCount) .metrics infiniteCountText :=
  ⟨_, _, _, Proto.JsonLib.only_loads _ _, rfl, rfl, rfl⟩

theorem send_classifies_iff_infiniteCount :
    (∃ outcome, (HTTPTransport.plain (.only infiniteCountText infiniteCount)).send .plain
        (fun _ => .response infiniteCountResponse) .one .metrics [] [] = .ok outcome ∧
        Classifies 200 outcome) ↔
      ¬ (IsSuccess 200 ∧
        CountIsInfinite (.only infiniteCountText infiniteCount) .metrics infiniteCountText) :=
  send_classifies_iff infiniteCount_lawful DateLib.unread_lawful rfl .one .metrics [] []
    infiniteCountResponse

/-- `OverflowError` escapes `send`. -/
theorem send_infiniteCount_raises :
    (Proto.JsonLib.only infiniteCountText infiniteCount).Lawful ∧ DateLib.unread.Lawful ∧
      ¬ ∃ outcome, (HTTPTransport.plain (.only infiniteCountText infiniteCount)).send .plain
        (fun _ => .response infiniteCountResponse) .one .metrics [] [] = .ok outcome := by
  refine ⟨infiniteCount_lawful, DateLib.unread_lawful, ?_⟩
  rintro ⟨outcome, hsend⟩
  exact send_raises rfl (show IsSuccess 200 by decide) infiniteCount_lawful
    infiniteCount_isInfinite hsend

end OtlpClient
