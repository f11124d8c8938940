import OtlpClient.Model.WellTyped
import OtlpClient.Outcomes
import OtlpClient.Proto.Coerce

/-!
# Encoding — response bodies

`decode_response` of both encoders, over `json.loads` (`JsonLib`) and the generated `FromString`
(`ProtobufLib`), and the responses they read.

* `decodeResponse_ok_iff`: the JSON decoder returns at every body but one that counts an infinite
  number of rejected records.
* `protobuf_decodeResponse`: the protobuf decoder reports what the response says.
-/

namespace OtlpClient

open Proto

/-- `partial_success`: the rejected count of the signal, and a message. -/
structure ExportPartialSuccess where
  rejected : Int
  errorMessage : String
  int64 : IsInt64 rejected

/-- The message without any field. -/
instance : Inhabited ExportPartialSuccess := ⟨⟨0, "", by decide⟩⟩

/-- `Export{Metrics,Logs,Trace}ServiceResponse`. -/
structure ExportResponse where
  partialSuccess : Option ExportPartialSuccess := none

/-- What a response says: nothing, or how many records were rejected and why. -/
def ExportResponse.report (response : ExportResponse) : Option PartialSuccess :=
  match response.partialSuccess with
  | none => none
  | some p =>
      if p.rejected = 0 ∧ p.errorMessage = "" then none else some ⟨p.rejected, p.errorMessage⟩

/-! ### The JSON decoder -/

/-- The count of rejected records in the `partialSuccess` block of a signal. -/
def rejectedKey : SignalKind → String
  | .metrics => "rejectedDataPoints"
  | .logs => "rejectedLogRecords"
  | .traces => "rejectedSpans"
  | .profiles => "rejectedProfiles"

/-- `int(value)`, and `0` where that raises `TypeError` or `ValueError`. -/
def intOrZero (value : Json) : Except PyError Int :=
  match value.intOf with
  | .error (.typeError _) | .error (.valueError _) => .ok 0
  | result => result

/-- The two fields of a block that is not empty. -/
def readPartialSuccess (lib : JsonLib) (kind : SignalKind) (block : List (String × Json)) :
    Except PyError PartialSuccess := do
  let rejected ← intOrZero ((block.lookup (rejectedKey kind)).getD (.int 0))
  return ⟨rejected, ← Json.strOf lib ((block.lookup "errorMessage").getD (.str ""))⟩

/-- `JSONEncoder.decode_response`. -/
def JSONEncoder.decodeResponse (lib : JsonLib) (kind : SignalKind) (body : Bytes) :
    Except PyError (Option PartialSuccess) :=
  if body.isEmpty then .ok none
  else
    match lib.loads body with
    | .error (.valueError _) => .ok none
    | .error e => .error e
    | .ok (.obj doc) =>
        match doc.lookup "partialSuccess" with
        | some (.obj block) =>
            if block.isEmpty then .ok none else some <$> readPartialSuccess lib kind block
        | _ => .ok none
    | .ok _ => .ok none

/-! ### The protobuf decoder -/

/-- `FromString` of a signal's response type; `none` where it raises `DecodeError`. -/
structure ProtobufLib where
  fromString : SignalKind → Bytes → Option ExportResponse

/-- No bytes are the message without any field. -/
def ProtobufLib.Lawful (lib : ProtobufLib) : Prop :=
  ∀ kind response, lib.fromString kind [] = some response → response.partialSuccess = none

/-- `ProtobufEncoder.decode_response`. -/
def ProtobufEncoder.decodeResponse (lib : ProtobufLib) (kind : SignalKind) (body : Bytes) :
    Except PyError (Option PartialSuccess) :=
  if body.isEmpty then .ok none
  else
    match kind with
    | .profiles => .error (.notImplementedError "no response type for profiles")
    | kind =>
        match lib.fromString kind body with
        | none => .ok none
        | some response =>
            let p := response.partialSuccess.getD default
            if p.rejected = 0 ∧ p.errorMessage = "" then .ok none
            else .ok (some ⟨p.rejected, p.errorMessage⟩)

/-! ### What the JSON decoder raises -/

section Json

variable {lib : JsonLib} {kind : SignalKind} {body : Bytes}

/-- The body counts an infinite number of rejected records, as `1e999` does. -/
def CountIsInfinite (lib : JsonLib) (kind : SignalKind) (body : Bytes) : Prop :=
  ∃ doc block x, lib.loads body = .ok (.obj doc) ∧
    doc.lookup "partialSuccess" = some (.obj block) ∧
    block.lookup (rejectedKey kind) = some (.float x) ∧ x.isInf = true

/-- `intOrZero` returns unless `int()` overflows. -/
theorem intOrZero_ok {value : Json} (h : ∀ x, value = .float x → x.isInf = false) :
    ∃ n, intOrZero value = .ok n := by
  unfold intOrZero
  cases hv : value.intOf with
  | ok n => exact ⟨n, rfl⟩
  | error e =>
      rcases Json.intOf_error hv with ⟨m, rfl⟩ | ⟨m, rfl⟩ | ⟨-, x, rfl, hx⟩
      · exact ⟨0, rfl⟩
      · exact ⟨0, rfl⟩
      · exact absurd hx (by rw [h x rfl]; exact Bool.false_ne_true)

theorem intOrZero_inf {x : Binary64} (h : x.isInf = true) :
    ∃ message, intOrZero (.float x) = .error (.overflowError message) := by
  obtain ⟨message, hm⟩ := Json.intOf_float_inf h
  exact ⟨message, by rw [intOrZero, hm]⟩

/-- At a block that is not empty the decoder reads the two fields. -/
theorem decodeResponse_block (hl : lib.Lawful) {doc block : List (String × Json)}
    (hdoc : lib.loads body = .ok (.obj doc))
    (hblock : doc.lookup "partialSuccess" = some (.obj block)) (hne : block ≠ []) :
    JSONEncoder.decodeResponse lib kind body = some <$> readPartialSuccess lib kind block := by
  have hbody : body.isEmpty = false := by
    cases body with
    | nil =>
        obtain ⟨m, hm⟩ := hl.loads_nil
        rw [hm] at hdoc
        cases hdoc
    | cons b bs => rfl
  have hb : block.isEmpty = false := by
    cases block with
    | nil => exact absurd rfl hne
    | cons kv kvs => rfl
  simp only [JSONEncoder.decodeResponse, hbody, hdoc, hblock, hb, Bool.false_eq_true, if_false]

/-- The two fields are read unless the count is infinite. -/
theorem readPartialSuccess_ok {block : List (String × Json)} (hd : (Json.obj block).DigitsFit)
    (h : ∀ x, block.lookup (rejectedKey kind) = some (.float x) → x.isInf = false) :
    ∃ p, readPartialSuccess lib kind block = .ok p := by
  obtain ⟨n, hn⟩ : ∃ n, intOrZero ((block.lookup (rejectedKey kind)).getD (.int 0)) = .ok n := by
    refine intOrZero_ok fun x hx => ?_
    cases hk : block.lookup (rejectedKey kind) with
    | none =>
        rw [hk] at hx
        cases hx
    | some j =>
        rw [hk] at hx
        exact h x (by rw [hk]; exact congrArg some hx)
  obtain ⟨s, hs⟩ : ∃ s, Json.strOf lib ((block.lookup "errorMessage").getD (.str "")) = .ok s := by
    cases hk : block.lookup "errorMessage" with
    | none => exact ⟨"", rfl⟩
    | some j => exact Json.strOf_ok lib (Json.digitsFit_lookup hd hk)
  exact ⟨⟨n, s⟩, by rw [readPartialSuccess, hn, hs]; rfl⟩

/-- The decoder returns at exactly the bodies whose count is not infinite. -/
theorem decodeResponse_ok_iff (hl : lib.Lawful) :
    (∃ result, JSONEncoder.decodeResponse lib kind body = .ok result) ↔
      ¬ CountIsInfinite lib kind body := by
  constructor
  · rintro ⟨result, hr⟩ ⟨doc, block, x, hdoc, hblock, hk, hx⟩
    have hne : block ≠ [] := by
      rintro rfl
      cases hk
    obtain ⟨m, hm⟩ := intOrZero_inf hx
    rw [decodeResponse_block hl hdoc hblock hne, readPartialSuccess, hk, Option.getD_some, hm] at hr
    cases hr
  · intro h
    unfold JSONEncoder.decodeResponse
    split
    · exact ⟨none, rfl⟩
    · split
      · exact ⟨none, rfl⟩
      · rename_i e hne he
        obtain ⟨m, rfl⟩ := hl.loads_error he
        exact absurd rfl (hne m)
      · rename_i doc hdoc
        split
        · rename_i block hblock
          split
          · exact ⟨none, rfl⟩
          · have hd := Json.digitsFit_lookup (hl.loads_digits hdoc) hblock
            have hp : ∃ p, readPartialSuccess lib kind block = .ok p := by
              refine readPartialSuccess_ok hd fun x hk => ?_
              cases hx : x.isInf with
              | false => rfl
              | true => exact absurd ⟨doc, block, x, hdoc, hblock, hk, hx⟩ h
            obtain ⟨p, hp⟩ := hp
            exact ⟨some p, by rw [hp]; rfl⟩
        · exact ⟨none, rfl⟩
      · exact ⟨none, rfl⟩

end Json

/-! ### What the protobuf decoder reads -/

/-- The protobuf decoder reports what the response says. -/
theorem protobuf_decodeResponse {lib : ProtobufLib} (hl : lib.Lawful) {kind : SignalKind}
    {body : Bytes} {response : ExportResponse} (hk : kind ≠ .profiles)
    (h : lib.fromString kind body = some response) :
    ProtobufEncoder.decodeResponse lib kind body = .ok response.report := by
  cases body with
  | nil =>
      have hp := hl kind response h
      simp [ProtobufEncoder.decodeResponse, ExportResponse.report, hp]
  | cons b bs =>
      obtain ⟨p?⟩ := response
      have hd : ((default : ExportPartialSuccess).rejected = 0 ∧
          (default : ExportPartialSuccess).errorMessage = "") := ⟨rfl, rfl⟩
      cases kind with
      | profiles => exact absurd rfl hk
      | metrics | logs | traces =>
          simp only [ProtobufEncoder.decodeResponse, List.isEmpty_cons, Bool.false_eq_true,
            if_false, h, ExportResponse.report]
          cases p? with
          | none => simp only [Option.getD_none, if_pos hd]
          | some p =>
              by_cases hp : p.rejected = 0 ∧ p.errorMessage = ""
              · simp only [Option.getD_some, if_pos hp]
              · simp only [Option.getD_some, if_neg hp]

end OtlpClient
