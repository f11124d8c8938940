import OtlpClient.Encoding.Response
import OtlpClient.Proto.Literal

/-!
# Encoding — the renderings of a response

Proto3 JSON has many documents for one response: a field at its default is left out, written or
null, the count is a decimal string or a number, and unknown fields are skipped.

* `decode_response_agree_iff`: the renderings at which the two decoders agree.
-/

namespace OtlpClient

open Proto

/-- An int64 under a key, or the lack of one.  A number may be written with a point or an
exponent. -/
def RendersInt64 (n : Int) : Option Literal → Prop
  | none | some .null => n = 0
  | some (.int m) => m = n
  | some (.decimal x) => x.value = n
  | some (.str s) => s = n.repr
  | some (.bool _) | some (.arr _) | some (.obj _) => False

/-- A string under a key, or the lack of one. -/
def RendersString (s : String) : Option Literal → Prop
  | none | some .null => s = ""
  | some (.str t) => t = s
  | some (.bool _) | some (.int _) | some (.decimal _) | some (.arr _) | some (.obj _) => False

/-- The members are a block of the count and the message, and of any unknown fields. -/
def RendersBlock (kind : SignalKind) (p : ExportPartialSuccess)
    (block : List (String × Literal)) : Prop :=
  RendersInt64 p.rejected ((Literal.members block).lookup (rejectedKey kind)) ∧
    RendersString p.errorMessage ((Literal.members block).lookup "errorMessage")

/-- The document is a proto3 JSON rendering of the response. -/
def Renders (kind : SignalKind) (response : ExportResponse) (doc : List (String × Literal)) :
    Prop :=
  match response.partialSuccess with
  | none =>
      (Literal.members doc).lookup "partialSuccess" = none ∨
        (Literal.members doc).lookup "partialSuccess" = some .null
  | some p =>
      ∃ block, (Literal.members doc).lookup "partialSuccess" = some (.obj block) ∧
        RendersBlock kind p block

/-- The response has a count that is not zero, or a message. -/
def ExportResponse.Says (response : ExportResponse) : Prop :=
  ∃ p, response.partialSuccess = some p ∧ (p.rejected ≠ 0 ∨ p.errorMessage ≠ "")

/-- The block is empty; or the response says something, the message is not written as null, and a
count written with a point or an exponent is a double. -/
def PlainBlock (kind : SignalKind) (response : ExportResponse)
    (block : List (String × Literal)) : Prop :=
  block = [] ∨ response.Says ∧
    (Literal.members block).lookup "errorMessage" ≠ some .null ∧
    ∀ x, (Literal.members block).lookup (rejectedKey kind) = some (.decimal x) → x.IsExact

/-- The block, where there is one, is plain, and `json.loads` reads every int of the document; or
it does not, and the response says nothing. -/
def PlainlyRendered (kind : SignalKind) (response : ExportResponse)
    (doc : List (String × Literal)) : Prop :=
  if (Literal.obj doc).IsRead then
    ∀ block, (Literal.members doc).lookup "partialSuccess" = some (.obj block) →
      PlainBlock kind response block
  else ¬ response.Says

variable {lib : JsonLib} {kind : SignalKind}

/-- Every rendering of a count is read, and as the count where no digit is lost. -/
theorem intOrZero_renders {n : Int} {j : Option Literal} (hn : IsInt64 n)
    (h : RendersInt64 n j) :
    ∃ m, intOrZero ((j.map Literal.value).getD (.int 0)) = .ok m ∧
      (m = n ↔ ∀ x, j = some (.decimal x) → x.IsExact) := by
  have hlt : n.natAbs < 2 ^ 64 := by
    obtain ⟨h₁, h₂⟩ := hn
    omega
  cases j with
  | none =>
      cases h
      exact ⟨0, rfl, iff_of_true rfl (by simp)⟩
  | some j =>
      cases j with
      | null =>
          cases h
          exact ⟨0, rfl, iff_of_true rfl (by simp)⟩
      | int m =>
          cases h
          exact ⟨n, rfl, iff_of_true rfl (by simp)⟩
      | decimal x =>
          obtain ⟨m, hm, hexact⟩ := Decimal.intOf_float hlt h
          refine ⟨m, ?_, ?_⟩
          · simp only [Option.map_some, Option.getD_some, Literal.value, intOrZero, hm]
          · simp only [Option.some.injEq, Literal.decimal.injEq, forall_eq', hexact]
      | str s =>
          cases h
          refine ⟨n, ?_, iff_of_true rfl (by simp)⟩
          simp only [Option.map_some, Option.getD_some, Literal.value, intOrZero, Json.intOf,
            intOfString_repr (printable_of_le hlt.le)]
      | bool b => cases h
      | arr js => cases h
      | obj kvs => cases h

/-- A null message is read as the text `None`. -/
theorem strOf_null {j : Option Literal} (h : j = some .null) :
    Json.strOf lib ((j.map Literal.value).getD (.str "")) = .ok "None" := by
  subst h
  simp only [Option.map_some, Option.getD_some, Literal.value, Json.strOf, Json.repr]
  rfl

/-- Every other rendering of a message is read. -/
theorem strOf_renders {s : String} {j : Option Literal} (hj : j ≠ some .null)
    (h : RendersString s j) : Json.strOf lib ((j.map Literal.value).getD (.str "")) = .ok s := by
  match j, h with
  | none, h =>
      cases h
      rfl
  | some .null, _ => exact absurd rfl hj
  | some (.str t), h =>
      cases h
      simp only [Option.map_some, Option.getD_some, Literal.value, Json.strOf]

theorem report_eq_some {response : ExportResponse} {p : ExportPartialSuccess}
    (hp : response.partialSuccess = some p) (h : response.Says) :
    response.report = some ⟨p.rejected, p.errorMessage⟩ := by
  obtain ⟨p', hp', hsays⟩ := h
  cases hp.symm.trans hp'
  have hne : ¬ (p.rejected = 0 ∧ p.errorMessage = "") := by
    rcases hsays with h | h
    · exact fun hc => h hc.1
    · exact fun hc => h hc.2
  simp only [ExportResponse.report, hp, if_neg hne]

theorem report_eq_none {response : ExportResponse} (h : ¬ response.Says) :
    response.report = none := by
  unfold ExportResponse.report
  split
  · rfl
  · rename_i p hp
    refine if_pos ⟨?_, ?_⟩
    · by_contra hr
      exact h ⟨p, hp, Or.inl hr⟩
    · by_contra hm
      exact h ⟨p, hp, Or.inr hm⟩

/-- A body `json.loads` raises at reports nothing. -/
theorem decodeResponse_unread {body : Bytes} {message : String}
    (hdoc : lib.loads body = .error (.valueError message)) :
    JSONEncoder.decodeResponse lib kind body = .ok none := by
  unfold JSONEncoder.decodeResponse
  split
  · rfl
  · simp only [hdoc]

/-- A document without a block reports nothing. -/
theorem decodeResponse_noBlock {body : Bytes} {doc : List (String × Json)}
    (hdoc : lib.loads body = .ok (.obj doc))
    (h : ∀ block, doc.lookup "partialSuccess" ≠ some (.obj block)) :
    JSONEncoder.decodeResponse lib kind body = .ok none := by
  unfold JSONEncoder.decodeResponse
  split
  · rfl
  · rw [hdoc]
    dsimp only
    split
    · rename_i block hblock
      exact absurd hblock (h block)
    · rfl

/-- An empty block reports nothing. -/
theorem decodeResponse_emptyBlock {body : Bytes} {doc : List (String × Json)}
    (hdoc : lib.loads body = .ok (.obj doc))
    (h : doc.lookup "partialSuccess" = some (.obj [])) :
    JSONEncoder.decodeResponse lib kind body = .ok none := by
  unfold JSONEncoder.decodeResponse
  split
  · rfl
  · simp only [hdoc, h, List.isEmpty_nil, if_true]

/-- A block that is not empty reports its count, as `int()` gives it, and its message, as `str()`
does. -/
theorem decodeResponse_rendered {body : Bytes} {doc : List (String × Json)}
    {block : List (String × Literal)} {m : Int} {s : String} (hl : lib.Lawful)
    (hdoc : lib.loads body = .ok (.obj doc))
    (hblock : doc.lookup "partialSuccess" = some (.obj (Literal.dict block))) (hne : block ≠ [])
    (hm : intOrZero ((((Literal.members block).lookup (rejectedKey kind)).map
      Literal.value).getD (.int 0)) = .ok m)
    (hs : Json.strOf lib ((((Literal.members block).lookup "errorMessage").map
      Literal.value).getD (.str "")) = .ok s) :
    JSONEncoder.decodeResponse lib kind body = .ok (some ⟨m, s⟩) := by
  rw [decodeResponse_block hl hdoc hblock (Literal.dict_ne_nil hne), readPartialSuccess,
    Literal.lookup_dict, Literal.lookup_dict, hm, hs]
  rfl

/-- A block that renders what a response says is read as that exactly when it is plain. -/
theorem decodeResponse_block_iff {body : Bytes} {doc : List (String × Json)}
    {block : List (String × Literal)} {response : ExportResponse} {p : ExportPartialSuccess}
    (hl : lib.Lawful) (hdoc : lib.loads body = .ok (.obj doc))
    (hblock : doc.lookup "partialSuccess" = some (.obj (Literal.dict block)))
    (hresponse : response.partialSuccess = some p) (hrenders : RendersBlock kind p block) :
    JSONEncoder.decodeResponse lib kind body = .ok response.report ↔
      PlainBlock kind response block := by
  obtain ⟨hcount, hmessage⟩ := hrenders
  by_cases hne : block = []
  · subst hne
    have hsilent : ¬ response.Says := by
      rintro ⟨p', hp', h⟩
      cases hresponse.symm.trans hp'
      rcases h with h | h
      · exact h hcount
      · exact h hmessage
    rw [decodeResponse_emptyBlock hdoc hblock, report_eq_none hsilent]
    exact iff_of_true rfl (Or.inl rfl)
  rw [PlainBlock, or_iff_right hne]
  obtain ⟨m, hm, hexact⟩ := intOrZero_renders p.int64 hcount
  by_cases hsays : response.Says
  · rw [and_iff_right hsays, report_eq_some hresponse hsays]
    by_cases hnull : (Literal.members block).lookup "errorMessage" = some .null
    · -- The message is read as `None`, and the response has none.
      rw [decodeResponse_rendered hl hdoc hblock hne hm (strOf_null hnull)]
      have hempty : p.errorMessage = "" := by
        rw [hnull] at hmessage
        exact hmessage
      rw [hempty]
      exact iff_of_false (by simp) fun h => h.1 hnull
    · rw [decodeResponse_rendered hl hdoc hblock hne hm (strOf_renders hnull hmessage),
        and_iff_right hnull, ← hexact]
      simp
  · -- The block is not empty, so the decoder reports a partial success of nothing.
    obtain ⟨s, hs⟩ : ∃ s, Json.strOf lib ((((Literal.members block).lookup "errorMessage").map
        Literal.value).getD (.str "")) = .ok s := by
      by_cases hnull : (Literal.members block).lookup "errorMessage" = some .null
      · exact ⟨_, strOf_null hnull⟩
      · exact ⟨_, strOf_renders hnull hmessage⟩
    rw [decodeResponse_rendered hl hdoc hblock hne hm hs, report_eq_none hsays]
    exact iff_of_false (by simp) fun h => hsays h.1

/-- **Where the response decoders agree.**  At a rendering and a binary form of one response both
decoders report what it says exactly when the rendering has no block, an empty block, or a block of
a response that says something, whose message is not null and whose count is not rounded.  Where the
rendering has an int that `json.loads` refuses, they agree on a response that says nothing only. -/
theorem decode_response_agree_iff {protobuf : ProtobufLib} (hl : lib.Lawful)
    (hp : protobuf.Lawful) (hkind : kind ≠ .profiles) {response : ExportResponse}
    {body wire : Bytes} {doc : List (String × Literal)}
    (hdoc : (Literal.obj doc).Loads (lib.loads body)) (hrenders : Renders kind response doc)
    (hwire : protobuf.fromString kind wire = some response) :
    (JSONEncoder.decodeResponse lib kind body = .ok response.report ∧
        ProtobufEncoder.decodeResponse protobuf kind wire = .ok response.report) ↔
      PlainlyRendered kind response doc := by
  rw [and_iff_left (protobuf_decodeResponse hp hkind hwire), PlainlyRendered]
  by_cases hread : (Literal.obj doc).IsRead
  · rw [Literal.loads_of_isRead hread, Literal.value_obj] at hdoc
    rw [if_pos hread]
    cases hresponse : response.partialSuccess with
    | none =>
        -- No block: the condition asks nothing and the document reports nothing.
        simp only [Renders, hresponse] at hrenders
        have hsilent : ¬ response.Says := by
          rintro ⟨p, hp, -⟩
          rw [hresponse] at hp
          cases hp
        have hno : ∀ block, (Literal.dict doc).lookup "partialSuccess" ≠ some (.obj block) := by
          intro block
          rw [Literal.lookup_dict]
          rcases hrenders with h | h <;> simp [h, Literal.value]
        rw [decodeResponse_noBlock hdoc hno, report_eq_none hsilent]
        refine iff_of_true rfl fun block hblock => ?_
        rcases hrenders with h | h <;> rw [h] at hblock <;> cases hblock
    | some p =>
        simp only [Renders, hresponse] at hrenders
        obtain ⟨block, hblock, hrenders⟩ := hrenders
        have hvalue : (Literal.dict doc).lookup "partialSuccess" =
            some (.obj (Literal.dict block)) := by
          rw [Literal.lookup_dict, hblock, Option.map_some, Literal.value_obj]
        rw [decodeResponse_block_iff hl hdoc hvalue hresponse hrenders]
        simp only [hblock, Option.some.injEq, Literal.obj.injEq, forall_eq']
  · obtain ⟨message, hraise⟩ := (Literal.loads_of_not_isRead hread).mp hdoc
    rw [if_neg hread, decodeResponse_unread hraise]
    by_cases hsays : response.Says
    · obtain ⟨p, hp, -⟩ := id hsays
      rw [report_eq_some hp hsays]
      exact iff_of_false (by simp) fun h => h hsays
    · rw [report_eq_none hsays]
      exact iff_of_true rfl hsays

/-! ### A count with a point -/

/-- Reads the empty message, and another one. -/
def ProtobufLib.only (wire : Bytes) (response : ExportResponse) : ProtobufLib where
  fromString _ body := if body = [] then some {} else if body = wire then some response else none

theorem ProtobufLib.only_lawful (wire : Bytes) (response : ExportResponse) :
    (ProtobufLib.only wire response).Lawful := by
  intro kind response' h
  cases h
  rfl

/-- Three records were rejected for being late. -/
def threeLate : ExportResponse := ⟨some ⟨3, "late", by decide⟩⟩

def threeLateBlock : List (String × Literal) :=
  [("rejectedDataPoints", .decimal { digits := 30, exponent := -1 }), ("errorMessage", .str "late"),
    ("retryIn", .null)]

/-- `{"partialSuccess":{"rejectedDataPoints":3.0,"errorMessage":"late","retryIn":null}}`. -/
def threeLateDoc : List (String × Literal) := [("partialSuccess", .obj threeLateBlock)]

def threeLateText : Bytes := ascii ("\x7b\"partialSuccess\":\x7b\"rejectedDataPoints\":3.0," ++
  "\"errorMessage\":\"late\",\"retryIn\":null\x7d\x7d")

/-- The fields 1 and 2 of `partial_success`. -/
def threeLateWire : Bytes := [0x0a, 0x08, 0x08, 0x03, 0x12, 0x04, 0x6c, 0x61, 0x74, 0x65]

/-- `json.loads` at the text, and at no other. -/
def threeLateLib : JsonLib := .only threeLateText (Literal.obj threeLateDoc).value

theorem threeLate_lawful : threeLateLib.Lawful := by
  have hvalue : (Literal.obj threeLateDoc).value = .obj [("partialSuccess", .obj
      [("rejectedDataPoints", .float (Decimal.float { digits := 30, exponent := -1 })),
        ("errorMessage", .str "late"), ("retryIn", .null)])] := rfl
  refine JsonLib.only_lawful (by decide) ?_
  simp [hvalue, Json.DigitsFit, Json.DigitsFitEntries, Json.DigitsFitEntry]

theorem threeLate_plainlyRendered : PlainlyRendered .metrics threeLate threeLateDoc := by
  rw [PlainlyRendered, if_pos (by decide)]
  intro block hblock
  have heq : some (Literal.obj threeLateBlock) = some (.obj block) := hblock
  cases heq
  refine Or.inr ⟨⟨_, rfl, Or.inl (by decide)⟩, nofun, fun x hx => ?_⟩
  have heq : some (Literal.decimal { digits := 30, exponent := -1 }) = some (.decimal x) := hx
  cases heq
  unfold Decimal.IsExact
  decide +kernel

theorem decode_response_agree_iff_three :
    JSONEncoder.decodeResponse threeLateLib .metrics threeLateText = .ok (some ⟨3, "late"⟩) ∧
      ProtobufEncoder.decodeResponse (.only threeLateWire threeLate) .metrics threeLateWire =
        .ok (some ⟨3, "late"⟩) := by
  have hloads : (Literal.obj threeLateDoc).Loads (threeLateLib.loads threeLateText) :=
    (Literal.loads_of_isRead (by decide)).mpr (JsonLib.only_loads _ _)
  have hvalue : Decimal.value { digits := 30, exponent := -1 } = (3 : Int) := by decide +kernel
  have hrenders : Renders .metrics threeLate threeLateDoc := ⟨_, rfl, hvalue, rfl⟩
  have hwire : (ProtobufLib.only threeLateWire threeLate).fromString .metrics threeLateWire =
      some threeLate := rfl
  have hreport : threeLate.report = some ⟨3, "late"⟩ :=
    report_eq_some rfl ⟨_, rfl, Or.inl (by decide)⟩
  have h := (decode_response_agree_iff threeLate_lawful
    (ProtobufLib.only_lawful threeLateWire threeLate) (by decide) hloads hrenders hwire).mpr
    threeLate_plainlyRendered
  rwa [hreport] at h

/-! ### A block of explicit defaults -/

def defaultsBlock : List (String × Literal) :=
  [("rejectedDataPoints", .str "0"), ("errorMessage", .str "")]

/-- `{"partialSuccess":{"rejectedDataPoints":"0","errorMessage":""}}`. -/
def explicitDefaults : List (String × Literal) := [("partialSuccess", .obj defaultsBlock)]

def explicitDefaultsText : Bytes :=
  ascii "\x7b\"partialSuccess\":\x7b\"rejectedDataPoints\":\"0\",\"errorMessage\":\"\"\x7d\x7d"

/-- `partial_success` of no fields. -/
def defaultsWire : Bytes := [0x0a, 0x00]

def explicitDefaultsLib : JsonLib := .only explicitDefaultsText (Literal.obj explicitDefaults).value

theorem explicitDefaults_lawful : explicitDefaultsLib.Lawful := by
  have hvalue : (Literal.obj explicitDefaults).value = .obj
      [("partialSuccess", .obj [("rejectedDataPoints", .str "0"), ("errorMessage", .str "")])] :=
    rfl
  refine JsonLib.only_lawful (by decide) ?_
  simp [hvalue, Json.DigitsFit, Json.DigitsFitEntries, Json.DigitsFitEntry]

theorem explicitDefaults_loads :
    explicitDefaultsLib.loads explicitDefaultsText = .ok (Literal.obj explicitDefaults).value :=
  JsonLib.only_loads _ _

/-- The JSON decoder reports a partial success of nothing, the protobuf decoder reports none. -/
theorem decode_response_differ_at_defaults :
    explicitDefaultsLib.Lawful ∧ (ProtobufLib.only defaultsWire ⟨some default⟩).Lawful ∧
      (Literal.obj explicitDefaults).Loads (explicitDefaultsLib.loads explicitDefaultsText) ∧
      Renders .metrics ⟨some default⟩ explicitDefaults ∧
      (ProtobufLib.only defaultsWire ⟨some default⟩).fromString .metrics defaultsWire =
        some ⟨some default⟩ ∧
      JSONEncoder.decodeResponse explicitDefaultsLib .metrics explicitDefaultsText =
        .ok (some ⟨0, ""⟩) ∧
      ProtobufEncoder.decodeResponse (.only defaultsWire ⟨some default⟩) .metrics defaultsWire =
        .ok none := by
  have hlawful := ProtobufLib.only_lawful defaultsWire ⟨some default⟩
  have hloads : (Literal.obj explicitDefaults).Loads
      (explicitDefaultsLib.loads explicitDefaultsText) :=
    (Literal.loads_of_isRead (by decide)).mpr explicitDefaults_loads
  refine ⟨explicitDefaults_lawful, hlawful, hloads, ⟨_, rfl, rfl, rfl⟩, rfl, ?_, ?_⟩
  · have hdoc : explicitDefaultsLib.loads explicitDefaultsText =
        .ok (.obj (Literal.dict explicitDefaults)) := by
      rw [explicitDefaults_loads, Literal.value_obj]
    have hblock : (Literal.dict explicitDefaults).lookup "partialSuccess" =
        some (.obj (Literal.dict defaultsBlock)) := rfl
    exact decodeResponse_rendered explicitDefaults_lawful hdoc hblock (List.cons_ne_nil _ _) rfl rfl
  · rw [protobuf_decodeResponse hlawful (by decide) rfl,
      report_eq_none (by simp [ExportResponse.Says]; decide)]

end OtlpClient
