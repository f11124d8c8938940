import OtlpClient.Client.Reports
import OtlpClient.Processor.Conservation

/-!
# Processor — what a response does to the counters

The result of a batch is what the client returned or raised for it, and the client's is what its
encoder read of the response (`Exports`).

* `Wire`: the two encoders, and what a body counts for each.
* `counters_bounded`: no counter is inflated where no response counts below zero.
* `counters_inflated`: a response that counts below zero, and a run in which it inflates a counter.
-/

namespace OtlpClient

open Proto

/-! ### What a body counts -/

/-- The protobuf encoder, to a transport. -/
def ProtobufEncoder.encoder (lib : ProtobufLib) : Encoder where
  contentType := "application/x-protobuf"
  decodeResponse := ProtobufEncoder.decodeResponse lib

/-- One of the two encoders, with the library it reads responses with. -/
inductive Wire where
  | json (lib : JsonLib)
  | protobuf (lib : ProtobufLib)

namespace Wire

def encoder : Wire → Encoder
  | .json lib => JSONEncoder.encoder lib
  | .protobuf lib => ProtobufEncoder.encoder lib

def Lawful : Wire → Prop
  | .json lib => lib.Lawful
  | .protobuf lib => lib.Lawful

/-- The partial success of a body counts so many rejected records of a signal. -/
def Counts (kind : SignalKind) (body : Bytes) (n : Int) : Wire → Prop
  | .json lib => ∃ doc block value, lib.loads body = .ok (.obj doc) ∧
      doc.lookup "partialSuccess" = some (.obj block) ∧
      block.lookup (rejectedKey kind) = some value ∧ value.intOf = .ok n
  | .protobuf lib => ∃ response p, lib.fromString kind body = some response ∧
      response.partialSuccess = some p ∧ p.rejected = n

variable {kind : SignalKind} {body : Bytes} {p : PartialSuccess}

theorem intOrZero_eq {value : Json} {n : Int} (h : intOrZero value = .ok n) :
    n = 0 ∨ value.intOf = .ok n := by
  unfold intOrZero at h
  split at h
  · exact Or.inl (Except.ok.inj h).symm
  · exact Or.inl (Except.ok.inj h).symm
  · exact Or.inr h

/-- A block that is read counts what is read, or nothing. -/
theorem readPartialSuccess_counts {lib : JsonLib} {block : List (String × Json)}
    (h : readPartialSuccess lib kind block = .ok p) :
    p.rejected = 0 ∨
      ∃ value, block.lookup (rejectedKey kind) = some value ∧ value.intOf = .ok p.rejected := by
  unfold readPartialSuccess at h
  cases hn : intOrZero ((block.lookup (rejectedKey kind)).getD (.int 0)) with
  | error e =>
      rw [hn] at h
      cases h
  | ok n =>
      cases hs : Json.strOf lib ((block.lookup "errorMessage").getD (.str "")) with
      | error e =>
          rw [hn, hs] at h
          cases h
      | ok message =>
          rw [hn, hs] at h
          cases h
          dsimp only
          rcases intOrZero_eq hn with h0 | hint
          · exact Or.inl h0
          · cases hk : block.lookup (rejectedKey kind) with
            | none =>
                rw [hk] at hint
                exact Or.inl (Except.ok.inj hint).symm
            | some value =>
                rw [hk] at hint
                exact Or.inr ⟨value, rfl, hint⟩

/-- What a decoder reports is what the body counts, or nothing. -/
theorem decode_counts {w : Wire} (h : w.encoder.decodeResponse kind body = .ok (some p)) :
    p.rejected = 0 ∨ w.Counts kind body p.rejected := by
  cases w with
  | json lib =>
      change JSONEncoder.decodeResponse lib kind body = _ at h
      unfold JSONEncoder.decodeResponse at h
      split at h
      · cases h
      · split at h
        · cases h
        · cases h
        · rename_i doc hdoc
          split at h
          · rename_i block hblock
            split at h
            · cases h
            · cases hr : readPartialSuccess lib kind block with
              | error e =>
                  rw [hr] at h
                  cases h
              | ok q =>
                  rw [hr] at h
                  cases h
                  rcases readPartialSuccess_counts hr with h0 | ⟨value, hk, hv⟩
                  · exact Or.inl h0
                  · exact Or.inr ⟨doc, block, value, hdoc, hblock, hk, hv⟩
          · cases h
        · cases h
  | protobuf lib =>
      change ProtobufEncoder.decodeResponse lib kind body = _ at h
      unfold ProtobufEncoder.decodeResponse at h
      split at h
      · cases h
      · split at h
        · cases h
        · split at h
          · cases h
          · rename_i response hresponse
            dsimp only at h
            split at h
            · cases h
            · cases h
              cases hp : response.partialSuccess with
              | none => exact Or.inl rfl
              | some q => exact Or.inr ⟨response, q, hresponse, hp, rfl⟩

end Wire

namespace Processor

variable {α : Type} {m : Nat} {maxBatch : Int}

/-! ### The result of a batch -/

/-- `_export_batch`, from what the client returns or raises. -/
def ExportResult.ofExport {T : Type} : Except Exn (ExportOutcome T) → ExportResult
  | .ok (.partialSuccess p) => .partialSuccess p
  | .ok _ => .success
  | .error .cancelled => .cancelled
  | .error e => .raised e.text

/-- The result is one that exporting over HTTP gives, with replies that are allowed. -/
def Answered [Seconds Binary64] (t : HTTPTransport) (allowed : SignalKind → Response → Prop)
    (kind : SignalKind) (result : ExportResult) : Prop :=
  ∃ (Data : Type) (client : OTLPClient Binary64 Data) (world : World Binary64) (lib : HttpLib)
    (post : List (OtlpClient.Event Binary64) → Request → Reply)
    (now : List (OtlpClient.Event Binary64) → Binary64) (data : List Data) (rounds : Nat)
    (outcome : Except Exn (ExportOutcome Binary64)),
    (∀ tr request r, post tr request = .response r → allowed kind r) ∧
      (client.exportSignal (world.overHttp t lib post now) kind data rounds {}).1 =
        some <$> outcome ∧
      result = .ofExport outcome

/-- A batch ends with its task cancelled, or with what exporting it gives. -/
def Exports [Seconds Binary64] (t : HTTPTransport) (allowed : SignalKind → Response → Prop)
    (s : State α m) : Action α → Prop
  | .finish task result => result = .cancelled ∨ ∀ kind batch rest,
      s.flush task = .exporting kind batch rest → Answered t allowed kind result
  | _ => True

/-- A response that counts no number below zero. -/
def CountsFairly (w : Wire) (kind : SignalKind) (r : Response) : Prop :=
  IsSuccess r.status → ∀ n, w.Counts kind r.body n → 0 ≤ n

/-- No partial success of fair responses rejects fewer than zero records. -/
theorem Answered.rejected_nonneg [Seconds Binary64] {w : Wire} {t : HTTPTransport}
    (ht : t.encoder = w.encoder) {kind : SignalKind} {result : ExportResult}
    (h : Answered t (CountsFairly w) kind result) :
    ∀ p, result = .partialSuccess p → 0 ≤ p.rejected := by
  obtain ⟨Data, client, world, lib, post, now, data, rounds, outcome, hpost, hout, rfl⟩ := h
  intro p hp
  have ho : outcome = .ok (.partialSuccess p) := by
    cases outcome with
    | error e => cases e <;> cases hp
    | ok o =>
        cases o with
        | partialSuccess q =>
            cases hp
            rfl
        | _ => cases hp
  subst ho
  obtain ⟨tr, request, r, hr, hs, hd⟩ := export_report hout
  rw [ht] at hd
  rcases Wire.decode_counts hd with h0 | hc
  · omega
  · exact hpost tr request r hr hs _ hc

/-! ### The counters of a step -/

theorem resume_exported (s : State α m) (t : Task) (kinds : List SignalKind) :
    (resume s t kinds).1.exported = s.exported := by
  obtain ⟨_, _, _, _, _, _, he⟩ := resume_frame s t kinds
  rw [he]

/-- The end of an export counts the batch as its result says. -/
theorem finish_exported {s s' : State α m} {t : Task} {result : ExportResult}
    {es : List (Event α)} (hs : Step maxBatch s (.finish t result) s' es) {kind : SignalKind}
    {batch : List α} {rest : List SignalKind} (hf : s.flush t = .exporting kind batch rest) :
    s'.exported = (settle s batch result).exported := by
  cases hs with
  | finish hf' hr =>
      rw [hf] at hf'
      cases hf'
      exact resume_exported _ _ _
  | abort hf' =>
      rw [hf] at hf'
      cases hf'
      exact left_exported _ t

/-- A batch whose result rejects no negative number of records exports between none of its records
and all of them. -/
theorem settle_exported (s : State α m) (batch : List α) {result : ExportResult}
    (h : ∀ p, result = .partialSuccess p → 0 ≤ p.rejected) :
    0 ≤ (settle s batch result).exported - s.exported ∧
      (settle s batch result).exported - s.exported ≤ batch.length := by
  cases result with
  | success =>
      dsimp only [settle]
      omega
  | partialSuccess p =>
      have hp := h p rfl
      dsimp only [settle]
      omega
  | raised message =>
      dsimp only [settle]
      omega
  | cancelled =>
      dsimp only [settle]
      omega

theorem settleEvents_rejections (s : State α m) (kind : SignalKind) (batch : List α)
    {result : ExportResult} (h : ∀ p, result = .partialSuccess p → 0 ≤ p.rejected) :
    0 ≤ rejections (settleEvents s kind batch result) := by
  cases result with
  | partialSuccess p =>
      have hp := h p rfl
      have hr : rejections (settleEvents s kind batch (.partialSuccess p)) =
          min p.rejected batch.length := add_zero _
      rw [hr]
      omega
  | _ => exact Int.le_refl 0

/-! ### The bound -/

section Bound

variable [Seconds Binary64] {w : Wire} {t : HTTPTransport}

/-- Runs in which every batch ends as exporting it does, with fair responses. -/
abbrev FairRun (maxBatch : Int) (w : Wire) (t : HTTPTransport) :
    State α m → List (Event α) → Prop :=
  Machine.Run ((Step maxBatch).onlyIf (Exports t (CountsFairly w))) init

theorem finish_rejected {s : State α m} {task : Task} {result : ExportResult} {kind : SignalKind}
    {batch : List α} {rest : List SignalKind} (ht : t.encoder = w.encoder)
    (ha : Exports t (CountsFairly w) s (.finish task result))
    (hf : s.flush task = .exporting kind batch rest) :
    ∀ p, result = .partialSuccess p → 0 ≤ p.rejected := by
  rcases ha with rfl | ha
  · exact nofun
  · exact (ha kind batch rest hf).rejected_nonneg ht

theorem rejections_step {s s' : State α m} {a : Action α} {es : List (Event α)}
    (ht : t.encoder = w.encoder) (hs : Step maxBatch s a s' es)
    (ha : Exports t (CountsFairly w) s a) : 0 ≤ rejections es := by
  cases hs with
  | submit hk => exact Int.le_of_eq (rejections_submit _ _ _).symm
  | acquire _ _ _ => exact Int.le_of_eq (resume_rejections _ _ _).symm
  | finish hf hr =>
      rw [rejections_append, resume_rejections, add_zero]
      exact settleEvents_rejections _ _ _ (finish_rejected ht ha hf)
  | abort _ => exact Int.le_refl 0
  | _ => exact Int.le_refl 0

theorem fairRun_rejections (ht : t.encoder = w.encoder) {s : State α m} {tr : List (Event α)}
    (hr : FairRun maxBatch w t s tr) : 0 ≤ rejections tr := by
  refine Machine.Run.invariant (I := fun _ tr => 0 ≤ rejections tr) hr (Int.le_refl 0) ?_
  rintro s a s' tr es - ih ⟨hs, ha⟩
  have h := rejections_step ht hs ha
  rw [rejections_append]
  omega

/-- **No counter is inflated by fair responses.**  In every run whose batches end as a client over
HTTP and either encoder ends them, where no 2xx response counts fewer than zero rejected records:
what is exported and dropped is at most what was submitted, and each batch adds to what is exported
between none and all of its records. -/
theorem counters_bounded (ht : t.encoder = w.encoder) {s : State α m} {tr : List (Event α)}
    (hr : FairRun maxBatch w t s tr) :
    s.exported + s.dropped ≤ s.submitted ∧
      ∀ {task : Task} {result : ExportResult} {s' : State α m} {es : List (Event α)}
        {kind : SignalKind} {batch : List α} {rest : List SignalKind},
        Step maxBatch s (.finish task result) s' es →
        Exports t (CountsFairly w) s (.finish task result) →
        s.flush task = .exporting kind batch rest →
        0 ≤ s'.exported - s.exported ∧ s'.exported - s.exported ≤ batch.length := by
  constructor
  · have hrej := fairRun_rejections ht hr
    have h : Balanced s tr := run_balanced hr.of_onlyIf
    unfold Balanced account at h
    omega
  · intro task result s' es kind batch rest hs ha hf
    rw [finish_exported hs hf]
    exact settle_exported s batch (finish_rejected ht ha hf)

end Bound

/-! ### A count of one, and of minus five -/

/-- `{"partialSuccess":{"rejectedDataPoints":n}}`. -/
def countDoc (n : Int) : Json :=
  .obj [("partialSuccess", .obj [("rejectedDataPoints", .int n)])]

/-- The same, with the digits of the count. -/
def countText (digits : String) : Bytes :=
  ascii ("\x7b\"partialSuccess\":\x7b\"rejectedDataPoints\":" ++ digits ++ "\x7d\x7d")

def countResponse (digits : String) : Response where
  status := 200
  header _ := none
  body := countText digits

/-- Reads that text only. -/
def countLib (digits : String) (n : Int) : JsonLib := .only (countText digits) (countDoc n)

/-- Seconds that nobody counts. -/
@[reducible] def idleSeconds : Seconds Binary64 where
  sub x _ := x
  mul x _ := x
  pow x _ := .ok x
  min x _ := x
  le _ _ := true
  lt _ _ := false

/-- A client without a provider. -/
def plainClient : OTLPClient Binary64 Nat where
  headersFor _ := []
  encode _ _ := .ok []
  policy := ⟨.one, .one, .one, .one⟩
  hasCredentials := false

def plainWorld : World Binary64 where
  headers _ _ := .ok []
  invalidate _ _ := .ok ()
  send _ _ _ _ := .ok .success
  sleep _ _ := .ok ()
  monotonic _ := .one
  jitter _ := .one

/-- The batch of `exportingOne` ends with a count. -/
def countedOne (n : Int) : State Nat 1 :=
  (resume { settle exportingOne [2] (.partialSuccess ⟨n, ""⟩) with
    cancelling := Function.update exportingOne.cancelling (.caller 0) false } (.caller 0)
    [.logs, .traces]).1

theorem countedOne_finish (n : Int) : Step 512 exportingOne
    (.finish (.caller 0) (.partialSuccess ⟨n, ""⟩)) (countedOne n)
    (settleEvents exportingOne .metrics [2] (.partialSuccess ⟨n, ""⟩) ++
      (resume (settle exportingOne [2] (.partialSuccess ⟨n, ""⟩)) (.caller 0)
        [.logs, .traces]).2) :=
  @Step.finish _ _ _ exportingOne (.caller 0) _ _ _ (.partialSuccess ⟨n, ""⟩) rfl nofun

/-- The run to `exportingOne`, where what ends a batch is restricted. -/
theorem exportingOne_onlyIf {C : State Nat 1 → Action Nat → Prop}
    (hC : ∀ s a, (∀ t result, a ≠ .finish t result) → C s a) :
    Machine.Run ((Step 512).onlyIf C) init exportingOne exportingOneTrace := by
  have h₀ : Machine.Run ((Step 512).onlyIf C) (init : State Nat 1) init [] := .start
  have h₁ := h₀.nextIf (@Step.submit _ _ _ _ .metrics [1, 2] (by decide)) (hC _ _ nofun)
  have h₂ := h₁.nextIf (.call (n := 0) rfl) (hC _ _ nofun)
  exact h₂.nextIf (Step.acquire (s := calling) (t := .caller 0) rfl rfl rfl) (hC _ _ nofun)

theorem exports_of_ne [Seconds Binary64] {t : HTTPTransport}
    {allowed : SignalKind → Response → Prop} {s : State α m} {a : Action α}
    (ha : ∀ t result, a ≠ .finish t result) : Exports t allowed s a := by
  cases a with
  | finish task result => exact absurd rfl (ha task result)
  | _ => trivial

theorem countsFairly_one (kind : SignalKind) :
    CountsFairly (.json (countLib "1" 1)) kind (countResponse "1") := by
  rintro - n ⟨doc, block, value, hdoc, hblock, hvalue, hn⟩
  rw [show (countLib "1" 1).loads (countResponse "1").body = .ok (countDoc 1) from
    JsonLib.only_loads _ _] at hdoc
  cases hdoc
  cases hblock
  cases kind with
  | metrics =>
      cases hvalue
      cases hn
      decide
  | _ => cases hvalue

theorem countedOne_fair :
    @Exports _ _ idleSeconds (HTTPTransport.plain (countLib "1" 1))
      (CountsFairly (.json (countLib "1" 1))) exportingOne
      (.finish (.caller 0) (.partialSuccess ⟨1, ""⟩)) := by
  refine Or.inr fun kind batch rest hf => ?_
  cases hf
  refine ⟨Nat, plainClient, plainWorld, .plain, fun _ _ => .response (countResponse "1"),
    fun _ => .one, [0], 1, .ok (.partialSuccess ⟨1, ""⟩), ?_, rfl, rfl⟩
  rintro - - r ⟨⟩
  exact countsFairly_one .metrics

theorem counters_bounded_countedOne :
    (countedOne 1).exported + (countedOne 1).dropped ≤ (countedOne 1).submitted ∧
      0 ≤ (countedOne 1).exported - exportingOne.exported ∧
      (countedOne 1).exported - exportingOne.exported ≤ 1 := by
  have hrun : @FairRun _ _ idleSeconds 512 (.json (countLib "1" 1))
      (HTTPTransport.plain (countLib "1" 1)) exportingOne exportingOneTrace :=
    exportingOne_onlyIf fun _ _ ha => @exports_of_ne _ _ idleSeconds _ _ _ _ ha
  have hbounded := @counters_bounded Nat 1 512 idleSeconds (.json (countLib "1" 1))
    (HTTPTransport.plain (countLib "1" 1)) rfl
  exact ⟨(hbounded (hrun.nextIf (countedOne_finish 1) countedOne_fair)).1,
    (hbounded hrun).2 (countedOne_finish 1) countedOne_fair rfl⟩

theorem countLib_lawful : (countLib "-5" (-5)).Lawful := by
  have hfive : (5 : Nat) < 10 ^ maxStrDigits :=
    Nat.lt_of_lt_of_le (show 5 < 10 ^ 1 by decide) (Nat.pow_le_pow_right (by decide) (by decide))
  refine JsonLib.only_lawful (by decide) ?_
  simp only [countDoc, Json.DigitsFit, Json.DigitsFitEntries, Json.DigitsFitEntry, and_true]
  exact hfive

/-- The JSON decoder reads a count below zero, and a record that was submitted once and dropped is
exported five times over. -/
theorem counters_inflated : ∃ (_ : Seconds Binary64) (s : State Nat 1) (tr : List (Event Nat)),
    (countLib "-5" (-5)).Lawful ∧
      Machine.Run ((Step 512).onlyIf
        (Exports (HTTPTransport.plain (countLib "-5" (-5))) fun _ _ => True)) init s tr ∧
      ¬ s.exported + s.dropped ≤ s.submitted := by
  refine ⟨idleSeconds, countedOne (-5), _, countLib_lawful,
    (exportingOne_onlyIf fun _ _ ha => @exports_of_ne _ _ idleSeconds _ _ _ _ ha).nextIf
      (countedOne_finish (-5)) (Or.inr fun kind batch rest hf => ?_), by decide⟩
  cases hf
  exact ⟨Nat, plainClient, plainWorld, .plain, fun _ _ => .response (countResponse "-5"),
    fun _ => .one, [0], 1, .ok (.partialSuccess ⟨-5, ""⟩), fun _ _ _ _ => trivial, rfl, rfl⟩

end Processor

end OtlpClient
