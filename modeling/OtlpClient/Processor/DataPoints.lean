import Mathlib.Algebra.BigOperators.Fin
import Mathlib.Algebra.Order.BigOperators.Group.Finset
import Mathlib.Data.Fintype.BigOperators
import OtlpClient.Model.Metrics
import OtlpClient.Processor.Exported

/-!
# Processor — rejected data points

A collector counts the data points it rejects, and `flush` takes the count off the metrics of the
batch.

* `untouched_le_iff`: how many of some numbers are zero, against their sum.
* `data_points_accounted_iff`: when at least the metrics without a rejected point are exported.
-/

namespace OtlpClient

open Proto

/-- Of `n` numbers as many are zero as `n` less their sum, or fewer, exactly when each is at most one,
or when none is zero. -/
theorem untouched_le_iff {n : Nat} (f : Fin n → Nat) :
    ((Finset.univ.filter fun i => f i = 0).card : Int) ≤ max 0 ((n : Int) - (∑ i, f i : Nat)) ↔
      (∀ i, f i ≤ 1) ∨ ∀ i, f i ≠ 0 := by
  have hsplit := Finset.card_filter_add_card_filter_not
    (s := (Finset.univ : Finset (Fin n))) (p := fun i => f i = 0)
  rw [Finset.card_univ, Fintype.card_fin] at hsplit
  -- The numbers that are not zero are counted by a sum below the sum of them all.
  have hcount : (Finset.univ.filter fun i => ¬ f i = 0).card =
      ∑ i, if ¬ f i = 0 then 1 else 0 := Finset.card_filter _ _
  have hle : ∀ i ∈ (Finset.univ : Finset (Fin n)), (if ¬ f i = 0 then 1 else 0) ≤ f i := by
    intro i _
    by_cases hi : f i = 0
    · rw [if_neg (not_not_intro hi)]
      exact Nat.zero_le _
    · rw [if_pos hi]
      exact Nat.one_le_iff_ne_zero.mpr hi
  have hsum := Finset.sum_le_sum hle
  have hall : (∑ i, if ¬ f i = 0 then 1 else 0) = ∑ i, f i ↔ ∀ i, f i ≤ 1 := by
    rw [Finset.sum_eq_sum_iff_of_le hle]
    constructor
    · intro h i
      have hi := h i (Finset.mem_univ i)
      by_cases h0 : f i = 0
      · omega
      · rw [if_pos h0] at hi
        omega
    · intro h i _
      have hi := h i
      by_cases h0 : f i = 0
      · rw [if_neg (not_not_intro h0), h0]
      · rw [if_pos h0]
        omega
  have hzero : (Finset.univ.filter fun i => f i = 0).card = 0 ↔ ∀ i, f i ≠ 0 := by
    rw [Finset.card_eq_zero, Finset.filter_eq_empty_iff]
    exact ⟨fun h i => h (Finset.mem_univ i), fun h i _ => h i⟩
  rw [← hall, ← hzero, ← hcount]
  rw [← hcount] at hsum
  omega

/-! ### Rejecting data points -/

/-- How many data points a metric has. -/
def MetricData.pointCount : MetricData → Nat
  | .gauge dataPoints | .sum dataPoints _ _ => dataPoints.length
  | .histogram dataPoints _ => dataPoints.length
  | .exponentialHistogram dataPoints _ => dataPoints.length
  | .summary dataPoints => dataPoints.length

/-- The data points of a batch that a collector rejects, metric by metric. -/
abbrev Rejection (batch : List Metric) : Type :=
  (i : Fin batch.length) → Finset (Fin (batch.get i).data.pointCount)

namespace Rejection

variable {batch : List Metric}

/-- How many points are rejected. -/
def total (r : Rejection batch) : Nat := ∑ i, (r i).card

/-- How many metrics have none of their points rejected. -/
def untouched (r : Rejection batch) : Nat :=
  (Finset.univ.filter fun i => (r i).card = 0).card

end Rejection

/-- What a decoder reports is what the body counts, or nothing where that is nothing. -/
theorem Wire.decode_of_counts {w : Wire} (hw : w.Lawful) {kind : SignalKind} {body : Bytes}
    {n : Int} (hk : kind ≠ .profiles) (h : w.Counts kind body n) :
    (∃ p, w.encoder.decodeResponse kind body = .ok (some p) ∧ p.rejected = n) ∨
      n = 0 ∧ w.encoder.decodeResponse kind body = .ok none := by
  cases w with
  | json lib =>
      obtain ⟨doc, block, value, hdoc, hblock, hvalue, hint⟩ := h
      have hl : lib.Lawful := hw
      have hne : block ≠ [] := by
        rintro rfl
        cases hvalue
      have hmessage : ∃ s,
          Json.strOf lib ((block.lookup "errorMessage").getD (.str "")) = .ok s := by
        cases hm : block.lookup "errorMessage" with
        | none => exact ⟨"", rfl⟩
        | some j =>
            have hd := Json.digitsFit_lookup (hl.loads_digits hdoc) hblock
            exact Json.strOf_ok lib (Json.digitsFit_lookup hd hm)
      obtain ⟨s, hs⟩ := hmessage
      refine Or.inl ⟨⟨n, s⟩, ?_, rfl⟩
      change JSONEncoder.decodeResponse lib kind body = _
      rw [decodeResponse_block hl hdoc hblock hne, readPartialSuccess, hvalue, Option.getD_some,
        intOrZero, hint, hs]
      rfl
  | protobuf lib =>
      obtain ⟨response, p, hresponse, hp, rfl⟩ := h
      change (∃ q, ProtobufEncoder.decodeResponse lib kind body = _ ∧ _) ∨
        _ ∧ ProtobufEncoder.decodeResponse lib kind body = _
      rw [protobuf_decodeResponse (show lib.Lawful from hw) hk hresponse, ExportResponse.report, hp]
      by_cases h0 : p.rejected = 0 ∧ p.errorMessage = ""
      · dsimp only
        rw [if_pos h0]
        exact Or.inr ⟨h0.1, rfl⟩
      · dsimp only
        rw [if_neg h0]
        exact Or.inl ⟨_, rfl, rfl⟩

namespace Processor

variable {m : Nat} {maxBatch : Int}

/-- What a batch counts as exported when the response to it counts so many rejected records. -/
theorem exported_of_counts (maxBatch : Int) {w : Wire} (hw : w.Lawful) {t : HTTPTransport}
    (ht : t.encoder = w.encoder) (lib : HttpLib) (now : Binary64) {kind : SignalKind}
    (hk : kind ≠ .profiles) (payload : Bytes) (headers : Headers) {r : Response} {n : Int}
    (hr : IsSuccess r.status) (hn : w.Counts kind r.body n) :
    ∃ outcome, t.send lib (fun _ => .response r) now kind payload headers = .ok outcome ∧
      ∀ {α : Type} {s s' : State α m} {task : Task} {batch : List α} {rest : List SignalKind}
        {es : List (Event α)}, s.flush task = .exporting kind batch rest →
        Step maxBatch s (.finish task (.ofExport (OTLPClient.conclude kind outcome))) s' es →
        s'.exported - s.exported = max 0 (batch.length - n) := by
  simp only [HTTPTransport.send, HTTPTransport.classify]
  rw [if_pos hr, ht]
  rcases Wire.decode_of_counts hw hk hn with ⟨p, hd, rfl⟩ | ⟨rfl, hd⟩
  · rw [hd]
    refine ⟨.partialSuccess p, rfl, fun {α s s' task batch rest es} hf hs => ?_⟩
    rw [finish_exported hs hf]
    change s.exported + max 0 (batch.length - p.rejected) - s.exported = _
    omega
  · rw [hd]
    refine ⟨.success, rfl, fun {α s s' task batch rest es} hf hs => ?_⟩
    rw [finish_exported hs hf]
    change s.exported + max 0 (batch.length : Int) - s.exported = _
    omega

/-- **Rejected data points, counted as metrics.**  When a collector rejects some data points of a
batch and counts them in its response, `flush` counts at least the metrics without a rejected point
as exported exactly when no metric has more than one rejected point, or each has one. -/
theorem data_points_accounted_iff {w : Wire} (hw : w.Lawful) {t : HTTPTransport}
    (ht : t.encoder = w.encoder) (lib : HttpLib) (now : Binary64) (payload : Bytes)
    (headers : Headers) {batch : List Metric} (rejection : Rejection batch) {r : Response}
    (hr : IsSuccess r.status) (hn : w.Counts .metrics r.body rejection.total) :
    ∃ outcome, t.send lib (fun _ => .response r) now .metrics payload headers = .ok outcome ∧
      ∀ {s s' : State Metric m} {task : Task} {rest : List SignalKind} {es : List (Event Metric)},
        s.flush task = .exporting .metrics batch rest →
        Step maxBatch s (.finish task (.ofExport (OTLPClient.conclude .metrics outcome))) s' es →
        ((rejection.untouched : Int) ≤ s'.exported - s.exported ↔
          (∀ i, (rejection i).card ≤ 1) ∨ ∀ i, rejection i ≠ ∅) := by
  obtain ⟨outcome, hsend, hcount⟩ := exported_of_counts (m := m) maxBatch hw ht lib now
    (by decide) payload headers hr hn
  refine ⟨outcome, hsend, fun {s s' task rest es} hf hs => ?_⟩
  rw [hcount hf hs]
  have hiff := untouched_le_iff fun i => (rejection i).card
  simp only [ne_eq, Finset.card_eq_zero] at hiff ⊢
  simpa only [Rejection.untouched, Rejection.total, Finset.card_eq_zero] using hiff

/-! ### Three points of one metric -/

/-- `{"partialSuccess":{"rejectedDataPoints":"3"}}`. -/
def threeRejected : Json :=
  .obj [("partialSuccess", .obj [("rejectedDataPoints", .str "3")])]

def threeRejectedText : Bytes :=
  ascii "\x7b\"partialSuccess\":\x7b\"rejectedDataPoints\":\"3\"\x7d\x7d"

def threeRejectedWire : Wire := .json (.only threeRejectedText threeRejected)

def threeRejectedResponse : Response where
  status := 200
  header _ := none
  body := threeRejectedText

/-- A metric of three points, and a metric of one. -/
def threeAndOne : List Metric :=
  let point : NumberDataPoint := { timeUnixNano := 1, value := .int 0 }
  [⟨"three", .gauge [point, point, point], "", ""⟩, ⟨"one", .gauge [point], "", ""⟩]

/-- All points of the first metric. -/
def firstRejected : Rejection threeAndOne := fun i => if i.val = 0 then Finset.univ else ∅

theorem threeRejected_lawful : threeRejectedWire.Lawful :=
  JsonLib.only_lawful (by decide) (by simp [threeRejected, Json.DigitsFit, Json.DigitsFitEntries,
    Json.DigitsFitEntry])

theorem threeRejected_counts :
    threeRejectedWire.Counts .metrics threeRejectedText firstRejected.total :=
  ⟨_, _, _, JsonLib.only_loads _ _, rfl, rfl, rfl⟩

/-- The two metrics are submitted, and a caller exports them. -/
def exportingTwo : State Metric 2 :=
  let s := (submit 512 .metrics threeAndOne (init : State Metric 2)).1
  let s := { s with flush := Function.update s.flush (.caller 0) .acquiring }
  (resume { s with lock := some (.caller 0) } (.caller 0) signals).1

theorem data_points_accounted_three :
    ∃ outcome, (HTTPTransport.plain (.only threeRejectedText threeRejected)).send .plain
        (fun _ => .response threeRejectedResponse) .one .metrics [] [] = .ok outcome ∧
      ∀ {s s' : State Metric 2} {task : Task} {rest : List SignalKind} {es : List (Event Metric)},
        s.flush task = .exporting .metrics threeAndOne rest →
        Step 512 s (.finish task (.ofExport (OTLPClient.conclude .metrics outcome))) s' es →
        ((firstRejected.untouched : Int) ≤ s'.exported - s.exported ↔
          (∀ i, (firstRejected i).card ≤ 1) ∨ ∀ i, firstRejected i ≠ ∅) :=
  data_points_accounted_iff threeRejected_lawful rfl .plain .one [] [] firstRejected
    (by decide) threeRejected_counts

/-- One metric of the batch lost all three of its points, and the other, which lost none, is not
counted as exported. -/
theorem data_points_miscounted : ∃ (s s' : State Metric 2) (tr es : List (Event Metric))
    (outcome : ExportOutcome Binary64),
    Run 512 s tr ∧ s.flush (.caller 0) = .exporting .metrics threeAndOne [.logs, .traces] ∧
      threeRejectedWire.Counts .metrics threeRejectedText firstRejected.total ∧
      (HTTPTransport.plain (.only threeRejectedText threeRejected)).send .plain
        (fun _ => .response threeRejectedResponse) .one .metrics [] [] = .ok outcome ∧
      Step 512 s (.finish (.caller 0) (.ofExport (OTLPClient.conclude .metrics outcome))) s' es ∧
      ¬ (firstRejected.untouched : Int) ≤ s'.exported - s.exported := by
  have h₀ : Run 512 (init : State Metric 2) [] := .start
  have h₁ := h₀.next (@Step.submit _ _ _ _ .metrics threeAndOne (by decide))
  have h₂ := h₁.next (.call (n := 0) rfl)
  have h₃ := h₂.next (Step.acquire (t := .caller 0) rfl rfl rfl)
  refine ⟨exportingTwo, _, _, _, .partialSuccess ⟨3, ""⟩, h₃, rfl, threeRejected_counts, rfl,
    @Step.finish _ _ _ exportingTwo (.caller 0) _ _ _ (.partialSuccess ⟨3, ""⟩) rfl nofun, ?_⟩
  decide

end Processor

end OtlpClient
