import OtlpClient.Encoding.Decode
import OtlpClient.Encoding.Entries

/-!
# Encoding — nothing is lost

Decoding an encoded tree gives back its normal form.  An entry *survives* when its reader gets the
value from it, and also from nothing where `omit_empty` drops it (`Survives`): zeros and `False`
are written, and what is dropped is what a missing key reads as.

**`decode_encode`**: for each signal, the decoder of `Decode.lean` undoes the encoder up to
`normalize`; so two trees with one document are equal up to `normalize` (`encode_injective`).
-/

namespace OtlpClient

open Proto

variable {F : Binary64 → Prop}

/-- The builder returns, and its document decodes to the value. -/
def Decodes {α : Type} (j : Except PyError Json) (r : Json → Option α) (v : α) : Prop :=
  ∃ doc, j = .ok doc ∧ r doc = some v

/-- The reader gets the value from the entry, and from its absence where it is dropped. -/
def Survives {α : Type} (r : Json → Option α) (j : Json) (v : α) : Prop :=
  r j = some v ∧ (j.isEmpty = true → r .null = some v)

/-! ### Dicts and lists -/

theorem get_omitEmpty {kvs : List (String × Json)} (hn : (kvs.map Prod.fst).Nodup) (k : String) :
    (omitEmpty kvs).get k =
      if ((Json.obj kvs).get k).isEmpty then .null else (Json.obj kvs).get k := by
  rw [omitEmpty, Json.get, Json.get, lookup_filter (fun j => !j.isEmpty) k hn]
  cases h : kvs.lookup k with
  | none => rfl
  | some j => cases hj : j.isEmpty <;> simp [Option.filter, hj]

/-- A dict whose empty entries are dropped: every entry that survives is read. -/
theorem read_omitEmpty {α : Type} {decode : Json → Option α} {a : α}
    {kvs : List (String × Json)}
    (h : (∀ {β : Type} {k : String} {r : Json → Option β} {v : β},
        Survives r ((Json.obj kvs).get k) v → r ((omitEmpty kvs).get k) = some v) →
      decode (omitEmpty kvs) = some a)
    (hn : decide (kvs.map Prod.fst).Nodup = true) :
    decode (omitEmpty kvs) = some a := by
  refine h fun {β k r v} hr => ?_
  rw [get_omitEmpty (of_decide_eq_true hn)]
  split
  · rename_i he
    exact hr.2 he
  · exact hr.1

theorem bind_some {α β : Type} {x : Option α} {a : α} {f : α → Option β} {b : β} (hx : x = some a)
    (hf : f a = some b) : (x >>= f) = some b := by
  rw [hx]
  exact hf

theorem decodes_mapM {α β : Type} {f : α → Except PyError Json} {r : Json → Option β}
    {g : α → β} {xs : List α} (h : ∀ x ∈ xs, Decodes (f x) r (g x)) :
    ∃ docs, xs.mapM f = .ok docs ∧ docs.mapM r = some (xs.map g) := by
  induction xs with
  | nil => exact ⟨[], rfl, rfl⟩
  | cons x xs ih =>
      obtain ⟨doc, hdoc, hr⟩ := h x List.mem_cons_self
      obtain ⟨docs, hdocs, hrs⟩ := ih fun y hy => h y (List.mem_cons_of_mem _ hy)
      refine ⟨doc :: docs, ?_, ?_⟩
      · rw [List.mapM_cons, hdoc, hdocs]
        rfl
      · rw [List.mapM_cons, hr, hrs]
        rfl

theorem mapM_map {α β : Type} {f : α → Json} {r : Json → Option β} {g : α → β} {xs : List α}
    (h : ∀ x ∈ xs, r (f x) = some (g x)) : (xs.map f).mapM r = some (xs.map g) := by
  induction xs with
  | nil => rfl
  | cons x xs ih =>
      rw [List.map_cons, List.mapM_cons, h x List.mem_cons_self,
        ih fun y hy => h y (List.mem_cons_of_mem _ hy)]
      rfl

/-! ### Entries -/

theorem survives_repr (n : Int) : Survives asInt (.str n.repr) n :=
  ⟨decimal?_repr n, fun h => absurd h (by simp [repr_ne_empty])⟩

theorem survives_optU64 {n : Option Int} (h : ∀ k ∈ n, IsUint64 k) :
    ∃ j, optU64 n = .ok j ∧ Survives asInt j (n.getD 0) := by
  cases n with
  | none => exact ⟨.null, rfl, rfl, fun _ => rfl⟩
  | some n =>
      refine ⟨.str n.repr, ?_, survives_repr n⟩
      rw [optU64, (h n rfl).u64]
      rfl

theorem survives_orNone (n : Int) : Survives asInt (orNone n) n := by
  unfold orNone
  split
  · rename_i h
    subst h
    exact ⟨rfl, fun _ => rfl⟩
  · exact ⟨rfl, nofun⟩

theorem survives_str (s : String) : Survives asString (.str s) s := by
  refine ⟨rfl, fun h => ?_⟩
  rw [Json.isEmpty_str, beq_iff_eq] at h
  rw [h]
  rfl

theorem survives_optional_str (s : Option String) :
    Survives asString (optional .str s) (s.getD "") := by
  cases s with
  | none => exact ⟨rfl, fun _ => rfl⟩
  | some s => exact survives_str s

theorem survives_hexId (b : Bytes) : Survives asId (.str (hexId b)) b := by
  refine ⟨unhex?_hex b, fun h => ?_⟩
  rw [Json.isEmpty_str, beq_iff_eq, hexId_eq_empty] at h
  rw [h]
  rfl

theorem survives_optHexId (b : Option Bytes) : Survives asId (optHexId b) (b.getD []) := by
  rcases b with _ | _ | ⟨x, b⟩
  · exact ⟨rfl, fun _ => rfl⟩
  · exact ⟨rfl, fun _ => rfl⟩
  · exact survives_hexId (x :: b)

theorem survives_optional_double (x : Option Binary64) :
    Survives asOptionalDouble (optional .float x) x := by
  cases x with
  | none => exact ⟨rfl, fun _ => rfl⟩
  | some x => exact ⟨rfl, nofun⟩

/-- Only the pattern `+0.0` is dropped. -/
theorem survives_keepDouble (x : Binary64) : Survives asDouble (keepDouble x) x := by
  unfold keepDouble
  split
  · exact ⟨rfl, nofun⟩
  · rename_i hx
    rw [Binary64.ne_posZero_iff, Classical.not_not] at hx
    subst hx
    exact ⟨rfl, fun _ => rfl⟩

theorem survives_list {α : Type} {r : Json → Option α} {docs : List Json} {xs : List α}
    (h : docs.mapM r = some xs) : Survives (asList r) (.arr docs) xs := by
  refine ⟨h, fun he => ?_⟩
  rw [Json.isEmpty_arr, List.isEmpty_iff] at he
  subst he
  exact h

theorem survives_counts (counts : List Int) :
    Survives (asList asInt) (.arr (counts.map fun c => .str c.repr)) counts := by
  have hr : (counts.map fun c => Json.str c.repr).mapM asInt = some (counts.map id) :=
    mapM_map fun c _ => decimal?_repr c
  rw [List.map_id] at hr
  exact survives_list hr

theorem survives_enum {α : Type} {f : α → Int} {members : List α} {x : α}
    (h : (members.find? fun y => f y == f x) = some x) :
    Survives (asEnum f members) (orNone (f x)) x := by
  obtain ⟨h₁, h₂⟩ := survives_orNone (f x)
  exact ⟨bind_some h₁ h, fun he => bind_some (h₂ he) h⟩

/-! ### Attribute values -/

theorem decodes_map {α β : Type} {j : Except PyError β} {doc : β} (hj : j = .ok doc)
    {g : β → Json} {r : Json → Option α} {v : α} (h : r (g doc) = some v) :
    Decodes (do return g (← j)) r v := by
  rw [hj]
  exact ⟨g doc, rfl, h⟩

mutual
theorem anyValue_decodes : ∀ {v : AnyValue}, v.WellTyped F →
    Decodes (encodeAnyValue v) decodeAnyValue v
  | .bool b, _ => by
      rw [encodeAnyValue]
      exact ⟨_, rfl, by rw [decodeAnyValue]⟩
  | .int n, h => by
      rw [AnyValue.WellTyped] at h
      rw [encodeAnyValue]
      exact decodes_map h.u64 (by rw [decodeAnyValue, decimal?_repr]; rfl)
  | .float x, _ => by
      rw [encodeAnyValue]
      exact ⟨_, rfl, by rw [decodeAnyValue]⟩
  | .str s, _ => by
      rw [encodeAnyValue]
      exact ⟨_, rfl, by rw [decodeAnyValue]⟩
  | .bytes b, _ => by
      rw [encodeAnyValue]
      exact ⟨_, rfl, by rw [decodeAnyValue, b64, unb64?_b64]; rfl⟩
  | .sequence vs, h => by
      rw [AnyValue.WellTyped] at h
      obtain ⟨docs, hdocs, hr⟩ := anyValues_decode h
      rw [encodeAnyValue]
      exact decodes_map hdocs (by rw [decodeAnyValue, hr]; rfl)
  | .mapping items, h => by
      rw [AnyValue.WellTyped] at h
      obtain ⟨docs, hdocs, hr⟩ := attributes_decode h
      rw [encodeAnyValue]
      exact decodes_map hdocs (by rw [decodeAnyValue, hr]; rfl)
  | .other _, h => by
      rw [AnyValue.WellTyped] at h
      exact h.elim

theorem anyValues_decode : ∀ {vs : List AnyValue}, AnyValue.WellTypedList F vs →
    ∃ docs, encodeAnyValues vs = .ok docs ∧ decodeAnyValues docs = some vs
  | [], _ => ⟨[], by rw [encodeAnyValues]; rfl, by rw [decodeAnyValues]⟩
  | v :: vs, h => by
      rw [AnyValue.WellTypedList] at h
      obtain ⟨doc, hdoc, hr⟩ := anyValue_decodes h.1
      obtain ⟨docs, hdocs, hrs⟩ := anyValues_decode h.2
      refine ⟨doc :: docs, ?_, ?_⟩
      · rw [encodeAnyValues, hdoc, hdocs]
        rfl
      · rw [decodeAnyValues, hr, hrs]
        rfl

theorem attributes_decode : ∀ {items : List (String × AnyValue)},
    AnyValue.WellTypedItems F items →
    ∃ docs, encodeAttributes items = .ok docs ∧ decodeKeyValues docs = some items
  | [], _ => ⟨[], by rw [encodeAttributes]; rfl, by rw [decodeKeyValues]⟩
  | (key, v) :: items, h => by
      rw [AnyValue.WellTypedItems, AnyValue.WellTypedItem] at h
      obtain ⟨doc, hdoc, hr⟩ := anyValue_decodes h.1
      obtain ⟨docs, hdocs, hrs⟩ := attributes_decode h.2
      refine ⟨.obj [("key", .str key), ("value", doc)] :: docs, ?_, ?_⟩
      · rw [encodeAttributes, encodeKeyValue, hdoc, hdocs]
        rfl
      · rw [decodeKeyValues, hr, hrs]
        rfl
end

theorem attributes_survive {items : Attributes} (h : items.WellTyped F) :
    ∃ docs, encodeAttributes items = .ok docs ∧ Survives asAttributes (.arr docs) items := by
  obtain ⟨docs, hdocs, hr⟩ := attributes_decode h
  refine ⟨docs, hdocs, hr, fun he => ?_⟩
  rw [Json.isEmpty_arr, encodeAttributes_isEmpty hdocs, List.isEmpty_iff] at he
  rw [he]
  rfl

/-! ### Resource and scope -/

/-- A dict that reads as nothing where it is empty. -/
theorem survives_msg {α : Type} {kvs : List (String × Json)} {r : Json → Option α} {v : α}
    (h : r (omitEmpty kvs) = some v) (hr : r (.obj []) = r .null) :
    Survives r (omitEmpty kvs) v := by
  refine ⟨h, fun he => ?_⟩
  rw [omitEmpty, Json.isEmpty_obj, List.isEmpty_iff] at he
  rw [← hr, ← h, omitEmpty, he]

theorem resource_decodes {r : Resource} (h : r.WellTyped F) :
    ∃ doc, encodeResource r = .ok doc ∧ Survives decodeResource doc r := by
  obtain ⟨docs, hdocs, hattributes⟩ := attributes_survive h.attributes
  simp only [encodeResource, hdocs, ok_bind, pure_ok]
  refine ⟨_, rfl, survives_msg (read_omitEmpty (fun get => ?_) rfl) rfl⟩
  rw [decodeResource]
  exact bind_some (get hattributes) (bind_some (get (survives_orNone _)) rfl)

theorem scope_decodes {s : InstrumentationScope} (h : s.WellTyped F) :
    ∃ doc, encodeScope s = .ok doc ∧ Survives decodeScope doc s.normalize := by
  obtain ⟨docs, hdocs, hattributes⟩ := attributes_survive h.attributes
  simp only [encodeScope, hdocs, ok_bind, pure_ok]
  refine ⟨_, rfl, survives_msg (read_omitEmpty (fun get => ?_) rfl) rfl⟩
  rw [decodeScope]
  exact bind_some (get (survives_str _)) (bind_some (get (survives_optional_str _))
    (bind_some (get hattributes) rfl))

/-! ### Metrics -/

/-- An entry that is not empty is there; one that is `None` is not. -/
theorem survives_some {j : Json} (h : j.isEmpty = true → j = .null) : Survives some j j :=
  ⟨rfl, fun he => congrArg some (h he).symm⟩

theorem decodeValue_int {j : Json} {n : Int} (h₁ : some (j.get "asInt") = some (.str n.repr))
    (h₂ : some (j.get "asDouble") = some .null) : decodeValue j = some (.int n) := by
  rw [Option.some_inj] at h₁ h₂
  rw [decodeValue, h₁, h₂]
  dsimp only
  rw [decimal?_repr]
  rfl

theorem decodeValue_float {j : Json} {x : Binary64} (h₁ : some (j.get "asInt") = some .null)
    (h₂ : some (j.get "asDouble") = some (.float x)) : decodeValue j = some (.float x) := by
  rw [Option.some_inj] at h₁ h₂
  rw [decodeValue, h₁, h₂]

theorem survives_value_int (n : Int) : Survives some (.str n.repr) (.str n.repr) :=
  survives_some (by simp [repr_ne_empty])

theorem exemplar_decodes {e : Exemplar} (h : e.WellTyped F) :
    Decodes (encodeExemplar e) decodeExemplar e.normalize := by
  obtain ⟨docs, hdocs, hattributes⟩ := attributes_survive h.filteredAttributes
  obtain ⟨attributes, time, value, spanId, traceId⟩ := e
  have hvalue := h.value
  cases value with
  | bool b => exact hvalue.elim
  | int n =>
      have hn : IsInt64 n := hvalue
      simp only [encodeExemplar, valueField, hdocs, hn.u64, h.timeUnixNano.u64, ok_bind, pure_ok]
      refine ⟨_, rfl, read_omitEmpty (fun get => ?_) rfl⟩
      rw [decodeExemplar]
      exact bind_some (get hattributes) (bind_some (get (survives_repr _))
        (bind_some (decodeValue_int (get (survives_value_int n)) (get (survives_some fun _ => rfl)))
        (bind_some (get (survives_optHexId _)) (bind_some (get (survives_optHexId _)) rfl))))
  | float x =>
      simp only [encodeExemplar, valueField, hdocs, h.timeUnixNano.u64, ok_bind, pure_ok]
      refine ⟨_, rfl, read_omitEmpty (fun get => ?_) rfl⟩
      rw [decodeExemplar]
      exact bind_some (get hattributes) (bind_some (get (survives_repr _))
        (bind_some
          (decodeValue_float (get (survives_some fun _ => rfl)) (get (survives_some nofun)))
        (bind_some (get (survives_optHexId _)) (bind_some (get (survives_optHexId _)) rfl))))

theorem numberPoint_decodes {p : NumberDataPoint} (h : p.WellTyped F) :
    Decodes (encodeNumberPoint p) decodeNumberPoint p.normalize := by
  obtain ⟨docs, hdocs, hattributes⟩ := attributes_survive h.attributes
  obtain ⟨start, hstart, hstartTime⟩ := survives_optU64 h.startTimeUnixNano
  obtain ⟨edocs, hedocs, hexemplars⟩ := decodes_mapM fun e he => exemplar_decodes (h.exemplars e he)
  obtain ⟨time, value, attributes, startTime, exemplars, flags⟩ := p
  have hvalue := h.value
  cases value with
  | bool b => exact hvalue.elim
  | int n =>
      have hn : IsInt64 n := hvalue
      simp only [encodeNumberPoint, valueField, hdocs, hstart, hedocs, hn.u64, h.timeUnixNano.u64,
        ok_bind, pure_ok]
      refine ⟨_, rfl, read_omitEmpty (fun get => ?_) rfl⟩
      rw [decodeNumberPoint]
      exact bind_some (get hattributes) (bind_some (get hstartTime)
        (bind_some (get (survives_repr _)) (bind_some (get (survives_orNone _))
        (bind_some (get (survives_list hexemplars)) (bind_some
          (decodeValue_int (get (survives_value_int n)) (get (survives_some fun _ => rfl)))
          rfl)))))
  | float x =>
      simp only [encodeNumberPoint, valueField, hdocs, hstart, hedocs, h.timeUnixNano.u64,
        ok_bind, pure_ok]
      refine ⟨_, rfl, read_omitEmpty (fun get => ?_) rfl⟩
      rw [decodeNumberPoint]
      exact bind_some (get hattributes) (bind_some (get hstartTime)
        (bind_some (get (survives_repr _)) (bind_some (get (survives_orNone _))
        (bind_some (get (survives_list hexemplars)) (bind_some
          (decodeValue_float (get (survives_some fun _ => rfl)) (get (survives_some nofun)))
          rfl)))))

theorem histogramPoint_decodes {p : HistogramDataPoint} (h : p.WellTyped F) :
    Decodes (encodeHistogramPoint p) decodeHistogramPoint p.normalize := by
  obtain ⟨docs, hdocs, hattributes⟩ := attributes_survive h.attributes
  obtain ⟨start, hstart, hstartTime⟩ := survives_optU64 h.startTimeUnixNano
  obtain ⟨edocs, hedocs, hexemplars⟩ := decodes_mapM fun e he => exemplar_decodes (h.exemplars e he)
  have hbounds : (p.explicitBounds.map Json.float).mapM asDouble =
      some (p.explicitBounds.map id) := mapM_map fun _ _ => rfl
  rw [List.map_id] at hbounds
  simp only [encodeHistogramPoint, hdocs, hstart, encodeCounts_eq h.bucketCounts, hedocs,
    h.timeUnixNano.u64, h.count.u64, ok_bind, pure_ok]
  refine ⟨_, rfl, read_omitEmpty (fun get => ?_) rfl⟩
  rw [decodeHistogramPoint]
  exact bind_some (get hattributes) (bind_some (get hstartTime)
    (bind_some (get (survives_repr _)) (bind_some (get (survives_repr _))
    (bind_some (get (survives_optional_double _)) (bind_some (get (survives_counts _))
    (bind_some (get (survives_list hbounds)) (bind_some (get (survives_orNone _))
    (bind_some (get (survives_list hexemplars)) (bind_some (get (survives_optional_double _))
    (bind_some (get (survives_optional_double _)) rfl))))))))))

theorem buckets_decodes {b : Buckets} (h : b.WellTyped) :
    ∃ doc, encodeBuckets b = .ok doc ∧ Survives decodeBuckets doc b := by
  simp only [encodeBuckets, encodeCounts_eq h.bucketCounts, ok_bind, pure_ok]
  refine ⟨_, rfl, survives_msg (read_omitEmpty (fun get => ?_) rfl) rfl⟩
  rw [decodeBuckets]
  exact bind_some (get (survives_orNone _)) (bind_some (get (survives_counts _)) rfl)

/-- `u64(x) if x else None`. -/
theorem survives_nonzero {n : Int} (h : IsUint64 n) :
    ∃ j, optU64 (if n = 0 then none else some n) = .ok j ∧ Survives asInt j n := by
  by_cases hn : n = 0
  · subst hn
    exact ⟨.null, rfl, rfl, fun _ => rfl⟩
  · rw [if_neg hn, optU64, h.u64]
    exact ⟨_, rfl, survives_repr n⟩

theorem exponentialPoint_decodes {p : ExponentialHistogramDataPoint} (h : p.WellTyped F) :
    Decodes (encodeExponentialPoint p) decodeExponentialPoint p.normalize := by
  obtain ⟨docs, hdocs, hattributes⟩ := attributes_survive h.attributes
  obtain ⟨start, hstart, hstartTime⟩ := survives_optU64 h.startTimeUnixNano
  obtain ⟨zero, hzero, hzeroCount⟩ := survives_nonzero h.zeroCount
  obtain ⟨pos, hpos, hpositive⟩ := buckets_decodes h.positive
  obtain ⟨neg, hneg, hnegative⟩ := buckets_decodes h.negative
  obtain ⟨edocs, hedocs, hexemplars⟩ := decodes_mapM fun e he => exemplar_decodes (h.exemplars e he)
  simp only [encodeExponentialPoint, hdocs, hstart, hzero, hpos, hneg, hedocs, h.timeUnixNano.u64,
    h.count.u64, ok_bind, pure_ok]
  refine ⟨_, rfl, read_omitEmpty (fun get => ?_) rfl⟩
  rw [decodeExponentialPoint]
  exact bind_some (get hattributes) (bind_some (get hstartTime)
    (bind_some (get (survives_repr _)) (bind_some (get (survives_repr _))
    (bind_some (get (survives_optional_double _)) (bind_some (get (survives_orNone _))
    (bind_some (get hzeroCount) (bind_some (get hpositive) (bind_some (get hnegative)
    (bind_some (get (survives_optional_double _)) (bind_some (get (survives_optional_double _))
    (bind_some (get (survives_orNone _)) (bind_some (get (survives_list hexemplars))
    (bind_some (get (survives_keepDouble _)) rfl)))))))))))))

theorem summaryPoint_decodes {p : SummaryDataPoint} (h : p.WellTyped F) :
    Decodes (encodeSummaryPoint p) decodeSummaryPoint p.normalize := by
  obtain ⟨docs, hdocs, hattributes⟩ := attributes_survive h.attributes
  obtain ⟨start, hstart, hstartTime⟩ := survives_optU64 h.startTimeUnixNano
  have hquantiles : (p.quantileValues.map encodeQuantile).mapM decodeQuantile =
      some (p.quantileValues.map id) := mapM_map fun _ _ => rfl
  rw [List.map_id] at hquantiles
  simp only [encodeSummaryPoint, hdocs, hstart, h.timeUnixNano.u64, h.count.u64, ok_bind, pure_ok]
  refine ⟨_, rfl, read_omitEmpty (fun get => ?_) rfl⟩
  rw [decodeSummaryPoint]
  exact bind_some (get hattributes) (bind_some (get hstartTime)
    (bind_some (get (survives_repr _)) (bind_some (get (survives_repr _))
    (bind_some (get (survives_keepDouble _)) (bind_some (get (survives_list hquantiles))
    (bind_some (get (survives_orNone _)) rfl))))))

theorem asTemporality_toInt (t : AggregationTemporality) :
    asTemporality (.int t.toInt) = some t := by
  cases t <;> rfl

theorem decodeMetricData_congr {j j' : Json}
    (h : ∀ k ∈ dataKeys, some (j.get k) = some (j'.get k)) :
    decodeMetricData j = decodeMetricData j' := by
  simp only [dataKeys, List.forall_mem_cons, Option.some_inj] at h
  obtain ⟨h₁, h₂, h₃, h₄, h₅, -⟩ := h
  rw [decodeMetricData, h₁, h₂, h₃, h₄, h₅, decodeMetricData]

/-- The data stands under one key, and is read from there. -/
theorem metricData_decodes {d : MetricData} (h : d.WellTyped F) :
    ∃ key ∈ dataKeys, ∃ doc, encodeMetricData d = .ok (key, doc) ∧ doc.isEmpty = false ∧
      decodeMetricData (.obj [(key, doc)]) = some d.normalize := by
  cases d with
  | gauge points =>
      obtain ⟨docs, hdocs, hr⟩ := decodes_mapM fun p hp => numberPoint_decodes (h p hp)
      refine ⟨"gauge", by decide, .obj [("dataPoints", .arr docs)], ?_, rfl, bind_some hr rfl⟩
      rw [encodeMetricData, hdocs]
      rfl
  | sum points t monotonic =>
      obtain ⟨docs, hdocs, hr⟩ := decodes_mapM fun p hp => numberPoint_decodes (h p hp)
      refine ⟨"sum", by decide, .obj [("dataPoints", .arr docs),
        ("aggregationTemporality", .int t.toInt), ("isMonotonic", .bool monotonic)], ?_, rfl,
        bind_some hr (bind_some (asTemporality_toInt t) rfl)⟩
      rw [encodeMetricData, hdocs]
      rfl
  | histogram points t =>
      obtain ⟨docs, hdocs, hr⟩ := decodes_mapM fun p hp => histogramPoint_decodes (h p hp)
      refine ⟨"histogram", by decide, .obj [("dataPoints", .arr docs),
        ("aggregationTemporality", .int t.toInt)], ?_, rfl,
        bind_some hr (bind_some (asTemporality_toInt t) rfl)⟩
      rw [encodeMetricData, hdocs]
      rfl
  | exponentialHistogram points t =>
      obtain ⟨docs, hdocs, hr⟩ := decodes_mapM fun p hp => exponentialPoint_decodes (h p hp)
      refine ⟨"exponentialHistogram", by decide, .obj [("dataPoints", .arr docs),
        ("aggregationTemporality", .int t.toInt)], ?_, rfl,
        bind_some hr (bind_some (asTemporality_toInt t) rfl)⟩
      rw [encodeMetricData, hdocs]
      rfl
  | summary points =>
      obtain ⟨docs, hdocs, hr⟩ := decodes_mapM fun p hp => summaryPoint_decodes (h p hp)
      refine ⟨"summary", by decide, .obj [("dataPoints", .arr docs)], ?_, rfl, bind_some hr rfl⟩
      rw [encodeMetricData, hdocs]
      rfl

theorem metric_decodes {m : Metric} (h : m.WellTyped F) :
    Decodes (encodeMetric m) decodeMetric m.normalize := by
  obtain ⟨key, hkey, doc, hdoc, hempty, hr⟩ := metricData_decodes h.data
  have hthere : Survives some doc doc := survives_some fun he => absurd he (by simp [hempty])
  have habsent : Survives some Json.null .null := survives_some fun _ => rfl
  simp only [encodeMetric, hdoc, ok_bind, pure_ok]
  simp only [dataKeys, List.mem_cons, List.not_mem_nil, or_false] at hkey
  rcases hkey with rfl | rfl | rfl | rfl | rfl
  all_goals
    refine ⟨_, rfl, read_omitEmpty (fun get => ?_) rfl⟩
    rw [decodeMetric]
    refine bind_some (get (survives_str _)) (bind_some (get (survives_str _))
      (bind_some (get (survives_str _)) (bind_some ?_ rfl)))
    rw [← hr]
    refine decodeMetricData_congr ?_
    simp only [dataKeys, List.forall_mem_cons]
  · exact ⟨get hthere, get habsent, get habsent, get habsent, get habsent, List.forall_mem_nil _⟩
  · exact ⟨get habsent, get hthere, get habsent, get habsent, get habsent, List.forall_mem_nil _⟩
  · exact ⟨get habsent, get habsent, get hthere, get habsent, get habsent, List.forall_mem_nil _⟩
  · exact ⟨get habsent, get habsent, get habsent, get hthere, get habsent, List.forall_mem_nil _⟩
  · exact ⟨get habsent, get habsent, get habsent, get habsent, get hthere, List.forall_mem_nil _⟩

theorem scopeMetrics_decodes {sm : ScopeMetrics} (h : sm.WellTyped F) :
    Decodes (encodeScopeMetrics sm) decodeScopeMetrics sm.normalize := by
  obtain ⟨sdoc, hsdoc, hscope⟩ := scope_decodes h.scope
  obtain ⟨docs, hdocs, hmetrics⟩ := decodes_mapM fun m hm => metric_decodes (h.metrics m hm)
  simp only [encodeScopeMetrics, hsdoc, hdocs, ok_bind, pure_ok]
  refine ⟨_, rfl, read_omitEmpty (fun get => ?_) rfl⟩
  rw [decodeScopeMetrics]
  exact bind_some (get hscope) (bind_some (get (survives_list hmetrics)) rfl)

theorem resourceMetrics_decodes {rm : ResourceMetrics} (h : rm.WellTyped F) :
    Decodes (encodeOneResourceMetrics rm) decodeOneResourceMetrics rm.normalize := by
  obtain ⟨rdoc, hrdoc, hresource⟩ := resource_decodes h.resource
  obtain ⟨docs, hdocs, hscopes⟩ :=
    decodes_mapM fun sm hsm => scopeMetrics_decodes (h.scopeMetrics sm hsm)
  simp only [encodeOneResourceMetrics, hrdoc, hdocs, ok_bind, pure_ok]
  refine ⟨_, rfl, read_omitEmpty (fun get => ?_) rfl⟩
  rw [decodeOneResourceMetrics]
  exact bind_some (get hresource) (bind_some (get (survives_list hscopes)) rfl)

/-! ### Logs -/

theorem logRecord_decodes {r : LogRecord} (h : r.WellTyped F) :
    Decodes (encodeLogRecord r) decodeLogRecord r.normalize := by
  obtain ⟨docs, hdocs, hattributes⟩ := attributes_survive h.attributes
  obtain ⟨body, hbody, hr⟩ := anyValue_decodes h.body
  have hbodySurvives : Survives decodeAnyValue body r.body :=
    ⟨hr, fun he => absurd he (by simp [encodeAnyValue_isEmpty hbody])⟩
  have hseverity : Survives asSeverity (orNone r.severityNumber.toInt) r.severityNumber :=
    survives_enum (by cases r.severityNumber <;> rfl)
  simp only [encodeLogRecord, hdocs, hbody, h.timeUnixNano.u64, h.observedTimeUnixNano.u64,
    ok_bind, pure_ok]
  refine ⟨_, rfl, read_omitEmpty (fun get => ?_) rfl⟩
  rw [decodeLogRecord]
  exact bind_some (get (survives_repr _)) (bind_some (get (survives_repr _))
    (bind_some (get hseverity) (bind_some (get (survives_str _))
    (bind_some (get hbodySurvives) (bind_some (get hattributes)
    (bind_some (get (survives_optHexId _)) (bind_some (get (survives_optHexId _))
    (bind_some (get (survives_str _)) (bind_some (get (survives_orNone _)) rfl)))))))))

theorem scopeLogs_decodes {sl : ScopeLogs} (h : sl.WellTyped F) :
    Decodes (encodeScopeLogs sl) decodeScopeLogs sl.normalize := by
  obtain ⟨sdoc, hsdoc, hscope⟩ := scope_decodes h.scope
  obtain ⟨docs, hdocs, hrecords⟩ := decodes_mapM fun r hr => logRecord_decodes (h.logRecords r hr)
  simp only [encodeScopeLogs, hsdoc, hdocs, ok_bind, pure_ok]
  refine ⟨_, rfl, read_omitEmpty (fun get => ?_) rfl⟩
  rw [decodeScopeLogs]
  exact bind_some (get hscope) (bind_some (get (survives_list hrecords)) rfl)

theorem resourceLogs_decodes {rl : ResourceLogs} (h : rl.WellTyped F) :
    Decodes (encodeOneResourceLogs rl) decodeOneResourceLogs rl.normalize := by
  obtain ⟨rdoc, hrdoc, hresource⟩ := resource_decodes h.resource
  obtain ⟨docs, hdocs, hscopes⟩ := decodes_mapM fun sl hsl => scopeLogs_decodes (h.scopeLogs sl hsl)
  simp only [encodeOneResourceLogs, hrdoc, hdocs, ok_bind, pure_ok]
  refine ⟨_, rfl, read_omitEmpty (fun get => ?_) rfl⟩
  rw [decodeOneResourceLogs]
  exact bind_some (get hresource) (bind_some (get (survives_list hscopes)) rfl)

/-! ### Traces -/

theorem spanEvent_decodes {e : SpanEvent} (h : e.WellTyped F) :
    Decodes (encodeSpanEvent e) decodeSpanEvent (id e) := by
  obtain ⟨docs, hdocs, hattributes⟩ := attributes_survive h.attributes
  simp only [encodeSpanEvent, hdocs, h.timeUnixNano.u64, ok_bind, pure_ok]
  refine ⟨_, rfl, read_omitEmpty (fun get => ?_) rfl⟩
  rw [decodeSpanEvent]
  exact bind_some (get (survives_repr _)) (bind_some (get (survives_str _))
    (bind_some (get hattributes) rfl))

theorem spanLink_decodes {l : SpanLink} (h : l.WellTyped F) :
    Decodes (encodeSpanLink l) decodeSpanLink (id l) := by
  obtain ⟨docs, hdocs, hattributes⟩ := attributes_survive h.attributes
  simp only [encodeSpanLink, hdocs, ok_bind, pure_ok]
  refine ⟨_, rfl, read_omitEmpty (fun get => ?_) rfl⟩
  rw [decodeSpanLink]
  exact bind_some (get (survives_hexId _)) (bind_some (get (survives_hexId _))
    (bind_some (get (survives_str _)) (bind_some (get (survives_orNone _))
    (bind_some (get hattributes) rfl))))

theorem status_survives (status : Option Status) :
    Survives decodeStatus (optional encodeStatus status) (status.getD {}) := by
  cases status with
  | none => exact ⟨rfl, fun _ => rfl⟩
  | some status =>
      have hcode : Survives asStatusCode (orNone status.code.toInt) status.code :=
        survives_enum (by cases status.code <;> rfl)
      refine survives_msg (read_omitEmpty (fun get => ?_) rfl) rfl
      rw [decodeStatus]
      exact bind_some (get hcode) (bind_some (get (survives_str _)) rfl)

theorem span_decodes {s : Span} (h : s.WellTyped F) :
    Decodes (encodeSpan s) decodeSpan s.normalize := by
  obtain ⟨docs, hdocs, hattributes⟩ := attributes_survive h.attributes
  obtain ⟨edocs, hedocs, hevents⟩ := decodes_mapM fun e he => spanEvent_decodes (h.events e he)
  obtain ⟨ldocs, hldocs, hlinks⟩ := decodes_mapM fun l hl => spanLink_decodes (h.links l hl)
  rw [List.map_id] at hevents hlinks
  have hkind : Survives asSpanKind (orNone s.kind.toInt) s.kind :=
    survives_enum (by cases s.kind <;> rfl)
  simp only [encodeSpan, hdocs, hedocs, hldocs, h.startTimeUnixNano.u64, h.endTimeUnixNano.u64,
    ok_bind, pure_ok]
  refine ⟨_, rfl, read_omitEmpty (fun get => ?_) rfl⟩
  rw [decodeSpan]
  exact bind_some (get (survives_hexId _)) (bind_some (get (survives_hexId _))
    (bind_some (get (survives_optHexId _)) (bind_some (get (survives_str _))
    (bind_some (get hkind) (bind_some (get (survives_repr _)) (bind_some (get (survives_repr _))
    (bind_some (get (survives_str _)) (bind_some (get (survives_orNone _))
    (bind_some (get hattributes) (bind_some (get (survives_list hevents))
    (bind_some (get (survives_list hlinks)) (bind_some (get (status_survives s.status))
    rfl))))))))))))

theorem scopeSpans_decodes {ss : ScopeSpans} (h : ss.WellTyped F) :
    Decodes (encodeScopeSpans ss) decodeScopeSpans ss.normalize := by
  obtain ⟨sdoc, hsdoc, hscope⟩ := scope_decodes h.scope
  obtain ⟨docs, hdocs, hspans⟩ := decodes_mapM fun s hs => span_decodes (h.spans s hs)
  simp only [encodeScopeSpans, hsdoc, hdocs, ok_bind, pure_ok]
  refine ⟨_, rfl, read_omitEmpty (fun get => ?_) rfl⟩
  rw [decodeScopeSpans]
  exact bind_some (get hscope) (bind_some (get (survives_list hspans)) rfl)

theorem resourceSpans_decodes {rs : ResourceSpans} (h : rs.WellTyped F) :
    Decodes (encodeOneResourceSpans rs) decodeOneResourceSpans rs.normalize := by
  obtain ⟨rdoc, hrdoc, hresource⟩ := resource_decodes h.resource
  obtain ⟨docs, hdocs, hscopes⟩ :=
    decodes_mapM fun ss hss => scopeSpans_decodes (h.scopeSpans ss hss)
  simp only [encodeOneResourceSpans, hrdoc, hdocs, ok_bind, pure_ok]
  refine ⟨_, rfl, read_omitEmpty (fun get => ?_) rfl⟩
  rw [decodeOneResourceSpans]
  exact bind_some (get hresource) (bind_some (get (survives_list hscopes)) rfl)

/-! ### Documents -/

theorem metrics_decode {data : List ResourceMetrics} (h : ∀ rm ∈ data, rm.WellTyped F) :
    Decodes (encodeResourceMetrics data) decodeResourceMetrics
      (data.map ResourceMetrics.normalize) := by
  obtain ⟨docs, hdocs, hr⟩ := decodes_mapM fun rm hrm => resourceMetrics_decodes (h rm hrm)
  rw [encodeResourceMetrics, hdocs]
  exact ⟨_, rfl, hr⟩

theorem logs_decode {data : List ResourceLogs} (h : ∀ rl ∈ data, rl.WellTyped F) :
    Decodes (encodeResourceLogs data) decodeResourceLogs (data.map ResourceLogs.normalize) := by
  obtain ⟨docs, hdocs, hr⟩ := decodes_mapM fun rl hrl => resourceLogs_decodes (h rl hrl)
  rw [encodeResourceLogs, hdocs]
  exact ⟨_, rfl, hr⟩

theorem traces_decode {data : List ResourceSpans} (h : ∀ rs ∈ data, rs.WellTyped F) :
    Decodes (encodeResourceSpans data) decodeResourceSpans (data.map ResourceSpans.normalize) := by
  obtain ⟨docs, hdocs, hr⟩ := decodes_mapM fun rs hrs => resourceSpans_decodes (h rs hrs)
  rw [encodeResourceSpans, hdocs]
  exact ⟨_, rfl, hr⟩

/-- Two values with one document are one. -/
theorem Decodes.injective {α : Type} {j j' : Except PyError Json} {r : Json → Option α} {v v' : α}
    (h : Decodes j r v) (h' : Decodes j' r v') (e : j = j') : v = v' := by
  obtain ⟨doc, hdoc, hr⟩ := h
  obtain ⟨doc', hdoc', hr'⟩ := h'
  rw [hdoc, hdoc'] at e
  cases e
  exact Option.some.inj (hr.symm.trans hr')

/-- **The encoding loses nothing.**  For each signal and every well-typed tree, the document is
built, and decoding it gives the tree back in normal form. -/
theorem decode_encode :
    (∀ data : List ResourceMetrics, (∀ rm ∈ data, rm.WellTyped F) →
      Decodes (encodeResourceMetrics data) decodeResourceMetrics
        (data.map ResourceMetrics.normalize)) ∧
    (∀ data : List ResourceLogs, (∀ rl ∈ data, rl.WellTyped F) →
      Decodes (encodeResourceLogs data) decodeResourceLogs (data.map ResourceLogs.normalize)) ∧
    (∀ data : List ResourceSpans, (∀ rs ∈ data, rs.WellTyped F) →
      Decodes (encodeResourceSpans data) decodeResourceSpans
        (data.map ResourceSpans.normalize)) :=
  ⟨fun _ h => metrics_decode h, fun _ h => logs_decode h, fun _ h => traces_decode h⟩

/-- A sum of zero that is not monotonic: neither `0` nor `False` is read back as absent. -/
theorem decode_encode_zero :
    Decodes
      (encodeResourceMetrics [⟨{}, [⟨{ name := "" }, [{
        name := "requests"
        data := .sum [{ timeUnixNano := 0, value := .int 0 }] .delta false }]⟩]⟩])
      decodeResourceMetrics
      [⟨{}, [⟨{ name := "", version := some "" }, [{
        name := "requests"
        data := .sum [{ timeUnixNano := 0, value := .int 0, startTimeUnixNano := some 0 }] .delta
          false }]⟩]⟩] := by
  refine (decode_encode (F := Binary64.IsFinite)).1 [_] (List.forall_mem_singleton.mpr
    ⟨⟨trivial, by decide, by decide⟩, List.forall_mem_singleton.mpr ⟨⟨trivial⟩, ?_⟩⟩)
  refine List.forall_mem_singleton.mpr ⟨List.forall_mem_singleton.mpr ⟨trivial, ?_, nofun, ?_, ?_,
    nofun⟩⟩
  · exact ⟨by decide, by decide⟩
  · exact (⟨by decide, by decide⟩ : IsInt64 0)
  · exact ⟨by decide, by decide⟩

/-- Two trees with one document have one normal form. -/
theorem encode_injective {data data' : List ResourceMetrics} {logs logs' : List ResourceLogs}
    {traces traces' : List ResourceSpans} (hdata : ∀ rm ∈ data, rm.WellTyped F)
    (hdata' : ∀ rm ∈ data', rm.WellTyped F) (hlogs : ∀ rl ∈ logs, rl.WellTyped F)
    (hlogs' : ∀ rl ∈ logs', rl.WellTyped F) (htraces : ∀ rs ∈ traces, rs.WellTyped F)
    (htraces' : ∀ rs ∈ traces', rs.WellTyped F) :
    (encodeResourceMetrics data = encodeResourceMetrics data' →
      data.map ResourceMetrics.normalize = data'.map ResourceMetrics.normalize) ∧
    (encodeResourceLogs logs = encodeResourceLogs logs' →
      logs.map ResourceLogs.normalize = logs'.map ResourceLogs.normalize) ∧
    (encodeResourceSpans traces = encodeResourceSpans traces' →
      traces.map ResourceSpans.normalize = traces'.map ResourceSpans.normalize) :=
  ⟨(metrics_decode hdata).injective (metrics_decode hdata'),
    (logs_decode hlogs).injective (logs_decode hlogs'),
    (traces_decode htraces).injective (traces_decode htraces')⟩

end OtlpClient
