import Mathlib.Data.List.Nodup
import OtlpClient.Client
import OtlpClient.Transport.Grpc

/-!
# Client — header names on the wire

What the two transports make of the headers of a client, where a name is the same in any case.

* `posted_keys`: the names that are posted.
* `posted_hold_iff`: when no two of them are the same name.
* `header_precedence_iff`: the same of the headers a client resolves, next to the metadata of a call.
-/

namespace OtlpClient

/-- A name in lower case, letters of ASCII only. -/
def lowerName (name : String) : String := String.ofList (name.toList.map Char.toLower)

/-- Every name is in lower case. -/
def LowerNames (headers : Headers) : Prop := ∀ k ∈ Dict.keys headers, lowerName k = k

instance (headers : Headers) : Decidable (LowerNames headers) :=
  inferInstanceAs (Decidable (∀ k ∈ Dict.keys headers, _))

/-- The names `HTTPTransport.send` adds. -/
def transportFields : Compression → List String
  | .none => ["Content-Type"]
  | .gzip => ["Content-Type", "Content-Encoding"]

/-- Names that are the same in any case are the same: a configured name and any other, and a
provided name and one the transport adds. -/
structure NamesAgree (static provided : Headers) (fields : List String) : Prop where
  configured : ∀ k ∈ Dict.keys static, ∀ k' ∈ Dict.keys static ++ Dict.keys provided ++ fields,
    lowerName k = lowerName k' → k = k'
  provided : ∀ k ∈ Dict.keys provided, ∀ field ∈ fields, k ≠ lowerName field

/-- What is posted names nothing twice, and has the provider's values and the encoder's content
type. -/
structure HeadersHold (posted provided : Headers) (contentType : String) : Prop where
  unique : ((Dict.keys posted).map lowerName).Nodup
  provided : ∀ kv ∈ provided, kv ∈ posted
  contentType : ("Content-Type", contentType) ∈ posted

/-! ### What is posted -/

section Posted

variable {t : HTTPTransport} {lib : HttpLib} {kind : SignalKind} {payload : Bytes}
  {headers static provided : Headers}

theorem posted_keys {k : String} : k ∈ Dict.keys (t.request lib kind payload headers).headers ↔
    k ∈ Dict.keys headers ∨ k ∈ transportFields (t.compressionFor kind) := by
  unfold HTTPTransport.request
  cases t.compressionFor kind with
  | none =>
      simp only [Dict.mem_keys_set, transportFields, List.mem_singleton]
      exact or_comm
  | gzip =>
      simp only [Dict.mem_keys_set, transportFields, List.mem_cons, List.not_mem_nil, or_false]
      tauto

theorem posted_nodup (h : (Dict.keys headers).Nodup) :
    (Dict.keys (t.request lib kind payload headers).headers).Nodup := by
  unfold HTTPTransport.request
  cases t.compressionFor kind with
  | none => exact Dict.nodup_keys_set h
  | gzip => exact Dict.nodup_keys_set (Dict.nodup_keys_set h)

/-- The fields of the transport stand in capitals, over nothing in lower case. -/
theorem lowerName_ne {k : String} (h : lowerName k = k) :
    k ≠ "Content-Type" ∧ k ≠ "Content-Encoding" := by
  constructor
  · rintro rfl
    exact absurd h (by decide)
  · rintro rfl
    exact absurd h (by decide)

theorem mem_posted {kv : String × String} (hlower : lowerName kv.1 = kv.1) (h : kv ∈ headers) :
    kv ∈ (t.request lib kind payload headers).headers := by
  obtain ⟨htype, hencoding⟩ := lowerName_ne hlower
  unfold HTTPTransport.request
  cases t.compressionFor kind with
  | none => exact Dict.mem_set_of_ne htype h
  | gzip => exact Dict.mem_set_of_ne hencoding (Dict.mem_set_of_ne htype h)

theorem contentType_mem_posted :
    ("Content-Type", t.encoder.contentType) ∈ (t.request lib kind payload headers).headers := by
  unfold HTTPTransport.request
  cases t.compressionFor kind with
  | none => exact Dict.mem_set_self
  | gzip =>
      have hne : "Content-Type" ≠ "Content-Encoding" := by decide
      exact Dict.mem_set_of_ne hne Dict.mem_set_self

/-- A field of the transport, and two of them. -/
theorem transportFields_lower {compression : Compression} {field : String}
    (h : field ∈ transportFields compression) :
    lowerName (lowerName field) = lowerName field ∧ lowerName field ≠ field ∧
      ∀ field' ∈ transportFields compression, lowerName field = lowerName field' →
        field = field' := by
  cases compression <;> revert field <;> decide

/-- What is posted over merged headers holds exactly when their names agree. -/
theorem posted_hold_iff (hstatic : (Dict.keys static).Nodup)
    (hprovided : (Dict.keys provided).Nodup) (hlower : LowerNames provided) :
    HeadersHold (t.request lib kind payload (Dict.update static provided)).headers provided
        t.encoder.contentType ↔
      NamesAgree static provided (transportFields (t.compressionFor kind)) := by
  have hkeys : ∀ {k : String},
      k ∈ Dict.keys (t.request lib kind payload (Dict.update static provided)).headers ↔
        k ∈ Dict.keys static ∨ k ∈ Dict.keys provided ∨
          k ∈ transportFields (t.compressionFor kind) := by
    intro k
    rw [posted_keys, Dict.mem_keys_update, or_assoc]
  constructor
  · intro h
    have hinj := List.inj_on_of_nodup_map h.unique
    refine ⟨fun k hk k' hk' heq => ?_, fun k hk field hfield heq => ?_⟩
    · refine hinj (hkeys.mpr (Or.inl hk)) (hkeys.mpr ?_) heq
      simpa only [List.mem_append, or_assoc] using hk'
    · obtain ⟨htwice, hne, -⟩ := transportFields_lower hfield
      have hsame : lowerName k = lowerName field := by rw [heq, htwice]
      have hfield' := hinj (hkeys.mpr (Or.inr (Or.inl hk))) (hkeys.mpr (Or.inr (Or.inr hfield)))
        hsame
      exact hne (heq.symm.trans hfield')
  · intro h
    have hmem : ∀ {k : String},
        k ∈ Dict.keys (t.request lib kind payload (Dict.update static provided)).headers →
        k ∈ Dict.keys static ++ Dict.keys provided ++ transportFields (t.compressionFor kind) := by
      intro k hk
      simpa only [List.mem_append, or_assoc] using hkeys.mp hk
    -- A provided name is in lower case, so that it differs from a field in any case.
    have hfield : ∀ {k field : String}, k ∈ Dict.keys provided →
        field ∈ transportFields (t.compressionFor kind) → lowerName k ≠ lowerName field := by
      intro k field hk hf heq
      exact h.provided k hk field hf ((hlower k hk).symm.trans heq)
    refine ⟨?_, fun kv hkv => ?_, contentType_mem_posted⟩
    · refine List.Nodup.map_on ?_ (posted_nodup (Dict.nodup_keys_update hstatic))
      intro k hk k' hk' heq
      rcases hkeys.mp hk with hs | hp | hf
      · exact h.configured k hs k' (hmem hk') heq
      · rcases hkeys.mp hk' with hs' | hp' | hf'
        · exact (h.configured k' hs' k (hmem hk) heq.symm).symm
        · rw [← hlower k hp, heq, hlower k' hp']
        · exact absurd heq (hfield hp hf')
      · rcases hkeys.mp hk' with hs' | hp' | hf'
        · exact (h.configured k' hs' k (hmem hk) heq.symm).symm
        · exact absurd heq.symm (hfield hp' hf)
        · exact (transportFields_lower hf).2.2 k' hf' heq
    · exact mem_posted (hlower kv.1 (Dict.mem_keys_of_mem hkv)) (Dict.mem_update hprovided hkv)

end Posted

/-! ### The headers of a client -/

section Client

variable {T Data : Type} {client : OTLPClient T Data} {world : World T} {kind : SignalKind}
  {s : Export T} {provided resolved : Headers}

/-- What the provider answers, which is nothing where there is no provider. -/
def Provides (client : OTLPClient T Data) (world : World T) (kind : SignalKind) (s : Export T)
    (provided : Headers) : Prop :=
  if client.hasCredentials = true then world.headers s.trace kind = .ok provided
  else provided = []

/-- `_headers` lays the provider's over the configured ones. -/
theorem headers_eq (h : Provides client world kind s provided) :
    (client.headers world kind s).1 = .ok (Dict.update (client.headersFor kind) provided) := by
  unfold Provides at h
  unfold OTLPClient.headers
  by_cases hc : client.hasCredentials = true
  · rw [if_pos hc] at h ⊢
    rw [Effect.bind_apply, Export.call, Effect.call, h]
    rfl
  · rw [if_neg hc] at h ⊢
    rw [h]
    rfl

/-- The metadata of a call over merged headers is in lower case exactly when the configured headers
are. -/
theorem metadata_lower_iff {static : Headers} (hlower : LowerNames provided) (t : GRPCTransport)
    (payload : Bytes) :
    LowerNames (t.call kind payload (Dict.update static provided)).metadata ↔
      LowerNames static := by
  constructor
  · intro h k hk
    exact h k (Dict.mem_keys_update.mpr (Or.inl hk))
  · intro h k hk
    exact (Dict.mem_keys_update.mp hk).elim (h k) (hlower k)

/-- **Header names in any case.**  What a client resolves over a provider whose names are in lower
case is posted with no name twice, the provider's values and the encoder's content type exactly when
the names agree, and is sent as metadata in lower case exactly when the configured names are. -/
theorem header_precedence_iff (config : OTLPConfig)
    (hclient : client.headersFor = config.headersFor)
    (hstatic : (Dict.keys (config.headersFor kind)).Nodup)
    (hprovides : Provides client world kind s provided) (hprovided : (Dict.keys provided).Nodup)
    (hlower : LowerNames provided) (payload : Bytes) :
    ∃ headers, (client.headers world kind s).1 = .ok headers ∧
      (∀ (t : HTTPTransport) (lib : HttpLib), t.compressionFor = config.compressionFor →
        (HeadersHold (t.request lib kind payload headers).headers provided t.encoder.contentType ↔
          NamesAgree (config.headersFor kind) provided
            (transportFields (config.compressionFor kind)))) ∧
      ∀ t : GRPCTransport, LowerNames (t.call kind payload headers).metadata ↔
        LowerNames (config.headersFor kind) := by
  refine ⟨_, headers_eq hprovides, fun t lib ht => ?_, fun t => ?_⟩
  · rw [hclient, ← ht]
    exact posted_hold_iff hstatic hprovided hlower
  · rw [hclient]
    exact metadata_lower_iff hlower t payload

end Client

/-! ### A stale `Authorization` -/

/-- The configured header in capitals. -/
def staleConfig : OTLPConfig where
  headers := [("Authorization", "stale")]
  timeout := .one

/-- The provider's. -/
def freshHeaders : Headers := [("authorization", "Bearer fresh")]

def staleClient : OTLPClient Binary64 Nat where
  headersFor := staleConfig.headersFor
  encode _ _ := .ok []
  policy := ⟨.one, .one, .one, .one⟩
  hasCredentials := true

/-- Answers with the provider's header, and delivers everything. -/
def freshWorld : World Binary64 where
  headers _ _ := .ok freshHeaders
  invalidate _ _ := .ok ()
  send _ _ _ _ := .ok .success
  sleep _ _ := .ok ()
  monotonic _ := .posZero
  jitter _ := .posZero

theorem freshWorld_provides : Provides staleClient freshWorld .metrics {} freshHeaders := by
  unfold Provides
  rw [if_pos (show staleClient.hasCredentials = true from rfl)]
  rfl

theorem header_precedence_iff_stale :
    ∃ headers, (staleClient.headers freshWorld .metrics {}).1 = .ok headers ∧
      (∀ (t : HTTPTransport) (lib : HttpLib), t.compressionFor = staleConfig.compressionFor →
        (HeadersHold (t.request lib .metrics [] headers).headers freshHeaders t.encoder.contentType ↔
          NamesAgree (staleConfig.headersFor .metrics) freshHeaders
            (transportFields (staleConfig.compressionFor .metrics)))) ∧
      ∀ t : GRPCTransport, LowerNames (t.call .metrics [] headers).metadata ↔
        LowerNames (staleConfig.headersFor .metrics) :=
  header_precedence_iff staleConfig rfl (by decide) freshWorld_provides (by decide) (by decide) []

/-- Both values are posted, and the capitals are sent as metadata. -/
theorem stale_header_posted : ∃ (t : HTTPTransport) (g : GRPCTransport) (headers : Headers),
    t.compressionFor = staleConfig.compressionFor ∧
      (staleClient.headers freshWorld .metrics {}).1 = .ok headers ∧ LowerNames freshHeaders ∧
      ("Authorization", "stale") ∈ (t.request .plain .metrics [] headers).headers ∧
      ("authorization", "Bearer fresh") ∈ (t.request .plain .metrics [] headers).headers ∧
      ¬ HeadersHold (t.request .plain .metrics [] headers).headers freshHeaders
        t.encoder.contentType ∧
      ¬ LowerNames (g.call .metrics [] headers).metadata := by
  refine ⟨⟨JSONEncoder.encoder (.only [] .null), fun _ => "http://localhost:4318",
      staleConfig.compressionFor, fun _ => .one⟩,
    ⟨staleConfig, "application/x-protobuf", fun _ _ => .ok none⟩,
    [("Authorization", "stale"), ("authorization", "Bearer fresh")], rfl, rfl, by decide, by decide,
    by decide, fun h => ?_, by decide⟩
  exact absurd h.unique (by decide)

end OtlpClient
