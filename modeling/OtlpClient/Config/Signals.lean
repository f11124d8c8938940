import OtlpClient.Config.Env
import OtlpClient.Support.Raising

/-!
# Config — the settings of a signal

What the environment says of one signal, and of that signal only.

* `fromEnv_read`: which variable each setting is read from.
* `signal_settings`: the variables of a signal settle nothing of another one, and replace the
  general ones.
-/

namespace OtlpClient

/-- What names a signal in its variables. -/
def SignalKind.envName : SignalKind → String
  | .metrics => "METRICS"
  | .logs => "LOGS"
  | .traces => "TRACES"
  | .profiles => "PROFILES"

/-- The variable of a signal for an option. -/
def ownName (kind : SignalKind) (option : String) : String :=
  "OTEL_EXPORTER_OTLP_" ++ kind.envName ++ "_" ++ option

/-- What a signal has of its own. -/
def pick {β : Type} (metrics logs traces : Option β) : SignalKind → Option β
  | .metrics => metrics
  | .logs => logs
  | .traces => traces
  | .profiles => none

theorem override_eq {β : Type} (general : β) (metrics logs traces : Option β) (kind : SignalKind) :
    OTLPConfig.override general metrics logs traces kind =
      (pick metrics logs traces kind).getD general := by
  cases kind <;> rfl

/-- The value of a signal's own variable: profiles have none. -/
def own (env : Env) (kind : SignalKind) (option : String) : Option String :=
  pick (env (ownName .metrics option)) (env (ownName .logs option)) (env (ownName .traces option))
    kind

/-- Headers that may be absent. -/
def readHeaders (lib : ConfigLib) : Option String → Except Exn (Option Headers)
  | none => .ok none
  | some raw => some <$> parseHeaders lib raw

/-- Where the settings come from. -/
structure Settings.ReadFrom (lib : ConfigLib) (env : Env) (c : Settings) : Prop where
  protocol : parseProtocol lib ((env "OTEL_EXPORTER_OTLP_PROTOCOL").getD "http/json") =
    .ok c.protocol
  endpoint : c.endpoint = (env "OTEL_EXPORTER_OTLP_ENDPOINT").getD (defaultEndpoint c.protocol)
  headers : parseHeaders lib ((env "OTEL_EXPORTER_OTLP_HEADERS").getD "") = .ok c.headers
  timeout : ∃ timeout, parseTimeout lib (env "OTEL_EXPORTER_OTLP_TIMEOUT")
    "OTEL_EXPORTER_OTLP_TIMEOUT" = .ok timeout ∧ c.timeout = timeout.getD defaultTimeout
  compression : ∃ compression, parseCompression lib (env "OTEL_EXPORTER_OTLP_COMPRESSION")
    "OTEL_EXPORTER_OTLP_COMPRESSION" = .ok compression ∧ c.compression = compression.getD .none
  ownEndpoint : ∀ kind,
    pick c.metricsEndpoint c.logsEndpoint c.tracesEndpoint kind = own env kind "ENDPOINT"
  ownHeaders : ∀ kind, readHeaders lib (own env kind "HEADERS") =
    .ok (pick c.metricsHeaders c.logsHeaders c.tracesHeaders kind)
  ownTimeout : ∀ kind, parseTimeout lib (own env kind "TIMEOUT") (ownName kind "TIMEOUT") =
    .ok (pick c.metricsTimeout c.logsTimeout c.tracesTimeout kind)
  ownCompression : ∀ kind,
    parseCompression lib (own env kind "COMPRESSION") (ownName kind "COMPRESSION") =
      .ok (pick c.metricsCompression c.logsCompression c.tracesCompression kind)
  maxElapsed : c.maxElapsed = defaultMaxElapsed
  accepted : c.postInit = .ok ()

/-- Every setting is read from the variable it is named after. -/
theorem fromEnv_read (lib : ConfigLib) (env : Env) :
    Ensures (fromEnv lib env) (Settings.ReadFrom lib env) := by
  intro c h
  unfold fromEnv at h
  simp only [bind_eq_ok] at h
  obtain ⟨-, -, protocol, hprotocol, compression, hcompression, timeout, htimeout, headers,
    hheaders, metricsHeaders, hmh, logsHeaders, hlh, tracesHeaders, hth, metricsTimeout, hmt,
    logsTimeout, hlt, tracesTimeout, htt, metricsCompression, hmc, logsCompression, hlc,
    tracesCompression, htc, _, haccepted, hc⟩ := h
  cases hc
  exact
    { protocol := hprotocol
      endpoint := rfl
      headers := hheaders
      timeout := ⟨timeout, htimeout, rfl⟩
      compression := ⟨compression, hcompression, rfl⟩
      ownEndpoint := fun kind => by cases kind <;> rfl
      ownHeaders := fun kind => by
        cases kind with
        | metrics => exact hmh
        | logs => exact hlh
        | traces => exact hth
        | profiles => rfl
      ownTimeout := fun kind => by
        cases kind with
        | metrics => exact hmt
        | logs => exact hlt
        | traces => exact htt
        | profiles => rfl
      ownCompression := fun kind => by
        cases kind with
        | metrics => exact hmc
        | logs => exact hlc
        | traces => exact htc
        | profiles => rfl
      maxElapsed := rfl
      accepted := haccepted }

/-! ### Names -/

/-- The variable is one of the signal's own: it starts with `OTEL_EXPORTER_OTLP_<S>_`. -/
def IsOwn (s : SignalKind) (name : String) : Prop := (ownName s "").toList <+: name.toList

instance (s : SignalKind) (name : String) : Decidable (IsOwn s name) :=
  inferInstanceAs (Decidable (_ <+: _))

/-- The general variables. -/
def generalNames : List String :=
  ["OTEL_EXPORTER_OTLP_PROTOCOL", "OTEL_EXPORTER_OTLP_ENDPOINT", "OTEL_EXPORTER_OTLP_HEADERS",
    "OTEL_EXPORTER_OTLP_TIMEOUT", "OTEL_EXPORTER_OTLP_COMPRESSION"]

/-- What each signal may have of its own. -/
def options : List String := ["ENDPOINT", "HEADERS", "TIMEOUT", "COMPRESSION"]

theorem general_not_own (s : SignalKind) : ∀ name ∈ generalNames, ¬ IsOwn s name := by
  cases s <;> decide +kernel

/-- A variable of a signal is one of another's only where their names say so. -/
theorem isOwn_ownName {s kind : SignalKind} {option : String} : IsOwn s (ownName kind option) ↔
    (s.envName ++ "_").toList <+: (kind.envName ++ "_" ++ option).toList := by
  unfold IsOwn ownName
  simp only [String.toList_append, List.append_assoc, List.prefix_append_right_inj]
  simp

/-- The names of the signals begin with different letters. -/
theorem head_envName_injective {s kind : SignalKind}
    (h : s.envName.toList.head? = kind.envName.toList.head?) : s = kind := by
  revert h
  cases s <;> cases kind <;> decide

theorem head_envName_append (s : SignalKind) (rest : List Char) :
    (s.envName.toList ++ rest).head? = s.envName.toList.head? := by
  cases s <;> rfl

theorem other_not_own {s kind : SignalKind} (h : kind ≠ s) (option : String) :
    ¬ IsOwn s (ownName kind option) := by
  rw [isOwn_ownName]
  rintro ⟨rest, heq⟩
  have hhead := congrArg List.head? heq
  simp only [String.toList_append, List.append_assoc, head_envName_append] at hhead
  exact h (head_envName_injective hhead).symm

/-! ### Two environments -/

/-- The settings of a signal are the same in both. -/
structure Settings.SameFor (lib : ConfigLib) (c₁ c₂ : Settings) (kind : SignalKind) : Prop where
  endpoint : c₁.endpointFor lib kind = c₂.endpointFor lib kind
  headers : c₁.headersFor kind = c₂.headersFor kind
  timeout : c₁.timeoutFor kind = c₂.timeoutFor kind
  compression : c₁.compressionFor kind = c₂.compressionFor kind

theorem own_congr {env₁ env₂ : Env} {kind : SignalKind} {option : String}
    (h : env₁ (ownName kind option) = env₂ (ownName kind option)) :
    own env₁ kind option = own env₂ kind option := by
  cases kind with
  | profiles => rfl
  | _ => exact h

/-- `endpoint_for`, from the endpoint of the signal's own. -/
theorem Settings.endpointFor_eq (lib : ConfigLib) (c : Settings) (kind : SignalKind) :
    c.endpointFor lib kind =
      match pick c.metricsEndpoint c.logsEndpoint c.tracesEndpoint kind with
      | none | some "" => .ok (rstripSlash c.endpoint ++ httpPath kind)
      | some endpoint => signalEndpoint lib endpoint := by
  cases kind <;> rfl

/-- Settings read from variables that agree are the same. -/
theorem Settings.ReadFrom.same {lib : ConfigLib} {env₁ env₂ : Env} {c₁ c₂ : Settings}
    (h₁ : c₁.ReadFrom lib env₁) (h₂ : c₂.ReadFrom lib env₂) {kind : SignalKind}
    (hgeneral : ∀ name ∈ generalNames, env₁ name = env₂ name)
    (hown : ∀ option ∈ options, env₁ (ownName kind option) = env₂ (ownName kind option)) :
    c₁.SameFor lib c₂ kind := by
  have hgeneral : ∀ name, name ∈ generalNames → env₁ name = env₂ name := hgeneral
  have hown : ∀ option, option ∈ options → own env₁ kind option = own env₂ kind option :=
    fun option ho => own_congr (hown option ho)
  obtain ⟨timeout₁, htimeout₁, heq₁⟩ := h₁.timeout
  obtain ⟨timeout₂, htimeout₂, heq₂⟩ := h₂.timeout
  obtain ⟨compression₁, hcompression₁, hceq₁⟩ := h₁.compression
  obtain ⟨compression₂, hcompression₂, hceq₂⟩ := h₂.compression
  have hprotocol : c₁.protocol = c₂.protocol := by
    have h := h₁.protocol
    rw [hgeneral _ (by decide), h₂.protocol] at h
    exact (Except.ok.inj h).symm
  have hendpoint : c₁.endpoint = c₂.endpoint := by
    rw [h₁.endpoint, h₂.endpoint, hprotocol, hgeneral _ (by decide)]
  refine ⟨?_, ?_, ?_, ?_⟩
  · rw [c₁.endpointFor_eq, c₂.endpointFor_eq, h₁.ownEndpoint, h₂.ownEndpoint,
      hown _ (by decide), hendpoint]
  · have hheaders := h₁.headers
    have hsignal := h₁.ownHeaders kind
    rw [hgeneral _ (by decide), h₂.headers] at hheaders
    rw [hown _ (by decide), h₂.ownHeaders] at hsignal
    rw [OTLPConfig.headersFor, OTLPConfig.headersFor, override_eq, override_eq,
      Except.ok.inj hheaders, Except.ok.inj hsignal]
  · have hsignal := h₁.ownTimeout kind
    rw [hgeneral _ (by decide), htimeout₂] at htimeout₁
    rw [hown _ (by decide), h₂.ownTimeout] at hsignal
    rw [OTLPConfig.timeoutFor, OTLPConfig.timeoutFor, override_eq, override_eq, heq₁, heq₂,
      Except.ok.inj htimeout₁, Except.ok.inj hsignal]
  · have hsignal := h₁.ownCompression kind
    rw [hgeneral _ (by decide), hcompression₂] at hcompression₁
    rw [hown _ (by decide), h₂.ownCompression] at hsignal
    rw [OTLPConfig.compressionFor, OTLPConfig.compressionFor, override_eq, override_eq, hceq₁,
      hceq₂, Except.ok.inj hcompression₁, Except.ok.inj hsignal]

/-! ### One signal -/

/-- A setting with a general value: exactly where the variable is absent or empty, it is that. -/
def FallsBack {β : Type} (entry : Option String) (reads : String → β → Prop)
    (general value : β) : Prop :=
  (entry = none ∨ entry = some "") ∧ value = general ∨
    ∃ raw, entry = some raw ∧ raw ≠ "" ∧ reads raw value

/-- A timeout as it is written: milliseconds. -/
def ReadsTimeout (lib : ConfigLib) (raw : String) (seconds : Binary64) : Prop :=
  ∃ milliseconds, lib.float raw = .ok milliseconds ∧ seconds = milliseconds.div 1000

def ReadsCompression (raw : String) (compression : Compression) : Prop :=
  Compression.ofValue? raw = some compression

/-- The settings of a signal that has variables of its own. -/
structure Settings.Resolves (lib : ConfigLib) (env : Env) (c : Settings) (kind : SignalKind) :
    Prop where
  /-- The signal's own headers stand for themselves, whatever the general ones are. -/
  ownHeaders : ∀ raw, env (ownName kind "HEADERS") = some raw →
    parseHeaders lib raw = .ok (c.headersFor kind)
  emptyHeaders : env (ownName kind "HEADERS") = some "" → c.headersFor kind = []
  generalHeaders : env (ownName kind "HEADERS") = none →
    parseHeaders lib ((env "OTEL_EXPORTER_OTLP_HEADERS").getD "") = .ok (c.headersFor kind)
  timeout : FallsBack (env (ownName kind "TIMEOUT")) (ReadsTimeout lib) c.timeout
    (c.timeoutFor kind)
  generalTimeout : FallsBack (env "OTEL_EXPORTER_OTLP_TIMEOUT") (ReadsTimeout lib) defaultTimeout
    c.timeout
  compression : FallsBack (env (ownName kind "COMPRESSION")) ReadsCompression c.compression
    (c.compressionFor kind)
  generalCompression : FallsBack (env "OTEL_EXPORTER_OTLP_COMPRESSION") ReadsCompression .none
    c.compression
  endpoint : FallsBack (env (ownName kind "ENDPOINT"))
    (fun raw endpoint => endpoint = signalEndpoint lib raw)
    (.ok (rstripSlash c.endpoint ++ httpPath kind)) (c.endpointFor lib kind)
  generalEndpoint : c.endpoint = (env "OTEL_EXPORTER_OTLP_ENDPOINT").getD
    (defaultEndpoint c.protocol)

theorem parseTimeout_falls_back {lib : ConfigLib} {raw : Option String} {name : String}
    {timeout : Option Binary64} (h : parseTimeout lib raw name = .ok timeout) (general : Binary64) :
    FallsBack raw (ReadsTimeout lib) general (timeout.getD general) := by
  unfold parseTimeout at h
  split at h
  · cases h
    exact Or.inl ⟨Or.inl rfl, rfl⟩
  · cases h
    exact Or.inl ⟨Or.inr rfl, rfl⟩
  · rename_i raw hraw
    cases hfloat : lib.float raw with
    | ok milliseconds =>
        rw [hfloat] at h
        cases h
        exact Or.inr ⟨raw, rfl, hraw, milliseconds, hfloat, rfl⟩
    | error e =>
        rw [hfloat] at h
        cases e <;> cases h

theorem parseCompression_falls_back {lib : ConfigLib} {raw : Option String} {name : String}
    {compression : Option Compression} (h : parseCompression lib raw name = .ok compression)
    (general : Compression) :
    FallsBack raw ReadsCompression general (compression.getD general) := by
  unfold parseCompression at h
  split at h
  · cases h
    exact Or.inl ⟨Or.inl rfl, rfl⟩
  · cases h
    exact Or.inl ⟨Or.inr rfl, rfl⟩
  · rename_i raw hraw
    cases hvalue : Compression.ofValue? raw with
    | some compression =>
        rw [hvalue] at h
        cases h
        exact Or.inr ⟨raw, rfl, hraw, hvalue⟩
    | none =>
        rw [hvalue] at h
        cases h

theorem endpoint_falls_back {lib : ConfigLib} {c : Settings} {kind : SignalKind}
    {entry : Option String}
    (h : pick c.metricsEndpoint c.logsEndpoint c.tracesEndpoint kind = entry) :
    FallsBack entry (fun raw endpoint => endpoint = signalEndpoint lib raw)
      (.ok (rstripSlash c.endpoint ++ httpPath kind)) (c.endpointFor lib kind) := by
  rw [c.endpointFor_eq, h]
  split
  · exact Or.inl ⟨Or.inl rfl, rfl⟩
  · exact Or.inl ⟨Or.inr rfl, rfl⟩
  · rename_i raw hraw
    exact Or.inr ⟨raw, rfl, hraw, rfl⟩

/-- No entry, no header. -/
theorem parseHeaders_empty (lib : ConfigLib) : parseHeaders lib "" = .ok [] := rfl

theorem own_eq {env : Env} {kind : SignalKind} (h : kind ≠ .profiles) (option : String) :
    own env kind option = env (ownName kind option) := by
  cases kind with
  | profiles => exact absurd rfl h
  | _ => rfl

/-- Settings that were read resolve to what the variables of the signal say. -/
theorem Settings.ReadFrom.resolves {lib : ConfigLib} {env : Env} {c : Settings}
    (h : c.ReadFrom lib env) {kind : SignalKind} (hk : kind ≠ .profiles) :
    c.Resolves lib env kind := by
  have hheaders := h.ownHeaders kind
  have htimeout := h.ownTimeout kind
  have hcompression := h.ownCompression kind
  rw [own_eq hk] at hheaders htimeout hcompression
  obtain ⟨timeout, hgeneral, heq⟩ := h.timeout
  obtain ⟨compression, hgeneral', heq'⟩ := h.compression
  have hown : ∀ raw, env (ownName kind "HEADERS") = some raw →
      parseHeaders lib raw = .ok (c.headersFor kind) := by
    intro raw hraw
    rw [hraw] at hheaders
    rw [readHeaders] at hheaders
    rw [OTLPConfig.headersFor, override_eq]
    cases hparse : parseHeaders lib raw with
    | ok headers =>
        rw [hparse] at hheaders
        rw [← Except.ok.inj hheaders]
        rfl
    | error e =>
        rw [hparse] at hheaders
        cases hheaders
  constructor
  · exact hown
  · intro hempty
    exact (Except.ok.inj ((parseHeaders_empty lib).symm.trans (hown "" hempty))).symm
  · intro hnone
    rw [hnone] at hheaders
    rw [h.headers, OTLPConfig.headersFor, override_eq, ← Except.ok.inj hheaders]
    rfl
  · rw [OTLPConfig.timeoutFor, override_eq]
    exact parseTimeout_falls_back htimeout _
  · rw [heq]
    exact parseTimeout_falls_back hgeneral _
  · rw [OTLPConfig.compressionFor, override_eq]
    exact parseCompression_falls_back hcompression _
  · rw [heq']
    exact parseCompression_falls_back hgeneral' _
  · exact endpoint_falls_back ((h.ownEndpoint kind).trans (own_eq hk _))
  · exact h.endpoint

/-- **The settings of a signal.**  What differs in the variables of one signal changes nothing for
another one; and a signal that has variables is settled by its own ones where they are set, and by
the general ones elsewhere. -/
theorem signal_settings (lib : ConfigLib) :
    (∀ s env₁ env₂ c₁ c₂, fromEnv lib env₁ = .ok c₁ → fromEnv lib env₂ = .ok c₂ →
      (∀ name, ¬ IsOwn s name → env₁ name = env₂ name) →
        ∀ kind, kind ≠ s → c₁.SameFor lib c₂ kind) ∧
    ∀ s env c, s ≠ .profiles → fromEnv lib env = .ok c → c.Resolves lib env s := by
  refine ⟨fun s env₁ env₂ c₁ c₂ h₁ h₂ hagree kind hk => ?_, fun s env c hs h => ?_⟩
  · refine (fromEnv_read lib env₁ c₁ h₁).same (fromEnv_read lib env₂ c₂ h₂) ?_ ?_
    · exact fun name hname => hagree name (general_not_own s name hname)
    · exact fun option _ => hagree _ (other_not_own hk option)
  · exact (fromEnv_read lib env c h).resolves hs

/-! ### Headers of one signal -/

/-- A library on texts with no escape and no number in them. -/
def plainLib : ConfigLib where
  float text := .error (.valueError ("could not convert string to float: " ++ text))
  repr text := "'" ++ text ++ "'"
  unquote := id
  urlparse url := .ok ⟨"", "", url, "", "", ""⟩
  urlunparse parsed := parsed.path

/-- A general key. -/
def keyEnv : Env := fun name =>
  if name = "OTEL_EXPORTER_OTLP_HEADERS" then some "api-key=secret" else none

/-- The key, and a tenant for the traces. -/
def tenantEnv : Env := fun name =>
  if name = "OTEL_EXPORTER_OTLP_TRACES_HEADERS" then some "x-tenant=acme" else keyEnv name

theorem signal_settings_tenant : ∃ c₁ c₂, fromEnv plainLib keyEnv = .ok c₁ ∧
    fromEnv plainLib tenantEnv = .ok c₂ ∧ c₁.SameFor plainLib c₂ .metrics ∧
    c₂.Resolves plainLib tenantEnv .traces := by
  obtain ⟨c₁, h₁⟩ : ∃ c₁, fromEnv plainLib keyEnv = .ok c₁ := ⟨_, rfl⟩
  obtain ⟨c₂, h₂⟩ : ∃ c₂, fromEnv plainLib tenantEnv = .ok c₂ := ⟨_, rfl⟩
  have hagree : ∀ name, ¬ IsOwn .traces name → keyEnv name = tenantEnv name := by
    intro name hname
    rw [tenantEnv, if_neg]
    rintro rfl
    exact hname (by decide)
  exact ⟨c₁, c₂, h₁, h₂,
    (signal_settings plainLib).1 .traces _ _ _ _ h₁ h₂ hagree .metrics (by decide),
    (signal_settings plainLib).2 .traces _ _ (by decide) h₂⟩

end OtlpClient
