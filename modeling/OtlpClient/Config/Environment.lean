import OtlpClient.Config.HeaderText
import OtlpClient.Config.Limits

/-!
# Config — which environments are read

`from_env`, on every environment.

* `Checks`: a computation that returns where a condition holds, and raises `OTLPConfigError` where
  it does not.  `Checks.bind` and `Checks.forM` put checks one after the other.
* `fromEnv_accepts_iff`: an environment is read exactly where each of its variables is well formed.
-/

namespace OtlpClient

/-! ### Checks -/

/-- The computation returns where the condition holds, and is an `OTLPConfigError` elsewhere. -/
def Checks {α : Type} (x : Except Exn α) (P : Prop) : Prop :=
  P ∧ (∃ a, x = .ok a) ∨ ¬ P ∧ ∃ message, x = .error (.config message)

namespace Checks

variable {α β : Type} {x : Except Exn α} {P Q : Prop}

theorem ok (a : α) (h : P) : Checks (.ok a) P := Or.inl ⟨h, a, rfl⟩

theorem error (message : String) (h : ¬ P) : Checks (.error (.config message) : Except Exn α) P :=
  Or.inr ⟨h, message, rfl⟩

theorem congr (h : Checks x P) (hiff : P ↔ Q) : Checks x Q := by
  rwa [Checks, ← hiff]

/-- One check after another, whose condition may be on what the first returns. -/
theorem bind {f : α → Except Exn β} (hx : Checks x P) (hf : ∀ a, x = .ok a → Checks (f a) Q) :
    Checks (x >>= f) (P ∧ Q) := by
  rcases hx with ⟨hp, a, ha⟩ | ⟨hp, message, hm⟩
  · refine (hf a ha).imp ?_ ?_
    · rintro ⟨hq, b, hb⟩
      exact ⟨⟨hp, hq⟩, b, bind_eq_ok.mpr ⟨a, ha, hb⟩⟩
    · rintro ⟨hq, message, hm⟩
      refine ⟨fun h => hq h.2, message, ?_⟩
      rw [ha, ok_bind, hm]
  · refine Or.inr ⟨fun h => hp h.1, message, ?_⟩
    rw [hm]
    rfl

theorem map (g : α → β) (h : Checks x P) : Checks (g <$> x) P := by
  rcases h with ⟨hp, a, ha⟩ | ⟨hp, message, hm⟩
  · rw [ha]
    exact .ok (g a) hp
  · rw [hm]
    exact .error message hp

/-- A loop of checks. -/
theorem forM {xs : List β} {f : β → Except Exn PUnit} {P : β → Prop}
    (h : ∀ b ∈ xs, Checks (f b) (P b)) : Checks (xs.forM f) (∀ b ∈ xs, P b) := by
  induction xs with
  | nil => exact .ok _ nofun
  | cons b xs ih =>
      obtain ⟨hb, hxs⟩ := List.forall_mem_cons.mp h
      exact (hb.bind fun _ _ => ih hxs).congr List.forall_mem_cons.symm

theorem ok_iff (h : Checks x P) : (∃ a, x = .ok a) ↔ P := by
  rcases h with ⟨hp, ha⟩ | ⟨hp, message, hm⟩
  · exact iff_of_true ha hp
  · refine iff_of_false ?_ hp
    rintro ⟨a, ha⟩
    cases ha.symm.trans hm

theorem eq_config (h : Checks x P) {e : Exn} (he : x = .error e) :
    ∃ message, e = .config message := by
  rcases h with ⟨-, a, ha⟩ | ⟨-, message, hm⟩
  · cases ha.symm.trans he
  · exact ⟨message, Except.error.inj (he.symm.trans hm)⟩

end Checks

/-! ### One variable -/

/-- `float()` at a str raises `ValueError` only. -/
def ConfigLib.Lawful (lib : ConfigLib) : Prop :=
  ∀ {raw e}, lib.float raw = .error e → ∃ message, e = .valueError message

variable {lib : ConfigLib}

/-- What a variable that may be left empty holds, where it holds something. -/
def Holds (entry : Option String) (P : String → Prop) : Prop :=
  ∀ raw, entry = some raw → raw ≠ "" → P raw

/-- A text of headers none of whose entries is malformed. -/
def IsHeaderText (raw : String) : Prop := ∀ entry ∈ raw.toList.splitOn ',', ¬ IsMalformed entry

theorem holds_none {P : String → Prop} : Holds none P := nofun

theorem holds_empty {P : String → Prop} : Holds (some "") P := by
  rintro raw ⟨⟩ hne
  exact absurd rfl hne

theorem holds_some {P : String → Prop} {raw : String} (hne : raw ≠ "") :
    Holds (some raw) P ↔ P raw := by
  constructor
  · intro h
    exact h raw rfl hne
  · rintro h raw' ⟨⟩ -
    exact h

theorem parseProtocol_checks (raw : String) :
    Checks (parseProtocol lib raw) (OTLPProtocol.ofValue? raw ≠ none) := by
  unfold parseProtocol
  cases h : OTLPProtocol.ofValue? raw with
  | some protocol => exact .ok protocol nofun
  | none => exact .error _ fun hne => hne rfl

theorem parseTimeout_checks (hl : lib.Lawful) (entry : Option String) (name : String) :
    Checks (parseTimeout lib entry name) (Holds entry fun raw => ∃ x, lib.float raw = .ok x) := by
  unfold parseTimeout
  split
  · exact .ok none holds_none
  · exact .ok none holds_empty
  · rename_i raw hraw
    refine Checks.congr ?_ (holds_some hraw).symm
    cases hfloat : lib.float raw with
    | ok x => exact .ok _ ⟨x, rfl⟩
    | error e =>
        obtain ⟨message, rfl⟩ := hl hfloat
        exact .error _ nofun

theorem parseCompression_checks (entry : Option String) (name : String) :
    Checks (parseCompression lib entry name)
      (Holds entry fun raw => Compression.ofValue? raw ≠ none) := by
  unfold parseCompression
  split
  · exact .ok none holds_none
  · exact .ok none holds_empty
  · rename_i raw hraw
    refine Checks.congr ?_ (holds_some hraw).symm
    cases hvalue : Compression.ofValue? raw with
    | some compression => exact .ok _ nofun
    | none => exact .error _ fun hne => hne rfl

theorem parseHeaders_checks (raw : String) : Checks (parseHeaders lib raw) (IsHeaderText raw) := by
  rcases foldlM_outcome lib (raw.toList.splitOn ',') [] with
    ⟨⟨entry, hmem, hentry⟩, hraised⟩ | ⟨hentries, hread⟩
  · exact Or.inr ⟨fun h => h entry hmem hentry, hraised⟩
  · exact Or.inl ⟨hentries, hread⟩

theorem signalHeaders_checks (env : Env) (signal : String) :
    Checks (signalHeaders lib env signal)
      (∀ raw, env ("OTEL_EXPORTER_OTLP_" ++ signal ++ "_HEADERS") = some raw →
        IsHeaderText raw) := by
  unfold signalHeaders
  cases env ("OTEL_EXPORTER_OTLP_" ++ signal ++ "_HEADERS") with
  | none => exact .ok none nofun
  | some raw =>
      refine (Checks.map _ (parseHeaders_checks raw)).congr ⟨?_, fun h => h raw rfl⟩
      rintro h raw' ⟨⟩
      exact h

theorem rejectUnsupported_checks (env : Env) :
    Checks (rejectUnsupportedPerSignal env) (∀ signal ∈ signalPrefixes,
      ∀ option ∈ unsupportedPerSignal,
        Holds (env ("OTEL_EXPORTER_OTLP_" ++ signal ++ "_" ++ option)) fun _ => False) := by
  refine .forM fun signal _ => .forM fun option _ => ?_
  dsimp only
  split
  · rename_i hentry
    rw [hentry]
    exact .ok _ holds_none
  · rename_i hentry
    rw [hentry]
    exact .ok _ holds_empty
  · rename_i raw hne hentry
    rw [hentry]
    exact .error _ (holds_some hne).mp

/-- A check that raises `OTLPConfigError` where its test is true. -/
theorem check_checks {b : Bool} {message : String} {x : Except Exn Unit} {P : Prop}
    (hx : Checks x P) :
    Checks (if b = true then .error (.config message) else x) (b = false ∧ P) := by
  cases b with
  | true => exact .error message nofun
  | false => exact hx.congr (and_iff_right rfl).symm

theorem checkTimeout_checks (name : String) (value : Option Binary64) :
    Checks (Settings.checkTimeout name value) (∀ x ∈ value, x.le .posZero = false) := by
  cases value with
  | none => exact .ok () nofun
  | some x =>
      rw [Settings.checkTimeout]
      cases hx : x.le .posZero with
      | true =>
          refine .error _ fun h => ?_
          cases hx.symm.trans (h x rfl)
      | false =>
          refine .ok () ?_
          rintro y ⟨⟩
          exact hx

/-- What `__post_init__` raises, it raises where the configuration is not accepted. -/
theorem postInit_checks (c : Settings) : Checks c.postInit c.Accepted := by
  have hchecks : Checks c.postInit _ :=
    check_checks (check_checks (check_checks
      ((checkTimeout_checks "metrics_timeout" c.metricsTimeout).bind fun _ _ =>
        (checkTimeout_checks "logs_timeout" c.logsTimeout).bind fun _ _ =>
          checkTimeout_checks "traces_timeout" c.tracesTimeout)))
  refine hchecks.congr (hchecks.ok_iff.symm.trans (Iff.trans ?_ Settings.postInit_ok_iff))
  exact ⟨fun ⟨_, h⟩ => h, fun h => ⟨(), h⟩⟩

/-! ### The environment -/

/-- The variables that hold headers. -/
def headersNames : List String :=
  "OTEL_EXPORTER_OTLP_HEADERS" :: [SignalKind.metrics, .logs, .traces].map (ownName · "HEADERS")

/-- The variables that hold a compression. -/
def compressionNames : List String :=
  "OTEL_EXPORTER_OTLP_COMPRESSION" ::
    [SignalKind.metrics, .logs, .traces].map (ownName · "COMPRESSION")

/-- Each variable of the environment that `from_env` reads holds what it may hold. -/
structure Env.WellFormed (lib : ConfigLib) (env : Env) : Prop where
  /-- What cannot vary by signal does not. -/
  supported : ∀ signal ∈ signalPrefixes, ∀ option ∈ unsupportedPerSignal,
    Holds (env ("OTEL_EXPORTER_OTLP_" ++ signal ++ "_" ++ option)) fun _ => False
  protocol : ∀ raw, env "OTEL_EXPORTER_OTLP_PROTOCOL" = some raw → OTLPProtocol.ofValue? raw ≠ none
  /-- An endpoint may be absent, and not empty. -/
  endpoint : env "OTEL_EXPORTER_OTLP_ENDPOINT" ≠ some ""
  headers : ∀ name ∈ headersNames, ∀ raw, env name = some raw → IsHeaderText raw
  compression : ∀ name ∈ compressionNames,
    Holds (env name) fun raw => Compression.ofValue? raw ≠ none
  /-- A timeout is a number of milliseconds that is not `<= 0` in seconds. -/
  timeout : ∀ name ∈ timeoutNames, Holds (env name) fun raw =>
    ∃ x, lib.float raw = .ok x ∧ (x.div 1000).le .posZero = false

theorem forall_names {P : String → Prop} {general option : String} :
    (∀ name ∈ general :: [SignalKind.metrics, .logs, .traces].map (ownName · option), P name) ↔
      P general ∧ P (ownName .metrics option) ∧ P (ownName .logs option) ∧
        P (ownName .traces option) := by
  simp only [List.map_cons, List.map_nil, List.forall_mem_cons, List.not_mem_nil, false_imp_iff,
    implies_true, and_true]

/-- A timeout that was read is not `<= 0`, and nor is the one it falls back to. -/
theorem timeout_le_iff {entry : Option String} {name : String} {timeout : Option Binary64}
    (h : parseTimeout lib entry name = .ok timeout) : (∀ x ∈ timeout, x.le .posZero = false) ↔
      Holds entry fun raw => ∃ x, lib.float raw = .ok x ∧ (x.div 1000).le .posZero = false := by
  unfold parseTimeout at h
  split at h
  · cases h
    exact iff_of_true nofun holds_none
  · cases h
    exact iff_of_true nofun holds_empty
  · rename_i raw hraw
    rw [holds_some hraw]
    cases hfloat : lib.float raw with
    | ok x =>
        rw [hfloat] at h
        cases h
        constructor
        · intro h
          exact ⟨x, rfl, h _ rfl⟩
        · rintro ⟨x', ⟨⟩, hx⟩ y ⟨⟩
          exact hx
    | error e =>
        rw [hfloat] at h
        cases e <;> cases h

/-- What `__post_init__` asks of the configuration that was read is asked of the environment. -/
theorem accepted_iff {env : Env} {c : Settings} {timeout : Option Binary64}
    (hendpoint : c.endpoint = (env "OTEL_EXPORTER_OTLP_ENDPOINT").getD (defaultEndpoint c.protocol))
    (htimeout : parseTimeout lib (env "OTEL_EXPORTER_OTLP_TIMEOUT") "OTEL_EXPORTER_OTLP_TIMEOUT" =
      .ok timeout) (hgeneral : c.timeout = timeout.getD defaultTimeout)
    (hown : ∀ kind ≠ .profiles, parseTimeout lib (env (ownName kind "TIMEOUT"))
      (ownName kind "TIMEOUT") = .ok (c.ownTimeouts kind))
    (hmax : c.maxElapsed = defaultMaxElapsed) :
    c.Accepted ↔ env "OTEL_EXPORTER_OTLP_ENDPOINT" ≠ some "" ∧
      ∀ name ∈ timeoutNames, Holds (env name) fun raw =>
        ∃ x, lib.float raw = .ok x ∧ (x.div 1000).le .posZero = false := by
  have hempty : c.endpoint ≠ "" ↔ env "OTEL_EXPORTER_OTLP_ENDPOINT" ≠ some "" := by
    rw [hendpoint]
    cases env "OTEL_EXPORTER_OTLP_ENDPOINT" with
    | some endpoint => exact not_congr Option.some_inj.symm
    | none =>
        refine iff_of_true ?_ nofun
        cases c.protocol <;> decide
  have hlimit : c.timeout.le .posZero = false ↔ ∀ x ∈ timeout, x.le .posZero = false := by
    rw [hgeneral]
    cases timeout with
    | some x => exact ⟨fun h y hy => Option.mem_some.mp hy ▸ h, fun h => h x rfl⟩
    | none => exact iff_of_true (by decide) nofun
  rw [timeoutNames, forall_names, ← timeout_le_iff htimeout,
    ← timeout_le_iff (hown .metrics nofun), ← timeout_le_iff (hown .logs nofun),
    ← timeout_le_iff (hown .traces nofun), ← hlimit, ← hempty]
  constructor
  · intro h
    exact ⟨h.endpoint, h.timeout, h.ownTimeouts .metrics, h.ownTimeouts .logs,
      h.ownTimeouts .traces⟩
  · rintro ⟨hendpoint, htimeout, hmetrics, hlogs, htraces⟩
    refine ⟨hendpoint, htimeout, by rw [hmax]; decide, fun kind => ?_⟩
    cases kind with
    | metrics => exact hmetrics
    | logs => exact hlogs
    | traces => exact htraces
    | profiles => exact nofun

theorem getD_iff {P : String → Prop} (default : String) (h : P default) (entry : Option String) :
    P (entry.getD default) ↔ ∀ raw, entry = some raw → P raw := by
  cases entry with
  | some raw => exact ⟨fun h _ heq => Option.some.inj heq ▸ h, fun h => h raw rfl⟩
  | none => exact iff_of_true h nofun

theorem isHeaderText_empty : IsHeaderText "" := by
  intro entry hentry h
  rw [List.mem_singleton.mp (show entry ∈ [[]] from hentry)] at h
  exact h.1 nofun

/-- The variables, in the order in which `from_env` checks them. -/
theorem wellFormed_iff {env : Env} :
    ((∀ signal ∈ signalPrefixes, ∀ option ∈ unsupportedPerSignal,
        Holds (env ("OTEL_EXPORTER_OTLP_" ++ signal ++ "_" ++ option)) fun _ => False) ∧
      OTLPProtocol.ofValue? ((env "OTEL_EXPORTER_OTLP_PROTOCOL").getD "http/json") ≠ none ∧
      (Holds (env "OTEL_EXPORTER_OTLP_COMPRESSION") fun raw => Compression.ofValue? raw ≠ none) ∧
      (Holds (env "OTEL_EXPORTER_OTLP_TIMEOUT") fun raw => ∃ x, lib.float raw = .ok x) ∧
      IsHeaderText ((env "OTEL_EXPORTER_OTLP_HEADERS").getD "") ∧
      (∀ raw, env (ownName .metrics "HEADERS") = some raw → IsHeaderText raw) ∧
      (∀ raw, env (ownName .logs "HEADERS") = some raw → IsHeaderText raw) ∧
      (∀ raw, env (ownName .traces "HEADERS") = some raw → IsHeaderText raw) ∧
      (Holds (env (ownName .metrics "TIMEOUT")) fun raw => ∃ x, lib.float raw = .ok x) ∧
      (Holds (env (ownName .logs "TIMEOUT")) fun raw => ∃ x, lib.float raw = .ok x) ∧
      (Holds (env (ownName .traces "TIMEOUT")) fun raw => ∃ x, lib.float raw = .ok x) ∧
      (Holds (env (ownName .metrics "COMPRESSION")) fun raw => Compression.ofValue? raw ≠ none) ∧
      (Holds (env (ownName .logs "COMPRESSION")) fun raw => Compression.ofValue? raw ≠ none) ∧
      (Holds (env (ownName .traces "COMPRESSION")) fun raw => Compression.ofValue? raw ≠ none) ∧
      env "OTEL_EXPORTER_OTLP_ENDPOINT" ≠ some "" ∧
      ∀ name ∈ timeoutNames, Holds (env name) fun raw =>
        ∃ x, lib.float raw = .ok x ∧ (x.div 1000).le .posZero = false) ↔ env.WellFormed lib := by
  have hprotocol := getD_iff (P := fun raw => OTLPProtocol.ofValue? raw ≠ none) "http/json" nofun
    (env "OTEL_EXPORTER_OTLP_PROTOCOL")
  have hheaders := getD_iff "" isHeaderText_empty (env "OTEL_EXPORTER_OTLP_HEADERS")
  rw [hprotocol, hheaders]
  constructor
  · rintro ⟨hsupported, hp, hc, -, hh, hhm, hhl, hht, -, -, -, hcm, hcl, hct, hendpoint, htimeout⟩
    exact ⟨hsupported, hp, hendpoint, forall_names.mpr ⟨hh, hhm, hhl, hht⟩,
      forall_names.mpr ⟨hc, hcm, hcl, hct⟩, htimeout⟩
  · intro h
    obtain ⟨hh, hhm, hhl, hht⟩ := forall_names.mp h.headers
    obtain ⟨hc, hcm, hcl, hct⟩ := forall_names.mp h.compression
    have hnumber : ∀ name ∈ timeoutNames,
        Holds (env name) fun raw => ∃ x, lib.float raw = .ok x := by
      intro name hname raw hraw hne
      obtain ⟨x, hx, -⟩ := h.timeout name hname raw hraw hne
      exact ⟨x, hx⟩
    obtain ⟨ht, htm, htl, htt⟩ := forall_names.mp hnumber
    exact ⟨h.supported, h.protocol, hc, ht, hh, hhm, hhl, hht, htm, htl, htt, hcm, hcl, hct,
      h.endpoint, h.timeout⟩

/-- **Which environments are read.**  Every environment each of whose variables is well formed gives
a configuration; and with any other `from_env` raises an `OTLPConfigError`, and nothing else.  A
timeout is well formed where it parses and is not `<= 0` in seconds, as a NaN is not. -/
theorem fromEnv_accepts_iff (hl : lib.Lawful) (env : Env) :
    ((∃ c, fromEnv lib env = .ok c) ↔ env.WellFormed lib) ∧
      ∀ e, fromEnv lib env = .error e → ∃ message, e = .config message := by
  have hchecks : Checks (fromEnv lib env) (env.WellFormed lib) := by
    unfold fromEnv
    refine Checks.congr ((rejectUnsupported_checks env).bind fun _ _ =>
      (parseProtocol_checks _).bind fun protocol _ =>
      (parseCompression_checks _ _).bind fun compression _ =>
      (parseTimeout_checks hl _ _).bind fun timeout htimeout =>
      (parseHeaders_checks _).bind fun headers _ =>
      (signalHeaders_checks env "METRICS").bind fun metricsHeaders _ =>
      (signalHeaders_checks env "LOGS").bind fun logsHeaders _ =>
      (signalHeaders_checks env "TRACES").bind fun tracesHeaders _ =>
      (parseTimeout_checks hl _ _).bind fun metricsTimeout hmt =>
      (parseTimeout_checks hl _ _).bind fun logsTimeout hlt =>
      (parseTimeout_checks hl _ _).bind fun tracesTimeout htt =>
      (parseCompression_checks _ _).bind fun metricsCompression _ =>
      (parseCompression_checks _ _).bind fun logsCompression _ =>
      (parseCompression_checks _ _).bind fun tracesCompression _ =>
      ((postInit_checks _).bind fun _ _ => Checks.ok _ trivial).congr <|
        (and_iff_left trivial).trans <| accepted_iff rfl htimeout rfl (fun kind hkind => ?_) rfl)
      wellFormed_iff
    cases kind with
    | metrics => exact hmt
    | logs => exact hlt
    | traces => exact htt
    | profiles => exact absurd rfl hkind
  exact ⟨hchecks.ok_iff, fun e => hchecks.eq_config⟩

theorem millisLib_lawful : millisLib.Lawful := by
  intro raw e h
  simp only [millisLib] at h
  split at h
  · cases h
  · split at h
    · cases h
    · cases h
      exact ⟨_, rfl⟩

/-- A timeout for the logs that is no number. -/
def unitEnv : Env := fun name =>
  if name = "OTEL_EXPORTER_OTLP_LOGS_TIMEOUT" then some "10s" else timeoutEnv name

theorem fromEnv_unitEnv : ∃ e, fromEnv millisLib unitEnv = .error e := by
  have hok : (fromEnv millisLib unitEnv).isOk = false := by decide +kernel
  cases hread : fromEnv millisLib unitEnv with
  | ok c =>
      rw [hread] at hok
      cases hok
  | error e => exact ⟨e, rfl⟩

theorem fromEnv_accepts_iff_timeouts : timeoutEnv.WellFormed millisLib ∧
    ¬ unitEnv.WellFormed millisLib ∧
    ∃ message, fromEnv millisLib unitEnv = .error (.config message) := by
  obtain ⟨e, he⟩ := fromEnv_unitEnv
  obtain ⟨haccepts, hraises⟩ := fromEnv_accepts_iff millisLib_lawful unitEnv
  refine ⟨(fromEnv_accepts_iff millisLib_lawful timeoutEnv).1.mp fromEnv_timeoutEnv, ?_, ?_⟩
  · intro hwell
    obtain ⟨c, hc⟩ := haccepts.mpr hwell
    rw [he] at hc
    cases hc
  · obtain ⟨message, rfl⟩ := hraises e he
    exact ⟨message, he⟩

end OtlpClient
