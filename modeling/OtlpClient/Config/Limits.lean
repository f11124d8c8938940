import OtlpClient.Config.Signals

/-!
# Config — positive limits

What `__post_init__` keeps out, and what it lets through.

* `postInit_ok_iff`: a configuration is accepted where no limit is `<= 0`.
* `limits_positive_iff`: an accepted one has positive limits exactly where none of them is a NaN.
-/

namespace OtlpClient

/-- What holds of every value a signal resolves to holds of the general one and of those set. -/
theorem forall_override {β : Type} {P : β → Prop} {general : β} {metrics logs traces : Option β} :
    (∀ kind, P (OTLPConfig.override general metrics logs traces kind)) ↔
      P general ∧ ∀ kind, ∀ x ∈ pick metrics logs traces kind, P x := by
  constructor
  · intro h
    refine ⟨h .profiles, fun kind x hx => ?_⟩
    have hkind := h kind
    rwa [override_eq, Option.mem_def.mp hx] at hkind
  · rintro ⟨hgeneral, hown⟩ kind
    rw [override_eq]
    cases hpick : pick metrics logs traces kind with
    | none => exact hgeneral
    | some x => exact hown kind x hpick

namespace Settings

/-- The timeouts of the signals, where they are set. -/
def ownTimeouts (c : Settings) : SignalKind → Option Binary64 :=
  pick c.metricsTimeout c.logsTimeout c.tracesTimeout

/-- What `__post_init__` checks. -/
structure Accepted (c : Settings) : Prop where
  endpoint : c.endpoint ≠ ""
  timeout : c.timeout.le .posZero = false
  maxElapsed : c.maxElapsed.le .posZero = false
  ownTimeouts : ∀ kind, ∀ x ∈ c.ownTimeouts kind, x.le .posZero = false

theorem checkTimeout_ok_iff {name : String} {value : Option Binary64} :
    checkTimeout name value = .ok () ↔ ∀ x ∈ value, x.le .posZero = false := by
  cases value with
  | none => exact iff_of_true rfl nofun
  | some x =>
      rw [checkTimeout]
      cases hx : x.le .posZero with
      | true => exact iff_of_false nofun fun h => absurd (hx.symm.trans (h x rfl)) nofun
      | false =>
          refine iff_of_true rfl ?_
          rintro y ⟨⟩
          exact hx

/-- A check that raises where its test is true. -/
theorem check_ok_iff {b : Bool} {e : Exn} {x : Except Exn Unit} :
    (if b = true then .error e else x) = .ok () ↔ b = false ∧ x = .ok () := by
  cases b with
  | true => exact iff_of_false nofun nofun
  | false => exact (and_iff_right rfl).symm

/-- Two checks, one after the other. -/
theorem seq_ok_iff {x y : Except Exn Unit} :
    (x >>= fun _ => y) = .ok () ↔ x = .ok () ∧ y = .ok () := by
  cases x with
  | error e => exact iff_of_false nofun nofun
  | ok _ => exact (and_iff_right rfl).symm

theorem postInit_ok_iff {c : Settings} : c.postInit = .ok () ↔ c.Accepted := by
  unfold postInit
  rw [check_ok_iff, check_ok_iff, check_ok_iff, seq_ok_iff, seq_ok_iff]
  simp only [checkTimeout_ok_iff]
  constructor
  · rintro ⟨hendpoint, htimeout, helapsed, hmetrics, hlogs, htraces⟩
    refine ⟨?_, htimeout, helapsed, fun kind => ?_⟩
    · simpa using hendpoint
    · cases kind with
      | metrics => exact hmetrics
      | logs => exact hlogs
      | traces => exact htraces
      | profiles => exact nofun
  · intro h
    exact ⟨by simpa using h.endpoint, h.timeout, h.maxElapsed, h.ownTimeouts .metrics,
      h.ownTimeouts .logs, h.ownTimeouts .traces⟩

/-- Every limit is greater than zero, as a float. -/
structure Positive (c : Settings) : Prop where
  timeout : ∀ kind, Binary64.lt .posZero (c.timeoutFor kind) = true
  maxElapsed : Binary64.lt .posZero c.maxElapsed = true

/-- No limit is a NaN. -/
structure IsNaNFree (c : Settings) : Prop where
  timeout : c.timeout.isNaN = false
  ownTimeouts : ∀ kind, ∀ x ∈ c.ownTimeouts kind, x.isNaN = false
  maxElapsed : c.maxElapsed.isNaN = false

/-- A value that is not `<= 0` is greater than zero, or a NaN. -/
theorem positive_of_not_le {x : Binary64} (h : x.le .posZero = false) :
    Binary64.lt .posZero x = true ↔ x.isNaN = false := by
  rw [Binary64.lt_iff_not_le Binary64.isNaN_posZero, h]
  exact and_iff_right rfl

/-- The limits of an accepted configuration. -/
theorem Accepted.positive_iff {c : Settings} (h : c.Accepted) : c.Positive ↔ c.IsNaNFree := by
  have hown : ∀ kind, ∀ x ∈ c.ownTimeouts kind,
      (Binary64.lt .posZero x = true ↔ x.isNaN = false) :=
    fun kind x hx => positive_of_not_le (h.ownTimeouts kind x hx)
  have htimeouts : (∀ kind, Binary64.lt .posZero (c.timeoutFor kind) = true) ↔
      c.timeout.isNaN = false ∧ ∀ kind, ∀ x ∈ c.ownTimeouts kind, x.isNaN = false := by
    refine (forall_override (P := fun x => Binary64.lt .posZero x = true)).trans ?_
    refine and_congr (positive_of_not_le h.timeout) ?_
    exact forall_congr' fun kind => forall_congr' fun x => forall_congr' fun hx => hown kind x hx
  constructor
  · rintro ⟨htimeout, helapsed⟩
    obtain ⟨hgeneral, hsignals⟩ := htimeouts.mp htimeout
    exact ⟨hgeneral, hsignals, (positive_of_not_le h.maxElapsed).mp helapsed⟩
  · rintro ⟨hgeneral, hsignals, helapsed⟩
    exact ⟨htimeouts.mpr ⟨hgeneral, hsignals⟩, (positive_of_not_le h.maxElapsed).mpr helapsed⟩

end Settings

/-! ### The environment -/

/-- The variables that hold a timeout. -/
def timeoutNames : List String :=
  "OTEL_EXPORTER_OTLP_TIMEOUT" :: [SignalKind.metrics, .logs, .traces].map (ownName · "TIMEOUT")

/-- No timeout of the environment is written as a NaN. -/
def Env.IsNaNFree (lib : ConfigLib) (env : Env) : Prop :=
  ∀ name ∈ timeoutNames, ∀ raw, env name = some raw → raw ≠ "" →
    ∀ milliseconds, lib.float raw = .ok milliseconds → milliseconds.isNaN = false

/-- A timeout that was read is a NaN exactly where it is written as one. -/
theorem FallsBack.isNaN_iff {lib : ConfigLib} {entry : Option String} {general value : Binary64}
    (h : FallsBack entry (ReadsTimeout lib) general value) (hgeneral : general.isNaN = false) :
    value.isNaN = false ↔ ∀ raw, entry = some raw → raw ≠ "" →
      ∀ milliseconds, lib.float raw = .ok milliseconds → milliseconds.isNaN = false := by
  rcases h with ⟨hentry, rfl⟩ | ⟨text, rfl, htext, milliseconds, hread, rfl⟩
  · refine iff_of_true hgeneral fun raw hraw hne => ?_
    rcases hentry with rfl | rfl
    · cases hraw
    · exact absurd (Option.some.inj hraw).symm hne
  · rw [Binary64.isNaN_div]
    constructor
    · rintro hnan raw ⟨⟩ - m hm
      rw [hread] at hm
      rwa [← Except.ok.inj hm]
    · intro h
      exact h text rfl htext milliseconds hread

theorem defaultTimeout_not_nan : defaultTimeout.isNaN = false := by decide

/-- The limits that were read are no NaNs exactly where none is written as one. -/
theorem Settings.ReadFrom.isNaNFree_iff {lib : ConfigLib} {env : Env} {c : Settings}
    (h : c.ReadFrom lib env) : c.IsNaNFree ↔ Env.IsNaNFree lib env := by
  obtain ⟨timeout, htimeout, heq⟩ := h.timeout
  have hgeneral := (parseTimeout_falls_back htimeout defaultTimeout).isNaN_iff
    defaultTimeout_not_nan
  have hown : ∀ kind, (∀ x ∈ c.ownTimeouts kind, x.isNaN = false) ↔
      ∀ raw, own env kind "TIMEOUT" = some raw → raw ≠ "" →
        ∀ milliseconds, lib.float raw = .ok milliseconds → milliseconds.isNaN = false := by
    intro kind
    rw [← (parseTimeout_falls_back (h.ownTimeout kind) defaultTimeout).isNaN_iff
      defaultTimeout_not_nan, Settings.ownTimeouts]
    cases pick c.metricsTimeout c.logsTimeout c.tracesTimeout kind with
    | none => exact iff_of_true nofun defaultTimeout_not_nan
    | some x =>
        constructor
        · intro h
          exact h x rfl
        · rintro h y ⟨⟩
          exact h
  rw [← heq] at hgeneral
  unfold Env.IsNaNFree timeoutNames
  rw [List.forall_mem_cons, ← hgeneral]
  constructor
  · intro hfree
    refine ⟨hfree.timeout, fun name hname => ?_⟩
    obtain ⟨kind, hkind, rfl⟩ := List.mem_map.mp hname
    have hkind : kind ≠ .profiles := by
      rintro rfl
      revert hkind
      decide
    have hentry : own env kind "TIMEOUT" = env (ownName kind "TIMEOUT") := own_eq hkind _
    rw [← hentry]
    exact (hown kind).mp (hfree.ownTimeouts kind)
  · rintro ⟨htimeout, hsignals⟩
    refine ⟨htimeout, fun kind => (hown kind).mpr ?_, by rw [h.maxElapsed]; decide⟩
    cases kind with
    | profiles => exact nofun
    | _ => exact hsignals _ (List.mem_map_of_mem (by decide))

/-- **Positive limits.**  Every configuration `__post_init__` accepts, and every one that is read
from an environment, has positive timeouts and a positive budget exactly where none of them is a
NaN. -/
theorem limits_positive_iff (lib : ConfigLib) :
    (∀ c : Settings, c.postInit = .ok () → (c.Positive ↔ c.IsNaNFree)) ∧
    ∀ env c, fromEnv lib env = .ok c → (c.Positive ↔ Env.IsNaNFree lib env) := by
  refine ⟨fun c h => (Settings.postInit_ok_iff.mp h).positive_iff, fun env c h => ?_⟩
  have hread := fromEnv_read lib env c h
  exact (Settings.postInit_ok_iff.mp hread.accepted).positive_iff.trans hread.isNaNFree_iff

/-! ### A timeout that is no number -/

/-- What `float("nan")` is. -/
def nanLib : ConfigLib := { plainLib with
  float := fun text => if text = "nan" then .ok .nan else plainLib.float text }

def nanEnv : Env := fun name => if name = "OTEL_EXPORTER_OTLP_TIMEOUT" then some "nan" else none

/-- A NaN is accepted, from the environment and by `__post_init__`, as a timeout and as a budget. -/
theorem nan_accepted : (∃ c, fromEnv nanLib nanEnv = .ok c ∧ ¬ c.Positive) ∧
    (∃ c : Settings, c.postInit = .ok () ∧ c.timeout = .nan ∧ ¬ c.Positive) ∧
    ∃ c : Settings, c.postInit = .ok () ∧ c.maxElapsed = .nan ∧ ¬ c.Positive := by
  refine ⟨⟨_, rfl, fun h => ?_⟩,
    ⟨{ endpoint := "http://localhost:4318", timeout := .nan }, rfl, rfl, fun h => ?_⟩,
    { endpoint := "http://localhost:4318", maxElapsed := .nan }, rfl, rfl, fun h => ?_⟩
  · exact absurd (h.timeout .metrics) (by decide)
  · exact absurd (h.timeout .metrics) (by decide)
  · exact absurd h.maxElapsed (by decide)

/-! ### Timeouts that are numbers -/

/-- What `float()` is of two numbers of milliseconds. -/
def millisLib : ConfigLib := { plainLib with
  float := fun text =>
    if text = "30000" then .ok (.ofRat 30000)
    else if text = "2500" then .ok (.ofRat 2500)
    else plainLib.float text }

/-- Half a minute for an export over gRPC, and two and a half seconds for one of metrics. -/
def timeoutEnv : Env := fun name =>
  if name = "OTEL_EXPORTER_OTLP_PROTOCOL" then some "grpc"
  else if name = "OTEL_EXPORTER_OTLP_COMPRESSION" then some "gzip"
  else if name = "OTEL_EXPORTER_OTLP_TIMEOUT" then some "30000"
  else if name = "OTEL_EXPORTER_OTLP_METRICS_TIMEOUT" then some "2500"
  else keyEnv name

theorem fromEnv_timeoutEnv : ∃ c, fromEnv millisLib timeoutEnv = .ok c := by
  have hok : (fromEnv millisLib timeoutEnv).isOk = true := by decide +kernel
  cases hread : fromEnv millisLib timeoutEnv with
  | ok c => exact ⟨c, rfl⟩
  | error e =>
      rw [hread] at hok
      cases hok

theorem millisLib_float {raw : String} {x : Binary64} (h : millisLib.float raw = .ok x) :
    x.isNaN = false := by
  have h30000 : (Binary64.ofRat 30000).isNaN = false := by decide +kernel
  have h2500 : (Binary64.ofRat 2500).isNaN = false := by decide +kernel
  simp only [millisLib] at h
  split at h
  · exact Except.ok.inj h ▸ h30000
  · split at h
    · exact Except.ok.inj h ▸ h2500
    · cases h

theorem limits_positive_timeouts : ∃ c, fromEnv millisLib timeoutEnv = .ok c ∧ c.Positive := by
  obtain ⟨c, h⟩ := fromEnv_timeoutEnv
  refine ⟨c, h, ((limits_positive_iff millisLib).2 timeoutEnv c h).mpr ?_⟩
  intro name hname raw hraw hne milliseconds hread
  exact millisLib_float hread

end OtlpClient
