import OtlpClient.Model.Common
import OtlpClient.Support.Python

/-!
# Config — what varies by signal

The settings of `config.py` that `OTLPConfig` resolves for a signal: a setting of the signal's own
replaces the general one.
-/

namespace OtlpClient

/-- `Compression`. -/
inductive Compression where
  | none
  | gzip
  deriving DecidableEq, Repr

/-- `OTLPConfig`, as far as its headers, timeouts and compressions go. -/
structure OTLPConfig where
  headers : Headers := []
  timeout : Binary64
  compression : Compression := .none
  metricsHeaders : Option Headers := none
  logsHeaders : Option Headers := none
  tracesHeaders : Option Headers := none
  metricsTimeout : Option Binary64 := none
  logsTimeout : Option Binary64 := none
  tracesTimeout : Option Binary64 := none
  metricsCompression : Option Compression := none
  logsCompression : Option Compression := none
  tracesCompression : Option Compression := none

namespace OTLPConfig

/-- The setting of a signal: its own where there is one, else the general one. -/
def override {β : Type} (general : β) (metrics logs traces : Option β) (kind : SignalKind) : β :=
  let override := match kind with
    | .metrics => metrics
    | .logs => logs
    | .traces => traces
    | .profiles => none
  override.getD general

variable (config : OTLPConfig)

/-- `headers_for`. -/
def headersFor : SignalKind → Headers :=
  override config.headers config.metricsHeaders config.logsHeaders config.tracesHeaders

/-- `timeout_for`. -/
def timeoutFor : SignalKind → Binary64 :=
  override config.timeout config.metricsTimeout config.logsTimeout config.tracesTimeout

/-- `compression_for`. -/
def compressionFor : SignalKind → Compression :=
  override config.compression config.metricsCompression config.logsCompression
    config.tracesCompression

end OTLPConfig

end OtlpClient
