import OtlpClient.Config
import OtlpClient.Errors
import OtlpClient.Support.Exact
import OtlpClient.Support.Numerals

/-!
# Config — from the environment

`config.py` as far as it reads the environment, checks what it read, and resolves an endpoint.

* `postInit`: `__post_init__`.
* `fromEnv`: `from_env`, with everything that parses a variable.
* `endpointFor`: `endpoint_for`.
-/

namespace OtlpClient

/-- `OTLPProtocol`. -/
inductive OTLPProtocol where
  | httpJson
  | httpProtobuf
  | grpc
  deriving DecidableEq, Repr

/-- `OTLPProtocol(value)`. -/
def OTLPProtocol.ofValue? : String → Option OTLPProtocol
  | "http/json" => some .httpJson
  | "http/protobuf" => some .httpProtobuf
  | "grpc" => some .grpc
  | _ => none

/-- `Compression(value)`. -/
def Compression.ofValue? : String → Option Compression
  | "none" => some .none
  | "gzip" => some .gzip
  | _ => Option.none

/-- `_DEFAULT_ENDPOINTS`. -/
def defaultEndpoint : OTLPProtocol → String
  | .httpJson | .httpProtobuf => "http://localhost:4318"
  | .grpc => "http://localhost:4317"

/-- `http_path`. -/
def httpPath : SignalKind → String
  | .metrics => "/v1/metrics"
  | .logs => "/v1/logs"
  | .traces => "/v1/traces"
  | .profiles => "/v1development/profiles"

/-- What `urlparse` returns. -/
structure ParseResult where
  scheme : String
  netloc : String
  path : String
  params : String
  query : String
  fragment : String
  deriving DecidableEq, Repr

/-- `float()` and `repr()` at a str, and what is used of `urllib.parse`. -/
structure ConfigLib where
  float : String → Except PyError Binary64
  repr : String → String
  unquote : String → String
  urlparse : String → Except PyError ParseResult
  urlunparse : ParseResult → String

/-- `10.0`, in seconds. -/
def defaultTimeout : Binary64 := ⟨0x4024000000000000⟩

/-- `90.0`, in seconds. -/
def defaultMaxElapsed : Binary64 := ⟨0x4056800000000000⟩

example : defaultTimeout = .ofRat 10 ∧ defaultMaxElapsed = .ofRat 90 := by decide +kernel

/-- `OTLPConfig`, with the settings that do not vary by signal, and the endpoints. -/
structure Settings extends OTLPConfig where
  timeout := defaultTimeout
  endpoint : String
  protocol : OTLPProtocol := .httpJson
  metricsEndpoint : Option String := none
  logsEndpoint : Option String := none
  tracesEndpoint : Option String := none
  insecure : Bool := false
  certificateFile : Option String := none
  clientCertificateFile : Option String := none
  clientKeyFile : Option String := none
  maxElapsed : Binary64 := defaultMaxElapsed

namespace Settings

/-- A timeout of a signal, where it is set, is not `<= 0`. -/
def checkTimeout (name : String) : Option Binary64 → Except Exn Unit
  | none => .ok ()
  | some value =>
      if value.le .posZero then .error (.config (name ++ " must be greater than zero")) else .ok ()

/-- `__post_init__`. -/
def postInit (config : Settings) : Except Exn Unit :=
  if config.endpoint.isEmpty then .error (.config "endpoint must be a non-empty URL")
  else if config.timeout.le .posZero then .error (.config "timeout must be greater than zero")
  else if config.maxElapsed.le .posZero then
    .error (.config "max_elapsed must be greater than zero")
  else do
    checkTimeout "metrics_timeout" config.metricsTimeout
    checkTimeout "logs_timeout" config.logsTimeout
    checkTimeout "traces_timeout" config.tracesTimeout

end Settings

/-! ### Parsing a variable -/

/-- `os.environ`, or the mapping given in its place. -/
abbrev Env := String → Option String

/-- `_parse_bool`, without its warning. -/
def parseBool (raw : String) : Bool := ((strip raw).toList.map Char.toLower) == "true".toList

variable (lib : ConfigLib)

/-- `OTLPProtocol(raw_protocol)`, and what its `ValueError` becomes. -/
def parseProtocol (rawProtocol : String) : Except Exn OTLPProtocol :=
  match OTLPProtocol.ofValue? rawProtocol with
  | some protocol => .ok protocol
  | none => .error (.config ("unknown protocol " ++ lib.repr rawProtocol))

/-- `_parse_timeout`. -/
def parseTimeout (raw : Option String) (name : String) : Except Exn (Option Binary64) :=
  match raw with
  | none | some "" => .ok none
  | some raw =>
      match lib.float raw with
      | .ok milliseconds => .ok (some (milliseconds.div 1000))
      | .error (.valueError _) =>
          .error (.config ("invalid timeout in " ++ name ++ ": " ++ lib.repr raw))
      | .error e => .error (.builtin e)

/-- `_parse_compression`. -/
def parseCompression (raw : Option String) (name : String) : Except Exn (Option Compression) :=
  match raw with
  | none | some "" => .ok none
  | some raw =>
      match Compression.ofValue? raw with
      | some compression => .ok (some compression)
      | none => .error (.config ("unknown compression in " ++ name ++ ": " ++ lib.repr raw))

/-- `pair.partition("=")`, where there is a `=`. -/
def partitionPair (pair : String) : Option (String × String) :=
  match pair.toList.dropWhile (· != '=') with
  | [] => none
  | _ :: value => some (String.ofList (pair.toList.takeWhile (· != '=')), String.ofList value)

/-- One round of the loop of `_parse_headers`. -/
def parsePair (headers : Headers) (pair : String) : Except Exn Headers :=
  if (strip pair).isEmpty then .ok headers
  else
    match partitionPair pair with
    | none =>
        .error (.config ("malformed header entry " ++ lib.repr pair ++ ", expected key=value"))
    | some (key, value) =>
        .ok (Dict.set headers (lib.unquote (strip key)) (lib.unquote (strip value)))

/-- `_parse_headers`. -/
def parseHeaders (raw : String) : Except Exn Headers :=
  ((raw.toList.splitOn ',').map String.ofList).foldlM (parsePair lib) []

/-- `_signal_headers`. -/
def signalHeaders (src : Env) (signal : String) : Except Exn (Option Headers) :=
  match src ("OTEL_EXPORTER_OTLP_" ++ signal ++ "_HEADERS") with
  | none => .ok none
  | some raw => some <$> parseHeaders lib raw

/-- `_UNSUPPORTED_PER_SIGNAL`. -/
def unsupportedPerSignal : List String :=
  ["PROTOCOL", "INSECURE", "CERTIFICATE", "CLIENT_KEY", "CLIENT_CERTIFICATE"]

/-- `_SIGNAL_PREFIXES`. -/
def signalPrefixes : List String := ["TRACES", "METRICS", "LOGS"]

/-- `_reject_unsupported_per_signal`. -/
def rejectUnsupportedPerSignal (src : Env) : Except Exn Unit :=
  signalPrefixes.forM fun signal => unsupportedPerSignal.forM fun option =>
    let name := "OTEL_EXPORTER_OTLP_" ++ signal ++ "_" ++ option
    match src name with
    | none | some "" => .ok ()
    | some _ => .error (.config (name ++ " is not supported: one OTLPClient holds a single " ++
        "encoder and transport, so this cannot vary per signal. Use separate OTLPClient " ++
        "instances, one per signal, each with its own config."))

/-! ### The environment -/

/-- `from_env`. -/
def fromEnv (src : Env) : Except Exn Settings := do
  rejectUnsupportedPerSignal src
  let protocol ← parseProtocol lib ((src "OTEL_EXPORTER_OTLP_PROTOCOL").getD "http/json")
  let baseCompression ← parseCompression lib (src "OTEL_EXPORTER_OTLP_COMPRESSION")
    "OTEL_EXPORTER_OTLP_COMPRESSION"
  let baseTimeout ← parseTimeout lib (src "OTEL_EXPORTER_OTLP_TIMEOUT")
    "OTEL_EXPORTER_OTLP_TIMEOUT"
  let config : Settings :=
    { endpoint := (src "OTEL_EXPORTER_OTLP_ENDPOINT").getD (defaultEndpoint protocol)
      protocol
      headers := ← parseHeaders lib ((src "OTEL_EXPORTER_OTLP_HEADERS").getD "")
      insecure := parseBool ((src "OTEL_EXPORTER_OTLP_INSECURE").getD "")
      timeout := baseTimeout.getD defaultTimeout
      compression := baseCompression.getD .none
      metricsEndpoint := src "OTEL_EXPORTER_OTLP_METRICS_ENDPOINT"
      logsEndpoint := src "OTEL_EXPORTER_OTLP_LOGS_ENDPOINT"
      tracesEndpoint := src "OTEL_EXPORTER_OTLP_TRACES_ENDPOINT"
      metricsHeaders := ← signalHeaders lib src "METRICS"
      logsHeaders := ← signalHeaders lib src "LOGS"
      tracesHeaders := ← signalHeaders lib src "TRACES"
      metricsTimeout := ← parseTimeout lib (src "OTEL_EXPORTER_OTLP_METRICS_TIMEOUT")
        "OTEL_EXPORTER_OTLP_METRICS_TIMEOUT"
      logsTimeout := ← parseTimeout lib (src "OTEL_EXPORTER_OTLP_LOGS_TIMEOUT")
        "OTEL_EXPORTER_OTLP_LOGS_TIMEOUT"
      tracesTimeout := ← parseTimeout lib (src "OTEL_EXPORTER_OTLP_TRACES_TIMEOUT")
        "OTEL_EXPORTER_OTLP_TRACES_TIMEOUT"
      metricsCompression := ← parseCompression lib (src "OTEL_EXPORTER_OTLP_METRICS_COMPRESSION")
        "OTEL_EXPORTER_OTLP_METRICS_COMPRESSION"
      logsCompression := ← parseCompression lib (src "OTEL_EXPORTER_OTLP_LOGS_COMPRESSION")
        "OTEL_EXPORTER_OTLP_LOGS_COMPRESSION"
      tracesCompression := ← parseCompression lib (src "OTEL_EXPORTER_OTLP_TRACES_COMPRESSION")
        "OTEL_EXPORTER_OTLP_TRACES_COMPRESSION"
      certificateFile := src "OTEL_EXPORTER_OTLP_CERTIFICATE"
      clientCertificateFile := src "OTEL_EXPORTER_OTLP_CLIENT_CERTIFICATE"
      clientKeyFile := src "OTEL_EXPORTER_OTLP_CLIENT_KEY" }
  config.postInit
  return config

/-! ### Endpoints -/

/-- `endpoint.rstrip("/")`. -/
def rstripSlash (endpoint : String) : String :=
  String.ofList (endpoint.toList.reverse.dropWhile (· == '/')).reverse

/-- An endpoint of a signal's own: as it is, with the root path where it has none. -/
def signalEndpoint (endpoint : String) : Except PyError String := do
  let parsed ← lib.urlparse endpoint
  if parsed.path.isEmpty then return lib.urlunparse { parsed with path := "/" }
  else return endpoint

/-- `endpoint_for`. -/
def Settings.endpointFor (config : Settings) (kind : SignalKind) : Except PyError String :=
  let override := match kind with
    | .metrics => config.metricsEndpoint
    | .logs => config.logsEndpoint
    | .traces => config.tracesEndpoint
    | .profiles => none
  match override with
  | none | some "" => .ok (rstripSlash config.endpoint ++ httpPath kind)
  | some endpoint => signalEndpoint lib endpoint

end OtlpClient
