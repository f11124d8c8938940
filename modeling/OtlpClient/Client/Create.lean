import OtlpClient.Support.Effects
import OtlpClient.Transport.Target

/-!
# Client — `create`

What `OTLPClient.create` checks, reads and opens: `_build_encoder`, `HTTPTransport.create` and
`GRPCTransport.create`, with everything that blocks.

* `OTLPClient.create_spec`: what is connected when it returns, and that nothing is when it raises.
* `plaintext_asked_for`: which environments give a channel without TLS.
-/

namespace OtlpClient

/-- `OTLPConfig`, with what only a connection reads. -/
structure ConnectionSettings extends Settings where
  insecureSkipVerify : Bool := false

/-- `ssl.SSLContext`, as far as it is configured. -/
structure SSLContext where
  cafile : Option String
  checkHostname : Bool := true
  /-- `verify_mode` is not `CERT_NONE`. -/
  verify : Bool := true
  certChain : Option (String × Option String) := none

/-- `grpc.ssl_channel_credentials`. -/
structure ChannelCredentials where
  rootCertificates : Option Bytes
  privateKey : Option Bytes
  certificateChain : Option Bytes

/-- What is opened: an `aiohttp.ClientSession`, or a channel to a target. -/
inductive Connection where
  | session
  | insecureChannel (target : String)
  | secureChannel (target : String) (credentials : ChannelCredentials)

/-- The class of an encoder. -/
inductive EncoderClass where
  | json
  | protobuf
  deriving DecidableEq

/-- `content_type`. -/
def EncoderClass.contentType : EncoderClass → String
  | .json => "application/json"
  | .protobuf => "application/x-protobuf"

/-- The argument `session`: an `aiohttp.ClientSession` by its number, or another object. -/
inductive SessionArgument where
  | none
  | clientSession (session : Nat)
  | other

/-- A transport, and whether it owns its session. -/
inductive Transport where
  | http (encoder : EncoderClass) (session : Nat) (ownsSession : Bool) (ssl : Option SSLContext)
  | grpc (encoder : EncoderClass) (channel : Nat)

/-- Which extras are installed, what `urlparse` refuses, and what reads files. -/
structure ConnectionLib where
  protobuf : Bool
  grpc : Bool
  checkNetloc : List Char → Except PyError Unit
  createDefaultContext : Option String → Except Exn Unit
  loadCertChain : String → Option String → Except Exn Unit
  readFile : String → Except Exn Bytes

/-- A str that is not empty. -/
def isSet : Option String → Bool
  | none | some "" => false
  | some _ => true

/-- Connections are numbered in the order in which they are opened. -/
def openConnection (connection : Connection) : Effect Exn (List Connection) Nat := fun opened =>
  (.ok opened.length, opened ++ [connection])

variable (lib : ConnectionLib) (config : ConnectionSettings)

/-! ### HTTP -/

/-- A context, before a certificate of the client is loaded into it. -/
def defaultContext : SSLContext :=
  if config.insecureSkipVerify then
    { cafile := config.certificateFile, checkHostname := false, verify := false }
  else { cafile := config.certificateFile }

/-- `_build_ssl_context`. -/
def buildSslContext : Except Exn (Option SSLContext) :=
  if !(isSet config.certificateFile || isSet config.clientCertificateFile ||
      config.insecureSkipVerify) then .ok none
  else do
    lib.createDefaultContext config.certificateFile
    match config.clientCertificateFile with
    | none | some "" => return some (defaultContext config)
    | some certificate => do
        lib.loadCertChain certificate config.clientKeyFile
        return some { defaultContext config with
          certChain := some (certificate, config.clientKeyFile) }

/-- `HTTPTransport.create`. -/
def HTTPTransport.create (encoder : EncoderClass) (session : Option Nat) :
    Effect Exn (List Connection) Transport := do
  let context ← Effect.lift (buildSslContext lib config)
  match session with
  | some session => return .http encoder session false context
  | none => return .http encoder (← openConnection .session) true context

/-! ### gRPC -/

/-- `read` of `_read_credentials`. -/
def readCredential : Option String → Except Exn (Option Bytes)
  | none | some "" => .ok none
  | some path => some <$> lib.readFile path

/-- `_read_credentials`. -/
def readCredentials : Except Exn ChannelCredentials := do
  return {
    rootCertificates := ← readCredential lib config.certificateFile
    privateKey := ← readCredential lib config.clientKeyFile
    certificateChain := ← readCredential lib config.clientCertificateFile }

/-- `_MISSING` of `transport/grpc.py`. -/
def missingGrpc : String :=
  "the gRPC transport needs the optional extra: pip install 'asyncio-otlp-client[grpc]'"

/-- What `GRPCTransport.create` checks, and the target of the channel. -/
def checkChannel (encoder : EncoderClass) : Except Exn (String × Bool) :=
  if encoder.contentType ≠ "application/x-protobuf" then
    .error (.config "OTLP over gRPC has no JSON encoding; use the protobuf encoder")
  else if !lib.grpc then .error (.config missingGrpc)
  else
    match target lib.checkNetloc config.endpoint config.insecure with
    | .error e => .error (.builtin e)
    | .ok (host, plaintext) =>
        if !plaintext && config.insecureSkipVerify then
          .error (.config ("insecure_skip_verify is not supported over gRPC: grpcio provides no " ++
            "way to disable certificate verification. Use certificate_file to trust a " ++
            "self-signed CA, or switch to an http:// endpoint."))
        else if isSet config.metricsEndpoint || isSet config.logsEndpoint ||
            isSet config.tracesEndpoint then
          .error (.config ("per-signal endpoint overrides (metrics_endpoint/logs_endpoint/" ++
            "traces_endpoint) are not supported over gRPC: a single gRPC channel " ++
            "targets one host and the signal is already selected by the RPC " ++
            "method path. Use separate OTLPClient instances (one per signal, " ++
            "each with its own endpoint) if you need this."))
        else .ok (host, plaintext)

/-- `GRPCTransport.create`. -/
def GRPCTransport.create (encoder : EncoderClass) : Effect Exn (List Connection) Transport := do
  let (host, plaintext) ← Effect.lift (checkChannel lib config encoder)
  if plaintext then return .grpc encoder (← openConnection (.insecureChannel host))
  else do
    let credentials ← Effect.lift (readCredentials lib config)
    return .grpc encoder (← openConnection (.secureChannel host credentials))

/-! ### The client -/

/-- `build_protobuf_encoder`. -/
def buildProtobufEncoder : Except Exn EncoderClass :=
  if lib.protobuf then .ok .protobuf
  else .error (.config
    "the protobuf encoder needs the optional extra: pip install 'asyncio-otlp-client[protobuf]'")

/-- `_build_encoder`: over gRPC the extra that is missing is named as that of gRPC. -/
def buildEncoder : Except Exn EncoderClass :=
  match config.protocol with
  | .httpJson => .ok .json
  | .httpProtobuf => buildProtobufEncoder lib
  | .grpc =>
      match buildProtobufEncoder lib with
      | .error (.config _) => .error (.config missingGrpc)
      | encoder => encoder

/-- `OTLPClient.create`, as far as its transport. -/
def OTLPClient.create (session : SessionArgument) : Effect Exn (List Connection) Transport := do
  let encoder ← Effect.lift (buildEncoder lib config)
  match config.protocol with
  | .grpc => GRPCTransport.create lib config encoder
  | _ =>
      match session with
      | .none => HTTPTransport.create lib config encoder none
      | .clientSession session => HTTPTransport.create lib config encoder (some session)
      | .other => throw (.config "session must be an aiohttp.ClientSession")

/-! ### What is connected -/

variable {lib config} {session : SessionArgument} {opened : List Connection}

/-- Whether a session verifies the certificate of a server: it does where it is given no context. -/
def verifies : Option SSLContext → Bool
  | none => true
  | some context => context.checkHostname && context.verify

/-- A certificate goes unverified exactly where `insecure_skip_verify` says so. -/
theorem buildSslContext_verifies {ssl : Option SSLContext}
    (h : buildSslContext lib config = .ok ssl) : verifies ssl = !config.insecureSkipVerify := by
  have hdefault : ((defaultContext config).checkHostname && (defaultContext config).verify) =
      !config.insecureSkipVerify := by
    unfold defaultContext
    cases config.insecureSkipVerify <;> rfl
  unfold buildSslContext at h
  split at h
  · rename_i hnone
    cases h
    simp only [Bool.not_or, Bool.and_eq_true, Bool.not_eq_true'] at hnone
    rw [hnone.2]
    rfl
  · obtain ⟨-, -, h⟩ := bind_eq_ok.mp h
    split at h
    · cases h
      exact hdefault
    · cases h
      exact hdefault
    · obtain ⟨-, -, h⟩ := bind_eq_ok.mp h
      cases h
      exact hdefault

/-- What `create` connects a client with: a session that was handed in or its own, or a channel. -/
inductive Created (lib : ConnectionLib) (config : ConnectionSettings) (session : SessionArgument)
    (opened : List Connection) : Transport → List Connection → Prop where
  | borrowed {encoder : EncoderClass} {r : Nat} {ssl : Option SSLContext}
      (hencoder : encoder = .json ↔ config.protocol = .httpJson)
      (hprotocol : config.protocol ≠ .grpc) (hsession : session = .clientSession r)
      (hssl : verifies ssl = !config.insecureSkipVerify) :
      Created lib config session opened (.http encoder r false ssl) opened
  | session {encoder : EncoderClass} {ssl : Option SSLContext}
      (hencoder : encoder = .json ↔ config.protocol = .httpJson)
      (hprotocol : config.protocol ≠ .grpc) (hsession : session = .none)
      (hssl : verifies ssl = !config.insecureSkipVerify) :
      Created lib config session opened (.http encoder opened.length true ssl)
        (opened ++ [.session])
  | insecureChannel {host : String} (hprotocol : config.protocol = .grpc)
      (htarget : target lib.checkNetloc config.endpoint config.insecure = .ok (host, true))
      (hown : ∀ kind, config.Inherits kind) :
      Created lib config session opened (.grpc .protobuf opened.length)
        (opened ++ [.insecureChannel host])
  | secureChannel {host : String} {credentials : ChannelCredentials}
      (hprotocol : config.protocol = .grpc)
      (htarget : target lib.checkNetloc config.endpoint config.insecure = .ok (host, false))
      (hverify : config.insecureSkipVerify = false) (hown : ∀ kind, config.Inherits kind) :
      Created lib config session opened (.grpc .protobuf opened.length)
        (opened ++ [.secureChannel host credentials])

theorem isSet_eq_false {entry : Option String} (h : isSet entry = false) :
    entry = none ∨ entry = some "" := by
  unfold isSet at h
  split at h
  · exact Or.inl rfl
  · exact Or.inr rfl
  · cases h

/-- What the checks of a channel let through. -/
theorem checkChannel_ok {encoder : EncoderClass} {host : String} {plaintext : Bool}
    (h : checkChannel lib config encoder = .ok (host, plaintext)) :
    encoder = .protobuf ∧
      target lib.checkNetloc config.endpoint config.insecure = .ok (host, plaintext) ∧
      (plaintext = false → config.insecureSkipVerify = false) ∧
      ∀ kind, config.Inherits kind := by
  unfold checkChannel at h
  split at h
  · cases h
  · rename_i hencoder
    split at h
    · cases h
    · split at h
      · cases h
      · rename_i host' plaintext' htarget
        split at h
        · cases h
        · rename_i hverify
          split at h
          · cases h
          · rename_i hown
            cases h
            simp only [Bool.or_eq_true, not_or, Bool.not_eq_true] at hown
            obtain ⟨⟨hmetrics, hlogs⟩, htraces⟩ := hown
            refine ⟨?_, htarget, ?_, fun kind => ?_⟩
            · cases encoder with
              | json => exact absurd (by decide) hencoder
              | protobuf => rfl
            · rintro rfl
              simpa using hverify
            · cases kind with
              | metrics => exact isSet_eq_false hmetrics
              | logs => exact isSet_eq_false hlogs
              | traces => exact isSet_eq_false htraces
              | profiles => exact Or.inl rfl

theorem GRPCTransport.create_spec {encoder : EncoderClass} (hprotocol : config.protocol = .grpc) :
    Effect.Spec (· = opened) (GRPCTransport.create lib config encoder)
      (Created lib config session opened) fun _ => (· = opened) := by
  refine .bind (Q := fun channel s => checkChannel lib config encoder = .ok channel ∧ s = opened)
    (.lift (fun a s ha hs => ⟨ha, hs⟩) fun _ _ _ hs => hs) fun ⟨host, plaintext⟩ =>
      .of_and fun hchecked => ?_
  obtain ⟨rfl, htarget, hverify, hown⟩ := checkChannel_ok hchecked
  dsimp only
  cases plaintext with
  | true =>
      rintro s rfl
      exact Created.insecureChannel hprotocol htarget hown
  | false =>
      refine .bind (Q := fun _ => (· = opened)) (.lift (fun _ _ _ hs => hs) fun _ _ _ hs => hs)
        fun credentials => ?_
      rintro s rfl
      exact Created.secureChannel hprotocol htarget (hverify rfl) hown

theorem HTTPTransport.create_spec {encoder : EncoderClass}
    (hencoder : encoder = .json ↔ config.protocol = .httpJson)
    (hprotocol : config.protocol ≠ .grpc) {given : Option Nat}
    (hsession : session = match given with
      | some r => .clientSession r
      | none => .none) :
    Effect.Spec (· = opened) (HTTPTransport.create lib config encoder given)
      (Created lib config session opened) fun _ => (· = opened) := by
  refine .bind (Q := fun ssl s => buildSslContext lib config = .ok ssl ∧ s = opened)
    (.lift (fun a s ha hs => ⟨ha, hs⟩) fun _ _ _ hs => hs) fun ssl => .of_and fun hbuilt => ?_
  have hssl := buildSslContext_verifies hbuilt
  cases given with
  | some r =>
      rintro s rfl
      exact Created.borrowed hencoder hprotocol hsession hssl
  | none =>
      rintro s rfl
      exact Created.session hencoder hprotocol hsession hssl

theorem buildEncoder_ok {encoder : EncoderClass} (h : buildEncoder lib config = .ok encoder) :
    encoder = .json ↔ config.protocol = .httpJson := by
  unfold buildEncoder buildProtobufEncoder at h
  cases hprotocol : config.protocol <;> rw [hprotocol] at h <;> dsimp only at h
  · cases h
    exact iff_of_true rfl rfl
  · split at h <;> cases h
    exact iff_of_false nofun nofun
  · split at h
    · cases h
    · split at h <;> cases h
      exact iff_of_false nofun nofun

/-- What a client is connected with.  Where `create` returns, it has opened the one channel of
the client, or the one session that the client owns, or none where it was handed one; with the
encoder of the protocol; and the certificate of the server is verified exactly where
`insecure_skip_verify` does not say otherwise, which it cannot over gRPC.  Where it raises, it has
opened nothing. -/
theorem OTLPClient.create_spec (lib : ConnectionLib) (config : ConnectionSettings)
    (session : SessionArgument) (opened : List Connection) :
    Effect.Spec (· = opened) (OTLPClient.create lib config session)
      (Created lib config session opened) fun _ => (· = opened) := by
  refine .bind (Q := fun encoder s => buildEncoder lib config = .ok encoder ∧ s = opened)
    (.lift (fun a s ha hs => ⟨ha, hs⟩) fun _ _ _ hs => hs) fun encoder =>
      .of_and fun hbuilt => ?_
  have hencoder := buildEncoder_ok hbuilt
  have hhttp : config.protocol ≠ .grpc →
      Effect.Spec (· = opened)
        (match session with
          | .none => HTTPTransport.create lib config encoder none
          | .clientSession session => HTTPTransport.create lib config encoder (some session)
          | .other => throw (.config "session must be an aiohttp.ClientSession"))
        (Created lib config session opened) fun _ => (· = opened) := by
    intro hprotocol
    cases session with
    | none => exact HTTPTransport.create_spec hencoder hprotocol rfl
    | clientSession r => exact HTTPTransport.create_spec hencoder hprotocol rfl
    | other => exact .throw fun s hs => hs
  cases hprotocol : config.protocol with
  | grpc => exact GRPCTransport.create_spec hprotocol
  | httpJson => exact hhttp (by rw [hprotocol]; nofun)
  | httpProtobuf => exact hhttp (by rw [hprotocol]; nofun)

/-! ### Plaintext -/

/-- The endpoint has the scheme `http`, in either case. -/
def SaysHttp (endpoint : String) : Prop := ∃ scheme rest,
  Urllib.cleaned endpoint.toList = scheme ++ ':' :: rest ∧
    Urllib.lower scheme = "http".toList

/-- A target is plaintext where the scheme, or `insecure`, says so. -/
theorem target_plaintext {check : List Char → Except PyError Unit} {endpoint host : String}
    {insecure : Bool} (h : target check endpoint insecure = .ok (host, true)) :
    SaysHttp endpoint ∨ insecure = true := by
  unfold target at h
  dsimp only at h
  obtain ⟨p, hparse, h⟩ := bind_eq_ok.mp h
  have hscheme := (Urllib.urlparse_ok hparse).1
  split at h
  · cases h
  · split at h
    · rename_i hhttp
      refine Or.inl ?_
      rw [hhttp] at hscheme
      split at hscheme
      · rcases Urllib.splitScheme_cases (Urllib.cleaned endpoint.toList) with
          hnone | ⟨scheme, rest, hcleaned, hlower⟩
        · rw [hnone] at hscheme
          cases hscheme
        · exact ⟨scheme, rest, hcleaned, hlower.symm.trans hscheme.symm⟩
      · have hslashes : Urllib.cleaned ('/' :: '/' :: endpoint.toList) =
            '/' :: '/' :: endpoint.toList.filter fun c => !Urllib.isUnsafe c := rfl
        rw [hslashes, Urllib.splitScheme_slashes] at hscheme
        cases hscheme
    · cases h
      exact Or.inr rfl

/-- The default endpoint over gRPC. -/
def defaultUri : Uri := ⟨"http".toList, some "localhost:4317".toList, [], none, none⟩

theorem target_default {check : List Char → Except PyError Unit} {host : String}
    {insecure plaintext : Bool}
    (h : target check (defaultEndpoint .grpc) insecure = .ok (host, plaintext)) :
    host = "localhost:4317" := by
  have hsplit : Uri.split? (defaultEndpoint .grpc).toList = some defaultUri := by decide
  have hparse : Urllib.urlparse check (defaultEndpoint .grpc).toList =
      (fun _ => Urllib.parts defaultUri) <$> check "localhost:4317".toList := by
    rw [← Uri.text_split? hsplit, Urllib.urlparse_text (Uri.wellFormed_split? hsplit) (by decide)
      (by decide)]
    rfl
  have hslashes : ['/', '/'] <:+: (defaultEndpoint .grpc).toList :=
    ⟨"http:".toList, "localhost:4317".toList, rfl⟩
  unfold target at h
  dsimp only at h
  rw [if_pos hslashes, hparse] at h
  cases hcheck : check "localhost:4317".toList with
  | error e =>
      rw [hcheck] at h
      cases h
  | ok _ =>
      rw [hcheck] at h
      cases h
      exact String.ofList_toList

/-- `insecure` is read from its variable. -/
theorem fromEnv_insecure (lib : ConfigLib) (env : Env) : Ensures (fromEnv lib env) fun c =>
    c.insecure = parseBool ((env "OTEL_EXPORTER_OTLP_INSECURE").getD "") := by
  intro c h
  unfold fromEnv at h
  simp only [bind_eq_ok] at h
  obtain ⟨-, -, _, -, _, -, _, -, _, -, _, -, _, -, _, -, _, -, _, -, _, -, _, -, _, -, _, -, _, -,
    hc⟩ := h
  cases hc
  rfl

/-- **Plaintext is asked for.**  Where the environment is read as a configuration for gRPC, and
`create` opens a channel without TLS: it set no endpoint, and the channel is to this machine; or an
endpoint with the scheme `http`; or `OTEL_EXPORTER_OTLP_INSECURE` to `true`. -/
theorem plaintext_asked_for {lib : ConnectionLib} {config : ConfigLib} {env : Env} {c : Settings}
    (hread : fromEnv config env = .ok c) {session : SessionArgument} {t : Transport}
    {host : String} (hcreate : OTLPClient.create lib { c with } session [] =
      (.ok t, [.insecureChannel host])) :
    (env "OTEL_EXPORTER_OTLP_ENDPOINT" = none ∧ host = "localhost:4317") ∨
      (∃ endpoint, env "OTEL_EXPORTER_OTLP_ENDPOINT" = some endpoint ∧ SaysHttp endpoint) ∨
      ∃ raw, env "OTEL_EXPORTER_OTLP_INSECURE" = some raw ∧ parseBool raw = true := by
  have hcreated := OTLPClient.create_spec lib { c with } session [] [] rfl
  rw [hcreate] at hcreated
  have hendpoint := (fromEnv_read config env c hread).endpoint
  have hinsecure := fromEnv_insecure config env c hread
  cases hcreated with
  | insecureChannel hprotocol htarget hown =>
      change target lib.checkNetloc c.endpoint c.insecure = .ok (host, true) at htarget
      change c.protocol = .grpc at hprotocol
      rw [hprotocol] at hendpoint
      cases hset : env "OTEL_EXPORTER_OTLP_ENDPOINT" with
      | none =>
          rw [hendpoint, hset] at htarget
          exact Or.inl ⟨rfl, target_default htarget⟩
      | some endpoint =>
          rw [hendpoint, hset] at htarget
          refine Or.inr ((target_plaintext htarget).imp (fun h => ⟨endpoint, rfl, h⟩) fun h => ?_)
          rw [hinsecure] at h
          cases hraw : env "OTEL_EXPORTER_OTLP_INSECURE" with
          | none =>
              rw [hraw] at h
              exact absurd h (by decide)
          | some raw =>
              rw [hraw] at h
              exact ⟨raw, rfl, h⟩

/-- Asks for gRPC, and for nothing else. -/
def grpcEnv : Env := fun name => if name = "OTEL_EXPORTER_OTLP_PROTOCOL" then some "grpc" else none

def grpcSettings : Settings := { endpoint := defaultEndpoint .grpc, protocol := .grpc }

/-- Everything is installed, and every file is empty. -/
def ConnectionLib.installed : ConnectionLib where
  protobuf := true
  grpc := true
  checkNetloc _ := .ok ()
  createDefaultContext _ := .ok ()
  loadCertChain _ _ := .ok ()
  readFile _ := .ok []

/-- A channel without TLS passes every check but those of the endpoints. -/
theorem checkChannel_plaintext {host : String} (hgrpc : lib.grpc = true)
    (htarget : target lib.checkNetloc config.endpoint config.insecure = .ok (host, true))
    (hown : (isSet config.metricsEndpoint || isSet config.logsEndpoint ||
      isSet config.tracesEndpoint) = false) :
    checkChannel lib config .protobuf = .ok (host, true) := by
  have hencoder : ¬ EncoderClass.protobuf.contentType ≠ "application/x-protobuf" := by decide
  unfold checkChannel
  rw [if_neg hencoder, hgrpc, htarget]
  simp only [Bool.not_true, Bool.false_and, Bool.false_eq_true, if_false, hown]

theorem create_plaintext {host : String} (hprotocol : config.protocol = .grpc)
    (hprotobuf : lib.protobuf = true)
    (hchecked : checkChannel lib config .protobuf = .ok (host, true)) :
    OTLPClient.create lib config session opened =
      (.ok (.grpc .protobuf opened.length), opened ++ [.insecureChannel host]) := by
  have hbuilt : buildEncoder lib config = .ok .protobuf := by
    unfold buildEncoder buildProtobufEncoder
    rw [hprotocol, hprotobuf]
    rfl
  unfold OTLPClient.create
  rw [hbuilt, hprotocol]
  change GRPCTransport.create lib config .protobuf opened = _
  unfold GRPCTransport.create
  rw [hchecked]
  rfl

theorem create_grpcSettings :
    OTLPClient.create .installed { grpcSettings with } .none [] =
      (.ok (.grpc .protobuf 0), [.insecureChannel "localhost:4317"]) := by
  have hsplit : Uri.split? grpcSettings.endpoint.toList = some defaultUri := by decide
  have htarget : target (fun _ => .ok ()) grpcSettings.endpoint grpcSettings.insecure =
      .ok (String.ofList "localhost:4317".toList, true) :=
    @target_uri (fun _ => .ok ()) defaultUri "localhost:4317".toList _ _
      { scheme := by decide
        authority := rfl
        nonempty := by decide
        clean := by decide
        accepted := rfl } hsplit
  rw [String.ofList_toList] at htarget
  exact create_plaintext rfl rfl (checkChannel_plaintext rfl htarget rfl)

theorem plaintext_asked_for_default :
    (grpcEnv "OTEL_EXPORTER_OTLP_ENDPOINT" = none ∧ "localhost:4317" = "localhost:4317") ∨
      (∃ endpoint, grpcEnv "OTEL_EXPORTER_OTLP_ENDPOINT" = some endpoint ∧ SaysHttp endpoint) ∨
      ∃ raw, grpcEnv "OTEL_EXPORTER_OTLP_INSECURE" = some raw ∧ parseBool raw = true :=
  @plaintext_asked_for .installed plainLib grpcEnv grpcSettings rfl .none _ _ create_grpcSettings

end OtlpClient
