import EventRelay.Event.Envelope
import EventRelay.Listener.Router
import EventRelay.Net.Address
import EventRelay.Settings.CommandLine
import EventRelay.Time.Timestamp

/-!
# The two commands

`serve` runs a listener and `publish` sends one event. Each has its flags,
and each checks what they say together before it runs.
-/

set_option autoImplicit false

namespace EventRelay.Settings

open EventRelay.CommandLine EventRelay.Text

inductive ConfigError where
  | missingSecret (envName : String) (provider : Provider)
  | zeroTimeout
  | relativePath (path : String)
  | takenPath (path : String)
  | incompleteCredentials
  deriving DecidableEq, Repr

def ConfigError.message : ConfigError → String
  | .missingSecret name provider => name ++ " is required for provider " ++ provider.name
  | .zeroTimeout => "HOOKBRIDGE_PUBLISH_TIMEOUT_SECS must be positive"
  | .relativePath path => "webhook path " ++ quoted path ++ " must start with '/'"
  | .takenPath path => "webhook path " ++ quoted path ++ " collides with a built-in route"
  | .incompleteCredentials =>
    "endpoint/token/secret are required (or set DDASH_ENDPOINT, DDASH_AUTH_TOKEN, " ++
      "DDASH_WEBHOOK_SECRET)"

/-! ## Values -/

inductive TimeoutFault where
  | zero
  | unreadable (raw : String)
  deriving DecidableEq, Repr

def TimeoutFault.message : TimeoutFault → String
  | .zero => "timeout must be positive"
  | .unreadable raw => "invalid timeout " ++ quoted raw ++ "; use e.g. 500ms, 10s or 2m"

inductive TimeUnit where
  | millisecond
  | second
  | minute
  deriving DecidableEq, Repr

/-- So many units; minutes beyond 2⁶⁴ - 1 seconds come to that many seconds. -/
def TimeUnit.times (n : Nat) : TimeUnit → Duration
  | .millisecond => .ofMillis n
  | .second => ⟨n, 0⟩
  | .minute => ⟨min (n * 60) maxUInt64, 0⟩

def splitUnit (cs : List Char) : List Char × TimeUnit :=
  match dropTail? ['m', 's'] cs with
  | some ds => (ds, .millisecond)
  | none =>
    match dropTail? ['s'] cs with
    | some ds => (ds, .second)
    | none =>
      match dropTail? ['m'] cs with
      | some ds => (ds, .minute)
      | none => (cs, .second)

def readTimeout (raw : String) : Except TimeoutFault Duration :=
  let cs := trimChars raw.toList
  let (ds, unit) := splitUnit cs
  match readUInt64 (trimChars ds) with
  | .error _ => .error (.unreadable (String.ofList cs))
  | .ok n => if n = 0 then .error .zero else .ok (unit.times n)

def anyText (_ : String) : Option Usage := none

def providerOnly (raw : String) : Option Usage :=
  match Provider.ofName? raw with
  | some _ => none
  | none => some (.badValue ("unknown provider " ++ quoted raw ++ "; expected github or gitlab"))

def addressOnly (raw : String) : Option Usage :=
  match Net.SocketAddress.read? raw.toList with
  | some _ => none
  | none => some (.badValue "invalid socket address syntax")

def pathOnly (raw : String) : Option Usage := if raw = "" then some .missingValue else none

def numberOnly (raw : String) : Option Usage :=
  match readUInt64 raw.toList with
  | .ok _ => none
  | .error e => some (.badValue e.message)

def timeoutOnly (raw : String) : Option Usage :=
  match readTimeout raw with
  | .ok _ => none
  | .error e => some (.badValue e.message)

def valueOr (values : Values) (name default : String) : String := (values.lookup name).getD default

def credentials (endpoint token secret : String) : PublishCredentials :=
  (PublishCredentials.mk endpoint token secret).trimmed

/-! ## Serving -/

def serveFlags : List Flag :=
  [⟨"provider", some "HOOKBRIDGE_PROVIDER", providerOnly⟩,
   ⟨"addr", some "HOOKBRIDGE_ADDR", addressOnly⟩,
   ⟨"webhook-path", some "HOOKBRIDGE_WEBHOOK_PATH", anyText⟩,
   ⟨"github-webhook-secret", some "GITHUB_WEBHOOK_SECRET", anyText⟩,
   ⟨"gitlab-webhook-token", some "GITLAB_WEBHOOK_TOKEN", anyText⟩,
   ⟨"db-path", some "HOOKBRIDGE_DB_PATH", pathOnly⟩,
   ⟨"setup-token", some "HOOKBRIDGE_SETUP_TOKEN", anyText⟩,
   ⟨"install-url", some "HOOKBRIDGE_INSTALL_URL", anyText⟩,
   ⟨"default-env", some "HOOKBRIDGE_DEFAULT_ENV", anyText⟩,
   ⟨"source", some "HOOKBRIDGE_SOURCE", anyText⟩,
   ⟨"ddash-endpoint", some "DDASH_ENDPOINT", anyText⟩,
   ⟨"ddash-auth-token", some "DDASH_AUTH_TOKEN", anyText⟩,
   ⟨"ddash-webhook-secret", some "DDASH_WEBHOOK_SECRET", anyText⟩,
   ⟨"publish-timeout-secs", some "HOOKBRIDGE_PUBLISH_TIMEOUT_SECS", numberOnly⟩]

structure ServeArgs where
  provider : Provider
  address : Net.SocketAddress := ⟨.v4 [0, 0, 0, 0], 8081⟩
  webhookPath : Option String := none
  githubSecret : Option String := none
  gitlabToken : Option String := none
  databasePath : String := "data/hookbridge.sqlite"
  setupToken : Option String := none
  installUrl : Option String := none
  defaultEnvironment : String := ""
  source : String := ""
  endpoint : String := ""
  authToken : String := ""
  webhookSecret : String := ""
  timeoutSeconds : Nat := 10
  deriving DecidableEq, Repr

def ServeArgs.ofValues (values : Values) : Except Usage ServeArgs :=
  match (values.lookup "provider").bind Provider.ofName? with
  | none => .error .missingFlag
  | some provider =>
    .ok
      { provider := provider
        address :=
          ((values.lookup "addr").bind fun s => Net.SocketAddress.read? s.toList).getD
            ⟨.v4 [0, 0, 0, 0], 8081⟩
        webhookPath := values.lookup "webhook-path"
        githubSecret := values.lookup "github-webhook-secret"
        gitlabToken := values.lookup "gitlab-webhook-token"
        databasePath := valueOr values "db-path" "data/hookbridge.sqlite"
        setupToken := values.lookup "setup-token"
        installUrl := values.lookup "install-url"
        defaultEnvironment := valueOr values "default-env" ""
        source := valueOr values "source" ""
        endpoint := valueOr values "ddash-endpoint" ""
        authToken := valueOr values "ddash-auth-token" ""
        webhookSecret := valueOr values "ddash-webhook-secret" ""
        timeoutSeconds :=
          match (values.lookup "publish-timeout-secs").map fun s => readUInt64 s.toList with
          | some (.ok n) => n
          | _ => 10 }

structure ServeConfig where
  address : Net.SocketAddress
  databasePath : String
  publishTimeout : Duration
  listener : ListenerSettings
  setup : SetupSettings
  deriving DecidableEq, Repr

namespace ServeArgs

def secret (a : ServeArgs) : Option String × String :=
  match a.provider with
  | .github => (a.githubSecret, "GITHUB_WEBHOOK_SECRET")
  | .gitlab => (a.gitlabToken, "GITLAB_WEBHOOK_TOKEN")

def reservedPaths (callbackPath : String) : List String :=
  [Listener.startApiPath, Listener.startPath, Listener.mappingsPath, Listener.deletePath,
   Listener.healthPath, callbackPath]

def resolve (a : ServeArgs) : Except ConfigError ServeConfig :=
  match a.secret.1.bind nonBlank? with
  | none => .error (.missingSecret a.secret.2 a.provider)
  | some secret =>
    if a.timeoutSeconds = 0 then .error .zeroTimeout
    else
      let environment := trimmed a.defaultEnvironment
      let path := (a.webhookPath.bind nonBlank?).getD a.provider.defaultWebhookPath
      if !startsWith "/" path then .error (.relativePath path)
      else if (reservedPaths defaultCallbackPath).contains path then .error (.takenPath path)
      else
        .ok
          { address := a.address
            databasePath := a.databasePath
            publishTimeout := ⟨a.timeoutSeconds, 0⟩
            listener :=
              { provider := a.provider
                webhookPath := path
                webhookSecret := secret
                setupToken := a.setupToken.bind nonBlank?
                source := trimmed a.source
                defaults := ⟨credentials a.endpoint a.authToken a.webhookSecret, environment⟩ }
            setup :=
              { installUrl := a.installUrl.bind nonBlank?
                defaultEnvironment := environment } }

end ServeArgs

/-! ## Publishing -/

def publishFlags : List Flag :=
  [⟨"endpoint", some "DDASH_ENDPOINT", anyText⟩, ⟨"token", some "DDASH_AUTH_TOKEN", anyText⟩,
   ⟨"secret", some "DDASH_WEBHOOK_SECRET", anyText⟩, ⟨"type", none, anyText⟩,
   ⟨"service", none, anyText⟩, ⟨"environment", none, anyText⟩, ⟨"artifact", none, anyText⟩,
   ⟨"subject-id", none, anyText⟩, ⟨"subject-type", none, anyText⟩, ⟨"chain-id", none, anyText⟩,
   ⟨"actor", none, anyText⟩, ⟨"pipeline-run", none, anyText⟩, ⟨"pipeline-url", none, anyText⟩,
   ⟨"source", some "DDASH_EVENT_SOURCE", anyText⟩, ⟨"timeout", none, timeoutOnly⟩]

structure PublishArgs where
  endpoint : String := ""
  token : String := ""
  secret : String := ""
  event : CanonicalEvent := { eventType := "service.deployed" }
  timeout : Duration := ⟨10, 0⟩
  deriving DecidableEq, Repr

def PublishArgs.ofValues (values : Values) : PublishArgs :=
  let value (name : String) : String := valueOr values name ""
  { endpoint := value "endpoint"
    token := value "token"
    secret := value "secret"
    event :=
      { eventType := valueOr values "type" "service.deployed"
        source := value "source"
        service := value "service"
        environment := value "environment"
        artifact := value "artifact"
        subjectId := value "subject-id"
        subjectType := value "subject-type"
        chainId := value "chain-id"
        actorName := value "actor"
        pipelineRun := value "pipeline-run"
        pipelineUrl := value "pipeline-url" }
    timeout :=
      match (values.lookup "timeout").map readTimeout with
      | some (.ok d) => d
      | _ => ⟨10, 0⟩ }

structure PublishConfig where
  credentials : PublishCredentials
  event : CanonicalEvent
  timeout : Duration
  deriving DecidableEq, Repr

def trimmedEvent (e : CanonicalEvent) : CanonicalEvent :=
  { eventType := trimmed e.eventType
    source := orFallback defaultSource e.source
    service := trimmed e.service
    environment := trimmed e.environment
    artifact := trimmed e.artifact
    subjectId := trimmed e.subjectId
    subjectType := trimmed e.subjectType
    chainId := trimmed e.chainId
    actorName := trimmed e.actorName
    pipelineRun := trimmed e.pipelineRun
    pipelineUrl := trimmed e.pipelineUrl }

def PublishArgs.resolve (a : PublishArgs) : Except ConfigError PublishConfig :=
  let c := credentials a.endpoint a.token a.secret
  if c.isComplete then .ok ⟨c, trimmedEvent a.event, a.timeout⟩ else .error .incompleteCredentials

/-! ## Command lines -/

inductive Command where
  | serve (config : ServeConfig)
  | publish (config : PublishConfig)
  deriving DecidableEq, Repr

inductive Fault where
  | usage (usage : Usage)
  | config (cause : ConfigError)
  deriving DecidableEq, Repr

def Fault.ofConfig {α : Type} (wrap : α → Command) :
    Except ConfigError α → Except Fault Command
  | .ok a => .ok (wrap a)
  | .error e => .error (.config e)

def Command.read (environment : Environment) (arguments : List String) : Except Fault Command :=
  match readCommand ["serve", "publish"] arguments with
  | .error usage => .error (.usage usage)
  | .ok (name, rest) =>
    if name = "serve" then
      match (readValues serveFlags environment rest).bind ServeArgs.ofValues with
      | .error usage => .error (.usage usage)
      | .ok a => Fault.ofConfig .serve a.resolve
    else
      match readValues publishFlags environment rest with
      | .error usage => .error (.usage usage)
      | .ok values => Fault.ofConfig .publish (PublishArgs.ofValues values).resolve

end EventRelay.Settings
