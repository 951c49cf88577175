import EventRelay.Store.Basic
import EventRelay.Text.Blank

/-!
# The setup handshake

Starting it records an intent under a fresh state token and says where to go
next, by one parameter added to an address before its fragment; the callback
redeems the intent for an installation. Tokens and clock are given from
outside. What a caller got wrong is found before the store is touched. A
delivery is published with the credentials and the environment of the enabled
mapping of its installation, or else with the defaults; a store that cannot be
read is never taken for one without a mapping.
-/

set_option autoImplicit false

/-! ## Redirect addresses -/

namespace EventRelay.Redirect

open EventRelay.Text

def separator (base : List Char) : List Char :=
  match (splitFirst '?' base).2 with
  | none => ['?']
  | some query => if query.isEmpty ∨ query.getLast? = some '&' then [] else ['&']

def addParameterChars (name value url : List Char) : List Char :=
  let (base, fragment) := splitFirst '#' url
  base ++ separator base ++ name ++ '=' :: value ++
    match fragment with
    | some f => '#' :: f
    | none => []

def addParameter (name value url : String) : String :=
  String.ofList (addParameterChars name.toList value.toList url.toList)

end EventRelay.Redirect

/-! ## Publish targets -/

namespace EventRelay

open EventRelay.Text

structure PublishTarget where
  credentials : PublishCredentials
  defaultEnvironment : String
  mapped : Bool
  deriving DecidableEq, Repr

namespace PublishTarget

def ofDefaults (d : PublishDefaults) : PublishTarget := ⟨d.credentials, d.defaultEnvironment, false⟩

def ofMapping (d : PublishDefaults) (m : InstallationMapping) : PublishTarget :=
  ⟨m.profile.credentials, orFallback d.defaultEnvironment m.profile.defaultEnvironment, true⟩

/-- The target for an installation. -/
def find {σ : Type} [Store σ] (id : Option InstallationId) (d : PublishDefaults) (s : σ) :
    Except StoreError PublishTarget :=
  match id with
  | none => .ok (ofDefaults d)
  | some id =>
    match Store.getMapping id s with
    | .ok m => .ok (if m.enabled then ofMapping d m else ofDefaults d)
    | .error .notFound => .ok (ofDefaults d)
    | .error e => .error e

end PublishTarget

/-! ## The handshake -/

def defaultCallbackPath : String := "/setup/callback"

structure SetupSettings where
  installUrl : Option String := none
  callbackPath : String := defaultCallbackPath
  defaultEnvironment : String := ""
  intentTtl : Duration := ⟨900, 0⟩
  deriving DecidableEq, Repr

inductive SetupError where
  | missingCredentials
  | missingState
  | invalidInstallationId
  | unknownState
  | expiredState
  | mappingNotFound (id : InstallationId)
  | store (cause : StoreError)
  deriving DecidableEq, Repr

def SetupError.message : SetupError → String
  | .missingCredentials =>
    "ddash_endpoint, ddash_auth_token, ddash_webhook_secret are required"
  | .missingState => "missing state"
  | .invalidInstallationId => "invalid installation id"
  | .unknownState => "unknown setup state"
  | .expiredState => "setup state expired"
  | .mappingNotFound id => "mapping not found for installation " ++ integerText id.number
  | .store cause => cause.message

structure SetupStarted where
  state : SetupState
  redirectUrl : String
  expiresAt : Timestamp
  deriving DecidableEq

def SetupStarted.toJson (s : SetupStarted) : Json :=
  .object [("state", .text s.state.token), ("redirect_url", .text s.redirectUrl),
    ("expires_at", .text s.expiresAt.text)]

namespace SetupSettings

/-- The profile as it is stored: every text trimmed, the environment filled in. -/
def normalProfile (settings : SetupSettings) (p : TenantProfile) : TenantProfile :=
  { organization := p.organization
    label := trimmed p.label
    credentials := p.credentials.trimmed
    defaultEnvironment := orFallback (trimmed settings.defaultEnvironment) p.defaultEnvironment }

/-- The install page, or the callback itself where there is none, with the state. -/
def redirectUrl (settings : SetupSettings) (state : SetupState) : String :=
  Redirect.addParameter "state" state.token
    (((settings.installUrl).bind nonBlank?).getD settings.callbackPath)

end SetupSettings

namespace Setup

variable {σ : Type} [Store σ]

def start (settings : SetupSettings) (request : TenantProfile) (fresh : SetupState)
    (now : Timestamp) (s : σ) : Except SetupError SetupStarted × σ :=
  let profile := settings.normalProfile request
  if profile.credentials.isComplete then
    let expiresAt := now.plus settings.intentTtl
    match Store.createIntent ⟨fresh, profile, expiresAt⟩ s with
    | (.error e, s) => (.error (.store e), s)
    | (.ok (), s) => (.ok ⟨fresh, settings.redirectUrl fresh, expiresAt⟩, s)
  else (.error .missingCredentials, s)

/-- Redeems the intent of a state for an installation, both as the callback gave them. -/
def complete (state installation : Option String) (now : Timestamp) (s : σ) :
    Except SetupError InstallationMapping × σ :=
  match state.bind SetupState.ofText? with
  | none => (.error .missingState, s)
  | some state =>
    match installation.bind InstallationId.read? with
    | none => (.error .invalidInstallationId, s)
    | some id =>
      match Store.promoteIntent state id now s with
      | (.ok (.completed mapping), s) => (.ok mapping, s)
      | (.ok .expired, s) => (.error .expiredState, s)
      | (.error .notFound, s) => (.error .unknownState, s)
      | (.error e, s) => (.error (.store e), s)

def revoke (id : InstallationId) (organization : Option OrganizationId) (s : σ) :
    Except SetupError Unit × σ :=
  match Store.deleteMapping id organization s with
  | (.ok (), s) => (.ok (), s)
  | (.error .notFound, s) => (.error (.mappingNotFound id), s)
  | (.error e, s) => (.error (.store e), s)

end Setup

end EventRelay
