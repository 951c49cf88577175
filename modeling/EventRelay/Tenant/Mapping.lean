import EventRelay.Tenant.Profile
import EventRelay.Time.Text

/-!
# Setup intents and installation mappings

An intent is a profile that waits, until its deadline, for the installation
it is to be bound to. A mapping is that binding. Operators see a mapping with
its secrets masked.
-/

set_option autoImplicit false

namespace EventRelay

structure SetupIntent where
  state : SetupState
  profile : TenantProfile
  expiresAt : Timestamp
  deriving DecidableEq

/-- An intent can be redeemed up to and at its deadline. -/
def SetupIntent.isExpired (intent : SetupIntent) (now : Timestamp) : Bool :=
  decide (intent.expiresAt < now)

structure InstallationMapping where
  installation : InstallationId
  profile : TenantProfile
  enabled : Bool
  deriving DecidableEq, Repr

def SetupIntent.mapping (intent : SetupIntent) (installation : InstallationId) :
    InstallationMapping :=
  ⟨installation, intent.profile, true⟩

namespace SetupIntent

def shape : Json.Shape :=
  .record [("state", none, .text), ("profile", none, TenantProfile.shape),
    ("expires_at", none, .matching fun s => (Timestamp.ofText? s).isSome)]

def toJson (intent : SetupIntent) : Json :=
  .object [("state", .text intent.state.token), ("profile", intent.profile.toJson),
    ("expires_at", .text intent.expiresAt.text)]

instance : Json.Schema SetupIntent where
  shape := shape
  toJson := toJson
  ofJson? v :=
    (Timestamp.ofText? (v.textAt ["expires_at"])).map fun expiresAt =>
      { state := ⟨v.textAt ["state"]⟩
        profile := TenantProfile.ofJson ((v.at? ["profile"]).getD .null)
        expiresAt := expiresAt }

end SetupIntent

namespace InstallationMapping

def shape : Json.Shape :=
  .record [("installation_id", none, .integer), ("profile", none, TenantProfile.shape),
    ("enabled", none, .flag)]

def toJson (m : InstallationMapping) : Json :=
  .object [("installation_id", Json.integer m.installation.number), ("profile", m.profile.toJson),
    ("enabled", .bool m.enabled)]

instance : Json.Schema InstallationMapping where
  shape := shape
  toJson := toJson
  ofJson? v :=
    some
      { installation := ⟨v.integerAt ["installation_id"]⟩
        profile := TenantProfile.ofJson ((v.at? ["profile"]).getD .null)
        enabled := v.flagAt ["enabled"] }

end InstallationMapping

structure MappingView where
  installation : InstallationId
  organization : Option OrganizationId
  label : String
  endpoint : String
  maskedToken : String
  maskedSecret : String
  defaultEnvironment : String
  enabled : Bool
  deriving DecidableEq, Repr

def InstallationMapping.view (m : InstallationMapping) : MappingView :=
  { installation := m.installation
    organization := m.profile.organization
    label := m.profile.label
    endpoint := m.profile.credentials.endpoint
    maskedToken := maskSecret m.profile.credentials.authToken
    maskedSecret := maskSecret m.profile.credentials.webhookSecret
    defaultEnvironment := m.profile.defaultEnvironment
    enabled := m.enabled }

namespace MappingView

def shape : Json.Shape :=
  .record [("installation_id", none, .integer), ("organization_id", none, .optional .integer),
    ("organization_label", none, .text), ("ddash_endpoint", none, .text),
    ("ddash_auth_token", none, .text), ("ddash_webhook_secret", none, .text),
    ("default_environment", none, .text), ("enabled", none, .flag)]

def toJson (m : MappingView) : Json :=
  .object [("installation_id", Json.integer m.installation.number),
    ("organization_id", TenantProfile.organizationJson m.organization),
    ("organization_label", .text m.label), ("ddash_endpoint", .text m.endpoint),
    ("ddash_auth_token", .text m.maskedToken), ("ddash_webhook_secret", .text m.maskedSecret),
    ("default_environment", .text m.defaultEnvironment), ("enabled", .bool m.enabled)]

instance : Json.Schema MappingView where
  shape := shape
  toJson := toJson
  ofJson? v :=
    some
      { installation := ⟨v.integerAt ["installation_id"]⟩
        organization := TenantProfile.organizationAt ["organization_id"] v
        label := v.textAt ["organization_label"]
        endpoint := v.textAt ["ddash_endpoint"]
        maskedToken := v.textAt ["ddash_auth_token"]
        maskedSecret := v.textAt ["ddash_webhook_secret"]
        defaultEnvironment := v.textAt ["default_environment"]
        enabled := v.flagAt ["enabled"] }

end MappingView

end EventRelay
