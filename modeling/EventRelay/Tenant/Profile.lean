import EventRelay.Json.Shape
import EventRelay.Text.Blank
import EventRelay.Text.Numeral
import EventRelay.Text.Quoted

/-!
# Tenant profiles

A tenant's credentials with its owner, label and default environment, and the
defaults of the process that stand in where no tenant applies. Installations
and organizations have numbers that a provider or a dashboard gave them, and
only positive numbers are given; a setup handshake has a state token, which is
never blank. Documents may hold any number and any text in these places; the
checks belong to the constructors named here. Secrets are shown masked.
-/

set_option autoImplicit false

/-! ## Identifiers -/

namespace EventRelay

open EventRelay.Text

structure InstallationId where
  number : Int
  deriving DecidableEq, Repr

structure OrganizationId where
  number : Int
  deriving DecidableEq, Repr

structure SetupState where
  token : String
  deriving DecidableEq, Repr

def readPositive? (raw : String) : Option Int :=
  match readInt64 (trimChars raw.toList) with
  | .ok n => if 0 < n then some n else none
  | .error _ => none

def InstallationId.ofInt? (n : Int) : Option InstallationId := if 0 < n then some ⟨n⟩ else none

def InstallationId.read? (raw : String) : Option InstallationId :=
  (readPositive? raw).map InstallationId.mk

def OrganizationId.ofInt? (n : Int) : Option OrganizationId := if 0 < n then some ⟨n⟩ else none

def OrganizationId.read? (raw : String) : Option OrganizationId :=
  (readPositive? raw).map OrganizationId.mk

def SetupState.ofText? (raw : String) : Option SetupState := (nonBlank? raw).map SetupState.mk

def SetupState.ofOctets (octets : Vector UInt8 16) : SetupState := ⟨Hex.text octets.toList⟩

instance : Json.Schema InstallationId where
  shape := .integer
  toJson id := Json.integer id.number
  ofJson? v := some ⟨v.integerAt []⟩

instance : Json.Schema SetupState where
  shape := .text
  toJson state := .text state.token
  ofJson? v := some ⟨v.textAt []⟩

/-! ## Credentials -/

/-- Shows the first and last four characters of a secret longer than eight, and nothing of a
shorter one. -/
def maskSecret (value : String) : String :=
  let cs := trimChars value.toList
  if cs.isEmpty then ""
  else if cs.length ≤ 8 then "****"
  else String.ofList (cs.take 4 ++ ['.', '.', '.'] ++ cs.drop (cs.length - 4))

structure PublishCredentials where
  endpoint : String := ""
  authToken : String := ""
  webhookSecret : String := ""
  deriving DecidableEq, Repr

namespace PublishCredentials

def isComplete (c : PublishCredentials) : Bool :=
  !isBlankText c.endpoint && !isBlankText c.authToken && !isBlankText c.webhookSecret

def trimmed (c : PublishCredentials) : PublishCredentials :=
  ⟨Text.trimmed c.endpoint, Text.trimmed c.authToken, Text.trimmed c.webhookSecret⟩

def listing (c : PublishCredentials) : String :=
  Text.listing "PublishCredentials"
    [("endpoint", quoted c.endpoint), ("auth_token", quoted (maskSecret c.authToken)),
     ("webhook_secret", quoted (maskSecret c.webhookSecret))]

def shape : Json.Shape :=
  .record [("endpoint", none, .text), ("auth_token", none, .text), ("webhook_secret", none, .text)]

def toJson (c : PublishCredentials) : Json :=
  .object [("endpoint", .text c.endpoint), ("auth_token", .text c.authToken),
    ("webhook_secret", .text c.webhookSecret)]

def ofJson (v : Json) : PublishCredentials :=
  ⟨v.textAt ["endpoint"], v.textAt ["auth_token"], v.textAt ["webhook_secret"]⟩

instance : Json.Schema PublishCredentials where
  shape := shape
  toJson := toJson
  ofJson? v := some (ofJson v)

end PublishCredentials

/-! ## Profiles -/

structure TenantProfile where
  organization : Option OrganizationId := none
  label : String := ""
  credentials : PublishCredentials := {}
  defaultEnvironment : String := ""
  deriving DecidableEq, Repr

namespace TenantProfile

def listing (p : TenantProfile) : String :=
  let organization := p.organization.map fun id =>
    "OrganizationId(" ++ integerText id.number ++ ")"
  Text.listing "TenantProfile"
    [("organization_id", listedOption organization), ("organization_label", quoted p.label),
     ("credentials", p.credentials.listing), ("default_environment", quoted p.defaultEnvironment)]

def organizationJson (organization : Option OrganizationId) : Json :=
  match organization with
  | some id => Json.integer id.number
  | none => .null

def organizationAt (path : List String) (v : Json) : Option OrganizationId :=
  match v.at? path with
  | some (.number (.integer n)) => some ⟨n⟩
  | _ => none

def shape : Json.Shape :=
  .record [("organization_id", none, .optional .integer), ("organization_label", none, .text),
    ("credentials", none, PublishCredentials.shape), ("default_environment", none, .text)]

def toJson (p : TenantProfile) : Json :=
  .object [("organization_id", organizationJson p.organization),
    ("organization_label", .text p.label), ("credentials", p.credentials.toJson),
    ("default_environment", .text p.defaultEnvironment)]

def ofJson (v : Json) : TenantProfile :=
  { organization := organizationAt ["organization_id"] v
    label := v.textAt ["organization_label"]
    credentials := PublishCredentials.ofJson ((v.at? ["credentials"]).getD .null)
    defaultEnvironment := v.textAt ["default_environment"] }

instance : Json.Schema TenantProfile where
  shape := shape
  toJson := toJson
  ofJson? v := some (ofJson v)

end TenantProfile

/-- What a delivery is published with when no enabled mapping applies to it. -/
structure PublishDefaults where
  credentials : PublishCredentials := {}
  defaultEnvironment : String := ""
  deriving DecidableEq, Repr

def PublishDefaults.listing (d : PublishDefaults) : String :=
  Text.listing "PublishDefaults"
    [("credentials", d.credentials.listing), ("default_environment", quoted d.defaultEnvironment)]

end EventRelay
