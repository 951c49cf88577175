import EventRelay.Crypto.Hmac
import EventRelay.Http.Message
import EventRelay.Provider.Hook
import EventRelay.Tenant.Profile
import EventRelay.Text.Numeral
import EventRelay.Text.Utf8

/-!
# Whom a listener lets in

One listener serves one provider; its secrets are masked in listings. A
delivery is authentic if its body is signed with the shared secret, or if the
shared token comes along, as the provider has it; blanks around secret and
token do not count, and a blank secret authenticates nothing. With a setup
token configured, an operator presents it as a bearer token or as a parameter
of the query. A blank token is none.
-/

set_option autoImplicit false

/-! ## Settings -/

namespace EventRelay

open EventRelay.Text

structure ListenerSettings where
  provider : Provider
  webhookPath : String
  webhookSecret : String
  setupToken : Option String := none
  source : String := ""
  defaults : PublishDefaults := {}
  deriving DecidableEq, Repr

def ListenerSettings.listing (s : ListenerSettings) : String :=
  Text.listing "ListenerSettings"
    [("provider", s.provider.title), ("webhook_path", quoted s.webhookPath),
     ("webhook_secret", quoted (maskSecret s.webhookSecret)),
     ("setup_token", listedOption (s.setupToken.map fun t => quoted (maskSecret t))),
     ("source", quoted s.source), ("defaults", s.defaults.listing)]

end EventRelay

/-! ## Authentic deliveries -/

namespace EventRelay.Signature

open EventRelay.Text

def githubHeader : String := "x-hub-signature-256"

def gitlabHeader : String := "x-gitlab-token"

def scheme : String := "sha256="

/-- The octets of a signature header: `sha256=` in any case and pairs of hexadecimal digits. -/
def read (header : String) : Option (List UInt8) :=
  let cs := trimChars header.toList
  if lowerAscii (String.ofList (cs.take 7)) = scheme then Hex.decode? (cs.drop 7) else none

def header (payload secret : List UInt8) : String := scheme ++ Hex.text (Hmac.mac secret payload)

def verifiesBody (payload : List UInt8) (header : Option String) (secret : List UInt8) : Bool :=
  !secret.isEmpty && header.bind read == some (Hmac.mac secret payload)

def verifiesToken (header : Option String) (token : String) : Bool :=
  let token := trimmed token
  token != "" && header.map trimmed == some token

/-- Whether a delivery comes from one who knows the secret. -/
def verifies (p : Provider) (headers : Headers) (body : List UInt8) (secret : String) : Bool :=
  match p with
  | .github => verifiesBody body (headers.value? githubHeader) (Utf8.octets (trimmed secret))
  | .gitlab => verifiesToken (headers.value? gitlabHeader) secret

end EventRelay.Signature

/-! ## Authorized operators -/

namespace EventRelay.Authorization

open EventRelay.Text

def tokenParameter : String := "setup_token"

def bearer? (value : String) : Option String :=
  match splitFirst ' ' (trimChars value.toList) with
  | (scheme, some token) =>
    if sameAscii (String.ofList scheme) "bearer" then some (trimmed (String.ofList token)) else none
  | (_, none) => none

/-- What a request presents as its token. -/
def presented (headers : Headers) (query : Query) : List String :=
  ((headers.value? "authorization").bind bearer?).toList ++ (query.value? tokenParameter).toList

def grants (setupToken : Option String) (headers : Headers) (query : Query) : Bool :=
  match setupToken.bind nonBlank? with
  | none => true
  | some token => (presented headers query).any fun t => trimmed t == token

end EventRelay.Authorization
