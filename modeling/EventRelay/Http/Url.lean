import EventRelay.Http.Message
import EventRelay.Http.Url.Host
import EventRelay.Http.Url.Path
import EventRelay.Text.Blank
import EventRelay.Text.Numeral

/-!
# URLs

Reading and writing of absolute URLs. What is read is kept in its normal
form: scheme and domain name in lower case, default port left out, dot
segments resolved, unsafe characters coded. The well-known schemes always have
a host and take a backslash for a slash.
-/

set_option autoImplicit false

namespace EventRelay

open EventRelay.Text

structure Authority where
  user : List Char
  password : Option (List Char)
  host : Url.Host
  port : Option Nat
  deriving DecidableEq, Repr

/-- Query and fragment are without their marks. -/
structure Url where
  scheme : String
  authority : Option Authority
  path : List Char
  query : Option (List Char)
  fragment : Option (List Char)
  deriving DecidableEq, Repr

/-! ## Writing -/

def Authority.chars (a : Authority) : List Char :=
  let password := match a.password with
    | some p => ':' :: p
    | none => []
  let sign := if a.user.isEmpty && a.password.isNone then [] else a.user ++ password ++ ['@']
  let port := match a.port with
    | some n => ':' :: naturalDigits n
    | none => []
  sign ++ a.host.chars ++ port

namespace Url

def marked (mark : Char) : Option (List Char) → List Char
  | some cs => mark :: cs
  | none => []

/-- The URL as text. Without an authority, a path that starts with two slashes is set apart from
one by a dot. -/
def text (u : Url) : String :=
  let front := match u.authority, u.path with
    | some a, path => '/' :: '/' :: a.chars ++ path
    | none, '/' :: '/' :: path => '/' :: '.' :: '/' :: '/' :: path
    | none, path => path
  String.ofList (u.scheme.toList ++ ':' :: front ++ marked '?' u.query ++ marked '#' u.fragment)

def hasHost (u : Url) : Bool := u.authority.any fun a => !a.host.isEmpty

/-! ## Authorities -/

def codedInUser (c : Char) : Bool := codedInPath c || "/:;=@[\\]^|".toList.contains c

def cutAt (marks : List Char) (cs : List Char) : List Char × List Char :=
  (cs.takeWhile fun c => !marks.contains c, cs.dropWhile fun c => !marks.contains c)

/-- What stands before and after the last `@`. -/
def splitUser (cs : List Char) : Option (List Char) × List Char :=
  let host := (cs.reverse.takeWhile (· ≠ '@')).reverse
  (if host.length = cs.length then none else some (cs.take (cs.length - host.length - 1)), host)

def readUser (cs : List Char) : List Char × Option (List Char) :=
  let coded := Percent.encode codedInUser
  match splitFirst ':' cs with
  | (user, some (c :: password)) => (coded user, some (coded (c :: password)))
  | (user, _) => (coded user, none)

def cutHost : Bool → List Char → List Char × List Char
  | _, [] => ([], [])
  | inside, c :: cs =>
    if c = ':' ∧ ¬ inside then ([], c :: cs)
    else
      let (host, rest) := cutHost (c == '[' || (inside && c != ']')) cs
      (c :: host, rest)

def readPort (default : Option Nat) : List Char → Option (Option Nat × List Char)
  | ':' :: cs =>
    let digits := cs.takeWhile isDigit
    let rest := cs.drop digits.length
    if !(rest.isEmpty || rest.head? = some '\\') then none
    else if digits.isEmpty then some (none, rest)
    else
      match readUnsigned 65535 digits with
      | .ok n => some (if default = some n then none else some n, rest)
      | .error _ => none
  | cs => some (none, cs)

/-- An authority, and what of the text is left to the path. `isFollowed` says whether anything
comes after the text. -/
def readAuthority (default : Option Nat) (isFollowed : Bool) (cs : List Char) :
    Option (Authority × List Char) := do
  let (user, cs) := splitUser cs
  if user = some [] ∧ cs.isEmpty ∧ isFollowed then none
  else
    let (user, password) := readUser (user.getD [])
    let (host, rest) := cutHost false cs
    if host.isEmpty ∧ (default.isSome ∨ ¬ rest.isEmpty ∨ ¬ user.isEmpty ∨ password.isSome) then none
    else
      let host ← if default.isSome then Host.readDomain host else Host.readName host
      let (port, rest) ← readPort default rest
      some (⟨user, password, host, port⟩, rest)

/-! ## Schemes -/

def hostSchemes : List (String × Nat) :=
  [("http", 80), ("https", 443), ("ws", 80), ("wss", 443), ("ftp", 21)]

def isSchemeChar (c : Char) : Bool := c.isAlphanum || c == '+' || c == '-' || c == '.'

def readScheme (cs : List Char) : Option (String × List Char) :=
  match splitFirst ':' cs with
  | (c :: name, some rest) =>
    if c.isAlpha ∧ name.all isSchemeChar then
      some (lowerAscii (String.ofList (c :: name)), rest)
    else none
  | _ => none

/-- Authority and path, for each kind of scheme. -/
abbrev Place := Option Authority × List Char

def bothSlashes : List Char := ['/', '\\']

def readHostPlace (default : Nat) (cs : List Char) : Option Place := do
  let (front, path) := cutAt bothSlashes (cs.dropWhile bothSlashes.contains)
  let (authority, _) ← readAuthority (some default) true front
  let parts := segments bothSlashes (afterSlash bothSlashes path)
  some (some authority, pathChars (resolve false [] parts))

def localHost : Host := .name "localhost".toList

/-- The host of a path to a file; the local host counts as none. -/
def readFileHost (cs : List Char) : Option Host :=
  if cs.isEmpty then some (.name [])
  else (Host.readDomain cs).map fun host => if host = localHost then .name [] else host

def filePlace (host : Host) (parts : List Segment) : Place :=
  let parts := resolve true [] parts
  let host := if (parts.head?).any isDrive then .name [] else host
  (some ⟨[], none, host, none⟩, pathChars (trimSegments parts))

/-- After two slashes stands a host, unless it is a drive letter. The slash after an empty host
is itself part of the path. -/
def readFilePlace (cs : List Char) : Option Place :=
  let parts := segments bothSlashes
  let noHost := Host.name []
  match cs with
  | c :: d :: rest =>
    if bothSlashes.contains c && bothSlashes.contains d then
      let (front, path) := cutAt bothSlashes rest
      if isDrive front then some (filePlace noHost (parts rest))
      else do
        let host ← readFileHost front
        some (filePlace host (parts (if host.isEmpty then path else afterSlash bothSlashes path)))
    else some (filePlace noHost (parts (afterSlash bothSlashes cs)))
  | cs => some (filePlace noHost (parts (afterSlash bothSlashes cs)))

def readOtherPlace (isFollowed : Bool) (cs : List Char) : Option Place :=
  let path (cs : List Char) := pathChars (resolve false [] (segments ['/'] (afterSlash ['/'] cs)))
  match cs with
  | '/' :: '/' :: rest => do
    let (front, rest) := cutAt ['/'] rest
    let (authority, left) ← readAuthority none (isFollowed || !rest.isEmpty) front
    let rest := left ++ rest
    some (some authority, if rest.isEmpty then [] else path rest)
  | '/' :: _ => some (none, path cs)
  | cs => some (none, Percent.encode (fun _ => false) cs)

/-! ## Whole URLs -/

def codedInQuery (quoteToo : Bool) (c : Char) : Bool :=
  c == ' ' || c == '"' || c == '#' || c == '<' || c == '>' || (quoteToo && c.toNat == 0x27)

def readQuery (quoteToo : Bool) : List Char → Option (List Char)
  | '?' :: cs => some (Percent.encode (codedInQuery quoteToo) cs)
  | _ => none

def isEdge (c : Char) : Bool := c.toNat ≤ 0x20

def isBreak (c : Char) : Bool := c == '\t' || c == '\n' || c == '\r'

def read? (s : String) : Option Url := do
  let cs := (s.toList.dropWhile isEdge).reverse.dropWhile isEdge |>.reverse
  let (scheme, cs) ← readScheme (cs.filter (!isBreak ·))
  let (front, tail) := cutAt ['?', '#'] cs
  let default := hostSchemes.lookup scheme
  let isFile := scheme == "file"
  let (authority, path) ←
    match default with
    | some port => readHostPlace port front
    | none => if isFile then readFilePlace front else readOtherPlace (!tail.isEmpty) front
  let (query, fragment) := splitFirst '#' tail
  some
    { scheme := scheme
      authority := authority
      path := path
      query := readQuery (default.isSome || isFile) query
      fragment := fragment.map (Percent.encode codedInFragment) }

/-! ## Requests -/

def decodes (coded : List Char) : Bool := (Utf8.decode? (Percent.decode (Utf8.encode coded))).isSome

/-- The URL without user and password. A user whose codes are no text stays, and so does a
password of that kind without a user. -/
def withoutUser (u : Url) : Url :=
  match u.authority with
  | some a =>
    if decodes a.user && (!a.user.isEmpty || a.password.any decodes) then
      { u with authority := some { a with user := [], password := none } }
    else u
  | none => u

def maxRequested : Nat := 65534

def isReceiverChar (c : Char) : Bool :=
  c.isAlphanum || "!$&'()*+,-.:;=[]_~".toList.contains c

def canBeRequested (u : Url) : Bool :=
  u.authority.all (fun a => a.host.chars.all isReceiverChar) && u.text.length ≤ maxRequested

end Url

end EventRelay
