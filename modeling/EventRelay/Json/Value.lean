import EventRelay.Json.Real
import EventRelay.Text.Numeral
import EventRelay.Text.Utf8

/-!
# JSON values

A value, its compact text, and the two operations on values that the relay
needs: dropping the object members that are null, and looking a member up.
-/

set_option autoImplicit false

namespace EventRelay

namespace Json

inductive Number where
  | integer (n : Int)
  | real (r : Real)
  deriving DecidableEq, Repr

end Json

inductive Json where
  | null
  | bool (b : Bool)
  | number (n : Json.Number)
  | text (s : String)
  | array (items : List Json)
  | object (members : List (String × Json))
  deriving Repr

namespace Json

def integer (n : Int) : Json := .number (.integer n)

/-! ## Writing -/

def Number.digits : Number → List Char
  | .integer n => Text.integerDigits n
  | .real r => r.digits

def escapeControl (n : Nat) : List Char :=
  if n = 8 then ['\\', 'b']
  else if n = 9 then ['\\', 't']
  else if n = 10 then ['\\', 'n']
  else if n = 12 then ['\\', 'f']
  else if n = 13 then ['\\', 'r']
  else ['\\', 'u', '0', '0', Hex.digit (n / 16), Hex.digit (n % 16)]

/-- A character inside a string: quote, backslash and controls are escaped, all else is raw. -/
def escapeChar (c : Char) : List Char :=
  if c = '"' then ['\\', '"']
  else if c = '\\' then ['\\', '\\']
  else if 0x20 ≤ c.toNat then [c]
  else escapeControl c.toNat

def quote (s : String) : List Char := '"' :: s.toList.flatMap escapeChar ++ ['"']

mutual

def render : Json → List Char
  | .null => ['n', 'u', 'l', 'l']
  | .bool true => ['t', 'r', 'u', 'e']
  | .bool false => ['f', 'a', 'l', 's', 'e']
  | .number n => n.digits
  | .text s => quote s
  | .array items => '[' :: renderItems items
  | .object members => '\x7b' :: renderMembers members

def renderItems : List Json → List Char
  | [] => [']']
  | [v] => render v ++ [']']
  | v :: rest => render v ++ ',' :: renderItems rest

def renderMembers : List (String × Json) → List Char
  | [] => ['\x7d']
  | [(k, v)] => quote k ++ ':' :: render v ++ ['\x7d']
  | (k, v) :: rest => quote k ++ ':' :: render v ++ ',' :: renderMembers rest

end

def compact (v : Json) : String := String.ofList v.render

def octets (v : Json) : List UInt8 := Utf8.encode v.render

/-! ## Null members -/

def isNull : Json → Bool
  | .null => true
  | _ => false

mutual

/-- Removes every object member that is null, at every depth; null items of arrays stay. -/
def dropNulls : Json → Json
  | .array items => .array (dropNullsItems items)
  | .object members => .object (dropNullsMembers members)
  | v => v

def dropNullsItems : List Json → List Json
  | [] => []
  | v :: rest => dropNulls v :: dropNullsItems rest

def dropNullsMembers : List (String × Json) → List (String × Json)
  | [] => []
  | (k, v) :: rest =>
    if v.isNull then dropNullsMembers rest else (k, dropNulls v) :: dropNullsMembers rest

end

/-! ## Looking up -/

def member? (key : String) : Json → Option Json
  | .object members => members.lookup key
  | _ => none

def at? : List String → Json → Option Json
  | [], v => some v
  | key :: path, v => (v.member? key).bind (at? path)

def textAt (path : List String) (v : Json) : String :=
  match v.at? path with
  | some (.text s) => s
  | _ => ""

def integerAt (path : List String) (v : Json) : Int :=
  match v.at? path with
  | some (.number (.integer n)) => n
  | _ => 0

def flagAt (path : List String) (v : Json) : Bool :=
  match v.at? path with
  | some (.bool b) => b
  | _ => false

end Json

end EventRelay
