import EventRelay.Json.Value
import EventRelay.Text.Quoted

/-!
# Forms

A form says which members of a payload matter and what type they have. A
payload fills a form in: members it does not name are left blank, members the
form does not name are passed over, and an array may stand for a record, its
items in the order of the fields. The first member of the wrong type, in the
order of the members, is the mismatch reported.
-/

set_option autoImplicit false

namespace EventRelay.Json

inductive Form where
  | text
  | integer
  | flag
  | record (name : String) (fields : List (String × Form))

inductive Mismatch where
  | kind (found : Json) (expected : String)
  | outOfRange (n : Int)
  | surplus (count : Nat)
  | notObject (found : String)

def minInt64 : Int := -9223372036854775808

def fitsInt64 (n : Int) : Bool := minInt64 ≤ n && n ≤ (Text.maxInt64 : Int)

def describe : Json → String
  | .null => "null"
  | .bool true => "boolean `true`"
  | .bool false => "boolean `false`"
  | .number (.integer n) => "integer `" ++ Text.integerText n ++ "`"
  | .number (.real r) => "floating point `" ++ String.ofList r.digits ++ "`"
  | .text s => "string " ++ Text.quoted s
  | .array _ => "sequence"
  | .object _ => "map"

def Mismatch.message : Mismatch → String
  | .kind found expected => "invalid type: " ++ describe found ++ ", expected " ++ expected
  | .outOfRange n => "invalid value: integer `" ++ Text.integerText n ++ "`, expected i64"
  | .surplus count =>
    "invalid length " ++ Text.naturalText count ++ ", expected fewer elements in array"
  | .notObject found => "invalid type: " ++ found ++ ", expected a JSON object"

namespace Form

def expectation : Form → String
  | .text => "a string"
  | .integer => "i64"
  | .flag => "a boolean"
  | .record name _ => "struct " ++ name

mutual

def blank : Form → Json
  | .text => .text ""
  | .integer => Json.integer 0
  | .flag => .bool false
  | .record _ fields => .object (blankFields fields)

def blankFields : List (String × Form) → List (String × Json)
  | [] => []
  | (key, form) :: rest => (key, blank form) :: blankFields rest

end

def fields : Form → List (String × Form)
  | .record _ fields => fields
  | _ => []

def isRecord : Form → Bool
  | .record _ _ => true
  | _ => false

def fillScalar (v : Json) (form : Form) : Except Mismatch Json :=
  match form, v with
  | .text, .text _ => .ok v
  | .flag, .bool _ => .ok v
  | .integer, .number (.integer n) => if fitsInt64 n then .ok v else .error (.outOfRange n)
  | form, v => .error (.kind v form.expectation)

def complete (fields : List (String × Form)) (given : List (String × Json)) :
    List (String × Json) :=
  fields.map fun field => (field.1, (given.lookup field.1).getD (blank field.2))

mutual

def fill : Json → Form → Except Mismatch Json
  | .object members, form =>
    if form.isRecord then
      (fillMembers members form.fields).map fun given => .object (complete form.fields given)
    else .error (.kind (.object members) form.expectation)
  | .array items, form =>
    if form.isRecord then
      match fillItems items form.fields with
      | .error e => .error e
      | .ok given =>
        if form.fields.length < items.length then .error (.surplus items.length)
        else .ok (.object (complete form.fields given))
    else .error (.kind (.array items) form.expectation)
  | .null, form => fillScalar .null form
  | .bool b, form => fillScalar (.bool b) form
  | .number n, form => fillScalar (.number n) form
  | .text s, form => fillScalar (.text s) form

def fillMembers : List (String × Json) → List (String × Form) →
    Except Mismatch (List (String × Json))
  | [], _ => .ok []
  | (key, v) :: rest, fields =>
    match fields.lookup key with
    | none => fillMembers rest fields
    | some form =>
      match fill v form with
      | .error e => .error e
      | .ok w => (fillMembers rest fields).map ((key, w) :: ·)

def fillItems : List Json → List (String × Form) → Except Mismatch (List (String × Json))
  | [], _ => .ok []
  | _ :: _, [] => .ok []
  | v :: rest, (key, form) :: fields =>
    match fill v form with
    | .error e => .error e
    | .ok w => (fillItems rest fields).map ((key, w) :: ·)

end

/-- Fills a form from a whole payload. Null members count as absent, and so does a null payload;
any other payload must be an object. -/
def read (form : Form) (payload : Json) : Except Mismatch Json :=
  match payload with
  | .null => fill (.object []) form
  | .object members => fill (dropNulls (.object members)) form
  | .array _ => .error (.notObject "array")
  | .bool _ => .error (.notObject "boolean")
  | .number _ => .error (.notObject "number")
  | .text _ => .error (.notObject "string")

end Form

end EventRelay.Json
