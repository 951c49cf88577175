import EventRelay.Json.Form
import EventRelay.Json.Reader

/-!
# Shapes

A shape says how a document must look. A document is checked in text order,
and checking stops at the first fault: a break of the grammar (`malformed`),
or a value of the wrong shape met before any such break (`mismatch`). An
array may stand for a record when it holds every field without a fallback.
-/

set_option autoImplicit false

namespace EventRelay.Json

/-- The fields of a record come with the value to use when they are missing, if there is one. -/
inductive Shape where
  | text
  | integer
  | flag
  | matching (holds : String → Bool)
  | choice (names : List String)
  | optional (inner : Shape)
  | record (fields : List (String × Option Json × Shape))

inductive Fault where
  | malformed
  | mismatch
  deriving DecidableEq, Repr

namespace Shape

/-- The fault of a value that is not of the expected kind: the value itself is read first, up to
its opening bracket if it has one. -/
def wrongKind : Outline → Fault
  | .null => .mismatch
  | .bool _ => .mismatch
  | .number n => if n.value?.isSome then .mismatch else .malformed
  | .text raw => if (readText raw).isSome then .mismatch else .malformed
  | .array _ _ => .mismatch
  | .object _ _ => .mismatch
  | .fault => .malformed

def scanString (accept : String → Bool) : Outline → Except Fault Json
  | .text raw =>
    match readText raw with
    | none => .error .malformed
    | some s => if accept s then .ok (.text s) else .error .mismatch
  | v => .error (wrongKind v)

def scanInteger : Outline → Except Fault Json
  | .number n =>
    match n.value? with
    | none => .error .malformed
    | some (.integer i) => if fitsInt64 i then .ok (Json.integer i) else .error .mismatch
    | some (.real _) => .error .mismatch
  | v => .error (wrongKind v)

def scanFlag : Outline → Except Fault Json
  | .bool b => .ok (.bool b)
  | v => .error (wrongKind v)

def scanChoice (names : List String) : Outline → Except Fault Json
  | .text raw => scanString (fun s => names.contains s) (.text raw)
  | .object ((key, v) :: more) ending =>
    match scanString (fun s => names.contains s) (.text key) with
    | .error e => .error e
    | .ok name =>
      match v with
      | .null => if more.isEmpty ∧ ending = .closed then .ok name else .error .malformed
      | v => .error (wrongKind v)
  | .object [] ending => .error (if ending = .stray then .mismatch else .malformed)
  | _ => .error .malformed

def absent (fallback : Option Json) : Shape → Option Json
  | .optional _ => some (fallback.getD .null)
  | _ => fallback

def settle : List (String × Option Json × Shape) → List (String × Json) →
    Except Fault (List (String × Json))
  | [], _ => .ok []
  | (key, fallback, shape) :: rest, given =>
    match (given.lookup key).or (absent fallback shape) with
    | none => .error .mismatch
    | some v => (settle rest given).map ((key, v) :: ·)

def settleRest : List (String × Option Json × Shape) → Except Fault (List (String × Json))
  | [] => .ok []
  | (_, none, _) :: _ => .error .mismatch
  | (key, some v, _) :: rest => (settleRest rest).map ((key, v) :: ·)

mutual

def scan : Shape → Outline → Except Fault Json
  | .text, v => scanString (fun _ => true) v
  | .matching holds, v => scanString holds v
  | .integer, v => scanInteger v
  | .flag, v => scanFlag v
  | .choice names, v => scanChoice names v
  | .optional inner, v =>
    match v with
    | .null => .ok .null
    | v => scan inner v
  | .record fields, v =>
    match v with
    | .object members ending => (scanMembers fields members ending []).map .object
    | .array items ending => (scanItems fields items ending).map .object
    | v => .error (wrongKind v)

/-- The members of an object in text order; `given` holds the fields read so far. -/
def scanMembers (fields : List (String × Option Json × Shape)) :
    List (List UInt8 × Outline) → Ending → List (String × Json) →
    Except Fault (List (String × Json))
  | [], ending, given => if ending = .closed then settle fields given else .error .malformed
  | (raw, v) :: rest, ending, given =>
    match readText raw with
    | none => .error .malformed
    | some key =>
      match scanField fields key v with
      | none => if v.isWhole then scanMembers fields rest ending given else .error .malformed
      | some outcome =>
        if (given.lookup key).isSome then .error .mismatch
        else
          match outcome with
          | .error e => .error e
          | .ok w => scanMembers fields rest ending ((key, w) :: given)

def scanField : List (String × Option Json × Shape) → String → Outline →
    Option (Except Fault Json)
  | [], _, _ => none
  | (name, _, shape) :: rest, key, v =>
    if name = key then some (scan shape v) else scanField rest key v

def scanItems : List (String × Option Json × Shape) → List Outline → Ending →
    Except Fault (List (String × Json))
  | [], [], ending => if ending = .closed then .ok [] else .error .malformed
  | [], _ :: _, _ => .error .malformed
  | (key, fallback, shape) :: fields, [], ending =>
    if ending = .closed then settleRest ((key, fallback, shape) :: fields) else .error .malformed
  | (key, _, shape) :: fields, v :: rest, ending =>
    match scan shape v with
    | .error e => .error e
    | .ok w => (scanItems fields rest ending).map ((key, w) :: ·)

end

/-- Reads a whole document. -/
def read (shape : Shape) (bytes : List UInt8) : Except Fault Json :=
  let doc := Document.read bytes
  match scan shape doc.root with
  | .error e => .error e
  | .ok v => if doc.endsClean then .ok v else .error .malformed

end Shape

class Schema (α : Type) where
  shape : Shape
  toJson : α → Json
  ofJson? : Json → Option α

def decode (α : Type) [Schema α] (bytes : List UInt8) : Except Fault α :=
  match (Schema.shape α).read bytes with
  | .error e => .error e
  | .ok v =>
    match Schema.ofJson? v with
    | some a => .ok a
    | none => .error .mismatch

def encode {α : Type} [Schema α] (a : α) : List UInt8 := (Schema.toJson a).octets

end EventRelay.Json
