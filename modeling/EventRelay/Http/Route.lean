import EventRelay.Http.Message

/-!
# Routes

A table of path patterns, each with the methods it answers. A segment of a
pattern is fixed text, or text followed by a capture in braces, or a capture
of all that is left. Of several patterns that match, the one with fixed text
earlier in the path counts.
-/

set_option autoImplicit false

namespace EventRelay.Http

open EventRelay.Text

inductive Segment where
  | fixed (text : List Char)
  | capture (before name : List Char)
  | rest (name : List Char)
  deriving DecidableEq, Repr

namespace Segment

/-- Reads a segment; `text` holds the characters passed, last first. Doubled braces stand for
themselves, a capture ends its segment, and its name is neither empty nor holds a star. -/
def readFrom : List Char → List Char → Option Segment
  | text, [] => some (.fixed text.reverse)
  | text, '\x7b' :: '\x7b' :: cs => readFrom ('\x7b' :: text) cs
  | text, '\x7d' :: '\x7d' :: cs => readFrom ('\x7d' :: text) cs
  | text, c :: cs =>
    if c = '\x7d' then none
    else if c = '\x7b' then
      match cs.reverse with
      | '\x7d' :: name =>
        match name.reverse with
        | [] => none
        | '*' :: name =>
          if name.isEmpty ∨ name.any (fun c => c == '*' || c == '\x7d') ∨ ¬ text.isEmpty then none
          else some (.rest name)
        | name =>
          if name.any fun c => c == '*' || c == '\x7d' then none
          else some (.capture text.reverse name)
      | _ => none
    else readFrom (c :: text) cs

def read : List Char → Option Segment
  | ':' :: _ => none
  | '*' :: _ => none
  | cs => readFrom [] cs

def isRest : Segment → Bool
  | .rest _ => true
  | _ => false

end Segment

abbrev Pattern := List Segment

namespace Pattern

def read (path : String) : Option Pattern :=
  match path.toList with
  | '/' :: cs =>
    match (splitOn '/' cs).mapM Segment.read with
    | some segments => if segments.dropLast.any Segment.isRest then none else some segments
    | none => none
  | _ => none

/-- How well a pattern fits the segments of a path, as the rank of each segment. -/
def fit : Pattern → List (List Char) → Option (List Nat)
  | [], [] => some []
  | .fixed text :: pattern, s :: path =>
    if text = s then (fit pattern path).map (0 :: ·) else none
  | .capture before _ :: pattern, s :: path =>
    match dropHead? before s with
    | some (_ :: _) => (fit pattern path).map (1 :: ·)
    | _ => none
  | [.rest _], s :: path => if s.isEmpty ∧ path.isEmpty then none else some [2]
  | _, _ => none

/-- Two patterns that capture under different names at one place. -/
def clash : Pattern → Pattern → Bool
  | p :: ps, q :: qs =>
    if p = q then clash ps qs
    else
      match p, q with
      | .capture a _, .capture b _ => a == b
      | .capture a _, .rest _ => a.isEmpty
      | .rest _, .capture b _ => b.isEmpty
      | .rest _, .rest _ => true
      | _, _ => false
  | _, _ => false

end Pattern

structure Route (α : Type) where
  path : String
  pattern : Pattern
  methods : List (String × α)

namespace Route

variable {α : Type}

/-- Adds a method on a path. None if the path is no pattern, clashes with another, or has the
method already. -/
def add (method path : String) (action : α) (routes : List (Route α)) : Option (List (Route α)) :=
  match Pattern.read path with
  | none => none
  | some pattern =>
    match routes.find? fun r => r.path == path with
    | some r =>
      if (r.methods.lookup method).isSome then none
      else
        some (routes.map fun q =>
          if q.path == path then { q with methods := q.methods ++ [(method, action)] } else q)
    | none =>
      if routes.any fun r => r.pattern.clash pattern then none
      else some (routes ++ [⟨path, pattern, [(method, action)]⟩])

def addAll : List (String × String × α) → List (Route α) → Option (List (Route α))
  | [], routes => some routes
  | (method, path, action) :: rest, routes => (add method path action routes).bind (addAll rest)

def isBetter : List Nat → List Nat → Bool
  | a :: as, b :: bs => a < b || (a == b && isBetter as bs)
  | _, _ => false

/-- The route whose pattern fits a path best. -/
def find? (path : String) (routes : List (Route α)) : Option (Route α) :=
  let segments := splitOn '/' (path.toList.drop 1)
  let better (best : Option (Route α × List Nat)) (r : Route α) : Option (Route α × List Nat) :=
    match r.pattern.fit segments, best with
    | none, best => best
    | some rank, none => some (r, rank)
    | some rank, some (b, other) => if isBetter rank other then some (r, rank) else some (b, other)
  (routes.foldl better none).map Prod.fst

/-- The methods that a path answers; whoever answers GET answers HEAD. -/
def allowed (r : Route α) : String :=
  String.intercalate "," (r.methods.map fun m => if m.1 = "GET" then "GET,HEAD" else m.1)

def action? (r : Route α) (method : String) : Option α :=
  r.methods.lookup (if method = "HEAD" then "GET" else method)

end Route

end EventRelay.Http
