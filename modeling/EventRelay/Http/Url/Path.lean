import EventRelay.Http.Message
import EventRelay.Text.Blank

/-!
# Paths of URLs

A path is a list of segments. Reading resolves the segments that stand for
this and the enclosing directory (`isDot_of_mem_resolve`). A drive letter is
not left by going up, and at the start of a path to a file its bar becomes a
colon.
-/

set_option autoImplicit false

namespace EventRelay.Url

open EventRelay.Text

abbrev Segment := List Char

def dots : List Segment := [['.'], ['%', '2', 'e']]

def isSingleDot (s : Segment) : Bool := dots.contains (s.map lowerAsciiChar)

def isDoubleDot (s : Segment) : Bool :=
  dots.any fun a => dots.any fun b => a ++ b == s.map lowerAsciiChar

def isDot (s : Segment) : Bool := isSingleDot s || isDoubleDot s

def isDrive : Segment → Bool
  | [letter, mark] => letter.isAlpha && (mark == ':' || mark == '|')
  | _ => false

def parent : List Segment → List Segment
  | [] => []
  | s :: above => if isDrive s then s :: above else above

def entering (toFile : Bool) (above : List Segment) (s : Segment) : Segment :=
  match s with
  | letter :: _ => if toFile && above.isEmpty && isDrive s then [letter, ':'] else s
  | [] => []

/-- The segments with dots resolved; `above` holds the earlier ones, last first. Dots at the end
leave an empty segment. -/
def resolve (toFile : Bool) (above : List Segment) : List Segment → List Segment
  | [] => above.reverse
  | s :: rest =>
    if isDoubleDot s then
      resolve toFile (if rest.isEmpty then [] :: parent above else parent above) rest
    else if isSingleDot s then resolve toFile (if rest.isEmpty then [] :: above else above) rest
    else resolve toFile (entering toFile above s :: above) rest

def segments (slashes : List Char) (cs : List Char) : List Segment :=
  splitOn '/' (cs.map fun c => if slashes.contains c then '/' else c)

def afterSlash (slashes : List Char) : List Char → List Char
  | c :: cs => if slashes.contains c then cs else c :: cs
  | [] => []

/-- The path to a file does not start with an empty segment unless it is all there is. -/
def trimSegments (segments : List Segment) : List Segment :=
  match segments.dropWhile List.isEmpty with
  | [] => [[]]
  | rest => rest

def codedInFragment (c : Char) : Bool :=
  c == ' ' || c == '"' || c == '<' || c == '>' || c == '\x60'

def codedInPath (c : Char) : Bool :=
  codedInFragment c || c == '#' || c == '?' || c == '\x7b' || c == '\x7d'

def pathChars (segments : List Segment) : List Char :=
  segments.flatMap fun s => '/' :: Percent.encode codedInPath s

/-! ## No dots are left -/

theorem mem_parent {s : Segment} {above : List Segment} (h : s ∈ parent above) : s ∈ above := by
  cases above with
  | nil => simp [parent] at h
  | cons t above =>
    simp only [parent] at h
    split at h
    · exact h
    · exact List.mem_cons_of_mem t h

theorem isDot_entering (toFile : Bool) (above : List Segment) {s : Segment}
    (h : isDot s = false) : isDot (entering toFile above s) = false := by
  have colon : lowerAsciiChar ':' = ':' := by decide
  unfold entering
  split
  · split
    · simp [isDot, isSingleDot, isDoubleDot, dots, colon]
    · exact h
  · exact h

theorem isDot_of_mem_resolve {toFile : Bool} {rest above : List Segment} {s : Segment}
    (habove : ∀ t ∈ above, isDot t = false) (h : s ∈ resolve toFile above rest) :
    isDot s = false := by
  induction rest generalizing above with
  | nil => exact habove s (by simpa [resolve] using h)
  | cons t rest ih =>
    have hempty : isDot [] = false := by decide
    have hparent : ∀ u ∈ parent above, isDot u = false := fun u hu => habove u (mem_parent hu)
    simp only [resolve] at h
    split at h
    · refine ih ?_ h
      split
      · simpa [hempty] using hparent
      · exact hparent
    split at h
    · refine ih ?_ h
      split
      · simpa [hempty] using habove
      · exact habove
    · refine ih ?_ h
      simpa [isDot_entering toFile above (s := t) (by simp_all [isDot])] using habove

end EventRelay.Url
