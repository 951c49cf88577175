/-!
# Blank characters and trimming

Blank means the Unicode property White_Space. Zero-width and format
characters are not blank. Trimming works on character lists; the text
versions only wrap it.
-/

set_option autoImplicit false

namespace EventRelay.Text

/-- The twenty-five characters of White_Space. -/
def isBlank (c : Char) : Bool :=
  let n := c.toNat
  (9 ≤ n && n ≤ 13) || n == 0x20 || n == 0x85 || n == 0xA0 || n == 0x1680 ||
  (0x2000 ≤ n && n ≤ 0x200A) || n == 0x2028 || n == 0x2029 || n == 0x202F ||
  n == 0x205F || n == 0x3000

def trimEnd (cs : List Char) : List Char := (cs.reverse.dropWhile isBlank).reverse

def trimChars (cs : List Char) : List Char := trimEnd (cs.dropWhile isBlank)

def trimmed (s : String) : String := String.ofList (trimChars s.toList)

def isBlankText (s : String) : Bool := s.toList.all isBlank

def orFallback (fallback s : String) : String :=
  let t := trimmed s
  if t = "" then fallback else t

/-- The first text that is not blank, trimmed; empty when all are blank. -/
def firstNonBlank : List String → String
  | [] => ""
  | s :: rest => let t := trimmed s; if t = "" then firstNonBlank rest else t

def nonBlank? (s : String) : Option String :=
  let t := trimmed s
  if t = "" then none else some t

def startsWith (head s : String) : Bool := head.toList.isPrefixOf s.toList

def occursIn (needle : List Char) : List Char → Bool
  | [] => needle.isEmpty
  | c :: cs => needle.isPrefixOf (c :: cs) || occursIn needle cs

def contains (needle s : String) : Bool := occursIn needle.toList s.toList

def dropHead? : List Char → List Char → Option (List Char)
  | [], cs => some cs
  | _ :: _, [] => none
  | h :: hs, c :: cs => if h = c then dropHead? hs cs else none

def dropTail? (tail cs : List Char) : Option (List Char) :=
  (dropHead? tail.reverse cs.reverse).map List.reverse

def splitFirst (mark : Char) (cs : List Char) : List Char × Option (List Char) :=
  (cs.takeWhile (· ≠ mark), ((cs.dropWhile (· ≠ mark)).tail?))

def splitOn (mark : Char) (cs : List Char) : List (List Char) :=
  cs.foldr (fun c parts =>
    if c = mark then [] :: parts
    else match parts with
      | [] => [[c]]
      | part :: rest => (c :: part) :: rest) [[]]

def lowerAsciiChar (c : Char) : Char :=
  if 'A' ≤ c ∧ c ≤ 'Z' then Char.ofNat (c.toNat + 32) else c

def lowerAscii (s : String) : String := String.ofList (s.toList.map lowerAsciiChar)

def sameAscii (a b : String) : Bool := lowerAscii a == lowerAscii b

end EventRelay.Text
