import EventRelay.Net.Domain.Direction
import EventRelay.Net.Domain.FoldTable
import EventRelay.Net.Domain.Joining
import EventRelay.Net.Domain.RefusedTable
import EventRelay.Text.Blank
import EventRelay.Text.Composed
import EventRelay.Text.Punycode

/-!
# Domain names

The plain form of a domain name: its labels folded to the one spelling that
stands for all (lower case, full letters for their variants, composed text),
those with characters outside ASCII written as a mark and Punycode. A label may
be given in that form. Lengths and hyphens are not looked at.
-/

set_option autoImplicit false

/-! ## Folding -/

namespace EventRelay.Net.Domain

open EventRelay.Text

def foldChar (c : Char) : Option (List Char) :=
  let n := c.toNat
  if inRanges ignoredRanges n then some []
  else if inRanges refusedRanges n then none
  else
    match runTarget? foldRuns n with
    | some target => some [Char.ofNat target]
    | none => some (((Block.find? foldBlocks n).map (·.map Char.ofNat)).getD [c])

def folded (cs : List Char) : Option (List Char) :=
  (cs.mapM foldChar).map fun parts => composed parts.flatten

/-! ## Names -/

def isDenied (c : Char) : Bool :=
  c.toNat ≤ 0x20 || c.toNat == 0x7F || "%#/:<>?@[\\]^|".toList.contains c

structure Label where
  shown : List Char
  written : List Char

def codedMark : List Char := "xn--".toList

def maxCoded : Nat := 2000

def maxShown : Nat := 1000

def isMark (c : Char) : Bool :=
  inRanges nonspacingMarkRanges c.toNat || inRanges spacingMarkRanges c.toNat

def isPlain (cs : List Char) : Bool := cs.all Punycode.isBasic

def isSound (label : List Char) : Bool :=
  !(label.head?.any isMark) && joinersFit [] label && (isPlain label || label.length ≤ maxShown)

/-- The label that stands behind the mark of a coded one. It has to be in folded spelling. -/
def readCoded (code : List Char) : Option (List Char) :=
  if code.isEmpty || code.getLast? = some '-' || maxCoded < code.length then none
  else do
    let label ← Punycode.decode? code
    if label.any (fun c => isDenied c || c == '.') then none
    else if folded label = some label ∧ isSound label then some label
    else none

def readLabel (label : List Char) : Option Label :=
  match dropHead? codedMark label with
  | some code =>
    if isPlain code then (readCoded code).map fun shown => ⟨shown, label⟩ else none
  | none =>
    if isSound label then
      some ⟨label, if isPlain label then label else codedMark ++ Punycode.encode label⟩
    else none

/-- The plain form of a name; `none` if it is no name. -/
def plain? (name : List Char) : Option (List Char) := do
  let name ← folded name
  if name.any isDenied then none
  else
    let labels ← (splitOn '.' name).mapM readLabel
    if labels.any (fun l => l.shown.any turns) && !labels.all (fun l => isOneWay l.shown) then none
    else some (List.intercalate ['.'] (labels.map Label.written))

end EventRelay.Net.Domain
