import Wireframe.Text.CaseTable

/-!
# Lower case

Full lower-casing of Unicode 14. Every code point has a lower case of its own, with two
exceptions: the dotted capital I (`0x130`) becomes two code points, and the capital sigma
(`0x3A3`) becomes a final sigma at the end of a word. A word ends there when, code points that
case ignores left out, a cased one stands before and none stands after.
-/
namespace Wireframe

namespace CodePoint

def isCased (c : Nat) : Bool :=
  if c < 0x80 then isLetter c else within casedRanges c

def isCaseIgnorable : Nat → Bool := within caseIgnorableRanges

def capitalSigma : Nat := 0x3A3
def smallSigma : Nat := 0x3C3
def finalSigma : Nat := 0x3C2

/-- The lower case of a code point where it does not depend on its neighbours. -/
def toLower (c : Nat) : Text :=
  if c < 0x80 then [toAsciiLower c]
  else if c = 0x130 then [0x69, 0x307]
  else match lowercaseRuns.find? (·.contains c) with
    | some run => [((c : Int) + run.offset).toNat]
    | none => [c]

end CodePoint

namespace Text

/-- Whether the nearest code point that case does not ignore is cased. -/
def startsCased (t : Text) : Bool :=
  (t.dropWhile CodePoint.isCaseIgnorable).head?.any CodePoint.isCased

/-- Lower-cases `t`, where `cased` says whether the nearest code point before it that case does
not ignore is cased. -/
def lowerAfter (cased : Bool) : Text → Text
  | [] => []
  | c :: rest =>
    let image :=
      if c = CodePoint.capitalSigma then
        [if cased && !startsCased rest then CodePoint.finalSigma else CodePoint.smallSigma]
      else CodePoint.toLower c
    image ++ lowerAfter (if CodePoint.isCaseIgnorable c then cased else CodePoint.isCased c) rest

def lower (t : Text) : Text := lowerAfter false t

end Text

end Wireframe
