/-!
# Tables of characters

Properties of characters are tables of closed ranges of code points in increasing order. Mappings of
characters are tables of segments, each with one shift for every `step`-th code point.
-/

namespace QmlExport.Text

/-- Whether a code point lies in one of the ranges. -/
def inRanges (ranges : List (Nat × Nat)) (n : Nat) : Bool :=
  ranges.any fun r => r.1 ≤ n && n ≤ r.2

/-- A run of code points `first, first + step, …, last` whose images lie `shift` away. -/
structure Segment where
  first : Nat
  last : Nat
  step : Nat
  shift : Int

/-- Where the segment sends a code point. -/
def Segment.image? (s : Segment) (n : Nat) : Option Char :=
  if s.first ≤ n && n ≤ s.last && (n - s.first) % s.step == 0 then
    some (Char.ofNat (n + s.shift).toNat)
  else none

/-- Where the first segment that a code point lies in sends it. -/
def imageIn? (segments : List Segment) (n : Nat) : Option Char :=
  segments.findSome? (·.image? n)

end QmlExport.Text
