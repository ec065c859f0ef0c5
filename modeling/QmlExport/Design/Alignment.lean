import QmlExport.Json.Decoder

/-!
# Text alignment

The sides a text can be aligned to, and the constants of the generated code for them. The code has
no baseline alignment; the bottom stands in for it.
-/

namespace QmlExport.Design

open Json

/-- The side that a text is aligned to. -/
inductive Side
  | top
  | left
  | right
  | bottom
  | justify
  | center
  | baseline
  deriving DecidableEq, Repr

/-- The direction of an alignment. -/
inductive Axis
  | vertical
  | horizontal
  deriving DecidableEq, Repr

namespace Side

/-- The constant for a side along an axis; only the center differs between the axes. -/
def constant : Side → Axis → String
  | .center, .vertical => "Text.AlignVCenter"
  | .center, .horizontal => "Text.AlignHCenter"
  | .top, _ => "Text.AlignTop"
  | .left, _ => "Text.AlignLeft"
  | .right, _ => "Text.AlignRight"
  | .bottom, _ => "Text.AlignBottom"
  | .justify, _ => "Text.AlignJustify"
  | .baseline, _ => "Text.AlignBottom"

/-- The name of a side in documents. -/
def name : Side → String
  | .top => "top"
  | .left => "left"
  | .right => "right"
  | .bottom => "bottom"
  | .justify => "justify"
  | .center => "center"
  | .baseline => "baseline"

/-- All sides. -/
def all : List Side := [.top, .left, .right, .bottom, .justify, .center, .baseline]

/-- A side in a document. -/
def toJson (s : Side) : Value := .text s.name

/-- Read a side. -/
def decoder : Decoder Side := .choice (all.map fun s => (s.name, s))

end Side

end QmlExport.Design
