import QmlExport.Decimal.Numeral
import QmlExport.Identifier
import QmlExport.Text.Blank
import QmlExport.Text.LetterCase

/-!
# Names of font files

A provider names the variants of a family by weight and style: `regular`, `italic`, `700`,
`700italic`. `Variant.parse` takes such a key apart, and `fileName` builds the name of a file from
the family, the variant and the extension of the address it is fetched from.
-/

namespace QmlExport.Fonts

/-- The weight and the style of a variant. -/
structure Variant where
  weight : Nat
  style : Option String
  deriving DecidableEq, Repr

/-- The weight of a variant that names none. -/
def defaultWeight : Nat := 400

/-- Weights are below this bound. -/
def weightBound : Nat := 65536

/-- The value of a list of decimal digits. -/
def digitsValue (ds : List Char) : Nat := ds.foldl (fun n d => n * 10 + (d.toNat - 48)) 0

/-- The weight that digits spell, if there are any and they are not too great. -/
def weightOf (ds : List Char) : Nat :=
  if ds.isEmpty then defaultWeight
  else
    let n := digitsValue ds
    if n < weightBound then n else defaultWeight

/-- The weight and style that a variant key spells: digits in front are the weight, and what
follows is the style, unless it says that there is none. -/
def Variant.parse (key : String) : Variant :=
  let cs := key.toList
  let style := String.ofList (cs.dropWhile Char.isDigit)
  ⟨weightOf (cs.takeWhile Char.isDigit),
    if style = "" ∨ style = "regular" then none else some style⟩

/-- The weights that have a name. -/
def weightNames : List (Nat × String) :=
  [(100, "Thin"), (200, "ExtraLight"), (300, "Light"), (400, "Regular"), (500, "Medium"),
    (600, "SemiBold"), (700, "Bold"), (800, "ExtraBold"), (900, "Black"), (1000, "ExtraBlack")]

/-- The name of a weight. -/
def weightName? (weight : Nat) : Option String := weightNames.lookup weight

/-- A weight in a file name: its name, or else its digits. -/
def weightLabel (weight : Nat) : String :=
  (weightName? weight).getD (String.ofList (Decimal.digitsOf weight))

/-- A style in a file name. -/
def styleLabel (style : Option String) : String :=
  match style with
  | none => ""
  | some s => String.ofList (Text.capitalize s.toList)

/-- The extension of files whose address shows none. -/
def defaultExtension : String := "ttf"

/-- The extension of the file at an address: what follows the last dot of the last segment, before
any query or fragment. -/
def extensionOf (url : String) : String :=
  let path := url.toList.takeWhile fun c => c != '?' && c != '#'
  let segment := Text.lastPiece (· == '/') path
  let behind := Text.lastPiece (· == '.') segment
  if behind.isEmpty || !segment.contains '.' then defaultExtension else String.ofList behind

/-- The name of the file of a variant. -/
def fileName (family key url : String) : String :=
  let v := Variant.parse key
  Identifier.sanitize family ++ weightLabel v.weight ++ styleLabel v.style ++ "." ++
    extensionOf url

end QmlExport.Fonts
