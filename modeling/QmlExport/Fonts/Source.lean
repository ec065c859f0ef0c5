import QmlExport.Failure

/-!
# Font sources

A source offers an index of font families, each with the addresses of its variants, and the files at
these addresses.
-/

namespace QmlExport.Fonts

open Json Text

/-- A font family: the address of each variant, in order. -/
structure Family where
  name : String
  variants : List (String × String)
  deriving DecidableEq, Repr

/-- The families that a source offers. -/
structure Index where
  families : List Family
  deriving DecidableEq, Repr

/-- Give a variant its address, in place of an earlier one. -/
def setAddress (key url : String) : List (String × String) → List (String × String)
  | [] => [(key, url)]
  | e :: es => if e.1 = key then (key, url) :: es else e :: setAddress key url es

/-- Read the addresses of variants; a repeated variant keeps its first place and its last
address. -/
def variantsDecoder : Decoder (List (String × String)) :=
  (Decoder.entries .text).map fun es => es.foldl (fun found e => setAddress e.1 e.2 found) []

/-- Read a family. -/
def Family.decoder : Decoder Family :=
  .record ["family", "files"] fun fs => do
    let name ← fs.required "family" .text
    let variants ← fs.orElse "files" variantsDecoder []
    some ⟨name, variants⟩

namespace Index

/-- Read an index. -/
def decoder : Decoder Index :=
  .record ["items"] fun fs => do
    let families ← fs.orElse "items" (.list Family.decoder) []
    some ⟨families⟩

/-- The first family with exactly this name. -/
def find? (i : Index) (name : String) : Option Family := i.families.find? fun f => f.name == name

end Index

/-- Where fonts come from. -/
structure Source where
  index : Except Failure Index
  download : String → Except Failure Bytes

end QmlExport.Fonts
