import QmlExport.Json.Decoder

/-!
# Export options

What a run writes into the generated code, and whether it downloads fonts. At most one of the two
kinds of identifiers is wanted; should both be switched on, the designer's own wins.
-/

namespace QmlExport.Design

open Json

/-- The options of a run. -/
structure Options where
  addIds : Bool
  addUniqueIds : Bool
  addObjectNames : Bool
  downloadFonts : Bool
  deriving DecidableEq, Repr

/-- Where the identifier of an object comes from. -/
inductive IdSource
  /-- The identifier that the designer chose. -/
  | chosen
  /-- The unique identifier of the element. -/
  | unique
  deriving DecidableEq, Repr

namespace Options

/-- Everything switched off. -/
def none : Options := ⟨false, false, false, false⟩

/-- Which identifiers are written, if any. -/
def idSource (o : Options) : Option IdSource :=
  if o.addIds then some .chosen
  else if o.addUniqueIds then some .unique
  else Option.none

/-- Switch the chosen identifiers; switching them on switches the unique ones off. -/
def toggleIds (o : Options) (on : Bool) : Options :=
  { o with addIds := on, addUniqueIds := !on && o.addUniqueIds }

/-- Switch the unique identifiers; switching them on switches the chosen ones off. -/
def toggleUniqueIds (o : Options) (on : Bool) : Options :=
  { o with addUniqueIds := on, addIds := !on && o.addIds }

/-- The options as a record. -/
def toJson (o : Options) : Value :=
  .fields [("addIDs", .bool o.addIds), ("addUniqueIDs", .bool o.addUniqueIds),
    ("addObjectNames", .bool o.addObjectNames), ("downloadFonts", .bool o.downloadFonts)]

/-- Read options. -/
def decoder : Decoder Options :=
  .record ["addIDs", "addUniqueIDs", "addObjectNames", "downloadFonts"] fun fs => do
    let addIds ← fs.required "addIDs" .bool
    let addUniqueIds ← fs.required "addUniqueIDs" .bool
    let addObjectNames ← fs.required "addObjectNames" .bool
    let downloadFonts ← fs.required "downloadFonts" .bool
    some ⟨addIds, addUniqueIds, addObjectNames, downloadFonts⟩

end Options

end QmlExport.Design
