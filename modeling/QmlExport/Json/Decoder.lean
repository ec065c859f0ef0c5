import QmlExport.Json.Parser

/-!
# Decoding JSON values

A decoder reads a domain value off a JSON value. It is told how many levels of arrays and objects
it may still enter, so that a document nested too deeply is refused where it is read; what nobody
reads may be nested at will.

Records are written as objects, or as arrays of their fields in order. In an object unknown names
are passed over and a repeated known name is an error; an array may leave out fields at its end
that have a default, but may not have more items than the record has fields.
-/

namespace QmlExport.Json

/-- Reads an `α`, entering at most the given number of levels. -/
abbrev Decoder (α : Type) := (levels : Nat) → Value → Option α

/-- The number of levels that a document may have. -/
def documentLevels : Nat := 127

namespace Decoder

/-- A text. -/
def text : Decoder String
  | _, .string t => t
  | _, _ => none

/-- A truth value. -/
def bool : Decoder Bool
  | _, .bool b => some b
  | _, _ => none

/-- A number. -/
def float : Decoder Float
  | _, .number n => n.float?
  | _, _ => none

/-- A natural number below `2 ^ 64`. -/
def nat : Decoder Nat
  | _, .number n => n.nat?
  | _, _ => none

/-- A value or null. -/
def optional (d : Decoder α) : Decoder (Option α)
  | _, .null => some none
  | levels, v => (d levels v).map some

/-- Change what was read. -/
def map (f : α → β) (d : Decoder α) : Decoder β := fun levels v => (d levels v).map f

/-- Change what was read, or refuse it. -/
def filterMap (f : α → Option β) (d : Decoder α) : Decoder β := fun levels v => (d levels v).bind f

/-- An array. -/
def list (d : Decoder α) : Decoder (List α)
  | levels + 1, .array items => items.mapM (d levels)
  | _, _ => none

/-- An object with any names. -/
def entries (d : Decoder α) : Decoder (List (String × α))
  | levels + 1, .object members => members.mapM fun (k, v) => do
      let k ← k
      let a ← d levels v
      some (k, a)
  | _, _ => none

/-- One of a list of names, written as a string or as an object that gives it the value null. -/
def choice (names : List (String × α)) : Decoder α
  | _, .string (some s) => names.lookup s
  | _ + 1, .object [(some s, .null)] => names.lookup s
  | _, _ => none

/-- Like `choice`, for values that were looked at as a whole before: in place of null there may be
an empty object. -/
def settledChoice (names : List (String × α)) : Decoder α
  | _, .object [(some s, .object [])] => names.lookup s
  | levels, v => choice names levels v

/-- A value that has to be looked at as a whole before it is read: all of it must be sound and
within the levels, also what the decoder passes over. -/
def whole (d : Decoder α) : Decoder α := fun levels v =>
  if v.sound && v.nesting ≤ levels then d (v.nesting + 1) v else none

end Decoder

/-- The fields of a record that a value gives. `named` tells whether they were given by name. -/
structure Fields where
  named : Bool
  levels : Nat
  given : List (String × Value)

namespace Fields

/-- Keep the members with known names; fails when one is repeated or a name is not a text. -/
def known (names : List String) (aliases : List (String × String)) :
    List (Option String × Value) → Option (List (String × Value))
  | [] => some []
  | (none, _) :: _ => none
  | (some k, v) :: ms => do
    let rest ← known names aliases ms
    let k := (aliases.lookup k).getD k
    if names.contains k then
      if (rest.lookup k).isSome then none else some ((k, v) :: rest)
    else some rest

/-- The fields that an object gives. -/
def ofObject (names : List String) (aliases : List (String × String)) : Decoder Fields
  | levels + 1, .object members =>
    (known names aliases members).map fun given => ⟨true, levels, given⟩
  | _, _ => none

/-- The fields that an object or an array gives. -/
def of (names : List String) (aliases : List (String × String)) : Decoder Fields
  | levels + 1, .array items =>
    if items.length ≤ names.length then some ⟨false, levels, names.zip items⟩ else none
  | levels, v => ofObject names aliases levels v

/-- A field that must be there. -/
def required (fs : Fields) (name : String) (d : Decoder α) : Option α :=
  (fs.given.lookup name).bind (d fs.levels)

/-- A field with a default. -/
def orElse (fs : Fields) (name : String) (d : Decoder α) (default : α) : Option α :=
  match fs.given.lookup name with
  | some v => d fs.levels v
  | none => some default

/-- A field that may be null, and may be left out of an object but not of an array. -/
def nullable (fs : Fields) (name : String) (d : Decoder α) : Option (Option α) :=
  match fs.given.lookup name with
  | some v => d.optional fs.levels v
  | none => if fs.named then some none else none

end Fields

/-- Read a record with the given field names. -/
def Decoder.record (names : List String) (read : Fields → Option α) : Decoder α := fun levels v =>
  (Fields.of names [] levels v).bind read

/-- Read an `α` off a document. -/
def decode? (d : Decoder α) (v : Option Value) : Option α := v.bind (d documentLevels)

end QmlExport.Json
