import QmlExport.Decimal.Reading

/-!
# JSON values

The tree that a JSON document denotes, kept close to its text: numbers stay numerals, members keep
their order and may repeat a name, and a string literal that names no text (it escapes a lone
surrogate, or holds octets that are not UTF-8) is kept as `none`, since such a literal is harmless
as long as nobody reads it.
-/

namespace QmlExport.Json

open QmlExport.Decimal

/-- A JSON value. -/
inductive Value
  | null
  | bool (b : Bool)
  | number (n : Numeral)
  | string (text : Option String)
  | array (items : List Value)
  | object (members : List (Option String × Value))
  deriving Inhabited

namespace Value

/-- A string that is a text. -/
def text (s : String) : Value := .string (some s)

/-- A natural number. -/
def nat (n : Nat) : Value := .number (.ofNat n)

/-- An integer. -/
def int (n : Int) : Value := .number (.ofInt n)

/-- A double; what is not a number is written as null. -/
def float (x : Float) : Value := if x.isFinite then .number (.scientific x) else .null

/-- An object with these members. -/
def fields (members : List (String × Value)) : Value :=
  .object (members.map fun m => (some m.1, m.2))

/-- A value or null. -/
def ofOption (f : α → Value) : Option α → Value
  | none => .null
  | some a => f a

mutual
/-- How many arrays and objects lie around the deepest value. -/
def nesting : Value → Nat
  | .array items => nestingItems items + 1
  | .object members => nestingMembers members + 1
  | _ => 0

/-- The deepest nesting among items. -/
def nestingItems : List Value → Nat
  | [] => 0
  | v :: vs => max (nesting v) (nestingItems vs)

/-- The deepest nesting among members. -/
def nestingMembers : List (Option String × Value) → Nat
  | [] => 0
  | (_, v) :: ms => max (nesting v) (nestingMembers ms)
end

mutual
/-- Every string is a text and every number has a value, all the way down. -/
def sound : Value → Bool
  | .number n => n.nat?.isSome || n.float?.isSome
  | .string t => t.isSome
  | .array items => soundItems items
  | .object members => soundMembers members
  | _ => true

/-- `sound` for all items. -/
def soundItems : List Value → Bool
  | [] => true
  | v :: vs => sound v && soundItems vs

/-- `sound` for all members and their names. -/
def soundMembers : List (Option String × Value) → Bool
  | [] => true
  | (k, v) :: ms => k.isSome && sound v && soundMembers ms
end

end Value

/-- Members that may be left out. -/
def omitNone (name : String) (f : α → Value) : Option α → List (String × Value)
  | none => []
  | some a => [(name, f a)]

/-- A list member that is left out when empty. -/
def omitEmpty (name : String) (f : α → Value) : List α → List (String × Value)
  | [] => []
  | as => [(name, .array (as.map f))]

end QmlExport.Json
