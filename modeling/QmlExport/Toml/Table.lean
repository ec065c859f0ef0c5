import QmlExport.Toml.Scalar

/-!
# TOML tables

The tree that a document denotes. A table remembers how it came into being, because that decides how
it may still be extended: a table is opened by its own header at most once, keys with dots extend
only tables that keys with dots have made, and a table in braces is closed for good.
-/

namespace QmlExport.Toml

/-- How a table came into being. -/
inductive Origin
  /-- By its own header. -/
  | header
  /-- On the way to the table of a header. -/
  | passing
  /-- By a key with dots. -/
  | dotted
  /-- In braces. -/
  | braces
  deriving DecidableEq, Repr

/-- A value. -/
inductive Value
  | string (s : String)
  | scalar (s : Scalar)
  | array (items : List Value)
  | table (origin : Origin) (members : List (String × Value))
  /-- An array of tables with headers of their own, the latest first. -/
  | tables (latestFirst : List Value)
  deriving Inhabited

/-- The members of a table. -/
abbrev Members := List (String × Value)

namespace Members

/-- Change the value of a key. -/
def set (ms : Members) (key : String) (v : Value) : Members :=
  match ms with
  | [] => [(key, v)]
  | m :: ms => if m.1 = key then (key, v) :: ms else m :: set ms key v

/-- Give a new key a value. -/
def add? (ms : Members) (key : String) (v : Value) : Option Members :=
  if (ms.lookup key).isSome then none else some (ms ++ [(key, v)])

/-- Whether a table may be extended by keys with dots. -/
def isOpen : Origin → Bool
  | .header => false
  | .passing => true
  | .dotted => true
  | .braces => false

/-- Give the value at the end of a path of keys. Tables on the way are made as needed, and those
that are there must be open. The table that gets the last key must be of the kind that the path
makes: dotted behind a path, and not dotted without one. -/
def addAt? (origin : Origin) (ms : Members) : (path : List String) → Value → Option Members
  | [], _ => none
  | [key], v => if origin = .dotted then none else add? ms key v
  | k :: path, v => below ms k path v
where
  /-- Go down into the table of a key. -/
  below (ms : Members) (k : String) : (path : List String) → Value → Option Members
    | [], _ => none
    | [key], v =>
      match ms.lookup k with
      | none => some (ms ++ [(k, .table .dotted [(key, v)])])
      | some (.table .dotted inner) => (add? inner key v).map fun inner =>
          set ms k (.table .dotted inner)
      | some _ => none
    | k' :: path, v =>
      match ms.lookup k with
      | none => (below [] k' path v).map fun inner => ms ++ [(k, .table .dotted inner)]
      | some (.table o inner) =>
        if isOpen o then (below inner k' path v).map fun inner => set ms k (.table o inner)
        else none
      | some _ => none

/-- Change the members of the table that a header names last. Tables on the way are made as needed,
and of an array of tables the latest is meant. -/
def within? (change : Origin → Members → Option Members) (o : Origin) (ms : Members) :
    (path : List String) → Option Members
  | [] => change o ms
  | k :: path =>
    match ms.lookup k with
    | none => (within? change .passing [] path).map fun inner =>
        ms ++ [(k, .table .passing inner)]
    | some (.table o inner) =>
      if o = .braces then none
      else (within? change o inner path).map fun inner => set ms k (.table o inner)
    | some (.tables (.table o inner :: earlier)) =>
      (within? change o inner path).map fun inner =>
        set ms k (.tables (.table o inner :: earlier))
    | some _ => none

/-- Open the table of a header. -/
def openTable? (key : String) (_ : Origin) (ms : Members) : Option Members :=
  match ms.lookup key with
  | none => some (ms ++ [(key, .table .header [])])
  | some (.table .passing inner) => some (set ms key (.table .header inner))
  | some _ => none

/-- Open a further table of an array. -/
def openItem? (key : String) (_ : Origin) (ms : Members) : Option Members :=
  match ms.lookup key with
  | none => some (ms ++ [(key, .tables [.table .header []])])
  | some (.tables ts) => some (set ms key (.tables (.table .header [] :: ts)))
  | some _ => none

end Members

end QmlExport.Toml
