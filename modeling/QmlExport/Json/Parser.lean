import QmlExport.Json.Lexer

/-!
# Parsing JSON

    octets ──UTF-8──▶ source ──lex──▶ tokens ──assemble──▶ value

`assemble` reads the tokens from left to right and keeps what is still open on a stack, innermost
first, so it is a plain recursion on the tokens. A document is one value with nothing but blanks
around it.
-/

namespace QmlExport.Json

/-- An array or object that is still open. What has been read of it is kept in reverse. -/
inductive Frame
  | items (before : List Value)
  | member (before : List (Option String × Value)) (name : Option String)

/-- What may come next. -/
inductive Expect
  /-- A value. -/
  | value
  /-- The first item of an array, or its end. -/
  | firstItem
  /-- The first name of an object, or its end. -/
  | firstName
  /-- A further name, behind these members. -/
  | name (before : List (Option String × Value))
  /-- The colon behind a name. -/
  | colon (before : List (Option String × Value)) (name : Option String)
  /-- Whatever may follow a finished value. -/
  | after (v : Value)

/-- What comes next when a value starts with this token. -/
def starting? : Token → Option Expect
  | .null => some (.after .null)
  | .bool b => some (.after (.bool b))
  | .number n => some (.after (.number n))
  | .string s => some (.after (.string s))
  | .openArray => some .firstItem
  | .openObject => some .firstName
  | _ => none

/-- Build the value that the tokens spell inside the open frames. -/
def assemble : List Token → Expect → List Frame → Option Value
  | [], .after v, [] => some v
  | [], _, _ => none
  | t :: ts, expect, stack =>
    match expect with
    | .value =>
      match starting? t with
      | some next => assemble ts next stack
      | none => none
    | .firstItem =>
      if t = .closeArray then assemble ts (.after (.array [])) stack
      else
        match starting? t with
        | some next => assemble ts next (.items [] :: stack)
        | none => none
    | .firstName =>
      match t with
      | .closeObject => assemble ts (.after (.object [])) stack
      | .string name => assemble ts (.colon [] name) stack
      | _ => none
    | .name before =>
      match t with
      | .string name => assemble ts (.colon before name) stack
      | _ => none
    | .colon before name =>
      match t with
      | .colon => assemble ts .value (.member before name :: stack)
      | _ => none
    | .after v =>
      match stack, t with
      | .items before :: outer, .comma => assemble ts .value (.items (v :: before) :: outer)
      | .items before :: outer, .closeArray =>
        assemble ts (.after (.array (v :: before).reverse)) outer
      | .member before name :: outer, .comma => assemble ts (.name ((name, v) :: before)) outer
      | .member before name :: outer, .closeObject =>
        assemble ts (.after (.object ((name, v) :: before).reverse)) outer
      | _, _ => none

/-- The value of a decoded document. -/
def parseSource (cs : Source) : Option Value := do
  let ts ← tokens cs
  assemble ts .value []

/-- The value that octets spell. -/
def parse (bs : Text.Bytes) : Option Value := parseSource (Text.Utf8.decode bs)

/-- The value that a text spells. -/
def parseText (s : String) : Option Value := parseSource (s.toList.map some)

end QmlExport.Json
