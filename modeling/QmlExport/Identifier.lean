/-!
# Identifiers

`sanitize` turns any name into an identifier: ASCII letters and digits only, a letter first.
Everything else is dropped; a name without a letter gets the placeholder `a` in place of its first
character; leading digits are rotated to the end. `IsIdentifier` is the form of the results, and
`sanitize` leaves exactly the names of that form alone.
-/

namespace QmlExport.Identifier

/-- The letter that stands in when a name has none. -/
def placeholder : Char := 'a'

/-- Put a letter into a text of letters and digits that has none. -/
def withLetter (cs : List Char) : List Char :=
  if cs.any Char.isAlpha then cs else placeholder :: cs.drop 1

/-- Move the digits at the front to the end. -/
def rotateDigits (cs : List Char) : List Char :=
  cs.dropWhile Char.isDigit ++ cs.takeWhile Char.isDigit

/-- The identifier made from a name, as characters. -/
def sanitizeChars (name : List Char) : List Char :=
  rotateDigits (withLetter (name.filter Char.isAlphanum))

/-- The identifier made from a name. -/
def sanitize (name : String) : String := String.ofList (sanitizeChars name.toList)

/-- Lower case for the first character, if it is an ASCII letter. -/
def lowerFirst (name : String) : String :=
  match name.toList with
  | [] => ""
  | c :: cs => String.ofList (c.toLower :: cs)

/-- ASCII letters and digits, beginning with a letter. -/
def IsIdentifier (s : String) : Prop :=
  ∃ c cs, s.toList = c :: cs ∧ c.isAlpha ∧ ∀ d ∈ c :: cs, d.isAlphanum

end QmlExport.Identifier
