/-!
# Text literals

A text literal of the generated code: double quotes around the text, with quotes, backslashes and
line feeds escaped. Carriage returns are left out. `unquote` reads the escapes back.
-/

namespace QmlExport.Code

/-- How one character is written inside a literal. -/
def escapeChar : Char → List Char
  | '"' => ['\\', '"']
  | '\\' => ['\\', '\\']
  | '\n' => ['\\', 'n']
  | '\r' => []
  | c => [c]

/-- A text as a literal, as characters. -/
def quoteChars (cs : List Char) : List Char := '"' :: cs.flatMap escapeChar ++ ['"']

/-- A text as a literal. -/
def quote (s : String) : String := String.ofList (quoteChars s.toList)

/-- The text of a literal's inside: undo the three escapes, stop at an unescaped quote. -/
def unescape : List Char → Option (List Char)
  | [] => some []
  | '\\' :: '"' :: cs => (unescape cs).map ('"' :: ·)
  | '\\' :: '\\' :: cs => (unescape cs).map ('\\' :: ·)
  | '\\' :: 'n' :: cs => (unescape cs).map ('\n' :: ·)
  | c :: cs => if c = '\\' || c = '"' then none else (unescape cs).map (c :: ·)

/-- The text that a literal stands for. -/
def unquote : List Char → Option (List Char)
  | '"' :: cs => if cs.getLast? = some '"' then unescape cs.dropLast else none
  | _ => none

end QmlExport.Code
