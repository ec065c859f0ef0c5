import QmlExport.Host
import QmlExport.Text.LetterCase

/-!
# Addresses

Which texts are absolute addresses. An address begins with a scheme; the well-known schemes need a
host, and hosts and ports must be well formed. Paths, queries and fragments may be anything.
-/

namespace QmlExport.Settings.Url

open Text

/-- Characters of schemes behind the first one. -/
def isSchemeChar (c : Char) : Bool := c.isAlphanum || c == '+' || c == '-' || c == '.'

/-- The scheme in lower case, and what follows its colon. -/
def scheme? (cs : List Char) : Option (List Char × List Char) :=
  match cs.head?, cs.dropWhile isSchemeChar with
  | some c, ':' :: rest =>
    if c.isAlpha then some (asciiLower (cs.takeWhile isSchemeChar), rest) else none
  | _, _ => none

/-- The schemes that need a host. -/
def hostSchemes : List (List Char) := ["http", "https", "ws", "wss", "ftp"].map String.toList

/-- The scheme of files, whose host may be left out. -/
def fileScheme : List Char := "file".toList

/-- Slashes of either kind. -/
def isAnySlash (c : Char) : Bool := c == '/' || c == '\\'

/-- Characters that begin a path, a query or a fragment. -/
def beginsPath (c : Char) : Bool := c == '/' || c == '?' || c == '#'

/-- Whether a port is well formed; it may be left out behind its colon. A backslash ends it. -/
def isPort (cs : List Char) : Bool := Host.isBelow 65536 (cs.takeWhile (· != '\\'))

/-- The host and the port, cut at the first colon outside of brackets. -/
def cutPort (inside : Bool) : List Char → List Char × Option (List Char)
  | [] => ([], none)
  | c :: cs =>
    if c = ':' && !inside then ([], some cs)
    else
      let inside := if c = '[' then true else if c = ']' then false else inside
      let (host, port) := cutPort inside cs
      (c :: host, port)

/-- The user in front of the last at sign, if there is one, and what follows. -/
def cutUser (cs : List Char) : Option (List Char) × List Char :=
  match (pieces (· == '@') cs).reverse with
  | rest :: user :: users => (some (glue '@' (users.reverse ++ [user])), rest)
  | _ => (none, cs)

/-- Whether a user tells a name or a password. -/
def tellsUser (user : List Char) : Bool := user != [] && user != [':']

/-- What stands between the slashes and the path: a user, a host and a port. A host may be left out
only where none is needed, and not behind a user or in front of a port. -/
def isAuthority (needsHost : Bool) (cs : List Char) : Bool :=
  let goesOn (c : Char) : Bool := !(beginsPath c || (needsHost && c == '\\'))
  let (user, rest) := cutUser (cs.takeWhile goesOn)
  let (host, port) := cutPort false rest
  if host.isEmpty then
    !needsHost && port.isNone && !(user.map tellsUser).getD false &&
      !(user == some [] && !(cs.dropWhile goesOn).isEmpty)
  else
    (if needsHost then Host.isHost host else Host.isOpaqueHost host) && (port.map isPort).getD true

/-- A drive letter, which is no host. -/
def isDrive : List Char → Bool
  | [c, d] => c.isAlpha && (d == ':' || d == '|')
  | _ => false

/-- What stands between the slashes and the path of an address of a file: a host alone, or
nothing. -/
def isFileAuthority (cs : List Char) : Bool :=
  let host := cs.takeWhile fun c => !(beginsPath c || c == '\\')
  host.isEmpty || isDrive host || Host.isHost host

/-- Control characters and spaces, which are dropped at both ends. -/
def isControlOrSpace (c : Char) : Bool := c.toNat ≤ 0x20

/-- Characters that are dropped wherever they stand. -/
def isDropped (c : Char) : Bool := c == '\t' || c == '\n' || c == '\r'

/-- Whether what follows the colon of a scheme is well formed. -/
def isRest (scheme rest : List Char) : Bool :=
  if hostSchemes.contains scheme then isAuthority true (rest.dropWhile isAnySlash)
  else
    match rest with
    | a :: b :: rest =>
      if scheme = fileScheme then !(isAnySlash a && isAnySlash b) || isFileAuthority rest
      else !(a == '/' && b == '/') || isAuthority false rest
    | _ => true

/-- Whether a text is an absolute address. -/
def isUrl (s : String) : Bool :=
  let cs := (s.toList.dropWhile isControlOrSpace).reverse.dropWhile isControlOrSpace |>.reverse
  match scheme? (cs.filter fun c => !isDropped c) with
  | none => false
  | some (scheme, rest) => isRest scheme rest

end QmlExport.Settings.Url
