import QmlExport.Host.Address
import QmlExport.Host.Label
import QmlExport.Text.Utf8

/-!
# Hosts

Which texts name a host in an address. A host is an address in brackets or a name; the characters of
a name may be escaped, and a name that ends in a number has to be a numeric address. Where a scheme
leaves hosts to itself, all but a few characters may stand in one.
-/

namespace QmlExport.Host

open Text

/-- The octets of a text, with escapes undone: a percent sign and two hexadecimal digits. -/
def unescape : List Char → Bytes
  | '%' :: a :: b :: cs =>
    match valueIn? 16 [a, b] with
    | some n => .ofNat n :: unescape cs
    | none => Utf8.encodeChar '%' ++ unescape (a :: b :: cs)
  | c :: cs => Utf8.encodeChar c ++ unescape cs
  | [] => []

/-- Whether a text is the name of a host, which is not empty. -/
def isName (cs : List Char) : Bool :=
  match (Utf8.text? (unescape cs)).bind fun name => labels? name.toList with
  | none => false
  | some labels => labels != [[]] && (!looksNumeric labels || isNumeric labels)

/-- Characters that may not stand in a host that is left to the scheme. -/
def isForbiddenInOpaque (c : Char) : Bool :=
  c.toNat == 0 || "\t\n\r #/:<>?@[\\]^|".toList.contains c

/-- Whether a host in brackets is one, or else what is left satisfies a condition. -/
def isBracketedOr (isElse : List Char → Bool) (host : List Char) : Bool :=
  match host with
  | '[' :: cs => cs.getLast? == some ']' && isBracketed cs.dropLast
  | host => isElse host

/-- Whether a text is a host where one is needed. -/
def isHost (host : List Char) : Bool := isBracketedOr isName host

/-- Whether a text is a host where hosts are left to the scheme. -/
def isOpaqueHost (host : List Char) : Bool :=
  isBracketedOr (fun cs => !cs.any isForbiddenInOpaque) host

end QmlExport.Host
