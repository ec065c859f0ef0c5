import QmlExport.Host.Mapping
import QmlExport.Host.Punycode
import QmlExport.Text.Composition
import QmlExport.Text.Direction
import QmlExport.Text.Joining

/-!
# Labels of hosts

The name of a host is a sequence of labels with dots between them. A label that begins with `xn--`
is the ASCII form of another one, which is the one that the rules are about:

* no mark stands at its beginning;
* a joiner stands only where it makes a difference (`joinersFit`);
* if a label of the host runs to the left, every label runs one way (`runsOneWay`).
-/

namespace QmlExport.Host

open Text

/-- What the ASCII forms of labels begin with. -/
def asciiFormStart : List Char := "xn--".toList

/-- How long what follows the beginning of an ASCII form may be. -/
def asciiFormLimit : Nat := 2000

/-- How long a label with other characters than ASCII ones may be. -/
def labelLimit : Nat := 1000

/-- Whether a character is an ASCII one. -/
def isAscii (c : Char) : Bool := c.toNat < 0x80

/-- Characters that no host may have, for all that they may be kept otherwise. -/
def isForbidden (c : Char) : Bool :=
  c.toNat ≤ 0x20 || c.toNat == 0x7F || "#%/:<>?@[\\]^|".toList.contains c

/-- The label that an ASCII form stands for: it has to be spelled the one way that is preferred, and
must not look like an ASCII form itself. -/
def ofAsciiForm? (form : List Char) : Option (List Char) := do
  if asciiFormLimit < form.length || form.getLastD '-' = '-' then none
  else
    let label ← Punycode.decode? form
    if label.all (fun c => fate c = .kept && c ≠ '.') && compose label = label &&
        !asciiFormStart.isPrefixOf label then some label
    else none

/-- The label that a label of a name stands for. -/
def plainLabel? (label : List Char) : Option (List Char) := do
  let plain ←
    if asciiFormStart.isPrefixOf label then ofAsciiForm? (label.drop asciiFormStart.length)
    else some label
  if plain.any isForbidden then none else some plain

/-- The joiner that lets letters take the shapes they have side by side. -/
def joiner : Char := Char.ofNat 0x200D

/-- The joiner that keeps letters from taking those shapes. -/
def nonJoiner : Char := Char.ofNat 0x200C

/-- Whether the nearest character of a text that is not transparent is of a kind. -/
def reaches (kind : Char → Bool) (cs : List Char) : Bool :=
  ((cs.dropWhile isTransparent).head?.map kind).getD false

/-- Whether a joiner makes a difference behind and in front of other characters: it stands behind a
sign that takes the vowel away, or it keeps two letters apart that would be joined. `before` is in
reverse. -/
def joinerFits (c : Char) (before after : List Char) : Bool :=
  match before with
  | [] => false
  | b :: _ =>
    combiningClass b == vowelKillerClass ||
      (c == nonJoiner && reaches joinsNext before && reaches joinsPrevious after)

/-- Whether every joiner makes a difference. `before` is what stands in front, in reverse. -/
def joinersFit (before : List Char) : List Char → Bool
  | [] => true
  | c :: cs =>
    (if c = joiner || c = nonJoiner then joinerFits c before cs else true) &&
      joinersFit (c :: before) cs

/-- Whether a character makes a host one that also runs to the left. -/
def turns (c : Char) : Bool := direction c = .leftward || direction c = .arabicNumber

/-- Whether the last character that is not a nonspacing mark has one of the directions. -/
def endsIn (directions : List Direction) (ds : List Direction) : Bool :=
  match (ds.reverse.dropWhile (· == .nonspacing)).head? with
  | some d => directions.contains d
  | none => false

/-- Whether a label runs one way: to the right, or to the left with numbers of one kind. -/
def runsOneWay (label : List Char) : Bool :=
  let ds := label.map direction
  match ds.head? with
  | none => true
  | some .rightward =>
    ds.all ([.rightward, .europeanNumber, .neutral, .nonspacing].contains ·) &&
      endsIn [.rightward, .europeanNumber] ds
  | some .leftward =>
    ds.all (· != .rightward) && endsIn [.leftward, .europeanNumber, .arabicNumber] ds &&
      !(ds.contains .europeanNumber && ds.contains .arabicNumber)
  | some _ => false

/-- Whether a label is well formed by itself. -/
def isLabel (label : List Char) : Bool :=
  !(label.head?.map isMark).getD false && joinersFit [] label &&
    (label.all isAscii || label.length ≤ labelLimit)

/-- The labels of the name of a host, if each is well formed and they go together. -/
def labels? (name : List Char) : Option (List (List Char)) := do
  let labels := pieces (· == '.') (compose (← mapped? name))
  let plain ← labels.mapM plainLabel?
  if plain.all isLabel && (!plain.any (·.any turns) || plain.all runsOneWay) then some labels
  else none

end QmlExport.Host
