import QmlExport.Text.Numeral

/-!
# Numeric addresses of hosts

Hosts that are given by numbers: up to four numbers with dots between them, of which the last fills
what is left, or groups of hexadecimal digits with colons between them.
-/

namespace QmlExport.Host

open Text

/-- Whether decimal digits spell a number below a bound. -/
def isBelow (bound : Nat) (ds : List Char) : Bool :=
  match valueIn? 10 ds with
  | some n => n < bound
  | none => false

/-- A number of an address: decimal, octal behind `0`, or hexadecimal behind `0x`. -/
def addressNumber? (cs : List Char) : Option Nat :=
  match cs with
  | [] => none
  | '0' :: 'x' :: ds => valueIn? 16 ds
  | '0' :: 'X' :: ds => valueIn? 16 ds
  | '0' :: d :: ds => valueIn? 8 (d :: ds)
  | ds => valueIn? 10 ds

/-- Labels without the empty one behind a dot at the end. -/
def withoutLastDot (labels : List (List Char)) : List (List Char) :=
  if labels.getLast? == some [] && 1 < labels.length then labels.dropLast else labels

/-- Whether a host has to be an address of numbers, since its last label is one. -/
def looksNumeric (labels : List (List Char)) : Bool :=
  match (withoutLastDot labels).getLast? with
  | none => false
  | some l => (!l.isEmpty && l.all Char.isDigit) || (addressNumber? l).isSome

/-- Whether labels are an address of up to four numbers, of which the last fills what is left. -/
def isNumeric (labels : List (List Char)) : Bool :=
  match (withoutLastDot labels).mapM addressNumber? with
  | none => false
  | some ns =>
    ns.length ≤ 4 && ns.dropLast.all (· < 256) && ns.getLastD 0 < Nat.pow 256 (5 - ns.length)

/-- A group of an address in brackets: up to four hexadecimal digits. -/
def isGroup (cs : List Char) : Bool :=
  !cs.isEmpty && cs.length ≤ 4 && (valueIn? 16 cs).isSome

/-- Four decimal numbers below 256 without zeros in front. -/
def isDottedQuad (cs : List Char) : Bool :=
  let ls := pieces (· == '.') cs
  ls.length = 4 && ls.all fun l =>
    !l.isEmpty && (l.length = 1 || l.head? != some '0') && isBelow 256 l

/-- How many groups stand between colons; the last may be four decimal numbers, which count
twice. -/
def groups? (mayEndDotted : Bool) (cs : List Char) : Option Nat :=
  if cs.isEmpty then some 0
  else
    let gs := pieces (· == ':') cs
    if gs.all isGroup then some gs.length
    else if mayEndDotted && gs.dropLast.all isGroup && isDottedQuad (gs.getLastD []) then
      some (gs.length + 1)
    else none

/-- The first place with two colons: what stands before and after. -/
def cutAtGap : List Char → Option (List Char × List Char)
  | ':' :: ':' :: cs => some ([], cs)
  | c :: cs => (cutAtGap cs).map fun (before, after) => (c :: before, after)
  | [] => none

/-- An address in brackets: eight groups, or fewer with one gap. -/
def isBracketed (cs : List Char) : Bool :=
  match cutAtGap cs with
  | none => groups? true cs == some 8
  | some (before, after) =>
    match groups? false before, groups? true after with
    | some m, some n => m + n ≤ 7
    | _, _ => false

end QmlExport.Host
