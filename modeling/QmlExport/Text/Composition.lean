import QmlExport.Text.CombiningClass
import QmlExport.Text.Composite

/-!
# Composed texts

One text can be spelled with composite characters or with their parts, and with marks on a letter in
different orders. `compose` chooses one spelling: the text is taken apart, marks are put in the
order of their classes, and then all is put together that can be.
-/

namespace QmlExport.Text

/-- The parts of the parts of a character, taken apart at most `depth` times. -/
def takeApart : (depth : Nat) → Char → List Char
  | 0, c => [c]
  | depth + 1, c =>
    match parts? c with
    | some (a, b) => takeApart depth a ++ [b]
    | none => [c]

/-- How often a character can be taken apart. -/
def compositeDepth : Nat := 3

/-- Put a mark behind the characters that it does not belong in front of. The characters stand in
reverse. -/
def placeMark (c : Char) : List Char → List Char
  | [] => [c]
  | d :: ds =>
    if combiningClass c ≠ 0 && combiningClass c < combiningClass d then d :: placeMark c ds
    else c :: d :: ds

/-- The characters with their marks in order. -/
def inOrder (cs : List Char) : List Char := (cs.foldl (fun ds c => placeMark c ds) []).reverse

/-- Put what can be put together into a character. `marks` are the marks on it, in reverse, that
stay by themselves; a mark that one of its class or a higher one stays in front of stays as well. -/
def putTogether (starter : Char) (marks : List Char) : List Char → List Char
  | [] => starter :: marks.reverse
  | c :: cs =>
    let reaches :=
      match marks with
      | [] => true
      | mark :: _ => combiningClass mark < combiningClass c
    match if reaches then composite? starter c else none with
    | some whole => putTogether whole marks cs
    | none =>
      if combiningClass c = 0 then starter :: marks.reverse ++ putTogether c [] cs
      else putTogether starter (c :: marks) cs

/-- The composed spelling of a text. -/
def compose (cs : List Char) : List Char :=
  let cs := inOrder (cs.flatMap (takeApart compositeDepth))
  let isLoose (c : Char) : Bool := combiningClass c ≠ 0
  match cs.dropWhile isLoose with
  | [] => cs
  | starter :: rest => cs.takeWhile isLoose ++ putTogether starter [] rest

end QmlExport.Text
