import QmlExport.Answer

/-!
# Answers for readers

On a terminal an answer is shown in a few lines: a coloured heading with what happened, the details
of the report, and the log. Without colours the same lines are plain.
-/

namespace QmlExport

open Upload

/-- The colours of a terminal. -/
inductive Color
  | red
  | green
  | yellow
  | blue
  | cyan
  deriving DecidableEq, Repr

namespace Color

/-- The number of a colour. -/
def code : Color → String
  | .red => "31"
  | .green => "32"
  | .yellow => "33"
  | .blue => "34"
  | .cyan => "36"

/-- A text in a colour, where colours are wanted. -/
def paint (colored : Bool) (c : Color) (s : String) : String :=
  if colored then "\x1b[" ++ c.code ++ "m" ++ s ++ "\x1b[0m" else s

end Color

namespace Run.Report

/-- The lines about the fonts of a run. -/
def fontLines (colored : Bool) (s : FontSummary) : List String :=
  let ratio := numberText s.available ++ "/" ++ numberText s.requested
  let color := if s.failures.isEmpty then Color.green else Color.yellow
  ("Fonts ready: " ++ color.paint colored ratio) ::
    s.failures.map fun f => "- " ++ f.family ++ ": " ++ f.message

/-- The lines about the details of a report. -/
def detailLines (colored : Bool) (r : Report) : List String :=
  (if 0 < r.images then ["Images: " ++ numberText r.images] else []) ++
  (if r.fontFamilies.isEmpty then [] else ["Font families: " ++ Text.join ", " r.fontFamilies]) ++
  (match r.fonts with
    | some s => fontLines colored s
    | none => [])

end Run.Report

namespace Answer

/-- The lines of a log. -/
def logLines (log : List String) : List String :=
  if log.isEmpty then [] else "Log:" :: log.map fun line => "  " ++ line

/-- The lines about an outcome. -/
def lines (colored : Bool) : Outcome → List String
  | .uploaded receipt storeFolder =>
    [Color.cyan.paint colored "[UPLOAD]" ++ " Stored " ++ receipt.fileName ++ " (" ++
      numberText receipt.size ++ " bytes)", "Store: " ++ storeFolder.text]
  | .processed _ report log =>
    (Color.green.paint colored "[PROCESS]" ++ " Generated " ++ numberText report.codeFiles ++
      " QML file(s) from " ++ if report.resumed then "cached metadata" else "uploaded archive") ::
      (report.detailLines colored ++ logLines log)
  | .packaged parcel =>
    [Color.blue.paint colored "[PACKAGE]" ++ " " ++ numberText parcel.fileCount ++
      " file(s) -> " ++ parcel.path.text ++ " (" ++ numberText parcel.size ++ " bytes)"]
  | .converted receipt _ report parcel log =>
    [Color.green.paint colored "[CONVERT]" ++ " " ++ receipt.fileName ++ " -> " ++
      parcel.body.path.text,
      "QML files: " ++ numberText report.codeFiles ++ ", archive entries: " ++
        numberText parcel.body.fileCount] ++
      report.detailLines colored ++ logLines log
  | .cleared storeFolder =>
    [Color.yellow.paint colored "[RESET]" ++ " Store cleared: " ++ storeFolder.text]
  | .failed message payload =>
    (Color.red.paint colored "[ERROR]" ++ " " ++ message.getD payload.message) ::
      (match payload.remedy with
        | some remedy => ["Hint: " ++ remedy]
        | none => [])

/-- An answer for a reader, each line ended. -/
def display (colored : Bool) (a : Answer) : String :=
  (lines colored a.body).foldl (fun s line => s ++ line ++ "\n") ""

end Answer

end QmlExport
