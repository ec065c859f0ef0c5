import QmlExport.CommandLine

/-!
# Reading command lines

    arguments ──before the verb──▶ scan ──behind the verb──▶ scan ──request──▶ command line

A scan goes over the arguments from left to right. A setting that has been named stays pending until
something else is taken up; only then its value is looked at, so an unknown argument is reported
before a missing value to its left. Behind `--` nothing is a switch, a setting or a verb.
-/

namespace QmlExport.CommandLine

/-- What an argument looks like. -/
inductive Shape
  /-- Two hyphens alone. -/
  | escape
  /-- A name behind two hyphens, with what stands behind an equals sign. -/
  | long (name : String) (value : Option String)
  /-- A letter behind one hyphen, with the rest. -/
  | short (letter : Char) (rest : List Char)
  | plain
  deriving DecidableEq, Repr

/-- What an argument looks like. -/
def Shape.of (arg : String) : Shape :=
  match arg.toList with
  | ['-', '-'] => .escape
  | '-' :: '-' :: cs =>
    let name := String.ofList (cs.takeWhile (· != '='))
    match cs.dropWhile (· != '=') with
    | [] => .long name none
    | _ :: value => .long name (some (String.ofList value))
  | '-' :: c :: cs => .short c cs
  | _ => .plain

/-- What can be named. -/
inductive Item
  | switch (s : Switch)
  | setting (s : Setting)
  | help
  | version
  deriving DecidableEq, Repr

/-- What can be named, before the verb or behind it. -/
def items (verb : Option Verb) : List (String × Item) :=
  [("verbose", .switch .verbose), ("config", .setting .settingsFile),
    ("store-dir", .setting .storeFolder), ("format", .setting .format), ("help", .help),
    ("version", .version)] ++
  (if verb.any Verb.generates then
    [("add-ids", .switch .addIds), ("add-unique-ids", .switch .addUniqueIds),
      ("add-object-names", .switch .addObjectNames), ("download-fonts", .switch .downloadFonts)]
  else []) ++
  (if verb.any Verb.packs then [("output", .setting .output)] else [])

/-- What a letter stands for, before the verb or behind it. -/
def lettered? (verb : Option Verb) (letter : Char) : Option Item :=
  match letter with
  | 'h' => some .help
  | 'V' => some .version
  | 'o' => (items verb).lookup "output"
  | _ => none

/-- Whether a setting can have a value. -/
def accepts (s : Setting) (value : String) : Bool :=
  match s with
  | .format => (Format.ofName? value).isSome
  | _ => !value.isEmpty

/-- What has been found so far: switches, settings, a setting that is pending with its value if that
is there, and whether two hyphens have been passed. -/
structure Scan where
  switches : List Switch
  settings : List (Setting × String)
  pending : Option (Setting × Option String)
  escaped : Bool
  deriving DecidableEq, Repr

namespace Scan

/-- Nothing has been found. -/
def empty : Scan := ⟨[], [], none, false⟩

/-- Give a setting a value. -/
def put (s : Scan) (x : Setting) (value : String) : Except Fault Scan :=
  if (s.settings.lookup x).isSome then .error .conflict
  else if accepts x value then .ok { s with settings := (x, value) :: s.settings }
  else .error .invalidValue

/-- Look at what is pending. -/
def settle (s : Scan) : Except Fault Scan :=
  match s.pending with
  | none => .ok s
  | some (_, none) => .error .invalidValue
  | some (x, some value) => { s with pending := none }.put x value

/-- Take up a switch. -/
def turnOn (s : Scan) (x : Switch) : Except Fault Scan :=
  if s.switches.contains x then .error .conflict else .ok { s with switches := x :: s.switches }

/-- Take up something that was named, with the value that was attached to it. -/
def take (verb : Option Verb) (s : Scan) (i : Item) (value : Option String) :
    Except Fault Scan := do
  match i, value with
  | .setting x, some value => (← s.settle).put x value
  | .setting x, none => .ok { ← s.settle with pending := some (x, none) }
  | _, some _ => .error .valueOfSwitch
  | .switch x, none => (← s.settle).turnOn x
  | .help, none => s.settle >>= fun _ => .error .help
  | .version, none => s.settle >>= fun _ => .error (.version verb)

/-- Take up a letter with the rest of its argument. The rest belongs to a setting as its value, with
or without an equals sign; behind anything else it is never reached. -/
def takeLetter (verb : Option Verb) (s : Scan) (letter : Char) (rest : List Char) :
    Except Fault Scan :=
  match lettered? verb letter, rest with
  | none, _ => .error .unknownArgument
  | some (.setting x), '=' :: value => s.take verb (.setting x) (some (String.ofList value))
  | some (.setting x), c :: value => s.take verb (.setting x) (some (String.ofList (c :: value)))
  | some i, _ => s.take verb i none

/-- The setting that waits for the next argument as its value. -/
def waiting? (s : Scan) : Option Setting :=
  match s.pending with
  | some (x, none) => if s.escaped then none else some x
  | _ => none

/-- Whether there is still a place for a file. -/
def wantsFile (s : Scan) (verb : Option Verb) : Bool :=
  verb.any Verb.takesFile && (s.settings.lookup .file).isNone &&
    !(s.pending.any fun p => p.1 == .file)

/-- The fault of an argument that has no place. -/
def misplaced (s : Scan) (verb : Option Verb) (arg : String) : Fault :=
  if verb.isSome then .unknownArgument
  else if s.escaped && (arg == "help" || (Verb.ofName? arg).isSome) then .unknownArgument
  else .unknownVerb

/-- Take up an argument that is a value or a file. -/
def takePlain (verb : Option Verb) (s : Scan) (arg : String) : Except Fault Scan := do
  match s.waiting? with
  | some x => .ok { s with pending := some (x, some arg) }
  | none =>
    if s.wantsFile verb then .ok { ← s.settle with pending := some (.file, some arg) }
    else .error (s.misplaced verb arg)

/-- Take up an argument. -/
def step (verb : Option Verb) (s : Scan) (arg : String) : Except Fault Scan :=
  match if s.escaped then .plain else Shape.of arg with
  | .escape => .ok { s with escaped := true }
  | .long name value =>
    match (items verb).lookup name with
    | none => .error .unknownArgument
    | some i => s.take verb i value
  | .short letter rest => s.takeLetter verb letter rest
  | .plain => s.takePlain verb arg

end Scan

/-- Help on verbs: behind `help` stand the name of a verb, `help` itself, or nothing. -/
def helpOn (args : List String) : Fault :=
  match args with
  | [] => .help
  | [arg] => if arg == "help" || (Verb.ofName? arg).isSome then .help else .unknownVerb
  | _ => .unknownVerb

/-- Scan the arguments up to the verb. Returns the verb and the arguments behind it, if there is
one. -/
def scanBefore : Scan → List String → Except Fault (Scan × Option (Verb × List String))
  | s, [] => .ok (s, none)
  | s, arg :: args => do
    if s.escaped || s.waiting?.isSome then scanBefore (← s.step none arg) args
    else if arg == "help" then .error (helpOn args)
    else
      match Verb.ofName? arg with
      | some verb => .ok (s, some (verb, args))
      | none => scanBefore (← s.step none arg) args

/-- Scan the arguments behind the verb. -/
def scanBehind (verb : Verb) (args : List String) : Except Fault Scan := do
  (← args.foldlM (Scan.step (some verb)) .empty).settle

namespace Scan

/-- The options that are switched on. -/
def options (s : Scan) : Design.Options :=
  ⟨s.switches.contains .addIds, s.switches.contains .addUniqueIds,
    s.switches.contains .addObjectNames, s.switches.contains .downloadFonts⟩

/-- The path that a setting gives. -/
def path? (s : Scan) (x : Setting) : Option Path := (s.settings.lookup x).map Path.mk

/-- The file to work on. -/
def file (s : Scan) : Except Fault Path :=
  match s.path? .file with
  | some p => .ok p
  | none => .error .missingFile

/-- What is asked for behind a verb. Of the two kinds of identifiers only one can be wanted. -/
def request (s : Scan) (verb : Verb) : Except Fault Request := do
  if s.options.addIds && s.options.addUniqueIds then .error .conflict
  else
    match verb with
    | .upload => .ok (.upload (← s.file))
    | .process => .ok (.process s.options)
    | .package => .ok (.package (s.path? .output))
    | .convert => .ok (.convert (← s.file) s.options (s.path? .output))
    | .reset => .ok .reset

/-- The fault of a scan that has found no verb. -/
def withoutVerb (s : Scan) : Fault :=
  if s.switches.isEmpty && s.settings.isEmpty then .nothing else .missingVerb

end Scan

/-- The command line of a request; what stands behind the verb goes before what stands in front. -/
def ofScans (before behind : Scan) (request : Request) : CommandLine :=
  let all := behind.settings ++ before.settings
  ⟨request, (behind.switches ++ before.switches).contains .verbose,
    (all.lookup .settingsFile).map Path.mk, (all.lookup .storeFolder).map Path.mk,
    ((all.lookup .format).bind Format.ofName?).getD .compact⟩

/-- Read the arguments of a command line. -/
def read (args : List String) : Except Fault CommandLine := do
  match ← scanBefore .empty args with
  | (before, none) => .error (← before.settle).withoutVerb
  | (before, some (verb, args)) =>
    let behind ← scanBehind verb args
    let request ← behind.request verb
    .ok (ofScans (← before.settle) behind request)

end QmlExport.CommandLine
