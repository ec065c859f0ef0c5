import QmlExport.Disk
import QmlExport.Failure
import QmlExport.Json.Printer
import QmlExport.Settings.Duration
import QmlExport.Settings.Url
import QmlExport.Toml.Document
import QmlExport.Upload

/-!
# Settings

What can be configured: where the store is, where fonts come from, how strongly packages are
compressed and how large uploads may be. Settings are read from a TOML file, the given one or the
central one of the user; whatever it leaves out has a default. Keys that mean nothing are refused.
-/

namespace QmlExport

open Json

namespace Settings

/-- The settings of fonts. -/
structure FontSettings where
  address : String
  apiKey : Option String
  timeout : Duration
  deriving DecidableEq, Repr

end Settings

open Settings

/-- All settings. -/
structure Settings where
  storeFolder : Option Path
  fonts : FontSettings
  level : Int
  uploadLimit : Nat
  deriving DecidableEq, Repr

namespace Settings

/-! ### Defaults -/

/-- The settings of fonts when nothing is configured. -/
def defaultFonts : FontSettings :=
  ⟨"https://www.googleapis.com/webfonts/v1/webfonts", none, ⟨30, 0⟩⟩

/-- The level of compression when nothing is configured. -/
def defaultLevel : Int := 6

/-- The settings when nothing is configured. -/
def default : Settings := ⟨none, defaultFonts, defaultLevel, Upload.defaultLimit⟩

/-! ### Reading -/

/-- The values given for fields, of a table by name and of an array in order. A table must not have
other keys; an array may have more items than there are fields. -/
def fields? (names : List String) : Toml.Value → Option (List (String × Toml.Value))
  | .table _ ms => if ms.all fun m => names.contains m.1 then some ms else none
  | .array vs => some (names.zip vs)
  | .tables ts => some (names.zip ts.reverse)
  | _ => none

/-- The value of a field, or its default. -/
def orElse (given : List (String × Toml.Value)) (name : String) (read : Toml.Value → Option α)
    (otherwise : α) : Option α :=
  match given.lookup name with
  | none => some otherwise
  | some v => read v

/-- A text. -/
def text? : Toml.Value → Option String
  | .string s => some s
  | _ => none

/-- An integer. -/
def integer? : Toml.Value → Option Int
  | .scalar (.integer n) => some n
  | _ => none

/-- A natural number. -/
def nat? (v : Toml.Value) : Option Nat :=
  (integer? v).bind fun n => if 0 ≤ n then some n.toNat else none

/-- A duration. -/
def duration? (v : Toml.Value) : Option Duration := (text? v).bind Duration.parse?

/-- The settings of fonts. -/
def fonts? (v : Toml.Value) : Option FontSettings := do
  let given ← fields? ["api_url", "api_key", "timeout"] v
  let address ← orElse given "api_url" text? defaultFonts.address
  let apiKey ← orElse given "api_key" (fun v => (text? v).map some) defaultFonts.apiKey
  let timeout ← orElse given "timeout" duration? defaultFonts.timeout
  some ⟨address, apiKey, timeout⟩

/-- The level of compression. -/
def level? (v : Toml.Value) : Option Int := do
  let given ← fields? ["compression_level"] v
  orElse given "compression_level" integer? defaultLevel

/-- The greatest size of uploads. -/
def uploadLimit? (v : Toml.Value) : Option Nat := do
  let given ← fields? ["max_size_bytes"] v
  orElse given "max_size_bytes" nat? Upload.defaultLimit

/-- The settings that the members of a document give. -/
def ofMembers? (ms : Toml.Members) : Option Settings := do
  let given ← fields? ["store_dir", "fonts", "archive", "upload"] (.table .header ms)
  let storeFolder ← orElse given "store_dir" (fun v => (text? v).map fun s => some ⟨s⟩) none
  let fonts ← orElse given "fonts" fonts? defaultFonts
  let level ← orElse given "archive" level? defaultLevel
  let uploadLimit ← orElse given "upload" uploadLimit? Upload.defaultLimit
  some ⟨storeFolder, fonts, level, uploadLimit⟩

/-- The settings that a TOML text gives. -/
def parse? (s : String) : Option Settings := (Toml.parse? s).bind ofMembers?

/-! ### The surroundings -/

/-- The variables of the surroundings. -/
abbrev Variables := List (String × String)

/-- The variable that holds the key for fonts. -/
def keyVariable : String := "QMLBRIDGE_FONTS_API_KEY"

/-- Take the key for fonts from a variable, unless it is blank. -/
def withKey (s : Settings) (key : Option String) : Settings :=
  match key with
  | none => s
  | some k => if Text.allBlank k then s else { s with fonts := { s.fonts with apiKey := some k } }

/-- A directory of the user: that of a variable, unless it is empty, or one below the home
directory. -/
def userDirectory? (vars : Variables) (variable_ : String) (belowHome : String) : Option Path :=
  match (vars.lookup variable_).filter fun s => !s.isEmpty with
  | some s => some ⟨s⟩
  | none => (vars.lookup "HOME").map fun home => Path.join ⟨home⟩ ⟨belowHome⟩

/-- The central settings file of the user. -/
def centralPath? (vars : Variables) : Option Path :=
  (userDirectory? vars "XDG_CONFIG_HOME" ".config").map fun dir =>
    (dir.join ⟨"qmlbridge"⟩).join ⟨"config.toml"⟩

/-- The folder of the store: the configured one, or one in the data directory of the user, or one
right here. -/
def resolvedStoreFolder (s : Settings) (vars : Variables) : Path :=
  match s.storeFolder with
  | some p => p
  | none =>
    match userDirectory? vars "XDG_DATA_HOME" ".local/share" with
    | some dir => (dir.join ⟨"qmlbridge"⟩).join ⟨"store"⟩
    | none => ⟨".qmlbridge"⟩

/-- The folder of the store: the one that was asked for wins over the settings. -/
def chosenStoreFolder (s : Settings) (wanted : Option Path) (vars : Variables) : Path :=
  wanted.getD (s.resolvedStoreFolder vars)

/-! ### Checking and loading -/

/-- An integer in a message. -/
def integerText (n : Int) : String := String.ofList (Decimal.Numeral.ofInt n).render

/-- What is wrong with settings, if anything. -/
def complaint? (s : Settings) : Option String :=
  if s.fonts.timeout.isZero then some "fonts.timeout must be greater than zero"
  else if s.level < 0 ∨ 9 < s.level then
    some ("archive.compression_level must be within 0..=9, got " ++ integerText s.level)
  else if s.uploadLimit = 0 then some "upload.max_size_bytes must be greater than zero"
  else none

/-- Read a settings file. -/
def ofFile (d : Disk) (p : Path) : Except String Settings :=
  let unreadable := "failed to read " ++ p.text ++ ": " ++ Failure.systemCause
  match d.read p with
  | .error _ => .error unreadable
  | .ok bs =>
    match Text.Utf8.text? bs with
    | none => .error unreadable
    | some s =>
      match parse? s with
      | none => .error ("failed to parse " ++ p.text ++ ": " ++ Failure.tomlCause)
      | some settings => .ok settings

/-- The settings of the given file, or of the central file if there is one. -/
def read (d : Disk) (vars : Variables) (given : Option Path) : Except String Settings := do
  let settings ←
    match given with
    | some p => ofFile d p
    | none =>
      match (centralPath? vars).filter d.isFile with
      | some p => ofFile d p
      | none => .ok default
  .ok (settings.withKey (vars.lookup keyVariable))

/-- The failure of settings that cannot be read. -/
def unreadable (vars : Variables) (given : Option Path) (why : String) : Failure :=
  let place :=
    match given, centralPath? vars with
    | some p, _ => p.text
    | none, some p => p.text
    | none, none => "defaults"
  .unclassified ("Failed to read config " ++ place ++ ": " ++ why)

/-- The failure of settings that make no sense. -/
def invalid (given : Option Path) (why : String) : Failure :=
  match given with
  | some p => .unclassified ("Invalid config (" ++ p.text ++ "): " ++ why)
  | none => .unclassified ("Invalid config: " ++ why)

/-- Load the settings of the given file, or of the central file if there is one. -/
def load (d : Disk) (vars : Variables) (given : Option Path) : Except Failure Settings :=
  match read d vars given with
  | .error why => .error (unreadable vars given why)
  | .ok settings =>
    match settings.complaint? with
    | some why => .error (invalid given why)
    | none => .ok settings

/-! ### Showing -/

/-- The settings in one line, without the key. -/
def summary (s : Settings) (given : Option Path) (storeFolder : Path) : String :=
  "Effective config [" ++ (given.map (·.text)).getD "defaults" ++ "]: store=" ++ storeFolder.text ++
    ", fonts: api=" ++ s.fonts.address ++ ", key=" ++
    (if s.fonts.apiKey.isSome then "set" else "unset") ++ ", timeout=" ++
    Upload.numberText s.fonts.timeout.seconds ++ "s, archive: level=" ++ integerText s.level ++
    ", upload: max=" ++ Upload.numberText s.uploadLimit ++ " bytes"

/-- The settings as a record. -/
def toJson (s : Settings) : Value :=
  .fields [("store_dir", .ofOption (fun p => .text p.text) s.storeFolder),
    ("fonts", .fields [("api_url", .text s.fonts.address),
      ("api_key", .ofOption .text s.fonts.apiKey), ("timeout", .text s.fonts.timeout.text)]),
    ("archive", .fields [("compression_level", .int s.level)]),
    ("upload", .fields [("max_size_bytes", .nat s.uploadLimit)])]

/-! ### Fonts -/

/-- The failure of downloads without a key. -/
def missingKey : Failure :=
  ⟨.fontDownload, "missing Google Fonts API key; set " ++ keyVariable ++ " or fonts.api_key"⟩

/-- The failure of downloads from nowhere. -/
def invalidAddress (address : String) : Failure :=
  ⟨.fontDownload, "invalid fonts API url " ++ address ++ ": " ++ Failure.urlCause⟩

/-- Whether fonts can be asked for: there must be a key that is not blank, and an address. -/
def checkFonts (f : FontSettings) : Except Failure Unit :=
  match f.apiKey.filter fun k => !Text.allBlank k with
  | none => .error missingKey
  | some _ => if Url.isUrl f.address then .ok () else .error (invalidAddress f.address)

end Settings

end QmlExport
