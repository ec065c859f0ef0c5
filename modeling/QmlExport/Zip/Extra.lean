import QmlExport.Text.CodePage437
import QmlExport.Zip.Checksum
import QmlExport.Zip.Ending

/-!
# Further fields of directory entries

Behind the name of a directory entry there may be further fields, each with a number for its kind,
its size, and octets. Some of them take the place of what the entry tells: numbers that are too
large for it, its name and its comment in UTF-8, and the method of data that is encrypted. Times are
passed over, as are fields of unknown kinds.

A field may lie about its size, so that fields are read one after the other as their kinds want it.
When the octets end in the middle of a field, what was read before counts; a field that cannot be
meant spoils the entry.
-/

namespace QmlExport.Zip

open Text

/-- What the further fields of an entry may change. -/
structure Details where
  name : Bytes
  nameText : String
  comment : Bytes
  method : Nat
  size : Nat
  unpackedSize : Nat
  offset : Nat
  encrypted : Bool
  deriving DecidableEq, Repr

namespace Extra

/-- Why further fields are not read to their end. -/
inductive Halt
  /-- The octets end. -/
  | ended
  /-- A field cannot be meant. -/
  | spoiled
  deriving DecidableEq, Repr

/-- What is known of an entry so far, and the octets that are left. -/
structure State where
  details : Details
  rest : Bytes
  deriving DecidableEq, Repr

/-- Reads a part of further fields. -/
abbrev Reader (α : Type) := ExceptT Halt (StateM State) α

/-- Take octets. -/
def take (n : Nat) : Reader Bytes := do
  match cut? n (← get).rest with
  | some (front, rest) =>
    modify fun s => { s with rest := rest }
    pure front
  | none => throw .ended

/-- Take a number of `n` octets. -/
def takeNumber (n : Nat) : Reader Nat := numberOf <$> take n

/-- Change what is known of the entry. -/
def change (f : Details → Details) : Reader Unit :=
  modify fun s => { s with details := f s.details }

/-- Go on only if something holds. -/
def demand (holds : Bool) : Reader Unit := if holds then pure () else throw .spoiled

/-- Large numbers: the sizes and the offset, each only if it is too large for the entry, or all of
them if there is room. -/
def readNumbers (size : Nat) : Reader Unit := do
  let wanted (n : Nat) := decide (24 ≤ size) || n == fourOctetsLimit
  let d := (← get).details
  if wanted d.unpackedSize then
    let n ← takeNumber 8
    change fun d => { d with unpackedSize := n }
  if wanted d.size then
    let n ← takeNumber 8
    change fun d => { d with size := n }
  if wanted d.offset then
    let n ← takeNumber 8
    change fun d => { d with offset := n }
  let taken := 8 * ([d.unpackedSize, d.size, d.offset].filter wanted).length
  demand (taken ≤ size)
  let _ ← take (size - taken)

/-- A text in UTF-8 that takes the place of another one, whose checksum it tells. -/
def readText (size : Nat) (replaced : Details → Bytes) : Reader (Bytes × String) := do
  let _ ← take 1
  let sum ← takeNumber 4
  demand (5 ≤ size)
  let bs ← take (size - 5)
  demand ((checksum (replaced (← get).details)).toNat == sum)
  match Utf8.text? bs with
  | some s => pure (bs, s)
  | none => throw .spoiled

/-- Times of one system: three of eight octets each, behind a heading. -/
def readLongTimes (size : Nat) : Reader Unit := do
  demand (size == 32)
  let _ ← take 4
  demand ((← takeNumber 2) == 1)
  demand ((← takeNumber 2) == 24)
  let _ ← take 24

/-- How many of the lowest three bits of a number are set. -/
def lowBits (n : Nat) : Nat := ([0, 1, 2].filter n.testBit).length

/-- Times of another system: flags tell which of three times are there, four octets each. There may
also be one time whatever the flags. -/
def readTimes (size : Nat) : Reader Unit := do
  let flags ← takeNumber 1
  demand (flags < 8 && (size == 5 || size == 1 + 4 * lowBits flags))
  let _ ← take (size - 1)

/-- How data is encrypted, and the method below. -/
def readEncryption (size : Nat) : Reader Unit := do
  demand (size == 7)
  let version ← takeNumber 2
  let vendor ← takeNumber 2
  let strength ← takeNumber 1
  let method ← takeNumber 2
  demand (vendor == 0x4541 && 1 ≤ version && version ≤ 2 && 1 ≤ strength && strength ≤ 3)
  change fun d => { d with method := method, encrypted := true }

/-- Read a field. -/
def readField : Reader Unit := do
  let kind ← takeNumber 2
  let size ← takeNumber 2
  match kind with
  | 0x0001 => readNumbers size
  | 0x000A => readLongTimes size
  | 0x5455 => readTimes size
  | 0x6375 =>
    let (bs, _) ← readText size Details.comment
    change fun d => { d with comment := bs }
  | 0x7075 =>
    let (bs, s) ← readText size Details.name
    change fun d => { d with name := bs, nameText := s }
  | 0x9901 => readEncryption size
  | _ =>
    let _ ← take size

/-- Read fields up to the end. `limit` bounds their number. -/
def readFields : (limit : Nat) → Reader Unit
  | 0 => throw .ended
  | limit + 1 => do
    readField
    readFields limit

/-- What is known of an entry after its further fields, unless they spoil it. -/
def details? (d : Details) (fields : Bytes) : Option Details :=
  match (readFields (fields.length + 1)).run ⟨d, fields⟩ with
  | (.error .spoiled, _) => none
  | (_, s) => some s.details

end Extra

end QmlExport.Zip
