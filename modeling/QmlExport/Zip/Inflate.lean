import QmlExport.Text.Utf8
import QmlExport.Zip.Huffman

/-!
# Inflating

Compressed data is a sequence of blocks. A block holds octets as they are, or symbols of a Huffman
code: octets, and copies of what was written a short while ago.

    octets ──▶ bits ──block by block──▶ octets

Each symbol uses up bits (`length_readStep_lt`), so that a block ends with the data, and so does the
sequence of blocks. What stands behind the last block is ignored.
-/

namespace QmlExport.Zip

open Text

/-- The bits of an octet, the lowest first. -/
def bitsOfByte (b : UInt8) : Bits := (List.range 8).map b.toNat.testBit

/-- The bits of octets. -/
def bitsOf (bs : Bytes) : Bits := bs.flatMap bitsOfByte

/-- Take a number of `n` bits, the lowest first. -/
def takeNumber : Nat → Bits → Option (Nat × Bits)
  | 0, bits => some (0, bits)
  | _ + 1, [] => none
  | n + 1, b :: bits => (takeNumber n bits).map fun (value, rest) => (b.toNat + 2 * value, rest)

theorem length_takeNumber {n value : Nat} {bits rest : Bits}
    (h : takeNumber n bits = some (value, rest)) : rest.length + n = bits.length := by
  induction n generalizing bits value rest with
  | zero => simp [takeNumber] at h; simp [h.2]
  | succ n ih =>
    cases bits with
    | nil => simp [takeNumber] at h
    | cons b bits =>
      obtain ⟨⟨v, r⟩, hr, he⟩ := Option.map_eq_some_iff.1 h
      have := ih hr
      simp at he
      simp [← he.2]; omega

/-- What lies in front of the octet boundary. -/
def toBoundary (bits : Bits) : Bits := bits.drop (bits.length % 8)

/-- Take octets. -/
def takeBytes : Nat → Bits → Option (Bytes × Bits)
  | 0, bits => some ([], bits)
  | n + 1, bits => do
    let (b, bits) ← takeNumber 8 bits
    let (bs, bits) ← takeBytes n bits
    some (.ofNat b :: bs, bits)

/-- The shortest copy of each length code, with the number of extra bits. -/
def lengthCodes : List (Nat × Nat) :=
  [(3, 0), (4, 0), (5, 0), (6, 0), (7, 0), (8, 0), (9, 0), (10, 0), (11, 1), (13, 1), (15, 1),
    (17, 1), (19, 2), (23, 2), (27, 2), (31, 2), (35, 3), (43, 3), (51, 3), (59, 3), (67, 4),
    (83, 4), (99, 4), (115, 4), (131, 5), (163, 5), (195, 5), (227, 5), (258, 0)]

/-- The least distance of each distance code, with the number of extra bits. -/
def distanceCodes : List (Nat × Nat) :=
  [(1, 0), (2, 0), (3, 0), (4, 0), (5, 1), (7, 1), (9, 2), (13, 2), (17, 3), (25, 3), (33, 4),
    (49, 4), (65, 5), (97, 5), (129, 6), (193, 6), (257, 7), (385, 7), (513, 8), (769, 8),
    (1025, 9), (1537, 9), (2049, 10), (3073, 10), (4097, 11), (6145, 11), (8193, 12), (12289, 12),
    (16385, 13), (24577, 13)]

/-- The number that a code with its extra bits stands for. -/
def takeExtra (codes : List (Nat × Nat)) (code : Nat) (bits : Bits) : Option (Nat × Bits) := do
  let (least, extra) ← codes[code]?
  let (more, bits) ← takeNumber extra bits
  some (least + more, bits)

theorem length_takeExtra {codes : List (Nat × Nat)} {code value : Nat} {bits rest : Bits}
    (h : takeExtra codes code bits = some (value, rest)) : rest.length ≤ bits.length := by
  simp only [takeExtra, Option.bind_eq_bind, Option.bind_eq_some_iff] at h
  obtain ⟨⟨least, extra⟩, -, ⟨more, r⟩, h₂, h₃⟩ := h
  simp at h₃
  have := length_takeNumber h₂
  rw [← h₃.2]; omega

/-- Copy what was written `distance` octets ago onto the end of what was written, octet by octet, so
that a copy may reach into itself. In front of everything there are zeros. -/
def copy : (length distance : Nat) → (written : Array UInt8) → Array UInt8
  | 0, _, written => written
  | length + 1, distance, written =>
    let b := if distance ≤ written.size then written.getD (written.size - distance) 0 else 0
    copy length distance (written.push b)

/-- What the next symbol of a block says. -/
inductive Step
  | byte (b : UInt8)
  | endOfBlock
  | copy (length distance : Nat)

/-- Read the next symbol with all that belongs to it. -/
def readStep (literals distances : Tree) (bits : Bits) : Option (Step × Bits) :=
  match literals.read bits with
  | none => none
  | some (symbol, bits) =>
    if symbol < 256 then some (.byte (.ofNat symbol), bits)
    else if symbol = 256 then some (.endOfBlock, bits)
    else
      match takeExtra lengthCodes (symbol - 257) bits with
      | none => none
      | some (length, bits) =>
        match distances.read bits with
        | none => none
        | some (code, bits) =>
          match takeExtra distanceCodes code bits with
          | none => none
          | some (distance, bits) => some (.copy length distance, bits)

theorem length_readStep_lt {literals distances : Tree} {bits rest : Bits} {s : Step}
    (h : readStep literals distances bits = some (s, rest)) : rest.length < bits.length := by
  unfold readStep at h
  split at h
  · simp at h
  · next symbol bits₁ h₁ =>
    have l₁ := Tree.length_read_lt h₁
    split at h
    · simp at h; rw [← h.2]; exact l₁
    · split at h
      · simp at h; rw [← h.2]; exact l₁
      · split at h
        · simp at h
        · next length bits₂ h₂ =>
          have l₂ := length_takeExtra h₂
          split at h
          · simp at h
          · next code bits₃ h₃ =>
            have l₃ := Tree.length_read_lt h₃
            split at h
            · simp at h
            · next distance bits₄ h₄ =>
              have l₄ := length_takeExtra h₄
              simp at h
              rw [← h.2]; omega

/-- Write what the symbols of a block say, up to its end. -/
def inflateSymbols (literals distances : Tree) (bits : Bits) (written : Array UInt8) :
    Option (Array UInt8 × Bits) :=
  match _h : readStep literals distances bits with
  | none => none
  | some (.endOfBlock, rest) => some (written, rest)
  | some (.byte b, rest) => inflateSymbols literals distances rest (written.push b)
  | some (.copy length distance, rest) =>
    inflateSymbols literals distances rest (copy length distance written)
termination_by bits.length
decreasing_by
  all_goals exact length_readStep_lt ‹_›

/-- The code lengths of the fixed code for octets and lengths. -/
def fixedLiterals : List Nat :=
  List.replicate 144 8 ++ List.replicate 112 9 ++ List.replicate 24 7 ++ List.replicate 8 8

/-- The code lengths of the fixed code for distances. -/
def fixedDistances : List Nat := List.replicate 32 5

/-- The order in which the lengths of the code for code lengths are given. -/
def lengthOrder : List Nat := [16, 17, 18, 0, 8, 7, 9, 6, 10, 5, 11, 4, 12, 3, 13, 2, 14, 1, 15]

/-- Read the lengths of the code for code lengths. -/
def takeLengthLengths (count : Nat) (bits : Bits) : Option (List Nat × Bits) := do
  let given ← (lengthOrder.take count).foldlM (fun (found, bits) symbol => do
    let (n, bits) ← takeNumber 3 bits
    some ((symbol, n) :: found, bits)) (([] : List (Nat × Nat)), bits)
  some ((List.range 19).map fun symbol => (given.1.lookup symbol).getD 0, given.2)

/-- The code lengths that the next symbol stands for, the last first: one, or a run of equal ones.
`found` are the lengths before it, the last first. -/
def readRun (codes : Tree) (found : List Nat) (bits : Bits) : Option (List Nat × Bits) :=
  match codes.read bits with
  | none => none
  | some (symbol, bits) =>
    if symbol < 16 then some ([symbol], bits)
    else
      let run (value least extra : Nat) :=
        (takeNumber extra bits).map fun (more, bits) => (List.replicate (least + more) value, bits)
      match symbol, found with
      | 16, previous :: _ => run previous 3 2
      | 17, _ => run 0 3 3
      | 18, _ => run 0 11 7
      | _, _ => none

theorem length_readRun_lt {codes : Tree} {found lengths : List Nat} {bits rest : Bits}
    (h : readRun codes found bits = some (lengths, rest)) : rest.length < bits.length := by
  unfold readRun at h
  split at h
  · simp at h
  · next symbol bits₁ h₁ =>
    have l₁ := Tree.length_read_lt h₁
    split at h
    · simp at h; rw [← h.2]; exact l₁
    · have run {value least extra : Nat}
          (h : (takeNumber extra bits₁).map
            (fun x => (List.replicate (least + x.1) value, x.2)) = some (lengths, rest)) :
          rest.length < bits.length := by
        obtain ⟨⟨more, r⟩, h₂, h₃⟩ := Option.map_eq_some_iff.1 h
        have := length_takeNumber h₂
        simp at h₃
        rw [← h₃.2]; omega
      split at h
      · exact run h
      · exact run h
      · exact run h
      · simp at h

/-- Read code lengths until there are `count`. `found` are those read before, the last first. -/
def takeLengths (codes : Tree) (count : Nat) (found : List Nat) (bits : Bits) :
    Option (List Nat × Bits) :=
  if found.length = count then some (found.reverse, bits)
  else if count < found.length then none
  else
    match _h : readRun codes found bits with
    | none => none
    | some (run, rest) => takeLengths codes count (run ++ found) rest
termination_by bits.length
decreasing_by exact length_readRun_lt ‹_›

/-- The greatest number of codes for octets and lengths. -/
def literalLimit : Nat := 286

/-- The greatest number of codes for distances. -/
def distanceLimit : Nat := 30

/-- Read the codes of a block that brings its own. -/
def takeCodes (bits : Bits) : Option (Tree × Tree × Bits) := do
  let (n, bits) ← takeNumber 5 bits
  let literalCount := n + 257
  let (n, bits) ← takeNumber 5 bits
  let distanceCount := n + 1
  let (n, bits) ← takeNumber 4 bits
  if literalLimit < literalCount || distanceLimit < distanceCount then none
  else
    let (lengths, bits) ← takeLengthLengths (n + 4) bits
    let codes ← Tree.ofLengths? lengths
    let (lengths, bits) ← takeLengths codes (literalCount + distanceCount) [] bits
    let literals ← Tree.ofLengths? (lengths.take literalCount)
    let distances ← Tree.ofLengths? (lengths.drop literalCount)
    some (literals, distances, bits)

/-- Write a block of octets as they are: their number, the same with all bits inverted, and the
octets. -/
def inflateStored (bits : Bits) (written : Array UInt8) : Option (Array UInt8 × Bits) := do
  let (n, bits) ← takeNumber 16 (toBoundary bits)
  let (inverse, bits) ← takeNumber 16 bits
  if n + inverse = 65535 then
    let (bs, bits) ← takeBytes n bits
    some (bs.foldl .push written, bits)
  else none

/-- Write a block of a kind: stored, with the fixed codes, or with its own. -/
def inflateBlock (kind : Nat) (bits : Bits) (written : Array UInt8) :
    Option (Array UInt8 × Bits) :=
  match kind with
  | 0 => inflateStored bits written
  | 1 => do
    let literals ← Tree.ofLengths? fixedLiterals
    let distances ← Tree.ofLengths? fixedDistances
    inflateSymbols literals distances bits written
  | 2 => do
    let (literals, distances, bits) ← takeCodes bits
    inflateSymbols literals distances bits written
  | _ => none

/-- Write block after block, up to the last one. `limit` bounds the number of blocks. -/
def inflateBlocks : (limit : Nat) → Bits → Array UInt8 → Option Bytes
  | 0, _, _ => none
  | limit + 1, bits, written => do
    let (last, bits) ← takeNumber 1 bits
    let (kind, bits) ← takeNumber 2 bits
    let (written, bits) ← inflateBlock kind bits written
    if last = 1 then some written.toList else inflateBlocks limit bits written

/-- The octets that compressed octets stand for. Every block takes more than one bit, so there are
no more blocks than bits. -/
def inflate (bs : Bytes) : Option Bytes :=
  let bits := bitsOf bs
  inflateBlocks bits.length bits #[]

end QmlExport.Zip
