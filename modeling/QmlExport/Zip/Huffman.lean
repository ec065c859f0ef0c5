/-!
# Huffman codes

A canonical code is given by the length of the code word of each symbol. `Tree.ofLengths?` builds
the tree of such a code, and `Tree.read` walks it down bit by bit; `length_read_lt` says that this
uses up at least one bit, by which decoding loops end.
-/

namespace QmlExport.Zip

/-- Bits in the order in which they are read. -/
abbrev Bits := List Bool

/-- The tree of a prefix code. -/
inductive Tree
  | empty
  | leaf (symbol : Nat)
  | node (zero one : Tree)
  deriving Inhabited

namespace Tree

/-- Follow bits down to a leaf. -/
def walk : Tree → Bits → Option (Nat × Bits)
  | .leaf symbol, bits => some (symbol, bits)
  | .node zero one, b :: bits => walk (if b then one else zero) bits
  | _, _ => none

/-- The symbol that the next code word stands for. -/
def read : Tree → Bits → Option (Nat × Bits)
  | .node zero one, b :: bits => walk (if b then one else zero) bits
  | _, _ => none

theorem length_walk_le {t : Tree} {bits rest : Bits} {symbol : Nat}
    (h : t.walk bits = some (symbol, rest)) : rest.length ≤ bits.length := by
  induction bits generalizing t with
  | nil => cases t <;> simp_all [walk]
  | cons b bits ih =>
    cases t with
    | empty => simp [walk] at h
    | leaf s => simp [walk] at h; simp [← h.2]
    | node zero one =>
      rw [walk] at h
      have := ih h
      simp; omega

theorem length_read_lt {t : Tree} {bits rest : Bits} {symbol : Nat}
    (h : t.read bits = some (symbol, rest)) : rest.length < bits.length := by
  cases t <;> cases bits <;> simp only [read, reduceCtorEq] at h
  have := length_walk_le h
  simp; omega

/-- Hang a symbol at the end of a code word, growing the tree where needed. -/
def insert : Tree → Bits → Nat → Tree
  | _, [], symbol => .leaf symbol
  | .node zero one, b :: bits, symbol =>
    if b then .node zero (insert one bits symbol) else .node (insert zero bits symbol) one
  | _, b :: bits, symbol =>
    if b then .node .empty (insert .empty bits symbol) else .node (insert .empty bits symbol) .empty

/-- The lowest `n` bits of a number, the highest of them first. -/
def codeWord (code : Nat) : Nat → Bits
  | 0 => []
  | n + 1 => code.testBit n :: codeWord code n

/-- The greatest length of a code word. -/
def longest : Nat := 15

/-- How many symbols have code words of a length. -/
def countOf (lengths : List Nat) (n : Nat) : Nat := lengths.count n

/-- The first code word of each length from `n` on, for the given number of further lengths. -/
def firstCodes (lengths : List Nat) (n code : Nat) : Nat → List (Nat × Nat)
  | 0 => []
  | k + 1 =>
    (n, code) :: firstCodes lengths (n + 1) ((code + countOf lengths n) * 2) k

/-- Give the next code word of its length to each symbol. -/
def assign (next : List (Nat × Nat)) (symbol : Nat) : List Nat → Tree → Tree
  | [], t => t
  | 0 :: lengths, t => assign next (symbol + 1) lengths t
  | n :: lengths, t =>
    let code := (next.lookup n).getD 0
    assign (next.map fun e => if e.1 = n then (n, code + 1) else e) (symbol + 1) lengths
      (t.insert (codeWord code n) symbol)

/-- The share of all infinite bit sequences that begin with a code word, in units of
`1 / 2 ^ longest`. -/
def share (lengths : List Nat) : Nat :=
  (lengths.map fun n => if n = 0 then 0 else Nat.pow 2 (longest - n)).foldr (· + ·) 0

/-- The tree of the canonical code with these lengths. The code must be complete, unless it has no
code word at all or a single one, of one bit. -/
def ofLengths? (lengths : List Nat) : Option Tree :=
  let used := lengths.filter (· != 0)
  if share lengths = Nat.pow 2 longest || used = [] || used = [1] then
    some (assign (firstCodes lengths 1 0 longest) 0 lengths .empty)
  else none

end Tree

end QmlExport.Zip
