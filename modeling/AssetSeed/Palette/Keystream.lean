/-!
# A keystream of pseudo-random numbers

Twelve rounds of the ChaCha block function over a key of 256 bits and a block counter, with a key
that is spread from a seed of 64 bits.

## Main definitions

* `Keystream.ofSeed` — the key of a seed.
* `Keystream.block` — sixteen words of the stream.
* `Keystream.number` — the `n`-th number of 64 bits.
-/

namespace AssetSeed

/-- A row of the state: four words that are worked on side by side. -/
structure Row where
  w : UInt32
  x : UInt32
  y : UInt32
  z : UInt32
deriving Repr, DecidableEq, Inhabited

namespace Row

def zipWith (f : UInt32 → UInt32 → UInt32) (r s : Row) : Row :=
  ⟨f r.w s.w, f r.x s.x, f r.y s.y, f r.z s.z⟩

/-- A row with its words one place to the left. -/
def turn (r : Row) : Row :=
  ⟨r.x, r.y, r.z, r.w⟩

def toList (r : Row) : List UInt32 :=
  [r.w, r.x, r.y, r.z]

end Row

structure Keystream where
  low : Row
  high : Row
deriving Repr, DecidableEq, Inhabited

namespace Keystream

def rotateLeft (n : UInt32) (word : UInt32) : UInt32 :=
  (word <<< n) ||| (word >>> (32 - n))

def xorRotate (n : UInt32) (r s : Row) : Row :=
  r.zipWith (fun a b => rotateLeft n (a ^^^ b)) s

def add (r s : Row) : Row :=
  r.zipWith (· + ·) s

structure State where
  a : Row
  b : Row
  c : Row
  d : Row

/-- One round on all four columns. -/
def State.round (s : State) : State :=
  let a := add s.a s.b
  let d := xorRotate 16 s.d a
  let c := add s.c d
  let b := xorRotate 12 s.b c
  let a := add a b
  let d := xorRotate 8 d a
  let c := add c d
  let b := xorRotate 7 b c
  ⟨a, b, c, d⟩

/-- One round on the columns and one on the diagonals. -/
def State.doubleRound (s : State) : State :=
  let s := s.round
  let s := State.round ⟨s.a, s.b.turn, s.c.turn.turn, s.d.turn.turn.turn⟩
  ⟨s.a, s.b.turn.turn.turn, s.c.turn.turn, s.d.turn⟩

def start (key : Keystream) (counter : UInt64) : State where
  a := ⟨0x61707865, 0x3320646e, 0x79622d32, 0x6b206574⟩
  b := key.low
  c := key.high
  d := ⟨counter.toUInt32, (counter >>> 32).toUInt32, 0, 0⟩

def block (key : Keystream) (counter : UInt64) : List UInt32 :=
  let s := key.start counter
  let t := Nat.repeat State.doubleRound 6 s
  (add s.a t.a).toList ++ (add s.b t.b).toList ++ (add s.c t.c).toList ++ (add s.d t.d).toList

def word (key : Keystream) (n : Nat) : UInt32 :=
  (key.block (UInt64.ofNat (n / 16)))[n % 16]?.getD 0

/-- Two words, the lower half first. -/
def number (key : Keystream) (n : Nat) : UInt64 :=
  (key.word (2 * n)).toUInt64 ||| ((key.word (2 * n + 1)).toUInt64 <<< 32)

/-! ## Seeds -/

def advance (state : UInt64) : UInt64 :=
  state * 6364136223846793005 + 11634580027462260723

/-- The word that a state of the seed's own generator gives. -/
def seedWord (state : UInt64) : UInt32 :=
  let mixed := (((state >>> 18) ^^^ state) >>> 27).toUInt32
  let turns := (state >>> 59).toUInt32
  (mixed >>> turns) ||| (mixed <<< ((32 - turns) % 32))

def ofSeed (seed : UInt64) : Keystream :=
  let state (n : Nat) := Nat.repeat advance (n + 1) seed
  let word (n : Nat) := seedWord (state n)
  ⟨⟨word 0, word 1, word 2, word 3⟩, ⟨word 4, word 5, word 6, word 7⟩⟩

end Keystream

end AssetSeed
