import HttpLoad.Number.Double

/-!
# Draws from a source of words

A draw takes words from a source and gives a value. A draw of a whole number rejects words that
would favour some of the results, and goes on until a word is accepted. A source may give no such
word ever, and then the draw never returns. So that it is a function here, it is given up after
`attemptsMax` words with the fault `tooManyRejections`, which stands for a draw that never returns:
no program gives up, and what is proved of draws excuses that fault.

## Main definitions

* `WordSource`, `Draw`: a source of words, and a draw from it
* `Draw.natIn`: a whole number of a range
* `Draw.doubleIn`: a double of a range
* `Draw.oneOf`: one of several values
* `WordStream.mix`: the block of a key and a counter
* `WordStream`, `WordStream.next`: a stream, and its next word
* `WordStream.ofSeed`: the stream of a seed
-/

namespace HttpLoad

/-! ## Draws -/

/-- **A source of words**, given by its states. -/
structure WordSource (σ : Type) where
  next : σ → UInt32 × σ

/-- **Why a draw gives no value.** -/
inductive DrawFault where
  | emptyRange
  /-- Words are rejected without end: the draw never returns. -/
  | tooManyRejections
  /-- What is drawn has more parts than room can be reserved for. -/
  | capacityOverflow
deriving DecidableEq, Repr

def DrawFault.message : DrawFault → String
  | emptyRange => "cannot sample empty range"
  | tooManyRejections => "too many draws were rejected"
  | capacityOverflow => "capacity overflow"

/-- **A draw** from a source with states `σ`. -/
abbrev Draw (σ : Type) := StateT σ (Except DrawFault)

namespace Draw

variable {σ : Type} (source : WordSource σ)

/-- A number of 32 bits. -/
def word : Draw σ Nat := fun s =>
  let (w, s) := source.next s
  .ok (w.toNat, s)

/-- A number of 64 bits: two words, the low one first. -/
def doubleWord : Draw σ Nat := do
  let low ← word source
  let high ← word source
  return high * Nat.pow 2 32 + low

/-- The greatest low half that is accepted in a draw of `bits` bits below `range`: just below the
greatest multiple of `range` by a power of two. -/
def zone (bits range : Nat) : Nat := range * Nat.pow 2 (bits - 1 - range.log2) - 1

/-- How many words are tried for one whole number. At most every second one is rejected on average,
so a draw that is given up after as many stands for one that never returns. -/
def attemptsMax : Nat := 1000

/-- A number below `range`: the high half of the product of `range` and a number of `bits` bits
that `draw` gives, unless its low half lies beyond the zone. Then another one is tried, as long as
attempts are left. -/
def below (draw : Draw σ Nat) (bits range : Nat) : Nat → Draw σ Nat
  | 0 => throw .tooManyRejections
  | attempts + 1 => do
    let v ← draw
    if v * range % Nat.pow 2 bits ≤ zone bits range then return v * range / Nat.pow 2 bits
    else below draw bits range attempts

/-- **A whole number** from `low` to `high`, both included. -/
def natIn (low high : Nat) : Draw σ Nat :=
  if high < low then throw .emptyRange
  else do
    let i ← below (doubleWord source) 64 (high - low + 1) attemptsMax
    return low + i

/-- **One of several values.** -/
def oneOf (first : α) (others : List α) : Draw σ α := do
  let i ← below (word source) 32 (others.length + 1) attemptsMax
  return (first :: others)[i]?.getD first

/-- The greatest fraction that is drawn: one less a unit in the last place of a double. -/
def fractionMax : Double := Double.ofRatio false ((Nat.pow 2 52 - 1) * Double.one) (Nat.pow 2 52)

/-- A double from zero up to below one: a multiple of `2 ^ -52`. -/
def fraction : Draw σ Double := do
  let v ← doubleWord source
  return Double.ofRatio false (v / Nat.pow 2 12 * Double.one) (Nat.pow 2 52)

/-- The next smaller double of a positive one. -/
def decrease (x : Double) : Double :=
  { x with
    magnitude := x.magnitude - 1
    magnitude_lt := Nat.lt_of_le_of_lt (Nat.sub_le _ _) x.magnitude_lt }

/-- A scale lowered until the greatest fraction stays within the range. -/
def lowerScale (low high : Double) : Nat → Double → Double
  | 0, scale => scale
  | fuel + 1, scale =>
    if high.below (scale * fractionMax + low) then lowerScale low high fuel (decrease scale)
    else scale

/-- The scale by which fractions are spread over a range. -/
def scaleOf (low high : Double) : Double :=
  lowerScale low high 64 ((high - low) / fractionMax)

/-- **A double** from `low` to `high`. -/
def doubleIn (low high : Double) : Draw σ Double := do
  let f ← fraction source
  return f * scaleOf low high + low

end Draw

/-!
## A seeded stream of words

Random words come from a stream cipher: a key and a block counter are mixed into sixteen words, and
the counter goes up for the next sixteen. A seed of 64 bits is spread over the eight words of the
key by a small generator of its own.
-/

/-- Sixteen words. -/
abbrev WordBlock := Vector UInt32 16

/-- **A stream of words**: the key, the number of the next block, and the words of the present block
that are still to come. -/
structure WordStream where
  key : Vector UInt32 8
  counter : UInt64 := 0
  pending : List UInt32 := []

namespace WordStream

def rotateLeft (w n : UInt32) : UInt32 := (w <<< n) ||| (w >>> (32 - n))

def rotateRight (w n : UInt32) : UInt32 := (w >>> (n &&& 31)) ||| (w <<< ((32 - n) &&& 31))

/-- A quarter round on four words of a block. -/
def quarter (s : WordBlock) (a b c d : Fin 16) : WordBlock :=
  let s := s.set a (s[a] + s[b])
  let s := s.set d (rotateLeft (s[d] ^^^ s[a]) 16)
  let s := s.set c (s[c] + s[d])
  let s := s.set b (rotateLeft (s[b] ^^^ s[c]) 12)
  let s := s.set a (s[a] + s[b])
  let s := s.set d (rotateLeft (s[d] ^^^ s[a]) 8)
  let s := s.set c (s[c] + s[d])
  s.set b (rotateLeft (s[b] ^^^ s[c]) 7)

/-- A round on the columns of a block, then one on its diagonals. -/
def doubleRound (s : WordBlock) : WordBlock :=
  let s := quarter s 0 4 8 12
  let s := quarter s 1 5 9 13
  let s := quarter s 2 6 10 14
  let s := quarter s 3 7 11 15
  let s := quarter s 0 5 10 15
  let s := quarter s 1 6 11 12
  let s := quarter s 2 7 8 13
  quarter s 3 4 9 14

/-- A block before it is mixed: four constants, the key, the counter, and two zeros. -/
def start (key : Vector UInt32 8) (counter : UInt64) : WordBlock :=
  #v[0x61707865, 0x3320646e, 0x79622d32, 0x6b206574,
    key[0], key[1], key[2], key[3], key[4], key[5], key[6], key[7],
    counter.toUInt32, (counter >>> 32).toUInt32, 0, 0]

/-- **The block of a key and a counter**: twelve rounds, and the start added. -/
def mix (key : Vector UInt32 8) (counter : UInt64) : WordBlock :=
  let first := start key counter
  let mixed := Nat.repeat doubleRound 6 first
  Vector.zipWith (· + ·) first mixed

/-- **The next word** of a stream. -/
def next (s : WordStream) : UInt32 × WordStream :=
  match s.pending with
  | w :: rest => (w, { s with pending := rest })
  | [] =>
    let block := mix s.key s.counter
    (block[0], { s with counter := s.counter + 1, pending := block.toList.tail })

/-- One step of the generator that spreads a seed. -/
def spread (s : UInt64) : UInt64 := s * 6364136223846793005 + 11634580027462260723

/-- The word that the spreading generator gives in a state. -/
def spreadWord (s : UInt64) : UInt32 :=
  rotateRight (((s >>> 18) ^^^ s) >>> 27).toUInt32 (s >>> 59).toUInt32

/-- The state of the spreading generator after a number of steps. -/
def spreadState (seed : UInt64) : Nat → UInt64
  | 0 => seed
  | n + 1 => spread (spreadState seed n)

/-- **The stream of a seed.** -/
def ofSeed (seed : UInt64) : WordStream where
  key := Vector.ofFn fun i : Fin 8 => spreadWord (spreadState seed (i + 1))

end WordStream

end HttpLoad
