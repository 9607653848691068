/-! # The source of randomness

Random words come from a stream cipher: eight rounds of ChaCha over a 256-bit key and a 64-bit block
counter, with no nonce.  Word number `n` of the stream is a function of the key and `n` alone, so
the state of the source is the key and the number of words taken so far. -/

namespace Artillery

/-- A stream of 32-bit words and the position of the next one. -/
structure Keystream where
  key : Vector UInt32 8
  position : Nat
  deriving DecidableEq

namespace Keystream

/-- The sixteen words a block is computed on. -/
abbrev Block := Vector UInt32 16

/-- Moves the bits of a word up by `n`, those at the top coming in again at the bottom. -/
def rotate (w n : UInt32) : UInt32 := w <<< n ||| w >>> (32 - n)

/-- Mixes four words of a block. -/
def quarterRound (s : Block) (a b c d : Fin 16) : Block :=
  let (wa, wb, wc, wd) := (s[a], s[b], s[c], s[d])
  let wa := wa + wb
  let wd := rotate (wd ^^^ wa) 16
  let wc := wc + wd
  let wb := rotate (wb ^^^ wc) 12
  let wa := wa + wb
  let wd := rotate (wd ^^^ wa) 8
  let wc := wc + wd
  let wb := rotate (wb ^^^ wc) 7
  ((((s.set a wa).set b wb).set c wc).set d wd)

/-- Two rounds: the four columns of the block, then its four diagonals. -/
def doubleRound (s : Block) : Block :=
  -- The columns.
  let s := quarterRound s 0 4 8 12
  let s := quarterRound s 1 5 9 13
  let s := quarterRound s 2 6 10 14
  let s := quarterRound s 3 7 11 15
  -- The diagonals.
  let s := quarterRound s 0 5 10 15
  let s := quarterRound s 1 6 11 12
  let s := quarterRound s 2 7 8 13
  quarterRound s 3 4 9 14

/-- Block number `n`: constants, key, counter and nonce, mixed by eight rounds and added to the
mix. -/
def block (key : Vector UInt32 8) (n : UInt64) : Block :=
  let start : Block :=
    #v[0x61707865, 0x3320646e, 0x79622d32, 0x6b206574,
       key[0], key[1], key[2], key[3], key[4], key[5], key[6], key[7],
       n.toUInt32, (n >>> 32).toUInt32, 0, 0]
  let mixed := doubleRound (doubleRound (doubleRound (doubleRound start)))
  mixed.zipWith (· + ·) start

/-- One step of the generator that spreads a seed over the key: its next state and the word it
gives. -/
def expand (s : UInt64) : UInt64 × UInt32 :=
  let s := s * 6364136223846793005 + 11634580027462260723
  let x := (((s >>> 18) ^^^ s) >>> 27).toUInt32
  let turn := (s >>> 59).toUInt32
  (s, x >>> turn ||| x <<< ((32 - turn) % 32))

/-- The key made from a seed: eight words of the spreading generator. -/
def keyOfSeed (seed : UInt64) : Vector UInt32 8 :=
  let rec go : (n : Nat) → UInt64 → Vector UInt32 8 → Vector UInt32 8
    | 0, _, key => key
    | n + 1, s, key =>
      let (s, word) := expand s
      go n s (key.setIfInBounds (7 - n) word)
  go 8 seed (Vector.replicate 8 0)

/-- The stream of a seed, before its first word. -/
def ofSeed (seed : UInt64) : Keystream := ⟨keyOfSeed seed, 0⟩

/-- Word number `n` of the stream. -/
def word (k : Keystream) (n : Nat) : UInt32 :=
  (block k.key (UInt64.ofNat (n / 16)))[n % 16]

end Keystream

end Artillery
