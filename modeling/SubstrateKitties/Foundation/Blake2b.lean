import SubstrateKitties.Foundation.Words

/-!
# BLAKE2b with a 16-byte digest

The unkeyed hash function BLAKE2b, cut to a digest of 16 bytes.  The working
state is a list of sixteen 64-bit words, of which the first eight carry over
from block to block.
-/

namespace SubstrateKitties.Foundation.Blake2b

abbrev Words := List UInt64

def initial : Words :=
  [0x6a09e667f3bcc908, 0xbb67ae8584caa73b, 0x3c6ef372fe94f82b,
   0xa54ff53a5f1d36f1, 0x510e527fade682d1, 0x9b05688c2b3e6c1f,
   0x1f83d9abfb41bd6b, 0x5be0cd19137e2179]

def schedule : List (List Nat) :=
  [[0, 1, 2, 3, 4, 5, 6, 7, 8, 9, 10, 11, 12, 13, 14, 15],
   [14, 10, 4, 8, 9, 15, 13, 6, 1, 12, 0, 2, 11, 7, 5, 3],
   [11, 8, 12, 0, 5, 2, 15, 13, 10, 14, 3, 6, 7, 1, 9, 4],
   [7, 9, 3, 1, 13, 12, 11, 14, 2, 6, 5, 10, 4, 0, 15, 8],
   [9, 0, 5, 7, 2, 4, 10, 15, 14, 1, 11, 12, 6, 8, 3, 13],
   [2, 12, 6, 10, 0, 11, 8, 3, 4, 13, 7, 5, 15, 14, 1, 9],
   [12, 5, 1, 15, 14, 13, 4, 10, 0, 7, 6, 3, 9, 2, 8, 11],
   [13, 11, 7, 14, 12, 1, 3, 9, 5, 0, 15, 4, 8, 6, 2, 10],
   [6, 15, 14, 9, 11, 3, 0, 8, 12, 2, 13, 7, 1, 4, 10, 5],
   [10, 2, 8, 4, 7, 6, 1, 5, 15, 11, 9, 14, 3, 12, 13, 0],
   [0, 1, 2, 3, 4, 5, 6, 7, 8, 9, 10, 11, 12, 13, 14, 15],
   [14, 10, 4, 8, 9, 15, 13, 6, 1, 12, 0, 2, 11, 7, 5, 3]]

/-- The four columns of the working state, then its four diagonals. -/
def lanes : List (Nat × Nat × Nat × Nat) :=
  [(0, 4, 8, 12), (1, 5, 9, 13), (2, 6, 10, 14), (3, 7, 11, 15),
   (0, 5, 10, 15), (1, 6, 11, 12), (2, 7, 8, 13), (3, 4, 9, 14)]

def rotateRight (word count : UInt64) : UInt64 :=
  (word >>> count) ||| (word <<< (64 - count))

def mix (state : Words) (lane : Nat × Nat × Nat × Nat) (x y : UInt64) : Words :=
  let (a, b, c, d) := lane
  let va := state.getD a 0 + state.getD b 0 + x
  let vd := rotateRight (state.getD d 0 ^^^ va) 32
  let vc := state.getD c 0 + vd
  let vb := rotateRight (state.getD b 0 ^^^ vc) 24
  let va := va + vb + y
  let vd := rotateRight (vd ^^^ va) 16
  let vc := vc + vd
  let vb := rotateRight (vb ^^^ vc) 63
  (((state.set a va).set b vb).set c vc).set d vd

def mixLanes (message : Words) :
    List (Nat × Nat × Nat × Nat) → List Nat → Words → Words
  | lane :: lanes, x :: y :: order, state =>
      mixLanes message lanes order
        (mix state lane (message.getD x 0) (message.getD y 0))
  | _, _, state => state

def compress (chain message : Words) (offset : UInt64) (final : Bool) : Words :=
  let state := chain ++ initial
  let state := state.set 12 (state.getD 12 0 ^^^ offset)
  let state :=
    if final then state.set 14 (state.getD 14 0 ^^^ 0xffffffffffffffff)
    else state
  let state := schedule.foldl
    (fun state order => mixLanes message lanes order state) state
  (List.range 8).map fun i =>
    chain.getD i 0 ^^^ state.getD i 0 ^^^ state.getD (i + 8) 0

def messageWords : Nat → List UInt8 → Words
  | 0, _ => []
  | count + 1, bytes =>
      UInt64.ofNat (leValue (bytes.take 8)) ::
        messageWords count (bytes.drop 8)

/-- Absorb `full` whole blocks and then the last one, padded with zeros. -/
def absorb (chain : Words) (offset : Nat) : Nat → List UInt8 → Words
  | 0, bytes =>
      compress chain
        (messageWords 16 (bytes ++ List.replicate (128 - bytes.length) 0))
        (UInt64.ofNat (offset + bytes.length)) true
  | full + 1, bytes =>
      absorb
        (compress chain (messageWords 16 (bytes.take 128))
          (UInt64.ofNat (offset + 128)) false)
        (offset + 128) full (bytes.drop 128)

def digest (bytes : List UInt8) : Vector UInt8 16 :=
  let chain := absorb (initial.set 0 (initial.getD 0 0 ^^^ 0x01010010)) 0
    ((bytes.length - 1) / 128) bytes
  let output := encodeU64 (chain.getD 0 0) ++ encodeU64 (chain.getD 1 0)
  Vector.ofFn fun i => output.getD i 0

end SubstrateKitties.Foundation.Blake2b
