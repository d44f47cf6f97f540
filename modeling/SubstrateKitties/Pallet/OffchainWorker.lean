import SubstrateKitties.Pallet.Calls

/-!
# The off-chain worker

`run_offchain_worker` reads the storage of the chain and writes nothing to it:
it draws random numbers and submits unsigned transactions.  It is a fallible
call on a state of its own, in which the solutions it checks are recorded too.
Arithmetic that would panic in the source stops the run with the reason.
-/

namespace SubstrateKitties.Pallet

open SubstrateKitties.Foundation
open SubstrateKitties.Foundation.Dispatch

/-- `err` is the `Err(())` of the source. -/
inductive Stop where
  | err
  | remByZero
  | subUnderflow
  | addOverflow
  deriving DecidableEq, Repr

/-- `rng` is the stream of the seeded generator, `drawn` its position. -/
structure Worker (AccountId : Type) where
  rng : Nat → UInt32
  drawn : Nat
  checked : List (BitVec 128)
  submitted : List (Call AccountId)

def Worker.start {AccountId : Type} (rng : Nat → UInt32) : Worker AccountId where
  rng := rng
  drawn := 0
  checked := []
  submitted := []

abbrev WorkerRun (AccountId α : Type) := Dispatch (Worker AccountId) Stop α

section Worker

variable {AccountId : Type}

def nextU32 : WorkerRun AccountId UInt32 := do
  let value ← query fun w => w.rng w.drawn
  write fun w => { w with drawn := w.drawn + 1 }
  pure value

def rem (a b : UInt32) : WorkerRun AccountId UInt32 := do
  ensure (b ≠ 0) .remByZero
  pure (a % b)

def add (a b : BitVec 128) : WorkerRun AccountId (BitVec 128) := do
  ensure (a.toNat + b.toNat < 2 ^ 128) .addOverflow
  pure (a + b)

def submitUnsignedTransaction (call : Call AccountId) :
    WorkerRun AccountId Unit :=
  write fun w => { w with submitted := w.submitted ++ [call] }

def maxIterations : Nat := 500

def drawPair (s : Storage AccountId) (kittyCount : UInt32) :
    WorkerRun AccountId (TokenId × TokenId × Bool) := do
  let draw1 ← nextU32
  let kittyId1 ← rem draw1 kittyCount
  let draw2 ← nextU32
  let kittyId2 ← rem draw2 kittyCount
  let kitty1 ← okOr (s.tokens kittyId1) .err
  let kitty2 ← okOr (s.tokens kittyId2) .err
  pure (kittyId1, kittyId2, decide (kitty1.data.gender ≠ kitty2.data.gender))

/-- The first loop, from the remaining iterations it is entered with. -/
def choosePair (s : Storage AccountId) (kittyCount : UInt32) :
    Nat → WorkerRun AccountId (TokenId × TokenId × Nat)
  | 0 => do
      let (kittyId1, kittyId2, couple) ← drawPair s kittyCount
      if couple then pure (kittyId1, kittyId2, 0) else fail .subUnderflow
  | remaining + 1 => do
      let (kittyId1, kittyId2, couple) ← drawPair s kittyCount
      if couple then pure (kittyId1, kittyId2, remaining + 1)
      else if remaining = 0 then fail .err
      else choosePair s kittyCount remaining

variable (T : Config AccountId)

def checkSolution (kittyId1 kittyId2 : TokenId) (nonce : UInt32)
    (solution : BitVec 128) : WorkerRun AccountId Bool := do
  write fun w => { w with checked := w.checked ++ [solution] }
  pure (validateSolution T kittyId1 kittyId2 nonce solution)

/-- The second loop, over the values that `i` has left. -/
def searchSolution (kittyId1 kittyId2 : TokenId) (nonce : UInt32)
    (solutionPrefix : BitVec 128) : List Nat → WorkerRun AccountId Unit
  | [] => pure ()
  | i :: rest => do
      let solution ← add (solutionPrefix <<< 32) (BitVec.ofNat 128 i)
      let valid ← checkSolution T kittyId1 kittyId2 nonce solution
      if valid then
        submitUnsignedTransaction (.autoBreed kittyId1 kittyId2 nonce solution)
      else
        searchSolution kittyId1 kittyId2 nonce solutionPrefix rest

/-- `locked` says whether `try_lock` has given out the lock. -/
def runOffchainWorker (locked : Bool) (s : Storage AccountId) :
    WorkerRun AccountId Unit := do
  ensure (locked = true) .err
  -- `TryInto<u32>` of the source cannot fail for a 32-bit `TokenId`
  let kittyCount := s.nft.nextTokenId s.classId
  if kittyCount = 0 then
    pure ()
  else do
    let nonce := s.autoBreedNonce
    let (kittyId1, kittyId2, remaining) ← choosePair s kittyCount maxIterations
    let solutionPrefix ← nextU32
    searchSolution T kittyId1 kittyId2 nonce
      (BitVec.ofNat 128 solutionPrefix.toNat) (List.range remaining)

/--
The hook of the pallet: what it submits, and the storage of the chain, which it
only reads.  The result of the run is dropped.
-/
def offchainWorker (locked : Bool) (rng : Nat → UInt32)
    (s : Storage AccountId) : List (Call AccountId) × Storage AccountId :=
  ((runOffchainWorker T locked s (.start rng)).2.submitted, s)

end Worker

end SubstrateKitties.Pallet
