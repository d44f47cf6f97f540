import SubstrateKitties.Foundation.Search
import SubstrateKitties.Pallet.OffchainWorker
import SubstrateKitties.Runs.Births

/-!
# The budget of the off-chain worker

The two loops of the worker share one budget: pairs are drawn until there is a
couple, and the iterations that are left go into the search for a solution.
Every id that is drawn is that of a kitty, so the worker gives up only when it
has drawn no couple, and none of its arithmetic can fail.
-/

namespace SubstrateKitties.Pallet

open SubstrateKitties.Foundation
open SubstrateKitties.Foundation.Dispatch

section WorkerBounds

variable {AccountId : Type}

/-! ## Drawing pairs -/

@[simp] theorem start_rng (rng : Nat → UInt32) :
    (Worker.start rng : Worker AccountId).rng = rng := rfl

@[simp] theorem start_drawn (rng : Nat → UInt32) :
    (Worker.start rng : Worker AccountId).drawn = 0 := rfl

@[simp] theorem start_checked (rng : Nat → UInt32) :
    (Worker.start rng : Worker AccountId).checked = [] := rfl

@[simp] theorem start_submitted (rng : Nat → UInt32) :
    (Worker.start rng : Worker AccountId).submitted = [] := rfl

@[simps]
def Worker.advance (w : Worker AccountId) (count : Nat) : Worker AccountId :=
  { w with drawn := w.drawn + count }

/-- The pair of ids that the `i`-th pass of the first loop draws. -/
def drawnPair (rng : Nat → UInt32) (kittyCount : UInt32) (i : Nat) :
    TokenId × TokenId :=
  (rng (2 * i) % kittyCount, rng (2 * i + 1) % kittyCount)

def Couple (s : Storage AccountId) (pair : TokenId × TokenId) : Prop :=
  s.gender pair.1 ≠ s.gender pair.2

instance (s : Storage AccountId) (pair : TokenId × TokenId) :
    Decidable (Couple s pair) :=
  inferInstanceAs (Decidable (s.gender pair.1 ≠ s.gender pair.2))

theorem nextU32_apply (w : Worker AccountId) :
    nextU32 w = (.ok (w.rng w.drawn), w.advance 1) := rfl

theorem rem_apply {a b : UInt32} (h : b ≠ 0) (w : Worker AccountId) :
    rem a b w = (.ok (a % b), w) := by
  simp [rem, bind_apply, ensure, h, pure_apply]

theorem advance_advance (w : Worker AccountId) (first second : Nat) :
    (w.advance first).advance second = w.advance (first + second) := by
  simp [Worker.advance, Nat.add_assoc]

theorem token_of_rem {s : Storage AccountId} (h : Population s)
    (kitties : s.nextTokenId ≠ 0) (draw : UInt32) :
    (s.tokens (draw % s.nextTokenId)).isSome := by
  rw [h.issued]
  apply UInt32.mod_lt
  exact UInt32.pos_iff_ne_zero.mpr kitties

theorem drawPair_apply {s : Storage AccountId} (h : Population s)
    (kitties : s.nextTokenId ≠ 0) {w : Worker AccountId} {k : Nat}
    (hw : w.drawn = 2 * k) :
    drawPair s s.nextTokenId w =
      (.ok ((drawnPair w.rng s.nextTokenId k).1,
        (drawnPair w.rng s.nextTokenId k).2,
        decide (Couple s (drawnPair w.rng s.nextTokenId k))), w.advance 2) := by
  obtain ⟨info1, token1⟩ := Option.isSome_iff_exists.mp
    (token_of_rem h kitties (w.rng (2 * k)))
  obtain ⟨info2, token2⟩ := Option.isSome_iff_exists.mp
    (token_of_rem h kitties (w.rng (2 * k + 1)))
  simp [drawPair, bind_apply, nextU32_apply, rem_apply kitties, hw, token1,
    token2, okOr, pure_apply, drawnPair, Couple, Storage.gender, advance_advance]

/-- How the first loop ends when its search ends with `found`. -/
def chosenPair (kittyCount : UInt32) (k budget : Nat) (w : Worker AccountId) :
    Option Nat → Except Stop (TokenId × TokenId × Nat) × Worker AccountId
  | some i =>
      (.ok ((drawnPair w.rng kittyCount (k + i)).1,
        (drawnPair w.rng kittyCount (k + i)).2, budget - i),
        w.advance (2 * (i + 1)))
  | none => (.error .err, w.advance (2 * budget))

theorem chosenPair_succ (kittyCount : UInt32) (k budget : Nat)
    (w : Worker AccountId) (found : Option Nat) :
    chosenPair kittyCount (k + 1) budget (w.advance 2) found =
      chosenPair kittyCount k (budget + 1) w (found.map (· + 1)) := by
  cases found with
  | none =>
      have hdrawn : 2 + 2 * budget = 2 * (budget + 1) := by omega
      simp only [chosenPair, Option.map_none, advance_advance, hdrawn]
  | some i =>
      have hpass : k + 1 + i = k + (i + 1) := by omega
      have hleft : budget + 1 - (i + 1) = budget - i := by omega
      have hdrawn : 2 + 2 * (i + 1) = 2 * (i + 1 + 1) := by omega
      simp only [chosenPair, Option.map_some, advance_advance, hpass, hleft,
        hdrawn]
      rfl

theorem choosePair_pass {s : Storage AccountId} (h : Population s)
    (kitties : s.nextTokenId ≠ 0) (remaining : Nat) {w : Worker AccountId}
    {k : Nat} (hw : w.drawn = 2 * k) :
    choosePair s s.nextTokenId (remaining + 1) w =
      if Couple s (drawnPair w.rng s.nextTokenId k) then
        chosenPair s.nextTokenId k (remaining + 1) w (some 0)
      else if remaining = 0 then (.error .err, w.advance 2)
      else choosePair s s.nextTokenId remaining (w.advance 2) := by
  rw [choosePair, bind_of_ok (drawPair_apply h kitties hw)]
  by_cases hcouple : Couple s (drawnPair w.rng s.nextTokenId k)
  · simp [hcouple, pure_apply, chosenPair]
  · by_cases hlast : remaining = 0
    · simp [hcouple, hlast, fail]
    · simp [hcouple, hlast]

theorem choosePair_search {s : Storage AccountId} (h : Population s)
    (kitties : s.nextTokenId ≠ 0) (remaining : Nat) {w : Worker AccountId}
    {k : Nat} (hw : w.drawn = 2 * k) :
    ∃ found,
      FirstHit (fun i => Couple s (drawnPair w.rng s.nextTokenId (k + i)))
        (remaining + 1) found ∧
      choosePair s s.nextTokenId (remaining + 1) w =
        chosenPair s.nextTokenId k (remaining + 1) w found := by
  induction remaining generalizing w k with
  | zero =>
      rw [choosePair_pass h kitties 0 hw]
      split
      · next hcouple => exact ⟨some 0, .zero hcouple, rfl⟩
      · next hcouple =>
          refine ⟨none, .miss fun j hj => ?_, rfl⟩
          have hj' : j = 0 := by omega
          simpa [hj'] using hcouple
  | succ remaining ih =>
      rw [choosePair_pass h kitties (remaining + 1) hw]
      split
      · next hcouple => exact ⟨some 0, .zero hcouple, rfl⟩
      · next hcouple =>
          have hw' : (w.advance 2).drawn = 2 * (k + 1) := by
            rw [Worker.advance_drawn, hw]
            omega
          obtain ⟨found, hfound, hrest⟩ := ih hw'
          have hpass : ∀ i, k + 1 + i = k + (i + 1) := by
            intro i
            omega
          simp only [hpass] at hfound
          refine ⟨found.map (· + 1), .succ hcouple hfound, ?_⟩
          rw [if_neg (Nat.succ_ne_zero remaining), hrest]
          exact chosenPair_succ s.nextTokenId k (remaining + 1) w found

/-! ## Searching for a solution -/

def solutionAt (solutionPrefix : UInt32) (i : Nat) : BitVec 128 :=
  BitVec.ofNat 128 solutionPrefix.toNat <<< 32 + BitVec.ofNat 128 i

theorem shiftedPrefix_toNat (solutionPrefix : UInt32) :
    (BitVec.ofNat 128 solutionPrefix.toNat <<< 32).toNat =
      solutionPrefix.toNat * 2 ^ 32 := by
  have hword := solutionPrefix.toNat_lt
  rw [BitVec.toNat_shiftLeft, BitVec.toNat_ofNat, Nat.shiftLeft_eq]
  omega

/-- The sum has 64 bits at the most, so it does not overflow. -/
theorem solution_fits (solutionPrefix : UInt32) {i : Nat} (h : i < 2 ^ 32) :
    (BitVec.ofNat 128 solutionPrefix.toNat <<< 32).toNat +
      (BitVec.ofNat 128 i).toNat < 2 ^ 128 := by
  have hword := solutionPrefix.toNat_lt
  rw [shiftedPrefix_toNat, BitVec.toNat_ofNat]
  omega

theorem solutionAt_toNat (solutionPrefix : UInt32) {i : Nat} (h : i < 2 ^ 32) :
    (solutionAt solutionPrefix i).toNat =
      solutionPrefix.toNat * 2 ^ 32 + i := by
  have hfits := solution_fits solutionPrefix h
  unfold solutionAt
  rw [BitVec.toNat_add_of_lt hfits, shiftedPrefix_toNat, BitVec.toNat_ofNat]
  omega

theorem solutionAt_prefix (solutionPrefix : UInt32) {i : Nat} (h : i < 2 ^ 32) :
    (solutionAt solutionPrefix i).toNat / 2 ^ 32 = solutionPrefix.toNat := by
  rw [solutionAt_toNat solutionPrefix h]
  omega

def solutions (solutionPrefix : UInt32) (count : Nat) : List (BitVec 128) :=
  (List.range count).map (solutionAt solutionPrefix)

theorem solutions_length (solutionPrefix : UInt32) (count : Nat) :
    (solutions solutionPrefix count).length = count := by
  simp [solutions]

theorem solutions_nodup (solutionPrefix : UInt32) {count : Nat}
    (h : count ≤ 2 ^ 32) : (solutions solutionPrefix count).Nodup := by
  apply List.Nodup.map_on ?_ List.nodup_range
  intro i hi j hj hsame
  rw [List.mem_range] at hi hj
  have htoNat := congrArg BitVec.toNat hsame
  rw [solutionAt_toNat solutionPrefix (by omega),
    solutionAt_toNat solutionPrefix (by omega)] at htoNat
  omega

@[simps]
def Worker.search (w : Worker AccountId) (accept : BitVec 128 → Bool)
    (call : BitVec 128 → Call AccountId) (candidates : List (BitVec 128)) :
    Worker AccountId :=
  { w with
    checked := w.checked ++ tried accept candidates
    submitted := w.submitted ++ ((candidates.find? accept).map call).toList }

theorem add_apply {a b : BitVec 128} (h : a.toNat + b.toNat < 2 ^ 128)
    (w : Worker AccountId) : add a b w = (.ok (a + b), w) := by
  rw [add, ensure, if_pos h]
  rfl

theorem searchSolution_cons {T : Config AccountId}
    {kittyId1 kittyId2 : TokenId} {nonce : UInt32} {solutionPrefix : BitVec 128}
    {i : Nat} {rest : List Nat} {w : Worker AccountId}
    (h : (solutionPrefix <<< 32).toNat + (BitVec.ofNat 128 i).toNat < 2 ^ 128) :
    searchSolution T kittyId1 kittyId2 nonce solutionPrefix (i :: rest) w =
      let solution := solutionPrefix <<< 32 + BitVec.ofNat 128 i
      let w' := { w with checked := w.checked ++ [solution] }
      if validateSolution T kittyId1 kittyId2 nonce solution then
        submitUnsignedTransaction
          (.autoBreed kittyId1 kittyId2 nonce solution) w'
      else searchSolution T kittyId1 kittyId2 nonce solutionPrefix rest w' := by
  rw [searchSolution, bind_of_ok (add_apply h w)]
  by_cases hvalid : validateSolution T kittyId1 kittyId2 nonce
      (solutionPrefix <<< 32 + BitVec.ofNat 128 i)
  · simp [checkSolution, bind_apply, write, pure_apply, hvalid]
  · simp [checkSolution, bind_apply, write, pure_apply, hvalid]

theorem searchSolution_apply (T : Config AccountId)
    (kittyId1 kittyId2 : TokenId) (nonce solutionPrefix : UInt32)
    {left : List Nat} (small : ∀ i ∈ left, i < 2 ^ 32) (w : Worker AccountId) :
    searchSolution T kittyId1 kittyId2 nonce
        (BitVec.ofNat 128 solutionPrefix.toNat) left w =
      (.ok (), w.search (validateSolution T kittyId1 kittyId2 nonce)
        (.autoBreed kittyId1 kittyId2 nonce)
        (left.map (solutionAt solutionPrefix))) := by
  induction left generalizing w with
  | nil => simp [searchSolution, pure_apply, Worker.search, tried]
  | cons i rest ih =>
      have hi : i < 2 ^ 32 := small i List.mem_cons_self
      have hrest : ∀ j ∈ rest, j < 2 ^ 32 := by
        intro j hj
        apply small
        exact List.mem_cons_of_mem i hj
      rw [searchSolution_cons (solution_fits solutionPrefix hi)]
      by_cases hvalid : validateSolution T kittyId1 kittyId2 nonce
          (BitVec.ofNat 128 solutionPrefix.toNat <<< 32 + BitVec.ofNat 128 i)
      · simp [hvalid, Worker.search, tried, solutionAt,
          submitUnsignedTransaction, write]
      · simp [hvalid, Worker.search, tried, solutionAt, ih hrest]

/-! ## Whole runs -/

/-- How a run ends that holds the lock, by the pairs it has drawn. -/
inductive RunEnd (T : Config AccountId) (s : Storage AccountId)
    (rng : Nat → UInt32) :
    Nat → Except Stop Unit × Worker AccountId → Prop where
  | noKitty (nobody : s.nextTokenId = 0) : RunEnd T s rng 0 (.ok (), .start rng)
  | noCouple (kitties : s.nextTokenId ≠ 0)
      (nowhere : ∀ i < maxIterations,
        ¬ Couple s (drawnPair rng s.nextTokenId i)) :
      RunEnd T s rng maxIterations
        (.error .err, (Worker.start rng).advance (2 * maxIterations))
  | searched (i : Nat) (kitties : s.nextTokenId ≠ 0)
      (within : i < maxIterations)
      (couple : Couple s (drawnPair rng s.nextTokenId i))
      (before : ∀ j < i, ¬ Couple s (drawnPair rng s.nextTokenId j)) :
      RunEnd T s rng (i + 1)
        (.ok (), ((Worker.start rng).advance (2 * (i + 1) + 1)).search
          (validateSolution T (drawnPair rng s.nextTokenId i).1
            (drawnPair rng s.nextTokenId i).2 s.autoBreedNonce)
          (.autoBreed (drawnPair rng s.nextTokenId i).1
            (drawnPair rng s.nextTokenId i).2 s.autoBreedNonce)
          (solutions (rng (2 * (i + 1))) (maxIterations - i)))

theorem firstLoop {s : Storage AccountId} (h : Population s)
    (kitties : s.nextTokenId ≠ 0) (rng : Nat → UInt32) :
    ∃ found,
      FirstHit (fun i => Couple s (drawnPair rng s.nextTokenId i)) maxIterations
        found ∧
      choosePair s s.nextTokenId maxIterations (.start rng) =
        chosenPair s.nextTokenId 0 maxIterations (.start rng) found := by
  have hsearch := choosePair_search h kitties 499
    (w := .start rng) (k := 0) rfl
  simp only [Nat.zero_add] at hsearch
  exact hsearch

theorem runOffchainWorker_of_kitties (T : Config AccountId)
    {s : Storage AccountId} (kitties : s.nextTokenId ≠ 0)
    (w : Worker AccountId) :
    runOffchainWorker T true s w =
      (choosePair s s.nextTokenId maxIterations >>= fun choice =>
        nextU32 >>= fun solutionPrefix =>
          searchSolution T choice.1 choice.2.1 s.autoBreedNonce
            (BitVec.ofNat 128 solutionPrefix.toNat) (List.range choice.2.2)) w :=
  congrFun (if_neg kitties) w

theorem runOffchainWorker_ends (T : Config AccountId) {s : Storage AccountId}
    (h : Population s) (rng : Nat → UInt32) :
    ∃ pairs, RunEnd T s rng pairs
      (runOffchainWorker T true s (.start rng)) := by
  by_cases hkitties : s.nextTokenId = 0
  · have hrun : runOffchainWorker T true s (.start rng) = (.ok (), .start rng) :=
      congrFun (if_pos hkitties) _
    rw [hrun]
    exact ⟨0, .noKitty hkitties⟩
  · rw [runOffchainWorker_of_kitties T hkitties]
    obtain ⟨found, hfound, hchoose⟩ := firstLoop h hkitties rng
    cases hfound with
    | miss nowhere =>
        rw [bind_of_error hchoose]
        exact ⟨maxIterations, .noCouple hkitties nowhere⟩
    | hit i within couple before =>
        rw [bind_of_ok hchoose, bind_of_ok (nextU32_apply _),
          searchSolution_apply]
        · refine ⟨i + 1, ?_⟩
          have hend := RunEnd.searched (T := T) i hkitties within couple before
          simpa [advance_advance, Worker.start, Worker.advance, solutions]
            using hend
        · intro j hj
          have hj' : j < maxIterations - i := List.mem_range.mp hj
          unfold maxIterations at hj'
          omega

/-- Each pass of the first loop draws two numbers, and one is drawn after it. -/
def Worker.pairDraws (w : Worker AccountId) : Nat := w.drawn / 2

def Worker.solutionPrefix (w : Worker AccountId) : UInt32 :=
  w.rng (2 * w.pairDraws)

structure BoundedRun (T : Config AccountId) (s : Storage AccountId)
    (rng : Nat → UInt32) (result : Except Stop Unit) (w : Worker AccountId) :
    Prop where
  draws : w.pairDraws ≤ 500
  budget : w.pairDraws + w.checked.length ≤ 501
  lookups : ∀ i < w.pairDraws,
    (s.tokens (drawnPair rng s.nextTokenId i).1).isSome ∧
      (s.tokens (drawnPair rng s.nextTokenId i).2).isSome
  -- the stops that stand for a panic are excluded here
  failure : ∀ stop, result = .error stop → stop = .err ∧ w.pairDraws = 500 ∧
    ∀ i < 500, s.gender (drawnPair rng s.nextTokenId i).1 =
      s.gender (drawnPair rng s.nextTokenId i).2
  distinct : w.checked.Nodup
  prefixes : ∀ solution ∈ w.checked,
    solution.toNat / 2 ^ 32 = w.solutionPrefix.toNat
  submits : ∀ pair, pair = drawnPair rng s.nextTokenId (w.pairDraws - 1) →
    w.submitted = ((w.checked.find?
        (validateSolution T pair.1 pair.2 s.autoBreedNonce)).map
      (.autoBreed pair.1 pair.2 s.autoBreedNonce)).toList

theorem tokens_of_drawnPair {s : Storage AccountId} (h : Population s)
    (kitties : s.nextTokenId ≠ 0) (rng : Nat → UInt32) (i : Nat) :
    (s.tokens (drawnPair rng s.nextTokenId i).1).isSome ∧
      (s.tokens (drawnPair rng s.nextTokenId i).2).isSome :=
  ⟨token_of_rem h kitties _, token_of_rem h kitties _⟩

theorem mem_solutions {solutionPrefix : UInt32} {count : Nat}
    (h : count ≤ 2 ^ 32) {solution : BitVec 128}
    (mem : solution ∈ solutions solutionPrefix count) :
    solution.toNat / 2 ^ 32 = solutionPrefix.toNat := by
  obtain ⟨i, hi, rfl⟩ := List.mem_map.mp mem
  rw [List.mem_range] at hi
  apply solutionAt_prefix
  omega

@[simp] theorem pairDraws_search (w : Worker AccountId)
    (accept : BitVec 128 → Bool) (call : BitVec 128 → Call AccountId)
    (candidates : List (BitVec 128)) :
    (w.search accept call candidates).pairDraws = w.pairDraws := rfl

theorem pairDraws_advance (rng : Nat → UInt32) (pairs : Nat) {count : Nat}
    (h : count / 2 = pairs) :
    ((Worker.start rng : Worker AccountId).advance count).pairDraws = pairs := by
  simp [Worker.pairDraws, h]

section Bounded

variable {T : Config AccountId} {s : Storage AccountId} (h : Population s)
  {rng : Nat → UInt32}

include h

theorem BoundedRun.of_noCouple (kitties : s.nextTokenId ≠ 0)
    (nowhere : ∀ i < maxIterations,
      ¬ Couple s (drawnPair rng s.nextTokenId i)) :
    BoundedRun T s rng (.error .err)
      ((Worker.start rng).advance (2 * maxIterations)) := by
  have hdraws : ((Worker.start rng : Worker AccountId).advance
      (2 * maxIterations)).pairDraws = 500 := pairDraws_advance rng 500 rfl
  constructor
  case draws => exact hdraws.le
  case budget => simp [hdraws]
  case lookups => exact fun i hi => tokens_of_drawnPair h kitties rng i
  case failure =>
    intro stop hstop
    refine ⟨by simpa using hstop.symm, hdraws, ?_⟩
    intro i hi
    exact not_not.mp (nowhere i hi)
  all_goals simp

theorem BoundedRun.of_search (kitties : s.nextTokenId ≠ 0) {i : Nat}
    (within : i < maxIterations) {pair : TokenId × TokenId}
    (drawn : pair = drawnPair rng s.nextTokenId i) :
    BoundedRun T s rng (.ok ())
      (((Worker.start rng).advance (2 * (i + 1) + 1)).search
        (validateSolution T pair.1 pair.2 s.autoBreedNonce)
        (.autoBreed pair.1 pair.2 s.autoBreedNonce)
        (solutions (rng (2 * (i + 1))) (maxIterations - i))) := by
  have hwithin : i + 1 ≤ 500 := within
  have hcount : maxIterations - i ≤ 500 := Nat.sub_le 500 i
  have hdraws : ((Worker.start rng : Worker AccountId).advance
      (2 * (i + 1) + 1)).pairDraws = i + 1 :=
    pairDraws_advance rng (i + 1) (by omega)
  have htried :=
    tried_prefix (validateSolution T pair.1 pair.2 s.autoBreedNonce)
      (solutions (rng (2 * (i + 1))) (maxIterations - i))
  have hlength := htried.length_le
  rw [solutions_length] at hlength
  constructor
  case draws => simpa [hdraws] using hwithin
  case budget =>
    simp only [pairDraws_search, hdraws, Worker.search_checked,
      Worker.advance_checked, start_checked, List.nil_append]
    unfold maxIterations at hlength ⊢
    omega
  case lookups => exact fun j hj => tokens_of_drawnPair h kitties rng j
  case failure => simp
  case distinct =>
    apply List.Nodup.sublist htried.sublist
    apply solutions_nodup
    omega
  case prefixes =>
    intro solution hsolution
    have hprefix := mem_solutions (by omega) (htried.subset hsolution)
    simpa [Worker.solutionPrefix, hdraws] using hprefix
  case submits =>
    rintro _ rfl
    simp [hdraws, ← drawn, find?_tried]

theorem RunEnd.bounded {pairs : Nat} {result : Except Stop Unit}
    {w : Worker AccountId} (ends : RunEnd T s rng pairs (result, w)) :
    BoundedRun T s rng result w := by
  cases ends with
  | noKitty nobody =>
      constructor
      all_goals simp [Worker.pairDraws]
  | noCouple kitties nowhere => exact .of_noCouple h kitties nowhere
  | searched i kitties within couple before =>
      exact .of_search h kitties within rfl

end Bounded

section Reachable

variable [DecidableEq AccountId] [Inhabited AccountId]

theorem BoundedRun.of_reachable {T : Config AccountId} (lawful : T.Lawful)
    {s : Storage AccountId} (reachable : Reachable T s) {rng : Nat → UInt32}
    {result : Except Stop Unit} {w : Worker AccountId}
    (ran : runOffchainWorker T true s (.start rng) = (result, w)) :
    BoundedRun T s rng result w := by
  have hpopulation : Population s := .of_reachable lawful reachable
  obtain ⟨pairs, hends⟩ := runOffchainWorker_ends T hpopulation rng
  rw [ran] at hends
  exact hends.bounded hpopulation

/--
Every run that holds the lock ends within its budget, and only for lack of a
couple with an error; it submits the first solution that is accepted, and shares
no solution with a run of another prefix.
-/
theorem worker_is_bounded {T : Config AccountId} (lawful : T.Lawful)
    {s : Storage AccountId} (reachable : Reachable T s) (rng : Nat → UInt32) :
    ∃ result w, runOffchainWorker T true s (.start rng) = (result, w) ∧
      BoundedRun T s rng result w ∧
      w.submitted.length ≤ 1 ∧
      ∀ s' rng' result' w', Reachable T s' →
        runOffchainWorker T true s' (.start rng') = (result', w') →
        w'.solutionPrefix ≠ w.solutionPrefix →
        ∀ solution ∈ w.checked, solution ∉ w'.checked := by
  rcases hrun : runOffchainWorker T true s (.start rng) with ⟨result, w⟩
  have hbounded : BoundedRun T s rng result w :=
    .of_reachable lawful reachable hrun
  refine ⟨result, w, rfl, hbounded, ?_, ?_⟩
  · rw [hbounded.submits _ rfl]
    exact Option.length_toList_le
  · intro s' rng' result' w' hreachable' hrun' hne solution hsolution hshared
    have hbounded' : BoundedRun T s' rng' result' w' :=
      .of_reachable lawful hreachable' hrun'
    apply hne
    apply UInt32.toNat.inj
    rw [← hbounded'.prefixes solution hshared,
      hbounded.prefixes solution hsolution]

end Reachable

end WorkerBounds

def Mock.couple : List (Input Mock.AccountId) :=
  [Mock.signed 100 .create, ⟨Mock.seeded 2, .dispatch (.signed 100) .create⟩]

def Mock.draws : Nat → UInt32 := fun draw => if draw = 1 then 1 else 0

theorem Mock.couple_submits :
    (runOffchainWorker Mock.config true
        (run (step Mock.config) Mock.genesis Mock.couple)
        (.start Mock.draws)).2.submitted = [.autoBreed 0 1 0 2] := by
  decide +kernel

theorem worker_is_bounded_for_couple :
    ∃ result w,
      runOffchainWorker Mock.config true
          (run (step Mock.config) Mock.genesis Mock.couple) (.start Mock.draws) =
        (result, w) ∧
      BoundedRun Mock.config (run (step Mock.config) Mock.genesis Mock.couple)
        Mock.draws result w ∧
      w.submitted = [.autoBreed 0 1 0 2] := by
  have hsubmitted := Mock.couple_submits
  obtain ⟨result, w, hrun, hbounded, -⟩ :=
    worker_is_bounded Mock.config_lawful
      ((Reachable.of_genesis Mock.genesis_isGenesis).run Mock.couple) Mock.draws
  rw [hrun] at hsubmitted
  exact ⟨result, w, hrun, hbounded, hsubmitted⟩

end SubstrateKitties.Pallet
