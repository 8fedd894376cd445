import ArpaNode.ContractClient.Caller
/-! `ChainProvider::subscribe_new_block_height` (`contract_client/src/ethers/provider.rs`): a
`while let` loop over the stream of new block hashes of `watch_blocks`, which fetches each
block, hands its number to the callback, and returns the first error; when the stream ends it
returns `FetchingBlockError`, so it never returns `Ok`.  The stream may be infinite, so the loop
takes a fuel: the number of items it may process before it is still running. -/

namespace ArpaNode.ContractClient

/-- The field of a block the subscription reads. -/
structure Block where
  number : Option Nat
  deriving DecidableEq, Repr

/-- The chain as the subscription sees it: the outcome of `watch_blocks` (a stream whose item
`k` is a block hash, or `None` once the stream has ended), and the outcome of the `get_block`
call for item `k`. -/
structure ChainProvider where
  watchBlocks : Except ContractClientError (Nat → Option Nat)
  getBlock : Nat → Nat → Except ContractClientError (Option Block)

/-- `get_block(hash).await?.ok_or(FetchingBlockError)?` and then
`number.ok_or(FetchingBlockError)?`. -/
def blockNumber (r : Except ContractClientError (Option Block)) : Except ContractClientError Nat :=
  match r with
  | .error e => .error e
  | .ok none => .error .fetchingBlockError
  | .ok (some block) =>
    match block.number with
    | none => .error .fetchingBlockError
    | some n => .ok n

/-- What the loop gets from item `k`: the block's number, or the error it returns there, which
is `FetchingBlockError` once the stream has ended. -/
def itemOutcome (p : ChainProvider) (stream : Nat → Option Nat) (k : Nat) :
    Except ContractClientError Nat :=
  match stream k with
  | none => .error .fetchingBlockError
  | some hash => blockNumber (p.getBlock k hash)

/-- Modelled from the spec: how item `k` ends the loop, with the error the loop returns there:
the stream has ended (`FetchingBlockError`), `get_block` failed, it found no block
(`FetchingBlockError`), or the block has no number (`FetchingBlockError`). -/
inductive ItemFails (p : ChainProvider) (stream : Nat → Option Nat) (k : Nat) :
    ContractClientError → Prop
  | streamEnded (hs : stream k = none) : ItemFails p stream k .fetchingBlockError
  | getBlockFailed {hash : Nat} {e : ContractClientError} (hs : stream k = some hash)
      (hb : p.getBlock k hash = .error e) : ItemFails p stream k e
  | noBlock {hash : Nat} (hs : stream k = some hash) (hb : p.getBlock k hash = .ok none) :
      ItemFails p stream k .fetchingBlockError
  | noNumber {hash : Nat} {block : Block} (hs : stream k = some hash)
      (hb : p.getBlock k hash = .ok (some block)) (hn : block.number = none) :
      ItemFails p stream k .fetchingBlockError

section Item

variable {p : ChainProvider} {stream : Nat → Option Nat} {k n : Nat}

/-- Item `k` gives the number `n` exactly when it is a hash whose block `get_block` found, with
number `n`. -/
theorem itemOutcome_eq_ok :
    itemOutcome p stream k = .ok n ↔
      ∃ hash block, stream k = some hash ∧ p.getBlock k hash = .ok (some block) ∧
        block.number = some n := by
  unfold itemOutcome blockNumber
  split
  · simp_all
  · split
    · simp_all
    · simp_all
    · split <;> simp_all

/-- Item `k` ends the loop with the error `ItemFails` gives. -/
theorem itemOutcome_eq_error {e : ContractClientError} :
    itemOutcome p stream k = .error e ↔ ItemFails p stream k e := by
  constructor
  · intro h
    rcases hs : stream k with _ | hash
    · simp only [itemOutcome, hs, Except.error.injEq] at h
      exact h ▸ .streamEnded hs
    · rcases hb : p.getBlock k hash with e' | _ | block
      · simp only [itemOutcome, hs, hb, blockNumber, Except.error.injEq] at h
        exact h ▸ .getBlockFailed hs hb
      · simp only [itemOutcome, hs, hb, blockNumber, Except.error.injEq] at h
        exact h ▸ .noBlock hs hb
      · rcases hn : block.number with _ | n
        · simp only [itemOutcome, hs, hb, blockNumber, hn, Except.error.injEq] at h
          exact h ▸ .noNumber hs hb hn
        · simp [itemOutcome, hs, hb, blockNumber, hn] at h
  · intro h
    cases h <;> simp_all [itemOutcome, blockNumber]

end Item

variable {σ : Type}

/-- The loop from item `k`, with `fuel` items left: the callback `cb` changes its state `σ`
whether it succeeds or not.  The result is `none` while the loop is still running. -/
def subscribeLoop (p : ChainProvider) (stream : Nat → Option Nat)
    (cb : σ → Nat → Except ContractClientError Unit × σ) :
    Nat → Nat → σ → Option (Except ContractClientError Unit) × σ
  | 0, _, s => (none, s)
  | fuel + 1, k, s =>
    match itemOutcome p stream k with
    | .error e => (some (.error e), s)
    | .ok n =>
      match cb s n with
      | (.error e, s') => (some (.error e), s')
      | (.ok (), s') => subscribeLoop p stream cb fuel (k + 1) s'

/-- `subscribe_new_block_height`. -/
def subscribeNewBlockHeight (p : ChainProvider) (cb : σ → Nat → Except ContractClientError Unit × σ)
    (fuel : Nat) (s : σ) : Option (Except ContractClientError Unit) × σ :=
  match p.watchBlocks with
  | .error e => (some (.error e), s)
  | .ok stream => subscribeLoop p stream cb fuel 0 s

/-- The callback run on `heights` in order from state `s`, stopping at its first error. -/
def runCallbacks (cb : σ → Nat → Except ContractClientError Unit × σ) :
    σ → List Nat → Except ContractClientError Unit × σ
  | s, [] => (.ok (), s)
  | s, n :: ns =>
    match cb s n with
    | (.error e, s') => (.error e, s')
    | (.ok (), s') => runCallbacks cb s' ns

/-! ### Runs of the loop -/

section Branches

variable {p : ChainProvider} {stream : Nat → Option Nat}
  {cb : σ → Nat → Except ContractClientError Unit × σ} {k n : Nat} {s s' : σ}

theorem subscribeLoop_item_error {e : ContractClientError} (h : itemOutcome p stream k = .error e)
    (fuel : Nat) : subscribeLoop p stream cb (fuel + 1) k s = (some (.error e), s) := by
  simp [subscribeLoop, h]

theorem subscribeLoop_callback_error {e : ContractClientError}
    (h : itemOutcome p stream k = .ok n) (hc : cb s n = (.error e, s')) (fuel : Nat) :
    subscribeLoop p stream cb (fuel + 1) k s = (some (.error e), s') := by
  simp [subscribeLoop, h, hc]

theorem subscribeLoop_next (h : itemOutcome p stream k = .ok n) (hc : cb s n = (.ok (), s'))
    (fuel : Nat) :
    subscribeLoop p stream cb (fuel + 1) k s = subscribeLoop p stream cb fuel (k + 1) s' := by
  simp [subscribeLoop, h, hc]

theorem runCallbacks_cons_error {e : ContractClientError} (hc : cb s n = (.error e, s'))
    (ns : List Nat) : runCallbacks cb s (n :: ns) = (.error e, s') := by
  simp [runCallbacks, hc]

theorem runCallbacks_cons_ok (hc : cb s n = (.ok (), s')) (ns : List Nat) :
    runCallbacks cb s (n :: ns) = runCallbacks cb s' ns := by
  simp [runCallbacks, hc]

end Branches

/-- What the loop from item `k` with `fuel` items left does from state `s`: the items from `k`
on are hashes of blocks that `get_block` found, with numbers `heights`, at most `fuel` of them;
the callback has run on them in order and the loop's state is the callback's; and the loop has
returned the callback's first error, or the error with which the item after `heights` ends it,
or is still running with its fuel used up. -/
def LoopSpec (p : ChainProvider) (stream : Nat → Option Nat)
    (cb : σ → Nat → Except ContractClientError Unit × σ) (fuel k : Nat) (s : σ)
    (run : Option (Except ContractClientError Unit) × σ) : Prop :=
  ∃ heights : List Nat, heights.length ≤ fuel ∧
    (∀ i (hi : i < heights.length), ∃ hash block, stream (k + i) = some hash ∧
      p.getBlock (k + i) hash = .ok (some block) ∧ block.number = some heights[i]) ∧
    run.2 = (runCallbacks cb s heights).2 ∧
    ((∃ e, (runCallbacks cb s heights).1 = .error e ∧ run.1 = some (.error e)) ∨
      (runCallbacks cb s heights).1 = .ok () ∧
        (heights.length = fuel ∧ run.1 = none ∨
          ∃ e, ItemFails p stream (k + heights.length) e ∧ run.1 = some (.error e)))

/-- A run that `LoopSpec` describes never returns `Ok`. -/
theorem LoopSpec.ne_ok {p : ChainProvider} {stream : Nat → Option Nat}
    {cb : σ → Nat → Except ContractClientError Unit × σ} {fuel k : Nat} {s : σ}
    {run : Option (Except ContractClientError Unit) × σ}
    (h : LoopSpec p stream cb fuel k s run) : run.1 ≠ some (.ok ()) := by
  obtain ⟨_, -, -, -, ⟨e, -, he⟩ | ⟨-, ⟨-, he⟩ | ⟨e, -, he⟩⟩⟩ := h <;> simp [he]

/-- Every run of the loop meets `LoopSpec`. -/
theorem subscribeLoop_spec (p : ChainProvider) (stream : Nat → Option Nat)
    (cb : σ → Nat → Except ContractClientError Unit × σ) (fuel k : Nat) (s : σ) :
    LoopSpec p stream cb fuel k s (subscribeLoop p stream cb fuel k s) := by
  induction fuel generalizing k s with
  | zero => exact ⟨[], le_rfl, nofun, rfl, .inr ⟨rfl, .inl ⟨rfl, rfl⟩⟩⟩
  | succ fuel ih =>
    cases hi : itemOutcome p stream k with
    | error e =>
      rw [subscribeLoop_item_error hi]
      exact ⟨[], Nat.zero_le _, nofun, rfl, .inr ⟨rfl, .inr ⟨e, itemOutcome_eq_error.mp hi, rfl⟩⟩⟩
    | ok n =>
      rcases hc : cb s n with ⟨r, s'⟩
      cases r with
      | error e =>
        rw [subscribeLoop_callback_error hi hc]
        refine ⟨[n], by simp, fun i hi' => ?_, by simp [runCallbacks_cons_error hc],
          .inl ⟨e, by simp [runCallbacks_cons_error hc], rfl⟩⟩
        obtain rfl : i = 0 := by simpa using hi'
        exact itemOutcome_eq_ok.mp hi
      | ok u =>
        rw [subscribeLoop_next hi hc]
        obtain ⟨heights, hlen, hitems, hstate, hres⟩ := ih (k + 1) s'
        refine ⟨n :: heights, by simpa using hlen, fun i hi' => ?_, by
          rw [hstate, runCallbacks_cons_ok hc], ?_⟩
        · cases i with
          | zero => exact itemOutcome_eq_ok.mp hi
          | succ i =>
            simpa [Nat.add_assoc, Nat.add_comm 1] using hitems i (by simpa using hi')
        · rw [runCallbacks_cons_ok hc]
          simpa [Nat.add_assoc, Nat.add_comm 1] using hres

/-- `subscribe_new_block_height` never returns `Ok`; when `watch_blocks` fails it returns that
error without calling the callback, and otherwise its loop meets `LoopSpec` from item 0. -/
theorem subscribeNewBlockHeight_spec (p : ChainProvider)
    (cb : σ → Nat → Except ContractClientError Unit × σ) (fuel : Nat) (s : σ) :
    (subscribeNewBlockHeight p cb fuel s).1 ≠ some (.ok ()) ∧
      match p.watchBlocks with
      | .error e => subscribeNewBlockHeight p cb fuel s = (some (.error e), s)
      | .ok stream => LoopSpec p stream cb fuel 0 s (subscribeNewBlockHeight p cb fuel s) := by
  unfold subscribeNewBlockHeight
  cases p.watchBlocks with
  | error e => simp
  | ok stream => exact ⟨(subscribeLoop_spec p stream cb fuel 0 s).ne_ok, subscribeLoop_spec ..⟩

end ArpaNode.ContractClient
