import ArpaNode.ContractClient.Provider
import ArpaNode.Node.Error
/-! `BlockListener::listen` (`node/src/node/listener/block.rs`): it subscribes to new block
heights with a callback that publishes `NewBlock { chain_id, block_height }` on the event queue
and returns `Ok(())`.  The events it publishes are the numbers of the blocks the subscription
fetched, in stream order; and since the subscription never returns `Ok`, neither does `listen`,
whose final `Ok(())` is unreachable. -/

namespace ArpaNode.Listener

open ArpaNode.ContractClient ArpaNode.Node

/-- The `NewBlock` event. -/
structure NewBlock where
  chainId : Nat
  blockHeight : Nat
  deriving DecidableEq, Repr

/-- The callback of `listen`: publish `NewBlock` on the event queue, whose published events are
the callback's state, and return `Ok(())`. -/
def publishNewBlock (chainId : Nat) (published : List NewBlock) (blockHeight : Nat) :
    Except ContractClientError Unit × List NewBlock :=
  (.ok (), published ++ [⟨chainId, blockHeight⟩])

/-- `listen`, from the events published so far: `subscribe_new_block_height(...).await?`, whose
error `?` converts into a `NodeError`, then `Ok(())`. -/
def listen (chainId : Nat) (p : ChainProvider) (fuel : Nat) (published : List NewBlock) :
    Option (Except NodeError Unit) × List NewBlock :=
  match subscribeNewBlockHeight p (publishNewBlock chainId) fuel published with
  | (none, published') => (none, published')
  | (some (.error e), published') => (some (.error (.contractClientError e)), published')
  | (some (.ok ()), published') => (some (.ok ()), published')

/-- Running the publishing callback on `heights` publishes one `NewBlock` per height, in
order. -/
theorem runCallbacks_publishNewBlock (chainId : Nat) (heights : List Nat)
    (published : List NewBlock) :
    runCallbacks (publishNewBlock chainId) published heights =
      (.ok (), published ++ heights.map (NewBlock.mk chainId)) := by
  induction heights generalizing published with
  | nil => simp [runCallbacks]
  | cons n ns ih => rw [runCallbacks_cons_ok rfl, ih]; simp

/-- For every stream of block hashes, finite or not, and every outcome of `get_block`:
`subscribe_new_block_height` calls the callback once per item, in order, with the block's
number, until an item fails to give a number, the stream ends, or the callback fails; it then
returns that error (`FetchingBlockError` at the end of the stream), and never returns `Ok`.
`listen` therefore publishes `NewBlock { chain_id, n }` for exactly the numbers `n` of the
blocks fetched, in stream order, and never returns `Ok(())`. -/
theorem subscribeNewBlockHeight_listen_spec (p : ChainProvider) (fuel : Nat) :
    (∀ {σ : Type} (cb : σ → Nat → Except ContractClientError Unit × σ) (s : σ),
      (subscribeNewBlockHeight p cb fuel s).1 ≠ some (.ok ()) ∧
      match p.watchBlocks with
      | .error e => subscribeNewBlockHeight p cb fuel s = (some (.error e), s)
      | .ok stream => LoopSpec p stream cb fuel 0 s (subscribeNewBlockHeight p cb fuel s)) ∧
    ∀ chainId published,
      (listen chainId p fuel published).1 ≠ some (.ok ()) ∧
      match p.watchBlocks with
      | .error e =>
        listen chainId p fuel published = (some (.error (.contractClientError e)), published)
      | .ok stream => ∃ heights : List Nat, heights.length ≤ fuel ∧
          (∀ i (hi : i < heights.length), ∃ hash block, stream i = some hash ∧
            p.getBlock i hash = .ok (some block) ∧ block.number = some heights[i]) ∧
          (listen chainId p fuel published).2 = published ++ heights.map (NewBlock.mk chainId) ∧
          (heights.length = fuel ∧ (listen chainId p fuel published).1 = none ∨
            ∃ e, ItemFails p stream heights.length e ∧
              (listen chainId p fuel published).1 = some (.error (.contractClientError e))) := by
  refine ⟨fun cb s => subscribeNewBlockHeight_spec p cb fuel s, fun chainId published => ?_⟩
  obtain ⟨hne, hspec⟩ := subscribeNewBlockHeight_spec p (publishNewBlock chainId) fuel published
  unfold listen
  rcases hrun : subscribeNewBlockHeight p (publishNewBlock chainId) fuel published with ⟨r, out⟩
  rw [hrun] at hne hspec
  cases hw : p.watchBlocks with
  | error e =>
    rw [hw] at hspec
    cases hspec
    simp
  | ok stream =>
    rw [hw] at hspec
    obtain ⟨heights, hlen, hitems, hstate, hres⟩ := hspec
    simp only [runCallbacks_publishNewBlock] at hstate hres
    refine ⟨?_, heights, hlen, by simpa using hitems, ?_, ?_⟩
    · rcases r with _ | _ | _ <;> simp_all
    · rcases r with _ | _ | _ <;> simpa using hstate
    · rcases hres with ⟨e, he, -⟩ | ⟨-, ⟨hl, rfl⟩ | ⟨e, he, rfl⟩⟩
      · cases he
      · exact .inl ⟨hl, rfl⟩
      · exact .inr ⟨e, by simpa using he, rfl⟩

end ArpaNode.Listener
