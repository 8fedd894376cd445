import ArpaNode.Core.Utf8
import ArpaNode.Core.Address
import ArpaNode.Node.Error
/-! The main chain's randomness result cache, as the committer server uses it: `contains`,
`get`, whose result the server unwraps, and `add_partial_signature`
(`SignatureResultCacheUpdater`, `dal/src/lib.rs`).  Its implementation is not among the sources,
so its state is abstract; `SignatureResultCache.Lawful` asks that adding a partial signature
create no entry.  `entryCache` is one, modelled from the spec: entries keyed by request index,
adding a partial to a missing entry fails, and a member's second partial is refused.

`BLSResultCacheState`, the entry's commit state, is stored as an `i32`; its encoding and
decoding are inverse, and decoding panics outside `0..=3`. -/

namespace ArpaNode.Dal

open ArpaNode.Core ArpaNode.Node

/-! ### The commit state and its `i32` encoding -/

/-- `BLSResultCacheState`. -/
inductive BLSResultCacheState where
  | notCommitted
  | committing
  | committed
  | committedByOthers
  deriving DecidableEq, Repr

/-- `BLSResultCacheState::to_i32`. -/
def BLSResultCacheState.toI32 : BLSResultCacheState → Int
  | .notCommitted => 0
  | .committing => 1
  | .committed => 2
  | .committedByOthers => 3

/-- `<BLSResultCacheState as From<i32>>::from`; `none` where it panics. -/
def BLSResultCacheState.ofI32 (b : Int) : Option BLSResultCacheState :=
  if b = 0 then some .notCommitted
  else if b = 1 then some .committing
  else if b = 2 then some .committed
  else if b = 3 then some .committedByOthers
  else none

/-- Decoding an `i32` gives the state whose code it is, and panics on every other value. -/
theorem BLSResultCacheState.ofI32_eq_some_iff (b : Int) (s : BLSResultCacheState) :
    BLSResultCacheState.ofI32 b = some s ↔ s.toI32 = b := by
  unfold ofI32
  cases s <;> split_ifs <;> simp_all [toI32, eq_comm]

/-! ### The cache as the committer uses it -/

/-- `RandomnessResultCache`, for the fields the committer reads and adds to: the message the
group signs, and the partial signatures received, by member. -/
structure RandomnessResultCache where
  message : RustString
  partialSignatures : List (Address × List UInt8)
  deriving DecidableEq

/-- `BLSResultCache<RandomnessResultCache>`, an entry of the cache. -/
structure BLSResultCache where
  resultCache : RandomnessResultCache
  deriving DecidableEq

/-- The methods of the randomness result cache that the committer server calls, over the
cache's state `σ`. -/
structure SignatureResultCache (σ : Type) where
  contains : σ → Nat → Bool
  get : σ → Nat → Option BLSResultCache
  addPartialSignature : σ → Nat → Address → List UInt8 → Except DataAccessError (Bool × σ)

variable {σ : Type}

/-- What the committer's security rests on: adding a partial signature creates no entry and
removes none. -/
structure SignatureResultCache.Lawful (c : SignatureResultCache σ) : Prop where
  add_keeps_keys : ∀ s k a sig b s', c.addPartialSignature s k a sig = .ok (b, s') →
    ∀ k', c.contains s' k' = c.contains s k'

/-! ### A result cache modelled from the spec -/

/-- An entry with one more partial signature. -/
def BLSResultCache.addPartial (e : BLSResultCache) (a : Address) (sig : List UInt8) :
    BLSResultCache :=
  ⟨{ e.resultCache with partialSignatures := e.resultCache.partialSignatures ++ [(a, sig)] }⟩

/-- Modelled from the spec: the result cache as a list of entries keyed by request index.
`add_partial` fails when the entry was not inserted and refuses a member that already
contributed. -/
def entryCache : SignatureResultCache (List (Nat × BLSResultCache)) where
  contains s k := (s.lookup k).isSome
  get s k := s.lookup k
  addPartialSignature s k a sig :=
    match s.lookup k with
    | none => .error ⟨"CommitterCacheNotExisted"⟩
    | some e =>
      if (e.resultCache.partialSignatures.lookup a).isSome then .ok (false, s)
      else .ok (true, s.map fun p => (p.1, if p.1 = k then p.2.addPartial a sig else p.2))

theorem lookup_map_snd {β : Type} (s : List (Nat × β)) (f : Nat → β → β) (k : Nat) :
    (s.map fun p => (p.1, f p.1 p.2)).lookup k = (s.lookup k).map (f k) := by
  induction s with
  | nil => rfl
  | cons p s ih =>
    obtain ⟨j, b⟩ := p
    by_cases hk : k = j
    · simp [List.lookup_cons, hk]
    · have hne : (k == j) = false := by simpa using hk
      simp [List.lookup_cons, hne, ih]

theorem entryCache_add {s s' : List (Nat × BLSResultCache)} {k : Nat} {a : Address}
    {sig : List UInt8} {b : Bool} (h : entryCache.addPartialSignature s k a sig = .ok (b, s')) :
    ∃ e, s.lookup k = some e ∧
      (b = false ∧ s' = s ∨
        b = true ∧ e.resultCache.partialSignatures.lookup a = none ∧
          s' = s.map fun p => (p.1, if p.1 = k then p.2.addPartial a sig else p.2)) := by
  simp only [entryCache] at h
  split at h
  · cases h
  · rename_i e he
    refine ⟨e, he, ?_⟩
    split_ifs at h with hs <;> cases h
    · exact .inl ⟨rfl, rfl⟩
    · exact .inr ⟨rfl, Option.not_isSome_iff_eq_none.mp hs, rfl⟩

theorem entryCache_lawful : entryCache.Lawful where
  add_keeps_keys s k a sig _ _ h k' := by
    obtain ⟨_, -, ⟨-, rfl⟩ | ⟨-, -, rfl⟩⟩ := entryCache_add h
    · rfl
    · show ((s.map _).lookup k').isSome = (s.lookup k').isSome
      rw [lookup_map_snd s (fun j e => if j = k then e.addPartial a sig else e), Option.isSome_map']

end ArpaNode.Dal
