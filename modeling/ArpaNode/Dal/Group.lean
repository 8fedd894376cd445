import ArpaNode.Node.Error
/-! The group cache as the subscribers see it: the traits `GroupInfoFetcher` and
`GroupInfoUpdater` (`dal/src/lib.rs`), for the methods the pre-grouping subscriber calls.  Their
implementations are not among the sources, so the cache's state is abstract; a write either
fails and changes nothing, or returns the new state.  `GroupCache.Lawful` collects what the
subscriber relies on from an implementation: a save records the task, a status update answers
`true` only when it changes the status, and it keeps the recorded group.  `recordCache`, modelled
from the spec, is such an implementation, on which the subscriber's runs are computed. -/

namespace ArpaNode.Dal

open ArpaNode.Node

/-- `DKGStatus`, with the states the spec lists. -/
inductive DKGStatus where
  | none
  | inPhase
  | commitSuccess
  | waitForPostProcess
  | timeout
  deriving DecidableEq, Repr

/-- `DKGTask`, the grouping task the controller emits. -/
structure DKGTask where
  groupIndex : Nat
  epoch : Nat
  size : Nat
  threshold : Nat
  members : List Nat
  assignmentBlockHeight : Nat
  deriving DecidableEq, Repr

/-- The task's `(group_index, epoch)`, which identifies the group it forms. -/
def DKGTask.pair (t : DKGTask) : Nat × Nat := (t.groupIndex, t.epoch)

/-- The group cache's methods that the pre-grouping subscriber calls, over the cache's state
`σ`. -/
structure GroupCache (σ : Type) where
  getIndex : σ → Except DataAccessError Nat
  getEpoch : σ → Except DataAccessError Nat
  getDkgStatus : σ → Except DataAccessError DKGStatus
  saveTaskInfo : σ → Nat → DKGTask → Except DataAccessError σ
  updateDkgStatus : σ → Nat → Nat → DKGStatus → Except DataAccessError (Bool × σ)

variable {σ : Type}

/-- The `(group_index, epoch)` the cache records, when it records one. -/
def GroupCache.recorded (g : GroupCache σ) (s : σ) : Option (Nat × Nat) :=
  match g.getIndex s, g.getEpoch s with
  | .ok i, .ok e => some (i, e)
  | _, _ => none

/-- The laws of a group cache the pre-grouping subscriber relies on: `save_task_info` records
the task's `(group_index, epoch)`; `update_dkg_status` returns `true` only when it changes the
status of the recorded group; and it leaves the recorded group as it is. -/
structure GroupCache.Lawful (g : GroupCache σ) : Prop where
  save_records : ∀ s i t s', g.saveTaskInfo s i t = .ok s' →
    g.getIndex s' = .ok t.groupIndex ∧ g.getEpoch s' = .ok t.epoch
  update_changes : ∀ s i e st s', g.updateDkgStatus s i e st = .ok (true, s') →
    g.getDkgStatus s ≠ .ok st ∧ g.getDkgStatus s' = .ok st
  update_keeps_group : ∀ s i e st b s', g.updateDkgStatus s i e st = .ok (b, s') →
    g.getIndex s' = g.getIndex s ∧ g.getEpoch s' = g.getEpoch s

/-- Modelled from the spec: the group record of a cache backed by a store.  The group is
identified by `(group_index, epoch)`, a newly saved group's status is `None`, and each write
uses one of `writesLeft`, the store failing once they are used up. -/
structure GroupRecord where
  group : Option (Nat × Nat)
  dkgStatus : DKGStatus
  writesLeft : Nat
  deriving DecidableEq, Repr

/-- Modelled from the spec: the group cache over a `GroupRecord`. -/
def recordCache : GroupCache GroupRecord where
  getIndex r := match r.group with
    | some (i, _) => .ok i
    | none => .error ⟨"GroupNotExisted"⟩
  getEpoch r := match r.group with
    | some (_, e) => .ok e
    | none => .error ⟨"GroupNotExisted"⟩
  getDkgStatus r := .ok r.dkgStatus
  saveTaskInfo r _ t :=
    if r.writesLeft = 0 then .error ⟨"database is locked"⟩
    else .ok ⟨some (t.groupIndex, t.epoch), .none, r.writesLeft - 1⟩
  updateDkgStatus r i e st :=
    match r.group with
    | none => .error ⟨"GroupNotExisted"⟩
    | some (i', e') =>
      if i' ≠ i then .error ⟨"GroupIndexObsolete"⟩
      else if e' ≠ e then .error ⟨"GroupEpochObsolete"⟩
      else if r.writesLeft = 0 then .error ⟨"database is locked"⟩
      else if r.dkgStatus = st then .ok (false, { r with writesLeft := r.writesLeft - 1 })
      else .ok (true, { r with dkgStatus := st, writesLeft := r.writesLeft - 1 })

end ArpaNode.Dal
