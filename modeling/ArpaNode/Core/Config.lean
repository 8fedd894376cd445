import Mathlib.Tactic.SplitIfs
import ArpaNode.Core.Word
/-! The node's configuration (`core/src/types/config.rs`): the descriptors, their `DEFAULT_*`
constants, and `Config::initialize`, which fills in what the configuration file left out.
`initialize` fills every missing optional field, but of the five time limits it replaces only
the first one that is zero: its `match` on `time_limits` takes one guarded arm. -/

namespace ArpaNode.Core

/-! ### Constants -/

def defaultListenerIntervalMillis : Nat := 10000
def defaultListenerUseJitter : Bool := true
def defaultDkgTimeoutDuration : Nat := 10 * 4
def defaultRandomnessTaskExclusiveWindow : Nat := 10
def defaultDkgWaitForPhaseIntervalMillis : Nat := 10000
def defaultCommitPartialSignatureRetryBase : Nat := 2
def defaultCommitPartialSignatureRetryFactor : Nat := 1000
def defaultCommitPartialSignatureRetryMaxAttempts : Nat := 5
def defaultCommitPartialSignatureRetryUseJitter : Bool := true
def defaultContractTransactionRetryBase : Nat := 2
def defaultContractTransactionRetryFactor : Nat := 1000
def defaultContractTransactionRetryMaxAttempts : Nat := 3
def defaultContractTransactionRetryUseJitter : Bool := true
def defaultContractViewRetryBase : Nat := 2
def defaultContractViewRetryFactor : Nat := 500
def defaultContractViewRetryMaxAttempts : Nat := 3
def defaultContractViewRetryUseJitter : Bool := true
def defaultProviderPollingIntervalMillis : Nat := 10000
def defaultRollingLogFileSize : Nat := 10 * 1024 * 1024 * 1024

/-! ### Descriptors -/

inductive ListenerType where
  | block
  | preGrouping
  | postCommitGrouping
  | postGrouping
  | newRandomnessTask
  | readyToHandleRandomnessTask
  | randomnessSignatureAggregation
  deriving DecidableEq, Repr

/-- Modelled from its use in `config.rs`, its definition not being under `src/`: the
`SchedulerError` that `ListenerType::try_from` returns. -/
inductive SchedulerError where
  | taskNotFound
  deriving DecidableEq, Repr

/-- `<ListenerType as TryFrom<i32>>::try_from`. -/
def ListenerType.tryFrom (v : Int) : Except SchedulerError ListenerType :=
  match v with
  | 0 => .ok .block
  | 1 => .ok .preGrouping
  | 2 => .ok .postCommitGrouping
  | 3 => .ok .postGrouping
  | 4 => .ok .newRandomnessTask
  | 5 => .ok .readyToHandleRandomnessTask
  | 6 => .ok .randomnessSignatureAggregation
  | _ => .error .taskNotFound

/-- `ListenerType::try_from` inverts the enum's discriminant (`l as i32`, its position in the
declaration) and rejects every other value with `TaskNotFound`. -/
theorem ListenerType.tryFrom_spec (v : Int) :
    (∀ l, ListenerType.tryFrom v = .ok l ↔ v = l.toCtorIdx) ∧
    (ListenerType.tryFrom v = .error .taskNotFound ↔ v < 0 ∨ 6 < v) := by
  unfold ListenerType.tryFrom
  split
  all_goals refine ⟨fun l => by cases l <;> simp_all, ?_⟩
  all_goals simp_all
  omega

structure ListenerDescriptor where
  lType : ListenerType
  intervalMillis : Nat
  useJitter : Bool
  deriving DecidableEq, Repr

/-- `ListenerDescriptor::default(l_type)`. -/
def ListenerDescriptor.default (lType : ListenerType) : ListenerDescriptor :=
  { lType, intervalMillis := defaultListenerIntervalMillis, useJitter := defaultListenerUseJitter }

structure LoggerDescriptor where
  nodeId : String
  contextLogging : Bool
  logFilePath : String
  rollingFileSize : Nat
  deriving DecidableEq, Repr

def LoggerDescriptor.default : LoggerDescriptor :=
  { nodeId := "running", contextLogging := false, logFilePath := "log/running",
    rollingFileSize := defaultRollingLogFileSize }

/-- The parameters of an exponential backoff: the `k`-th delay is `base^(k+1) * factor`
milliseconds, and `max_attempts` bounds the delays the strategy yields. -/
structure ExponentialBackoffRetryDescriptor where
  base : Nat
  factor : Nat
  maxAttempts : Nat
  useJitter : Bool
  deriving DecidableEq, Repr

structure TimeLimitDescriptor where
  listenerIntervalMillis : Nat
  dkgWaitForPhaseIntervalMillis : Nat
  dkgTimeoutDuration : Nat
  randomnessTaskExclusiveWindow : Nat
  providerPollingIntervalMillis : Nat
  contractTransactionRetryDescriptor : ExponentialBackoffRetryDescriptor
  contractViewRetryDescriptor : ExponentialBackoffRetryDescriptor
  commitPartialSignatureRetryDescriptor : ExponentialBackoffRetryDescriptor
  deriving DecidableEq, Repr

/-- The node's configuration, without `account`, which `initialize` leaves as it is. -/
structure Config where
  nodeCommitterRpcEndpoint : String
  nodeAdvertisedCommitterRpcEndpoint : Option String
  nodeManagementRpcEndpoint : String
  nodeManagementRpcToken : String
  providerEndpoint : String
  chainId : Nat
  controllerAddress : String
  adapterAddress : String
  dataPath : Option String
  listeners : Option (List ListenerDescriptor)
  logger : Option LoggerDescriptor
  timeLimits : Option TimeLimitDescriptor
  deriving DecidableEq, Repr

/-- `Config::default()`. -/
def Config.default : Config :=
  { nodeCommitterRpcEndpoint := "[::1]:50060",
    nodeAdvertisedCommitterRpcEndpoint := some "[::1]:50060",
    nodeManagementRpcEndpoint := "[::1]:50099",
    nodeManagementRpcToken := "for_test",
    providerEndpoint := "localhost:8545",
    chainId := 0,
    controllerAddress := "0xdc64a140aa3e981100a9beca4e685f962f0cf6c9",
    adapterAddress := "0xa513e6e4b8f2a923d98304ec87f64353c4d5c853",
    dataPath := none, listeners := none, logger := none, timeLimits := none }

/-! ### `Config::initialize` -/

/-- The listeners `initialize` configures when the file names none: one of each type. -/
def defaultListeners : List ListenerDescriptor :=
  [.default .block, .default .preGrouping, .default .postCommitGrouping, .default .postGrouping,
    .default .newRandomnessTask, .default .readyToHandleRandomnessTask,
    .default .randomnessSignatureAggregation]

/-- The time limits of the `None` arm of `initialize`. -/
def defaultTimeLimits : TimeLimitDescriptor :=
  { listenerIntervalMillis := defaultListenerIntervalMillis,
    dkgWaitForPhaseIntervalMillis := defaultDkgWaitForPhaseIntervalMillis,
    dkgTimeoutDuration := defaultDkgTimeoutDuration,
    randomnessTaskExclusiveWindow := defaultRandomnessTaskExclusiveWindow,
    providerPollingIntervalMillis := defaultProviderPollingIntervalMillis,
    contractTransactionRetryDescriptor :=
      { base := defaultContractTransactionRetryBase,
        factor := defaultContractTransactionRetryFactor,
        maxAttempts := defaultContractTransactionRetryMaxAttempts,
        useJitter := defaultContractTransactionRetryUseJitter },
    contractViewRetryDescriptor :=
      { base := defaultContractViewRetryBase, factor := defaultContractViewRetryFactor,
        maxAttempts := defaultContractViewRetryMaxAttempts,
        useJitter := defaultContractViewRetryUseJitter },
    commitPartialSignatureRetryDescriptor :=
      { base := defaultCommitPartialSignatureRetryBase,
        factor := defaultCommitPartialSignatureRetryFactor,
        maxAttempts := defaultCommitPartialSignatureRetryMaxAttempts,
        useJitter := defaultCommitPartialSignatureRetryUseJitter } }

/-- The `match self.time_limits.as_mut()` of `initialize`: the first guarded arm whose field is
zero sets that field to its default, `Some(_)` keeps the rest, and `None` builds the
defaults. -/
def initializeTimeLimits : Option TimeLimitDescriptor → Option TimeLimitDescriptor
  | some t =>
    if t.listenerIntervalMillis = 0 then
      some { t with listenerIntervalMillis := defaultListenerIntervalMillis }
    else if t.dkgWaitForPhaseIntervalMillis = 0 then
      some { t with dkgWaitForPhaseIntervalMillis := defaultDkgWaitForPhaseIntervalMillis }
    else if t.dkgTimeoutDuration = 0 then
      some { t with dkgTimeoutDuration := defaultDkgTimeoutDuration }
    else if t.randomnessTaskExclusiveWindow = 0 then
      some { t with randomnessTaskExclusiveWindow := defaultRandomnessTaskExclusiveWindow }
    else if t.providerPollingIntervalMillis = 0 then
      some { t with providerPollingIntervalMillis := defaultProviderPollingIntervalMillis }
    else some t
  | none => some defaultTimeLimits

/-- `Config::initialize`. -/
def Config.initialize (c : Config) : Config :=
  let c := if c.nodeAdvertisedCommitterRpcEndpoint.isNone then
    { c with nodeAdvertisedCommitterRpcEndpoint := some c.nodeCommitterRpcEndpoint } else c
  let c := if c.dataPath.isNone then { c with dataPath := some "data.sqlite" } else c
  let c := if c.logger.isNone then { c with logger := some LoggerDescriptor.default } else c
  let c := if c.listeners.isNone then { c with listeners := some defaultListeners } else c
  { c with timeLimits := initializeTimeLimits c.timeLimits }

/-! ### The time limits after `initialize` -/

namespace TimeLimitDescriptor

/-- The five time limits that `initialize` checks, in the order of its arms. -/
def limits (t : TimeLimitDescriptor) : List Nat :=
  [t.listenerIntervalMillis, t.dkgWaitForPhaseIntervalMillis, t.dkgTimeoutDuration,
    t.randomnessTaskExclusiveWindow, t.providerPollingIntervalMillis]

/-- The three retry descriptors, which `initialize` never reads. -/
def retryDescriptors (t : TimeLimitDescriptor) : List ExponentialBackoffRetryDescriptor :=
  [t.contractTransactionRetryDescriptor, t.contractViewRetryDescriptor,
    t.commitPartialSignatureRetryDescriptor]

end TimeLimitDescriptor

/-- The defaults of the five time limits, in the order of `limits`. -/
def defaultLimits : List Nat :=
  [defaultListenerIntervalMillis, defaultDkgWaitForPhaseIntervalMillis, defaultDkgTimeoutDuration,
    defaultRandomnessTaskExclusiveWindow, defaultProviderPollingIntervalMillis]

/-- `xs` with its first zero replaced by the default at the same position. -/
def fixFirstZero : List Nat → List Nat → List Nat
  | x :: xs, d :: ds => if x = 0 then d :: xs else x :: fixFirstZero xs ds
  | xs, _ => xs

/-- Replacing the first zero by a non-zero default removes one zero, if there is one. -/
theorem count_fixFirstZero : ∀ (xs ds : List Nat), (∀ d ∈ ds, d ≠ 0) →
    xs.length ≤ ds.length → (fixFirstZero xs ds).count 0 = xs.count 0 - 1
  | [], _, _, _ => rfl
  | x :: xs, d :: ds, hd, hl => by
    have hd0 : d ≠ 0 := hd d (List.mem_cons_self d ds)
    by_cases hx : x = 0
    · simp [fixFirstZero, hx, List.count_cons, hd0]
    · have ih := count_fixFirstZero xs ds (fun e he => hd e (List.mem_cons_of_mem d he))
        (by simpa using hl)
      simp [fixFirstZero, hx, List.count_cons, ih]
  | _ :: _, [], _, hl => absurd hl (by simp)

/-- Of the five time limits, `initialize` replaces the first that is zero by its default and
keeps the others; it never changes a retry descriptor. -/
theorem initializeTimeLimits_some (t : TimeLimitDescriptor) :
    ∃ t', initializeTimeLimits (some t) = some t' ∧
      t'.limits = fixFirstZero t.limits defaultLimits ∧
      t'.retryDescriptors = t.retryDescriptors := by
  simp only [initializeTimeLimits]
  split_ifs <;> refine ⟨_, rfl, ?_, rfl⟩ <;>
    simp_all [TimeLimitDescriptor.limits, fixFirstZero, defaultLimits]

theorem initializeTimeLimits_eq_self {t : TimeLimitDescriptor} :
    initializeTimeLimits (some t) = some t ↔ 0 ∉ t.limits := by
  cases t
  simp only [initializeTimeLimits]
  split_ifs <;> simp_all [TimeLimitDescriptor.limits, defaultListenerIntervalMillis,
    defaultDkgWaitForPhaseIntervalMillis, defaultDkgTimeoutDuration,
    defaultRandomnessTaskExclusiveWindow, defaultProviderPollingIntervalMillis, eq_comm]

/-! ### `Config::initialize` as a whole -/

/-- `initialize` keeps every field the file set, fills each missing optional field with its
default, and applies `initializeTimeLimits` to the time limits. -/
theorem Config.initialize_eq (c : Config) :
    c.initialize = { c with
      nodeAdvertisedCommitterRpcEndpoint :=
        some (c.nodeAdvertisedCommitterRpcEndpoint.getD c.nodeCommitterRpcEndpoint),
      dataPath := some (c.dataPath.getD "data.sqlite"),
      logger := some (c.logger.getD LoggerDescriptor.default),
      listeners := some (c.listeners.getD defaultListeners),
      timeLimits := initializeTimeLimits c.timeLimits } := by
  obtain ⟨_, e, _, _, _, _, _, _, d, ls, l, _⟩ := c
  cases e <;> cases d <;> cases l <;> cases ls <;> rfl

/-- A second `initialize` changes nothing exactly when the file set at most one of the five time
limits to zero. -/
theorem Config.initialize_idempotent_iff (c : Config) :
    c.initialize.initialize = c.initialize ↔
      ∀ t, c.timeLimits = some t → t.limits.count 0 ≤ 1 := by
  rw [Config.initialize_eq c.initialize, Config.initialize_eq c]
  cases c
  simp only [Option.getD_some, Config.mk.injEq, true_and]
  rename_i o
  cases o with
  | none => simp [initializeTimeLimits, initializeTimeLimits_eq_self, defaultTimeLimits,
      TimeLimitDescriptor.limits, defaultListenerIntervalMillis,
      defaultDkgWaitForPhaseIntervalMillis, defaultDkgTimeoutDuration,
      defaultRandomnessTaskExclusiveWindow, defaultProviderPollingIntervalMillis]
  | some t =>
    obtain ⟨t', h, hl, -⟩ := initializeTimeLimits_some t
    have hcount := count_fixFirstZero t.limits defaultLimits (by decide) (Nat.le_refl _)
    rw [h, initializeTimeLimits_eq_self, ← List.count_eq_zero, hl, hcount]
    simp only [Option.some.injEq, forall_eq']
    omega

/-- A file that sets the first two time limits to zero. -/
def twoZeroLimits : Config :=
  let t : TimeLimitDescriptor :=
    { defaultTimeLimits with listenerIntervalMillis := 0, dkgWaitForPhaseIntervalMillis := 0 }
  { Config.default with timeLimits := some t }

/-- On `twoZeroLimits`, `initialize` leaves the DKG phase interval at zero, and a second
`initialize` changes the configuration. -/
theorem initialize_leaves_second_zero_limit :
    twoZeroLimits.initialize.timeLimits.map (·.dkgWaitForPhaseIntervalMillis) = some 0 ∧
      twoZeroLimits.initialize.initialize ≠ twoZeroLimits.initialize := by
  refine ⟨by decide, fun h => ?_⟩
  have := congrArg Config.timeLimits h
  revert this
  decide

end ArpaNode.Core
