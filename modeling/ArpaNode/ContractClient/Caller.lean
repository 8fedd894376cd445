import ArpaNode.ContractClient.Retry
/-! `TransactionCaller::call_contract_transaction` and `ViewCaller::call_contract_view`
(`contract_client/src/lib.rs`), the two retried calls every contract client makes.  A
transaction attempt sends the call, waits for its receipt, and fails on a receipt with status 0;
it is retried on every error, except `TransactionFailed` when `retry_on_transaction_fail` is
false.  A view attempt is retried on every error.  The chain's behaviour is a sequence of
per-attempt outcomes.

Both calls make up to `max_attempts + 1` attempts, one more than the descriptor's name says; and
since an attempt whose receipt could not be obtained is retried with a new `send`, a transaction
call may broadcast more than once. -/

namespace ArpaNode.ContractClient

open ArpaNode.Core

/-- `ContractClientError`, with the errors converted from the provider and the contract kept as
their messages. -/
inductive ContractClientError where
  | providerError (message : String)
  | contractError (message : String)
  | noTransactionReceipt
  | transactionFailed
  | fetchingBlockError
  deriving DecidableEq, Repr

/-- The fields of a mined receipt the caller reads. -/
structure TransactionReceipt where
  status : Option Nat
  transactionHash : Nat
  deriving DecidableEq, Repr

/-- What the chain does with one transaction attempt: the outcome of `call.send()`, with the
pending transaction's hash, and the outcome of awaiting its receipt. -/
structure TransactionOutcome where
  send : Except ContractClientError Nat
  receipt : Except ContractClientError (Option TransactionReceipt)

/-- The closure `call_contract_transaction` retries. -/
def transactionAttempt (o : TransactionOutcome) : Except ContractClientError Nat :=
  match o.send with
  | .error e => .error e
  | .ok _ =>
    match o.receipt with
    | .error e => .error e
    | .ok none => .error .noTransactionReceipt
    | .ok (some receipt) =>
      if receipt.status = some 0 then .error .transactionFailed else .ok receipt.transactionHash

/-- The retry condition of `call_contract_transaction`. -/
def retryCondition (retryOnTransactionFail : Bool) (e : ContractClientError) : Bool :=
  retryOnTransactionFail || e != .transactionFailed

/-- `call_contract_transaction`: the hash of the first transaction mined with a status other
than 0, or the error of the last attempt. -/
def callContractTransaction (d : ExponentialBackoffRetryDescriptor) (jitter : Nat → Nat → Nat)
    (retryOnTransactionFail : Bool) (outcomes : Nat → TransactionOutcome) :
    RetryRun ContractClientError Nat :=
  retryIf (fun k => transactionAttempt (outcomes k)) (retryCondition retryOnTransactionFail)
    (retryStrategy d jitter) 0

/-- `call_contract_view`: `Retry::spawn`, which retries on every error. -/
def callContractView {α : Type} (d : ExponentialBackoffRetryDescriptor)
    (jitter : Nat → Nat → Nat) (outcomes : Nat → Except ContractClientError α) :
    RetryRun ContractClientError α :=
  retryIf outcomes (fun _ => true) (retryStrategy d jitter) 0

/-! ### One transaction attempt -/

/-- An attempt whose send succeeded and whose receipt was mined fails at most with
`TransactionFailed`. -/
theorem transactionAttempt_mined {o : TransactionOutcome} {tx : Nat} {receipt : TransactionReceipt}
    (hs : o.send = .ok tx) (hr : o.receipt = .ok (some receipt)) {e : ContractClientError}
    (he : transactionAttempt o = .error e) : e = .transactionFailed := by
  simp only [transactionAttempt, hs, hr] at he
  split at he <;> simp_all

/-! ### Runs of the two calls -/

theorem callContractTransaction_spec (d : ExponentialBackoffRetryDescriptor)
    (jitter : Nat → Nat → Nat) (r : Bool) (o : Nat → TransactionOutcome) :
    RetryIfSpec (fun k => transactionAttempt (o k)) (retryCondition r) 0 d.maxAttempts
      (callContractTransaction d jitter r o) := by
  have spec := retryIf_spec (fun k => transactionAttempt (o k)) (retryCondition r)
    (retryStrategy d jitter) 0
  rwa [length_retryStrategy] at spec

theorem callContractView_spec {α : Type} (d : ExponentialBackoffRetryDescriptor)
    (jitter : Nat → Nat → Nat) (ov : Nat → Except ContractClientError α) :
    RetryIfSpec ov (fun _ => true) 0 d.maxAttempts (callContractView d jitter ov) := by
  have spec := retryIf_spec ov (fun _ => true) (retryStrategy d jitter) 0
  rwa [length_retryStrategy] at spec

/-- The number of attempts of a run of `call_contract_transaction` whose send succeeded, that
is, of transactions it handed to the chain. -/
def broadcasts {α : Type} (o : Nat → TransactionOutcome) (run : RetryRun ContractClientError α) :
    Nat :=
  ((List.range run.attempts).filter fun k => (o k).send matches .ok _).length

/-- A call whose first receipt wait fails after the transaction was sent, and whose second
attempt is mined. -/
def lostReceipt : Nat → TransactionOutcome
  | 0 => ⟨.ok 1, .error (.providerError "request timed out")⟩
  | _ => ⟨.ok 2, .ok (some ⟨some 1, 2⟩)⟩

/-- With `retry_on_transaction_fail = false`, a transaction call still broadcasts twice when
the receipt of its first, sent, transaction cannot be obtained. -/
theorem callContractTransaction_broadcasts_twice :
    broadcasts lostReceipt (callContractTransaction defaultTimeLimits.contractTransactionRetryDescriptor
      (fun _ e => e) false lostReceipt) = 2 := by
  decide

/-- With `retry_on_transaction_fail = false`, an attempt is followed by another only while one of
the `max_attempts` delays is left, and an attempt whose send succeeded only when waiting for its
receipt failed or found none: an attempt that gets a mined receipt, of either status, is the
last. -/
theorem callContractTransaction_resends_only_unconfirmed (d : ExponentialBackoffRetryDescriptor)
    (jitter : Nat → Nat → Nat) (o : Nat → TransactionOutcome) (j : Nat)
    (hj : j + 1 < (callContractTransaction d jitter false o).attempts) :
    j < d.maxAttempts ∧ ∀ tx, (o j).send = .ok tx →
      (∃ e, (o j).receipt = .error e) ∨ (o j).receipt = .ok none := by
  have spec := callContractTransaction_spec d jitter false o
  refine ⟨by have := spec.bounded; omega, fun tx hs => ?_⟩
  obtain ⟨e, he, hc⟩ := spec.retried j (Nat.zero_le j) hj
  cases hr : (o j).receipt with
  | error e' => exact .inl ⟨e', rfl⟩
  | ok receipt =>
    cases receipt with
    | none => exact .inr rfl
    | some receipt =>
      have := transactionAttempt_mined hs hr he
      simp [retryCondition, this] at hc

/-- The call that loses its first receipt sends again, with a delay left. -/
theorem lostReceipt_sent_again :
    0 + 1 < (callContractTransaction defaultTimeLimits.contractTransactionRetryDescriptor
      (fun _ e => e) false lostReceipt).attempts ∧
    0 < defaultTimeLimits.contractTransactionRetryDescriptor.maxAttempts ∧
      ∀ tx, (lostReceipt 0).send = .ok tx →
        (∃ e, (lostReceipt 0).receipt = .error e) ∨ (lostReceipt 0).receipt = .ok none :=
  have hj : 0 + 1 < (callContractTransaction defaultTimeLimits.contractTransactionRetryDescriptor
      (fun _ e => e) false lostReceipt).attempts := by decide
  ⟨hj, callContractTransaction_resends_only_unconfirmed _ _ lostReceipt 0 hj⟩

/-! ### Attempts -/

/-- Both calls make at most `max_attempts + 1` attempts. -/
theorem callContract_attempts_le (d : ExponentialBackoffRetryDescriptor)
    (jitter : Nat → Nat → Nat) (r : Bool) (o : Nat → TransactionOutcome) {α : Type}
    (ov : Nat → Except ContractClientError α) :
    (callContractTransaction d jitter r o).attempts ≤ d.maxAttempts + 1 ∧
      (callContractView d jitter ov).attempts ≤ d.maxAttempts + 1 := by
  have ht := (callContractTransaction_spec d jitter r o).bounded
  have hv := (callContractView_spec d jitter ov).bounded
  omega

/-- A view call whose every attempt fails makes `max_attempts + 1` attempts. -/
theorem callContractView_attempts_of_failing {α : Type} (d : ExponentialBackoffRetryDescriptor)
    (jitter : Nat → Nat → Nat) (ov : Nat → Except ContractClientError α)
    (h : ∀ k, ∃ e, ov k = .error e) :
    (callContractView d jitter ov).attempts = d.maxAttempts + 1 := by
  have := @retryIf_attempts_of_retried _ _ ov (fun _ => true)
    (fun j => (h j).imp fun _ he => ⟨he, rfl⟩) (retryStrategy d jitter) 0
  simpa [callContractView] using this

/-- The descriptor of the contract view calls, cut to one attempt by its name. -/
def oneAttemptView : ExponentialBackoffRetryDescriptor :=
  { defaultTimeLimits.contractViewRetryDescriptor with maxAttempts := 1, useJitter := false }

/-- A view whose every call fails. -/
def unreachableView : Nat → Except ContractClientError Nat :=
  fun _ => .error (.providerError "connection refused")

theorem unreachableView_attempts :
    (∀ k, ∃ e, unreachableView k = .error e) ∧
      (callContractView oneAttemptView (fun _ e => e) unreachableView).attempts = 2 :=
  ⟨fun _ => ⟨_, rfl⟩, callContractView_attempts_of_failing oneAttemptView _ unreachableView
    fun _ => ⟨_, rfl⟩⟩

/-- With `max_attempts = 1` and a view that always fails, `call_contract_view` calls the
contract twice. -/
theorem callContractView_calls_twice :
    (callContractView oneAttemptView (fun _ e => e) unreachableView).attempts = 2 := by
  decide

end ArpaNode.ContractClient
