import ArpaNode.Core.Config
/-! The retry machinery the chain client builds on, from `tokio_retry` 0.3: the
`ExponentialBackoff` strategy, which yields a delay on every call, cut by `take(max_attempts)`,
and `RetryIf`, which runs an action, and after an error the condition accepts sleeps for the
strategy's next delay and runs it again.  A strategy of `n` delays therefore allows `n + 1`
attempts.  The `k`-th attempt's outcome is `action k`, so one statement covers every sequence
of outcomes. -/

namespace ArpaNode.ContractClient

open ArpaNode.Core

/-! ### The strategy -/

/-- `tokio_retry::strategy::ExponentialBackoff`: each delay is `current * factor` milliseconds,
and `current` is multiplied by `base` after each delay; both products saturate at
`u64::MAX`. -/
structure ExponentialBackoff where
  current : Nat
  base : Nat
  factor : Nat
  deriving DecidableEq, Repr

/-- `ExponentialBackoff::from_millis(base)`. -/
def ExponentialBackoff.fromMillis (base : Nat) : ExponentialBackoff := ⟨base, base, 1⟩

/-- `ExponentialBackoff::factor`. -/
def ExponentialBackoff.withFactor (s : ExponentialBackoff) (factor : Nat) : ExponentialBackoff :=
  { s with factor }

/-- `Iterator::next`: the next delay, which always exists, and the strategy after it. -/
def ExponentialBackoff.next (s : ExponentialBackoff) : Nat × ExponentialBackoff :=
  ((checkedMul s.current s.factor).getD u64Max,
    { s with current := (checkedMul s.current s.base).getD u64Max })

/-- `Iterator::take(n)`: the first `n` delays. -/
def ExponentialBackoff.take : Nat → ExponentialBackoff → List Nat
  | 0, _ => []
  | n + 1, s => s.next.1 :: ExponentialBackoff.take n s.next.2

@[simp] theorem ExponentialBackoff.next_base (s : ExponentialBackoff) : s.next.2.base = s.base :=
  rfl

@[simp] theorem ExponentialBackoff.next_factor (s : ExponentialBackoff) :
    s.next.2.factor = s.factor :=
  rfl

/-- From a strategy whose `current`, saturated, is `base ^ (j + 1)`, saturated, the delays are
`base ^ (i + 1) * factor`, saturated, for `i` from `j` on. -/
theorem ExponentialBackoff.take_eq_range' (n j : Nat) (s : ExponentialBackoff)
    (hs : min s.current u64Max = min (s.base ^ (j + 1)) u64Max) :
    s.take n = (List.range' j n).map fun i => min (s.base ^ (i + 1) * s.factor) u64Max := by
  induction n generalizing j s with
  | zero => rfl
  | succ n ih =>
    have hdelay : s.next.1 = min (s.base ^ (j + 1) * s.factor) u64Max := by
      rw [ExponentialBackoff.next, checkedMul_getD, ← min_mul_saturate, hs, min_mul_saturate]
    have hcurrent : min s.next.2.current u64Max = min (s.base ^ (j + 1 + 1)) u64Max := by
      show min ((checkedMul s.current s.base).getD u64Max) u64Max = _
      rw [checkedMul_getD, min_eq_left (min_le_right _ _), ← min_mul_saturate, hs,
        min_mul_saturate, ← Nat.pow_succ]
    rw [ExponentialBackoff.take, List.range'_succ, List.map_cons, hdelay,
      ih (j + 1) s.next.2 (by rwa [ExponentialBackoff.next_base])]
    simp

/-- The strategy of `call_contract_view` and `call_contract_transaction`: the backoff of the
descriptor, each delay passed through `jitter` (the `k`-th draw of the random factor) when
`use_jitter` is set, and cut after `max_attempts` delays. -/
def retryStrategy (d : ExponentialBackoffRetryDescriptor) (jitter : Nat → Nat → Nat) :
    List Nat :=
  ((ExponentialBackoff.fromMillis d.base).withFactor d.factor |>.take d.maxAttempts).mapIdx
    fun k e => if d.useJitter then jitter k e else e

theorem ExponentialBackoff.length_take (n : Nat) (s : ExponentialBackoff) :
    (s.take n).length = n := by
  induction n generalizing s with
  | zero => rfl
  | succ n ih => simp [ExponentialBackoff.take, ih]

/-- The strategy yields exactly `max_attempts` delays. -/
@[simp] theorem length_retryStrategy (d : ExponentialBackoffRetryDescriptor)
    (jitter : Nat → Nat → Nat) : (retryStrategy d jitter).length = d.maxAttempts := by
  simp [retryStrategy, ExponentialBackoff.length_take]

/-- The strategy's delays in closed form: the `k`-th is `base ^ (k + 1) * factor` milliseconds,
saturated at `u64::MAX`, passed through the `k`-th jitter draw when `use_jitter` is set. -/
theorem retryStrategy_eq (d : ExponentialBackoffRetryDescriptor) (jitter : Nat → Nat → Nat) :
    retryStrategy d jitter = (List.range d.maxAttempts).map fun k =>
      if d.useJitter then jitter k (min (d.base ^ (k + 1) * d.factor) u64Max)
      else min (d.base ^ (k + 1) * d.factor) u64Max := by
  rw [retryStrategy, ExponentialBackoff.take_eq_range' d.maxAttempts 0 _
    (by simp [ExponentialBackoff.withFactor, ExponentialBackoff.fromMillis]),
    ← List.range_eq_range']
  apply List.ext_getElem <;> simp [ExponentialBackoff.withFactor, ExponentialBackoff.fromMillis]

/-- The default view strategy, before jitter, waits one, two and four seconds. -/
example : retryStrategy defaultTimeLimits.contractViewRetryDescriptor (fun _ e => e) =
    [1000, 2000, 4000] := by
  decide

/-! ### `RetryIf` -/

/-- A finished run of a retried action: how many attempts it made, and what it returned. -/
structure RetryRun (ε α : Type) where
  attempts : Nat
  result : Except ε α

/-- `RetryIf::spawn(strategy, action, condition)`, from attempt `k` on with the delays `delays`
left: run the action; on success return; on an error the condition refuses return it; on one
it accepts take the next delay and run again, or return the error when there is none. -/
def retryIf {ε α : Type} (action : Nat → Except ε α) (condition : ε → Bool) :
    List Nat → Nat → RetryRun ε α
  | delays, k =>
    match action k with
    | .ok a => ⟨k + 1, .ok a⟩
    | .error e =>
      if condition e then
        match delays with
        | [] => ⟨k + 1, .error e⟩
        | _ :: rest => retryIf action condition rest (k + 1)
      else ⟨k + 1, .error e⟩

section Branches

variable {ε α : Type} {action : Nat → Except ε α} {condition : ε → Bool} {k : Nat}

theorem retryIf_ok {a : α} (h : action k = .ok a) (delays : List Nat) :
    retryIf action condition delays k = ⟨k + 1, .ok a⟩ := by
  rw [retryIf, h]

theorem retryIf_refused {e : ε} (h : action k = .error e) (hc : condition e = false)
    (delays : List Nat) : retryIf action condition delays k = ⟨k + 1, .error e⟩ := by
  rw [retryIf, h]
  simp [hc]

theorem retryIf_exhausted {e : ε} (h : action k = .error e) :
    retryIf action condition [] k = ⟨k + 1, .error e⟩ := by
  simp [retryIf, h]

theorem retryIf_retry {e : ε} (h : action k = .error e) (hc : condition e = true) (d : Nat)
    (delays : List Nat) :
    retryIf action condition (d :: delays) k = retryIf action condition delays (k + 1) := by
  rw [retryIf, h]
  simp [hc]

end Branches

/-! ### What a run does -/

/-- What a run of `RetryIf` from attempt `k` with `n` delays left does: it makes at least one
attempt and at most `n + 1`; every attempt but the last failed with an error the condition
accepts; it returns the last attempt's outcome unchanged; and it stops on an error only when the
condition refuses it or no delay is left. -/
structure RetryIfSpec {ε α : Type} (action : Nat → Except ε α) (condition : ε → Bool)
    (k n : Nat) (run : RetryRun ε α) : Prop where
  first : k < run.attempts
  bounded : run.attempts ≤ k + n + 1
  retried : ∀ j, k ≤ j → j + 1 < run.attempts → ∃ e, action j = .error e ∧ condition e = true
  result : run.result = action (run.attempts - 1)
  stopped : ∀ e, run.result = .error e → condition e = false ∨ run.attempts = k + n + 1

section Spec

variable {ε α : Type} {action : Nat → Except ε α} {condition : ε → Bool}

/-- A run that stops at its first attempt, with a reason to stop there. -/
theorem RetryIfSpec.stop {k n : Nat}
    (hs : ∀ e, action k = .error e → condition e = false ∨ n = 0) :
    RetryIfSpec action condition k n ⟨k + 1, action k⟩ where
  first := Nat.lt_succ_self k
  bounded := by dsimp only; omega
  retried _ _ hlt := by dsimp only at hlt; omega
  result := rfl
  stopped e he := (hs e he).imp_right fun h => by dsimp only; omega

/-- An error the condition accepts, followed by a run from the next attempt with one delay
fewer. -/
theorem RetryIfSpec.retry {k n : Nat} {e : ε} {run : RetryRun ε α} (h : action k = .error e)
    (hc : condition e = true) (hrun : RetryIfSpec action condition (k + 1) n run) :
    RetryIfSpec action condition k (n + 1) run where
  first := by have := hrun.first; omega
  bounded := by have := hrun.bounded; omega
  retried j hj hlt := by
    rcases Nat.eq_or_lt_of_le hj with rfl | hj
    · exact ⟨e, h, hc⟩
    · exact hrun.retried j hj hlt
  result := hrun.result
  stopped e' he' := (hrun.stopped e' he').imp_right fun h => by omega

/-- Every run of `RetryIf` meets `RetryIfSpec`, for every sequence of outcomes. -/
theorem retryIf_spec (action : Nat → Except ε α) (condition : ε → Bool) (delays : List Nat)
    (k : Nat) :
    RetryIfSpec action condition k delays.length (retryIf action condition delays k) := by
  induction delays generalizing k with
  | nil =>
    cases h : action k with
    | ok a => exact retryIf_ok h [] ▸ h ▸ RetryIfSpec.stop (by simp [h])
    | error e => exact retryIf_exhausted h ▸ h ▸ RetryIfSpec.stop fun _ _ => .inr rfl
  | cons d ds ih =>
    cases h : action k with
    | ok a => exact retryIf_ok h _ ▸ h ▸ RetryIfSpec.stop (by simp [h])
    | error e =>
      cases hc : condition e with
      | false => exact retryIf_refused h hc _ ▸ h ▸ RetryIfSpec.stop (by simp [h, hc])
      | true => exact retryIf_retry h hc d ds ▸ RetryIfSpec.retry h hc (ih (k + 1))

/-- When every attempt fails with an error the condition accepts, a run uses every delay. -/
theorem retryIf_attempts_of_retried
    (h : ∀ j, ∃ e, action j = .error e ∧ condition e = true) (delays : List Nat) (k : Nat) :
    (retryIf action condition delays k).attempts = k + delays.length + 1 := by
  have spec := retryIf_spec action condition delays k
  obtain ⟨e, he, hc⟩ := h ((retryIf action condition delays k).attempts - 1)
  rcases spec.stopped e (spec.result.trans he) with hc' | hn
  · simp [hc] at hc'
  · exact hn

end Spec

end ArpaNode.ContractClient
