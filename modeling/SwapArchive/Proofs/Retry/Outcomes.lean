import SwapArchive.Retry

/-!
# What comes of an operation under a policy

An operation is called until it gives something else than a failure of transport, or the attempts
are used up. The outcomes of its calls therefore decide everything: how often it is called, what
the result is, and the pauses, of which there is one between any two calls.
-/

namespace SwapArchive

/-- Whether an operation failed for a reason of transport. -/
def IsTransport {α : Type} (result : Outcome α) : Prop :=
  ∃ reason, result = .error (.transport reason)

instance {α : Type} (result : Outcome α) : Decidable (IsTransport result) :=
  match result with
  | .error (.transport reason) => isTrue ⟨reason, rfl⟩
  | .ok _ | .error (.config _) | .error (.data _) | .error (.insufficientData _)
  | .error (.malformedResponse _) | .error (.database _) | .error (.io _) | .error (.json _) =>
    isFalse nofun

/-- What came of an operation, if it was called once more before, with a pause after that. -/
def Retried.behind {α σ : Type} (pause : Pause) (rest : Retried α σ) : Retried α σ :=
  { rest with calls := rest.calls + 1, pauses := pause :: rest.pauses }

namespace RetryPolicy

variable {σ α : Type} {operation : σ → Outcome α × σ} {s s' : σ} {result : Outcome α}
  {reason : String} (policy : RetryPolicy) (draw : Nat → UInt64) (left attempt : Nat)

/-! ## One call -/

theorem runFrom_final (h : operation s = (result, s')) (hFinal : ¬ IsTransport result) :
    policy.runFrom draw operation left attempt s = ⟨result, 1, [], s'⟩ := by
  unfold runFrom
  rw [h]
  cases result with
  | ok a => rfl
  | error f =>
    cases f with
    | transport reason => exact absurd ⟨reason, rfl⟩ hFinal
    | _ => rfl

/-- After a failure of transport, the operation is run once more with one attempt less. -/
theorem runFrom_again (h : operation s = (result, s'))
    (hAgain : result = .error (.transport reason)) :
    policy.runFrom draw operation (left + 1) attempt s
      = (policy.runFrom draw operation left (attempt + 1) s').behind
          ⟨attempt, policy.delay attempt (draw attempt), reason⟩ := by
  subst hAgain
  rw [runFrom.eq_def policy draw operation (left + 1)]
  dsimp only
  rw [h]
  rfl

/-- After the last attempt, a failure of transport is one of the whole. -/
theorem runFrom_last (h : operation s = (result, s'))
    (hLast : result = .error (.transport reason)) :
    policy.runFrom draw operation 0 attempt s = ⟨.error (policy.givingUp reason), 1, [], s'⟩ := by
  subst hLast
  unfold runFrom
  rw [h]

/-! ## All calls -/

/-- The state that calls of an operation lead to. -/
def stateAt (operation : σ → Outcome α × σ) : (calls : Nat) → σ → σ
  | 0, s => s
  | calls + 1, s => stateAt operation calls (operation s).2

/-- **The outcome of a call**, if the operation is called again and again. Calls are counted from
zero. -/
def outcomeAt (operation : σ → Outcome α × σ) (s : σ) (call : Nat) : Outcome α :=
  (operation (stateAt operation call s)).1

theorem outcomeAt_zero (h : operation s = (result, s')) : outcomeAt operation s 0 = result :=
  congrArg Prod.fst h

theorem stateAt_succ (h : operation s = (result, s')) (calls : Nat) :
    stateAt operation (calls + 1) s = stateAt operation calls s' :=
  congrArg (stateAt operation calls) (congrArg Prod.snd h)

theorem outcomeAt_succ (h : operation s = (result, s')) (call : Nat) :
    outcomeAt operation s (call + 1) = outcomeAt operation s' call :=
  congrArg (fun s => (operation s).1) (stateAt_succ h call)

/-- What the policy makes of the outcome of the last call. -/
def concluded : Outcome α → Outcome α
  | .error (.transport reason) => .error (policy.givingUp reason)
  | result => result

theorem concluded_of_final (h : ¬ IsTransport result) : policy.concluded result = result := by
  unfold concluded
  split
  · exact absurd ⟨_, rfl⟩ h
  · rfl

theorem ok_of_concluded {a : α} (h : policy.concluded result = .ok a) : result = .ok a := by
  unfold concluded at h
  split at h
  · cases h
  · exact h

theorem givingUp_eq (hLimit : policy.maxRetries.toNat + 1 < UInt32.size) (reason : String) :
    policy.givingUp reason = .transport (if policy.maxRetries.toNat = 0 then reason
      else s!"giving up after {policy.maxRetries.toNat + 1} attempts: {reason}") := by
  have hAttempts : policy.attempts.toNat = policy.maxRetries.toNat + 1 := by
    rw [attempts, UInt32.toNat_add]
    exact Nat.mod_eq_of_lt hLimit
  have hText : toString policy.attempts = toString (policy.maxRetries.toNat + 1) :=
    congrArg toString hAttempts
  rw [givingUp, hText]
  by_cases hNone : policy.maxRetries = 0
  · have hZero : policy.maxRetries.toNat = 0 := congrArg UInt32.toNat hNone
    rw [if_pos hNone, if_pos hZero]
  · have hSome : policy.maxRetries.toNat ≠ 0 := fun h => hNone (UInt32.toNat_inj.1 h)
    rw [if_neg hNone, if_neg hSome]

/-- **A pause is told by the call before it**, which has failed. -/
def PausedAt (operation : σ → Outcome α × σ) (s : σ) (attempt call : Nat) (pause : Pause) : Prop :=
  outcomeAt operation s call = .error (.transport pause.reason) ∧
    pause.attempt = attempt + call ∧ pause.millis = policy.delay pause.attempt (draw pause.attempt)

variable {policy draw attempt} in
theorem PausedAt.succ {call : Nat} {pause : Pause} (h : operation s = (result, s'))
    (hPaused : policy.PausedAt draw operation s' (attempt + 1) call pause) :
    policy.PausedAt draw operation s attempt (call + 1) pause := by
  obtain ⟨hReason, hAttempt, hMillis⟩ := hPaused
  exact ⟨(outcomeAt_succ h call).trans hReason, by omega, hMillis⟩

/-- The calls of a run end with the first outcome that is no failure of transport, or with the
attempts. -/
theorem runFrom_of_outcomes (operation : σ → Outcome α × σ) (s : σ) :
    let retried := policy.runFrom draw operation left attempt s
    ∃ last ≤ left, (∀ call < last, IsTransport (outcomeAt operation s call)) ∧
      (last < left → ¬ IsTransport (outcomeAt operation s last)) ∧
      retried.result = policy.concluded (outcomeAt operation s last) ∧
      retried.calls = last + 1 ∧ retried.state = stateAt operation (last + 1) s ∧
      retried.pauses.length = last ∧
      ∀ call pause, retried.pauses[call]? = some pause →
        policy.PausedAt draw operation s attempt call pause := by
  dsimp only
  -- The induction is on the attempts that are left. Each call is the first one of the rest.
  induction left generalizing attempt s with
  | zero =>
    cases hCall : operation s with | mk result s' =>
    refine ⟨0, Nat.le_refl 0, nofun, nofun, ?_⟩
    rw [outcomeAt_zero hCall, stateAt_succ hCall]
    by_cases hLast : IsTransport result
    · obtain ⟨reason, hLast⟩ := hLast
      rw [policy.runFrom_last draw attempt hCall hLast, hLast]
      exact ⟨rfl, rfl, rfl, rfl, nofun⟩
    · rw [policy.runFrom_final draw 0 attempt hCall hLast]
      exact ⟨(policy.concluded_of_final hLast).symm, rfl, rfl, rfl, nofun⟩
  | succ left ih =>
    cases hCall : operation s with | mk result s' =>
    by_cases hAgain : IsTransport result
    · obtain ⟨last, hLeft, hFailed, hFinal, hResult, hCalls, hEnd, hLength, hPauses⟩ :=
        ih (attempt + 1) s'
      obtain ⟨reason, rfl⟩ := hAgain
      rw [policy.runFrom_again draw left attempt hCall rfl]
      refine ⟨last + 1, Nat.succ_le_succ hLeft, fun call hBefore => ?_, fun hMore => ?_, ?_,
        congrArg (· + 1) hCalls, hEnd.trans (stateAt_succ hCall _).symm,
        congrArg (· + 1) hLength, fun call pause hPause => ?_⟩
      · cases call with
        | zero => exact ⟨reason, outcomeAt_zero hCall⟩
        | succ call =>
          rw [outcomeAt_succ hCall]
          exact hFailed call (Nat.lt_of_succ_lt_succ hBefore)
      · rw [outcomeAt_succ hCall]
        exact hFinal (Nat.lt_of_succ_lt_succ hMore)
      · rw [outcomeAt_succ hCall]
        exact hResult
      · cases call with
        | zero =>
          obtain rfl := Option.some.inj hPause
          exact ⟨outcomeAt_zero hCall, rfl, rfl⟩
        | succ call => exact (hPauses call pause hPause).succ hCall
    · rw [policy.runFrom_final draw (left + 1) attempt hCall hAgain]
      refine ⟨0, Nat.zero_le _, nofun, fun _ => ?_, ?_, rfl, (stateAt_succ hCall 0).symm, rfl,
        nofun⟩
      · rwa [outcomeAt_zero hCall]
      · rw [outcomeAt_zero hCall, policy.concluded_of_final hAgain]

/-- A result that is no failure comes from one of the attempts. -/
theorem exists_of_runFrom {a : α}
    (h : (policy.runFrom draw operation left attempt s).result = .ok a) :
    ∃ s, (operation s).1 = .ok a := by
  obtain ⟨last, -, -, -, hResult, -⟩ := policy.runFrom_of_outcomes draw left attempt operation s
  rw [h] at hResult
  exact ⟨stateAt operation last s, policy.ok_of_concluded hResult.symm⟩

/-- **A run by the outcomes of the calls.** If one of the first calls that the policy allows does
not fail for a reason of transport, the first such call is the last one, and its outcome is the
result. Otherwise all allowed calls are made, and the result is the failure of the last of them; it
tells how often the operation was called if there could have been more calls than one. Between any
two calls there is one pause, with the delay and the failure that belong to the first of them. -/
theorem run_of_outcomes (policy : RetryPolicy) (hLimit : policy.maxRetries.toNat + 1 < UInt32.size)
    (draw : Nat → UInt64) (operation : σ → Outcome α × σ) (s : σ) :
    let limit := policy.maxRetries.toNat
    let outcome := outcomeAt operation s
    let retried := policy.run draw operation s
    (∀ first ≤ limit, (∀ call < first, IsTransport (outcome call)) →
        ¬ IsTransport (outcome first) →
        retried.calls = first + 1 ∧ retried.result = outcome first) ∧
      ((∀ call ≤ limit, IsTransport (outcome call)) → retried.calls = limit + 1 ∧
        ∃ reason, outcome limit = .error (.transport reason) ∧
          retried.result = .error (.transport (if limit = 0 then reason
            else s!"giving up after {retried.calls} attempts: {reason}"))) ∧
      retried.pauses.length + 1 = retried.calls ∧
      (∀ call pause, retried.pauses[call]? = some pause →
        outcome call = .error (.transport pause.reason) ∧ pause.attempt = call ∧
          pause.millis = policy.delay call (draw call)) ∧
      retried.state = stateAt operation retried.calls s := by
  intro limit outcome retried
  obtain ⟨last, hLast, hFailed, hFinal, hResult, (hCalls : retried.calls = last + 1), hState,
    hLength, hPauses⟩ := policy.runFrom_of_outcomes draw limit 0 operation s
  refine ⟨fun first hFirst hBefore hHere => ?_, fun hAll => ?_, ?_, ?_, ?_⟩
  · -- The last call is neither before the first final outcome nor behind it.
    have hSame : last = first := by
      rcases Nat.lt_trichotomy last first with hSooner | hSame | hLater
      · exact absurd (hBefore last hSooner) (hFinal (Nat.lt_of_lt_of_le hSooner hFirst))
      · exact hSame
      · exact absurd (hFailed first hLater) hHere
    subst hSame
    exact ⟨hCalls, hResult.trans (policy.concluded_of_final hHere)⟩
  · have hEnd : last = limit := by
      rcases Nat.lt_or_eq_of_le hLast with hSooner | hEnd
      · exact absurd (hAll last hLast) (hFinal hSooner)
      · exact hEnd
    subst hEnd
    obtain ⟨reason, hReason⟩ := hAll limit (Nat.le_refl limit)
    refine ⟨hCalls, reason, hReason, hResult.trans ?_⟩
    have hFailure := policy.givingUp_eq hLimit reason
    rw [← hCalls] at hFailure
    exact (congrArg policy.concluded hReason).trans (congrArg Except.error hFailure)
  · rw [hCalls]
    exact congrArg (· + 1) hLength
  · intro call pause hPause
    obtain ⟨hReason, hAttempt, hMillis⟩ := hPauses call pause hPause
    rw [Nat.zero_add] at hAttempt
    rw [hAttempt] at hMillis
    exact ⟨hReason, hAttempt, hMillis⟩
  · rw [hCalls]
    exact hState

/-- The third call is the last one that is allowed. It ends the run if it is one of the two that a
smaller limit cuts off. -/
theorem run_of_outcomes_at_limit :
    let outcomes : List (Outcome Nat) := [.error (.transport "connection reset"),
      .error (.transport "timed out"), .error (.malformedResponse "missing data.swaps")]
    let operation (n : Nat) : Outcome Nat × Nat := (outcomes.getD n (.ok 7), n + 1)
    let retried (policy : RetryPolicy) := policy.run (fun _ => 0) operation 0
    ((retried ⟨0, 2⟩).calls = 3 ∧
        (retried ⟨0, 2⟩).result = .error (.malformedResponse "missing data.swaps")) ∧
      ((retried ⟨0, 1⟩).calls = 2 ∧
        (retried ⟨0, 1⟩).result = .error (.transport "giving up after 2 attempts: timed out")) ∧
      (retried ⟨0, 0⟩).result = .error (.transport "connection reset") := by
  intro outcomes operation retried
  have hTwo := (run_of_outcomes ⟨0, 2⟩ (by decide) (fun _ => 0) operation 0).1
    2 (by decide) (by decide) (by decide)
  obtain ⟨hCalls, reason, hLast, hResult⟩ :=
    (run_of_outcomes ⟨0, 1⟩ (by decide) (fun _ => 0) operation 0).2.1 (by decide)
  obtain ⟨-, reason', hLast', hResult'⟩ :=
    (run_of_outcomes ⟨0, 0⟩ (by decide) (fun _ => 0) operation 0).2.1 (by decide)
  obtain rfl : "timed out" = reason := Failure.transport.inj (Except.error.inj hLast)
  obtain rfl : "connection reset" = reason' := Failure.transport.inj (Except.error.inj hLast')
  rw [hCalls] at hResult
  exact ⟨hTwo, ⟨hCalls, hResult⟩, hResult'⟩

end RetryPolicy
end SwapArchive
