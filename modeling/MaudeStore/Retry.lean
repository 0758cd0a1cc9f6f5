import MaudeStore.Errors

/-! withRetry: backoff.Retry of cenkalti/backoff v4 (the loop of RetryNotifyWithTimer, with no
notify) over WithContext(newServerRetryBackoff(), ctx), op's errors sorted by
isRetryableError. The exponential schedule depends on the clock and on random jitter, so it
is any finite list of delays, Stop once it runs out. -/
namespace MaudeStore.Retry
open GoString Errors

/-- The context as the loop sees it. Around the k-th call of the operation the loop looks at
it up to three times: NextBackOff's select at check 3k, ctx.Err() after a Stop at 3k + 1,
and the select of the wait at 3k + 2. ctx.Done() is closed from check cancelAt on, and
ctx.Err() is then err. -/
structure Ctx where
  cancelAt : Option Nat
  err : Err

def Ctx.done (ctx : Ctx) (t : Nat) : Bool :=
  match ctx.cancelAt with
  | none => false
  | some c => decide (c ≤ t)

/-- The loop from the k-th call of the operation o on, with the delays ds the backoff has
still to give: how many calls were made in all, and what Retry returns. -/
def retryFrom (ctx : Ctx) (o : Nat → Option Err) : Nat → List Nat → Nat × Option Err
  | k, ds =>
    match o k with
    | none => (k + 1, none)
    | some err =>
      match err.permanentErr with
      | some p => (k + 1, some p)
      | none =>
        -- after b.NextBackOff() = Stop: ctx.Err() if it is set, else err
        let stop := (k + 1, some (if ctx.done (3 * k + 1) then ctx.err else err))
        -- NextBackOff of WithContext: Stop once ctx is done, else the next delay
        match ds with
        | _ :: ds =>
          if ctx.done (3 * k) then stop
          else if ctx.done (3 * k + 2) then (k + 1, some ctx.err) else retryFrom ctx o (k + 1) ds
        | [] => stop

/-- The operation withRetry hands to backoff.Retry: op's error itself when it is retryable,
wrapped by backoff.Permanent when it is not. -/
def classify : Option Err → Option Err
  | none => none
  | some e => if isRetryableError (some e) then some e else some (.permanent e)

/-- withRetry(ctx, op) where op's k-th call returns op k and the backoff's delays are ds. -/
def withRetry (ctx : Ctx) (ds : List Nat) (op : Nat → Option Err) : Nat × Option Err :=
  retryFrom ctx (fun k => classify (op k)) 0 ds

/-- What Retry returns once the last call answered a: nil after nil, the Err of the first
PermanentError on a's chain, or else a itself or ctx.Err(). -/
def Settles (ctx : Ctx) : Option Err → Option Err → Prop
  | none, r => r = none
  | some e, r =>
    match e.permanentErr with
    | some p => r = some p
    | none => r = some e ∨ r = some ctx.err

theorem retryFrom_cases (ctx : Ctx) (o : Nat → Option Err) (k : Nat) (ds : List Nat) :
    ((retryFrom ctx o k ds).1 = k + 1 ∧ Settles ctx (o k) (retryFrom ctx o k ds).2) ∨
      ∃ e d ds', o k = some e ∧ e.permanentErr = none ∧ ds = d :: ds' ∧
        retryFrom ctx o k ds = retryFrom ctx o (k + 1) ds' := by
  rw [retryFrom]
  match ho : o k with
  | none => simp [Settles]
  | some err =>
    match hp : err.permanentErr with
    | some p => simp [Settles, hp]
    | none =>
      match ds with
      | d :: ds' =>
        by_cases hd : ctx.done (3 * k)
        · by_cases h1 : ctx.done (3 * k + 1) <;> simp [Settles, hp, hd, h1]
        by_cases hw : ctx.done (3 * k + 2)
        · simp [Settles, hp, hd, hw]
        · exact .inr ⟨err, d, ds', rfl, hp, rfl, by simp [hp, hd, hw]⟩
      | [] => by_cases h1 : ctx.done (3 * k + 1) <;> simp [Settles, hp, h1]

theorem retryFrom_spec (ctx : Ctx) (o : Nat → Option Err) (ds : List Nat) (k : Nat) :
    k < (retryFrom ctx o k ds).1 ∧ (retryFrom ctx o k ds).1 ≤ k + ds.length + 1 ∧
      (∀ j, k ≤ j → j + 1 < (retryFrom ctx o k ds).1 →
        ∃ e, o j = some e ∧ e.permanentErr = none) ∧
      Settles ctx (o ((retryFrom ctx o k ds).1 - 1)) (retryFrom ctx o k ds).2 := by
  induction ds generalizing k with
  | nil =>
    rcases retryFrom_cases ctx o k [] with ⟨hn, hs⟩ | ⟨_, _, _, _, _, h, _⟩
    · refine ⟨by omega, by simp [hn], fun j hj hj' => by omega, by simpa [hn] using hs⟩
    · cases h
  | cons d ds ih =>
    rcases retryFrom_cases ctx o k (d :: ds) with ⟨hn, hs⟩ | ⟨e, _, _, he, hp, h, hr⟩
    · refine ⟨by omega, by simp [hn], fun j hj hj' => by omega, by simpa [hn] using hs⟩
    · obtain ⟨rfl, rfl⟩ := List.cons.inj h
      obtain ⟨h1, h2, h3, h4⟩ := ih (k + 1)
      rw [hr]
      refine ⟨by omega, by simp only [List.length_cons]; omega, fun j hj hj' => ?_, h4⟩
      rcases Nat.eq_or_lt_of_le hj with rfl | hj
      · exact ⟨e, he, hp⟩
      · exact h3 j hj hj'

theorem classify_some (e : Err) : classify (some e) =
    some (if isRetryableError (some e) then e else .permanent e) :=
  (apply_ite some _ _ _).symm

theorem settles_classify {ctx : Ctx} {a r : Option Err} (h : Settles ctx (classify a) r) :
    (r = none ↔ a = none) ∧ (∀ e, a = some e → isRetryableError (some e) = false → r = some e) ∧
      ∀ e, a = some e → isRetryableError (some e) = true →
        r = some (e.permanentErr.getD e) ∨ e.permanentErr = none ∧ r = some ctx.err := by
  cases a with
  | none => simpa [classify, Settles] using h
  | some e =>
    rw [classify_some] at h
    by_cases hr : isRetryableError (some e)
    · rw [if_pos hr] at h
      cases hp : e.permanentErr with
      | none =>
        simp only [Settles, hp] at h
        rcases h with rfl | rfl <;> simp [hr, hp]
      | some p => simp_all [Settles]
    · simp_all [Settles, Err.permanentErr]

/-- Retry discipline of withRetry, for every context, every run of op and every schedule. -/
theorem withRetry_discipline (ctx : Ctx) (ds : List Nat) (op : Nat → Option Err) :
    let n := (withRetry ctx ds op).1
    let r := (withRetry ctx ds op).2
    0 < n ∧ (∀ j, j + 1 < n → ∃ e, op j = some e ∧ isRetryableError (some e) = true) ∧
      (r = none ↔ op (n - 1) = none) ∧
      (∀ e, op (n - 1) = some e → isRetryableError (some e) = false → r = some e) ∧
      ∀ e, op (n - 1) = some e → isRetryableError (some e) = true →
        r = some (e.permanentErr.getD e) ∨ e.permanentErr = none ∧ r = some ctx.err := by
  obtain ⟨h1, -, h3, h4⟩ := retryFrom_spec ctx (fun k => classify (op k)) ds 0
  refine ⟨h1, fun j hj => ?_, settles_classify h4⟩
  obtain ⟨e', he', hp⟩ := h3 j (Nat.zero_le j) hj
  cases hj : op j with
  | none => simp [hj, classify] at he'
  | some e =>
    rw [hj, classify_some] at he'
    by_cases hr : isRetryableError (some e)
    · exact ⟨e, rfl, hr⟩
    · rw [if_neg hr, Option.some.injEq] at he'
      simp [← he', Err.permanentErr] at hp

theorem withRetry_calls_le (ctx : Ctx) (ds : List Nat) (op : Nat → Option Err) :
    (withRetry ctx ds op).1 ≤ ds.length + 1 := by
  simpa using (retryFrom_spec ctx (fun k => classify (op k)) ds 0).2.1

/-- An error that is retryable and is itself a PermanentError comes back unwrapped: neither
what op returned nor ctx.Err(). -/
theorem withRetry_permanent_counterexample :
    let op : Nat → Option Err := fun _ => some (.permanent (.base (bytes "broken pipe")))
    let ctx : Ctx := ⟨none, .canceled⟩
    isRetryableError (op 0) = true ∧ withRetry ctx [] op = (1, some (.base (bytes "broken pipe"))) ∧
      (withRetry ctx [] op).2 ≠ op 0 ∧ (withRetry ctx [] op).2 ≠ some ctx.err := by
  decide

end MaudeStore.Retry
