/-
# Counted loops over a state

The two shapes of counted C loop, as folds over a state of any type:

* `forUp n body`   — `for (i = 0; i < n; i++) body(i)`;
* `forDown n body` — `for (i = n; i > 0; i--) body(i)`.

Each comes with its invariant rule (`forUp_induction`, `forDown_induction`) and with
the rule for two loops running in step (`forUp_relates`, `forDown_relates`).  Nothing
here mentions the program; the driver and library proofs cite the rules by name.
-/
import Mathlib.Tactic.Common
import Mathlib.Tactic.Ring
import Mathlib.Tactic.Linarith
import Mathlib.Tactic.IntervalCases

namespace GridX64

variable {σ τ : Type*}

/-! ## The loops -/

/-- `for (i = 0; i < n; i++) s = body i s`. -/
def forUp : ℕ → (ℕ → σ → σ) → σ → σ
  | 0, _, s => s
  | n + 1, body, s => body n (forUp n body s)

/-- `for (i = n; i > 0; i--) s = body i s`. -/
def forDown : ℕ → (ℕ → σ → σ) → σ → σ
  | 0, _, s => s
  | n + 1, body, s => forDown n body (body (n + 1) s)

/-! ## Invariant rules -/

/-- **The invariant rule for `forUp`.**  `I i` is what holds on entering
iteration `i`; it holds of `n` on exit. -/
theorem forUp_induction (I : ℕ → σ → Prop) {n : ℕ} {body : ℕ → σ → σ} {s : σ}
    (hinit : I 0 s) (hstep : ∀ i < n, ∀ t, I i t → I (i + 1) (body i t)) :
    I n (forUp n body s) := by
  induction n with
  | zero => exact hinit
  | succ n ih =>
      have hn : I n (forUp n body s) :=
        ih (fun i hi t ht => hstep i (Nat.lt_succ_of_lt hi) t ht)
      exact hstep n (Nat.lt_succ_self n) _ hn

/-- The invariant rule for `forUp` with an invariant that ignores the counter. -/
theorem forUp_preserves (I : σ → Prop) {n : ℕ} {body : ℕ → σ → σ} {s : σ}
    (hinit : I s) (hstep : ∀ i < n, ∀ t, I t → I (body i t)) :
    I (forUp n body s) :=
  forUp_induction (fun _ => I) hinit hstep

/-- **The invariant rule for `forDown`.**  `I i` is what holds when the counter
is `i`; it holds of `0` on exit. -/
theorem forDown_induction (I : ℕ → σ → Prop) {n : ℕ} {body : ℕ → σ → σ} {s : σ}
    (hinit : I n s) (hstep : ∀ i < n, ∀ t, I (i + 1) t → I i (body (i + 1) t)) :
    I 0 (forDown n body s) := by
  induction n generalizing s with
  | zero => exact hinit
  | succ n ih =>
      have hn : I n (body (n + 1) s) := hstep n (Nat.lt_succ_self n) s hinit
      exact ih hn (fun i hi t ht => hstep i (Nat.lt_succ_of_lt hi) t ht)

/-- **Two loops in step.**  A relation kept by every pair of iterations relates
the final states. -/
theorem forUp_relates (R : σ → τ → Prop) {n : ℕ} {body : ℕ → σ → σ}
    {body' : ℕ → τ → τ} {s : σ} {t : τ} (hinit : R s t)
    (hstep : ∀ i < n, ∀ s t, R s t → R (body i s) (body' i t)) :
    R (forUp n body s) (forUp n body' t) := by
  induction n with
  | zero => exact hinit
  | succ n ih =>
      exact hstep n (Nat.lt_succ_self n) _ _
        (ih (fun i hi s t hst => hstep i (Nat.lt_succ_of_lt hi) s t hst))

/-- Two downward loops in step. -/
theorem forDown_relates (R : σ → τ → Prop) {n : ℕ} {body : ℕ → σ → σ}
    {body' : ℕ → τ → τ} {s : σ} {t : τ} (hinit : R s t)
    (hstep : ∀ i < n, ∀ s t, R s t → R (body (i + 1) s) (body' (i + 1) t)) :
    R (forDown n body s) (forDown n body' t) := by
  induction n generalizing s t with
  | zero => exact hinit
  | succ n ih =>
      apply ih (hstep n (Nat.lt_succ_self n) s t hinit)
      intro i hi s t hst
      exact hstep i (Nat.lt_succ_of_lt hi) s t hst

end GridX64
