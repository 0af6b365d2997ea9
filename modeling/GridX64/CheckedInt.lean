/-
# Checked int arithmetic

Signed overflow is undefined, so an `int` expression is evaluated exactly and the
evaluation stops at the first result that a 32-bit `int` cannot hold.

* `checkInt` — one operation, given its exact result;
* `orStuck`  — a partial step inside a checked computation, which is stuck where it has
  no result.

Nothing here mentions the program.
-/
import GridX64.FallibleLoops

namespace GridX64

/-- Why a checked computation stops: an exact result does not fit an `int`, or there is
no result. -/
inductive IntFault
  | overflow
  | stuck
  deriving DecidableEq, Repr

/-! ## One operation -/

/-- The value of an `int` operation with the exact result `n`. -/
def checkInt (n : ℤ) : Except IntFault ℤ :=
  if -2 ^ 31 ≤ n ∧ n < 2 ^ 31 then .ok n else .error .overflow

theorem checkInt_ok {n : ℤ} (hlo : -2 ^ 31 ≤ n) (hhi : n < 2 ^ 31) : checkInt n = .ok n :=
  if_pos ⟨hlo, hhi⟩

theorem checkInt_overflow {n : ℤ} (h : 2 ^ 31 ≤ n) : checkInt n = .error .overflow :=
  if_neg (fun hn => absurd hn.2 (not_lt.mpr h))

/-! ## Partial steps -/

variable {α β : Type}

/-- A step that has no result is stuck. -/
def orStuck : Option α → Except IntFault α
  | some a => .ok a
  | none => .error .stuck

@[simp] theorem orStuck_some (a : α) : orStuck (some a) = .ok a := rfl

@[simp] theorem orStuck_none : orStuck (none : Option α) = .error .stuck := rfl

/-- Steps in sequence. -/
theorem orStuck_bind (x : Option α) (f : α → Option β) :
    orStuck (x.bind f) = (orStuck x >>= fun a => orStuck (f a)) := by
  cases x <;> rfl

end GridX64
