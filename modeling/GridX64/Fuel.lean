/-
# Enough fuel

A computation that is bounded by fuel is a family `ℕ → Except ε α`.  `Settles f a` says
that `f` returns `a` as soon as it has enough fuel, whatever the surplus.

The rules follow the shape of a program: a step that needs no fuel (`Settles.pure`),
steps in sequence (`Settles.bind`) and a counted loop (`Settles.forUpE`).  Nothing here
mentions the program.
-/
import GridX64.FallibleLoops

namespace GridX64

variable {ε α β σ : Type}

/-- With enough fuel the result is `a`. -/
def Settles (f : ℕ → Except ε α) (a : α) : Prop := ∃ N, ∀ fuel ≥ N, f fuel = .ok a

/-- A step without fuel. -/
theorem Settles.pure {x : Except ε α} {a : α} (h : x = .ok a) : Settles (fun _ => x) a :=
  ⟨0, fun _ _ => h⟩

/-- Steps in sequence. -/
theorem Settles.bind {f : ℕ → Except ε α} {g : ℕ → α → Except ε β} {a : α} {b : β}
    (hf : Settles f a) (hg : Settles (fun fuel => g fuel a) b) :
    Settles (fun fuel => f fuel >>= g fuel) b := by
  obtain ⟨N, hN⟩ := hf
  obtain ⟨M, hM⟩ := hg
  refine ⟨max N M, fun fuel hfuel => ?_⟩
  show (f fuel >>= g fuel) = .ok b
  rw [hN fuel (by omega), ok_bind]
  exact hM fuel (by omega)

/-- **A loop settles when its rounds do**, on every state. -/
theorem Settles.forUpE {n : ℕ} {body : ℕ → ℕ → σ → Except ε σ} {g : ℕ → σ → σ}
    (h : ∀ i < n, ∀ s, Settles (fun fuel => body fuel i s) (g i s)) (s : σ) :
    Settles (fun fuel => GridX64.forUpE n (body fuel) s) (forUp n g s) := by
  induction n with
  | zero => exact Settles.pure rfl
  | succ n ih =>
      have hrest := ih (fun i hi => h i (by omega))
      exact hrest.bind (h n (by omega) _)

end GridX64
