/-
# Programs behind the ports of a device

A driver routine is, for its device, a sequence of port accesses in which what follows a
read depends on the value read.  `exec` runs such a program alone; `Interfered` runs it
with an environment that may change the device before every access and at the end.

* `exec_bind` — a program in two parts;
* `Along` — a condition on the states of the run without interference;
* `Interfered.unseen` — interference that the program cannot see: it ends with the value
  that it would have had alone, and in a related state.

Nothing here mentions the program.
-/
import Mathlib.Tactic.Common

namespace GridX64

/-- A program that ends, writes to a port, or reads one and goes on with the value. -/
inductive PortProgram (π β α : Type)
  | ret (a : α)
  | write (port : π) (val : β) (next : PortProgram π β α)
  | read (port : π) (next : β → PortProgram π β α)

/-- A device behind ports. -/
structure PortDevice (δ π β : Type) where
  write : δ → π → β → δ
  read : δ → π → β

namespace PortProgram

variable {δ π β α γ : Type}

/-! ## Programs -/

/-- One program after another. -/
def bind : PortProgram π β α → (α → PortProgram π β γ) → PortProgram π β γ
  | ret a, f => f a
  | write port val next, f => write port val (next.bind f)
  | read port next, f => read port (fun v => (next v).bind f)

instance : Monad (PortProgram π β) where
  pure := ret
  bind := bind

/-- A single write. -/
def out (port : π) (val : β) : PortProgram π β Unit := write port val (ret ())

/-- A single read. -/
def inp (port : π) : PortProgram π β β := read port ret

/-! ## Runs without interference -/

variable (dev : PortDevice δ π β)

/-- The value and the state at the end. -/
def exec : PortProgram π β α → δ → α × δ
  | ret a, s => (a, s)
  | write port val next, s => next.exec (dev.write s port val)
  | read port next, s => (next (dev.read s port)).exec s

/-- A program in two parts. -/
theorem exec_bind (p : PortProgram π β α) (f : α → PortProgram π β γ) (s : δ) :
    (p.bind f).exec dev s = (f (p.exec dev s).1).exec dev (p.exec dev s).2 := by
  induction p generalizing s with
  | ret a => rfl
  | write port val next ih => exact ih (dev.write s port val)
  | read port next ih => exact ih (dev.read s port) s

/-- What no write changes, no program changes. -/
theorem exec_observe (observe : δ → γ)
    (hwrite : ∀ s port val, observe (dev.write s port val) = observe s)
    (p : PortProgram π β α) (s : δ) : observe (p.exec dev s).2 = observe s := by
  induction p generalizing s with
  | ret a => rfl
  | write port val next ih => exact (ih (dev.write s port val)).trans (hwrite s port val)
  | read port next ih => exact ih (dev.read s port) s

/-- `P` holds of every state of the run, and `Q` of every state and port at a read. -/
def Along (P : δ → Prop) (Q : δ → π → Prop) : PortProgram π β α → δ → Prop
  | ret _, s => P s
  | write port val next, s => P s ∧ Along P Q next (dev.write s port val)
  | read port next, s => P s ∧ Q s port ∧ Along P Q (next (dev.read s port)) s

/-- What holds along a run holds at its end. -/
theorem Along.exec {P : δ → Prop} {Q : δ → π → Prop} {p : PortProgram π β α} {s : δ}
    (hp : p.Along dev P Q s) : P (p.exec dev s).2 := by
  induction p generalizing s with
  | ret a => exact hp
  | write port val next ih => exact ih hp.2
  | read port next ih => exact ih _ hp.2.2

/-- What holds along two parts holds along the whole. -/
theorem Along.bind {P : δ → Prop} {Q : δ → π → Prop} {p : PortProgram π β α}
    {f : α → PortProgram π β γ} {s : δ} (hp : p.Along dev P Q s)
    (hf : (f (p.exec dev s).1).Along dev P Q (p.exec dev s).2) : (p.bind f).Along dev P Q s := by
  induction p generalizing s with
  | ret a => exact hf
  | write port val next ih => exact ⟨hp.1, ih hp.2 hf⟩
  | read port next ih => exact ⟨hp.1, hp.2.1, ih _ hp.2.2 hf⟩

/-! ## Runs with interference -/

/-- The program ends with a value in a state, when the environment takes a step of `env`
before every access and at the end. -/
inductive Interfered (env : δ → δ → Prop) : PortProgram π β α → δ → α → δ → Prop
  | ret {a : α} {s t : δ} (henv : env s t) : Interfered env (ret a) s a t
  | write {port : π} {val : β} {next : PortProgram π β α} {s u : δ} {a : α} {t : δ}
      (henv : env s u) (hnext : Interfered env next (dev.write u port val) a t) :
      Interfered env (write port val next) s a t
  | read {port : π} {next : β → PortProgram π β α} {s u : δ} {a : α} {t : δ}
      (henv : env s u) (hnext : Interfered env (next (dev.read u port)) u a t) :
      Interfered env (read port next) s a t

/-- The run with given steps of the environment, one before each access and one at the end,
as long as there are some. -/
def execAmong : PortProgram π β α → List (δ → δ) → δ → α × δ
  | ret a, env, s => (a, env.headD id s)
  | write port val next, env, s =>
      next.execAmong env.tail (dev.write (env.headD id s) port val)
  | read port next, env, s =>
      (next (dev.read (env.headD id s) port)).execAmong env.tail (env.headD id s)

/-- **Interference that the program cannot see.**  `R` relates a state of the run alone to
the disturbed one; the environment keeps it where `P` holds, every write does, and a read
where `Q` holds gives the same value. -/
theorem Interfered.unseen {env : δ → δ → Prop} {P : δ → Prop} {Q : δ → π → Prop}
    {R : δ → δ → Prop} (henv : ∀ s d d', P s → R s d → env d d' → R s d')
    (hwrite : ∀ s d port val, R s d → R (dev.write s port val) (dev.write d port val))
    (hread : ∀ s d port, Q s port → R s d → dev.read s port = dev.read d port)
    {p : PortProgram π β α} {s d t : δ} {a : α} (halong : p.Along dev P Q s) (hR : R s d)
    (h : Interfered dev env p d a t) : (p.exec dev s).1 = a ∧ R (p.exec dev s).2 t := by
  induction h generalizing s with
  | ret hstep => exact ⟨rfl, henv _ _ _ halong hR hstep⟩
  | write hstep hnext ih => exact ih halong.2 (hwrite _ _ _ _ (henv _ _ _ halong.1 hR hstep))
  | @read port next d u a t hstep hnext ih =>
      have hu := henv _ _ _ halong.1 hR hstep
      have hvalue := hread s u port halong.2.1 hu
      have hrest := halong.2.2
      rw [hvalue] at hrest
      have hend := ih hrest hu
      rwa [← hvalue] at hend

end PortProgram

end GridX64
