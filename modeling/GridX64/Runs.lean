/-
# Runs of a deterministic machine

A machine is a step function `step : σ → α → σ` fed a list of inputs.  `run` is
its final state, and `EveryStep step P` says that `P` holds of each step of the
run: of the state before, the input, and the state after.

The rules reduce a statement about every step of every run to one step from a
state that satisfies an invariant.  `everyStep_iff` is the form for a property
that holds exactly as long as every step meets a condition, and `run_observe` the
form for a part of the state that inputs overwrite.
-/
import Mathlib.Data.List.Induction
import Mathlib.Tactic.Common

namespace GridX64

variable {σ τ α : Type*}

/-- The state after feeding a list of inputs. -/
def run (step : σ → α → σ) (s : σ) (as : List α) : σ := as.foldl step s

@[simp] theorem run_nil (step : σ → α → σ) (s : σ) : run step s [] = s := rfl

@[simp] theorem run_cons (step : σ → α → σ) (s : σ) (a : α) (as : List α) :
    run step s (a :: as) = run step (step s a) as := rfl

theorem run_append (step : σ → α → σ) (s : σ) (as bs : List α) :
    run step s (as ++ bs) = run step (run step s as) bs := List.foldl_append

/-- `P` holds of every step of the run: of the state before it, its input and the
state after it. -/
def EveryStep (step : σ → α → σ) (P : σ → α → σ → Prop) : σ → List α → Prop
  | _, [] => True
  | s, a :: as => P s a (step s a) ∧ EveryStep step P (step s a) as

theorem everyStep_append {step : σ → α → σ} {P : σ → α → σ → Prop} {s : σ} {as bs : List α} :
    EveryStep step P s (as ++ bs)
      ↔ EveryStep step P s as ∧ EveryStep step P (run step s as) bs := by
  induction as generalizing s with
  | nil => simp [EveryStep]
  | cons a as ih => simp only [List.cons_append, EveryStep, ih, run_cons, and_assoc]

/-- An invariant of the step function holds at the end of every run. -/
theorem run_invariant {step : σ → α → σ} (I : σ → Prop) {s : σ} {as : List α}
    (hinit : I s) (hstep : ∀ s, I s → ∀ a, I (step s a)) : I (run step s as) := by
  induction as generalizing s with
  | nil => exact hinit
  | cons a as ih => exact ih (hstep s hinit a)

/-- A relation kept by each pair of steps holds between the ends of two runs on
the same inputs. -/
theorem run_relates {step : σ → α → σ} {step' : τ → α → τ} (R : σ → τ → Prop) {s : σ} {t : τ}
    {as : List α} (hinit : R s t) (hstep : ∀ s t, R s t → ∀ a ∈ as, R (step s a) (step' t a)) :
    R (run step s as) (run step' t as) := by
  induction as generalizing s t with
  | nil => exact hinit
  | cons a as ih =>
      exact ih (hstep s t hinit a List.mem_cons_self)
        (fun s t h b hb => hstep s t h b (List.mem_cons_of_mem a hb))

/-- An invariant that the inputs of the run keep. -/
theorem run_invariant_of_mem {step : σ → α → σ} (I : σ → Prop) {s : σ} {as : List α}
    (hinit : I s) (hstep : ∀ s, I s → ∀ a ∈ as, I (step s a)) : I (run step s as) := by
  induction as generalizing s with
  | nil => exact hinit
  | cons a as ih =>
      apply ih
      · exact hstep s hinit a List.mem_cons_self
      · intro s hs b hb
        exact hstep s hs b (List.mem_cons_of_mem a hb)

/-- **The last writer wins.**  If every input either overwrites an observation or
leaves it, then after a run it is what the last input that overwrites it left, or
what it was at the start. -/
theorem run_observe {β : Type*} {step : σ → α → σ} (I : σ → Prop) (observe : σ → β)
    {effect : α → Option β} {s : σ} {as : List α} (hinit : I s)
    (hstep : ∀ s, I s → ∀ a ∈ as, I (step s a))
    (heffect : ∀ s, I s → ∀ a ∈ as, observe (step s a) = (effect a).getD (observe s)) :
    observe (run step s as) = (as.filterMap effect).getLast?.getD (observe s) := by
  induction as using List.reverseRecOn with
  | nil => rfl
  | append_singleton as a ih =>
      have hkeep : ∀ s, I s → ∀ b ∈ as, I (step s b) :=
        fun s hs b hb => hstep s hs b (List.mem_append_left _ hb)
      have hrest := ih hkeep (fun s hs b hb => heffect s hs b (List.mem_append_left _ hb))
      have hlast := heffect _ (run_invariant_of_mem I hinit hkeep) a (by simp)
      rw [run_append, run_cons, run_nil, hlast, hrest, List.filterMap_append]
      rcases heff : effect a with _ | b
      · simp [heff]
      · simp [heff]

/-- A relation kept by each pair of steps, the steps of the first run meeting `P`,
holds between the ends of two runs on the same inputs. -/
theorem EveryStep.run_relates {step : σ → α → σ} {step' : τ → α → τ} {P : σ → α → σ → Prop}
    (R : σ → τ → Prop) {s : σ} {t : τ} {as : List α} (hP : EveryStep step P s as) (hinit : R s t)
    (hstep : ∀ s t, R s t → ∀ a ∈ as, P s a (step s a) → R (step s a) (step' t a)) :
    R (run step s as) (run step' t as) := by
  induction as generalizing s t with
  | nil => exact hinit
  | cons a as ih =>
      exact ih hP.2 (hstep s t hinit a List.mem_cons_self hP.1)
        (fun s t h b hb => hstep s t h b (List.mem_cons_of_mem a hb))

/-- A condition on every step gives a property of every step, by an invariant that
the steps that meet the condition keep. -/
theorem EveryStep.imp {step : σ → α → σ} {P Q : σ → α → σ → Prop} (I : σ → Prop) {s : σ}
    {as : List α} (hP : EveryStep step P s as) (hinit : I s)
    (hstep : ∀ s, I s → ∀ a ∈ as, P s a (step s a) → Q s a (step s a) ∧ I (step s a)) :
    EveryStep step Q s as := by
  induction as generalizing s with
  | nil => trivial
  | cons a as ih =>
      obtain ⟨hQ, hI⟩ := hstep s hinit a List.mem_cons_self hP.1
      refine ⟨hQ, ih hP.2 hI ?_⟩
      intro s hs b hb
      exact hstep s hs b (List.mem_cons_of_mem a hb)

/-- **A property of every step that amounts to a condition on every step.**
Where the invariant `I` holds the property and the condition agree, and a step
that meets the condition keeps `I`. -/
theorem everyStep_iff {step : σ → α → σ} {P C : σ → α → σ → Prop} (I : σ → Prop)
    {s : σ} {as : List α} (hinit : I s)
    (hiff : ∀ s, I s → ∀ a, (P s a (step s a) ↔ C s a (step s a)))
    (hkeep : ∀ s, I s → ∀ a, C s a (step s a) → I (step s a)) :
    EveryStep step P s as ↔ EveryStep step C s as := by
  induction as generalizing s with
  | nil => exact Iff.rfl
  | cons a as ih =>
      constructor
      · rintro ⟨hP, hrest⟩
        have hC := (hiff s hinit a).mp hP
        exact ⟨hC, (ih (hkeep s hinit a hC)).mp hrest⟩
      · rintro ⟨hC, hrest⟩
        exact ⟨(hiff s hinit a).mpr hC, (ih (hkeep s hinit a hC)).mpr hrest⟩

end GridX64
