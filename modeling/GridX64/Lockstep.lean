/-
# Two computations in step

`Lockstep I x y` says that two computations over `Except` have the same result, and that
the result satisfies `I`.  A program that reads something from its state runs in step with
one that was given it beforehand, as long as the state satisfies an invariant.

The rules follow the shape of a program: a result (`Lockstep.ok`), steps in sequence
(`Lockstep.bind`), a counted loop (`Lockstep.forUpE`), and a loop that reads its bound
again before each round (`countWhile_eq`).  Nothing here mentions the program.
-/
import GridX64.FallibleLoops

namespace GridX64

variable {ε α β σ : Type}

/-! ## Sequences -/

/-- Steps in sequence are the same when the first ones are, and the second ones on its result. -/
theorem bind_eq_bind {x y : Except ε α} {f g : α → Except ε β} (hxy : x = y)
    (hfg : ∀ a, y = .ok a → f a = g a) : (x >>= f) = (y >>= g) := by
  rw [hxy]
  cases hy : y with
  | error e => rfl
  | ok a => exact hfg a hy

/-- The two results are the same, and satisfy `I`. -/
def Lockstep (I : α → Prop) (x y : Except ε α) : Prop := x = y ∧ ∀ a, y = .ok a → I a

section Rules

variable {I : α → Prop} {J : β → Prop} {x y : Except ε α} {f g : α → Except ε β}

theorem Lockstep.ok {a : α} (h : I a) : Lockstep I (.ok a : Except ε α) (.ok a) :=
  ⟨rfl, fun _ hb => Except.ok.inj hb ▸ h⟩

theorem Lockstep.error (e : ε) : Lockstep I (.error e) (.error e) :=
  ⟨rfl, fun _ h => nomatch h⟩

/-- Steps in sequence. -/
theorem Lockstep.bind (h : Lockstep I x y) (hfg : ∀ a, I a → Lockstep J (f a) (g a)) :
    Lockstep J (x >>= f) (y >>= g) := by
  constructor
  · exact bind_eq_bind h.1 (fun a ha => (hfg a (h.2 a ha)).1)
  · intro b hb
    obtain ⟨a, ha, hb⟩ := bind_eq_ok_iff.mp hb
    exact (hfg a (h.2 a ha)).2 b hb

/-- A step whose result is known. -/
theorem Lockstep.bind_eq (hxy : x = y) (hfg : ∀ a, y = .ok a → Lockstep J (f a) (g a)) :
    Lockstep J (x >>= f) (y >>= g) := by
  refine Lockstep.bind (I := fun a => y = .ok a) ⟨hxy, fun a ha => ha⟩ hfg

/-- **Two counted loops in step**, when their rounds are. -/
theorem Lockstep.forUpE {I : σ → Prop} {n : ℕ} {body body' : ℕ → σ → Except ε σ} {s : σ} (hs : I s)
    (hbody : ∀ i < n, ∀ s, I s → Lockstep I (body i s) (body' i s)) :
    Lockstep I (GridX64.forUpE n body s) (GridX64.forUpE n body' s) := by
  induction n with
  | zero => exact Lockstep.ok hs
  | succ n ih =>
      rw [forUpE_succ, forUpE_succ]
      exact (ih (fun i hi => hbody i (by omega))).bind (hbody n (by omega))

end Rules

/-! ## A bound that is read again -/

/-- `for (i = 0; i < bound(s); i++) s = body(i, s)`, from round `i` on. -/
def countWhile (e : ε) (bound : σ → Except ε ℕ) (body : ℕ → σ → Except ε σ) :
    ℕ → ℕ → σ → Except ε σ
  | 0, _, _ => .error e
  | fuel + 1, i, s => do
      let n ← bound s
      if i < n then do
        let s ← body i s
        countWhile e bound body fuel (i + 1) s
      else return s

/-- The first round of a counted loop. -/
theorem forUpE_succ_left (n : ℕ) (body : ℕ → σ → Except ε σ) (s : σ) :
    forUpE (n + 1) body s = (body 0 s >>= forUpE n (fun i => body (i + 1))) := by
  induction n with
  | zero =>
      rw [forUpE_succ]
      show (body 0 s) = (body 0 s >>= fun t => .ok t)
      cases body 0 s with
      | error e => rfl
      | ok t => rfl
  | succ n ih =>
      rw [forUpE_succ, ih]
      cases body 0 s with
      | error e => rfl
      | ok t => rfl

/-- **A bound that does not change** makes it a counted loop. -/
theorem countWhile_eq {I : σ → Prop} {e : ε} {n : ℕ} {bound : σ → Except ε ℕ}
    {body : ℕ → σ → Except ε σ} (hbound : ∀ s, I s → bound s = .ok n)
    (hbody : ∀ i < n, ∀ s, I s → ∀ t, body i s = .ok t → I t) {fuel i k : ℕ} (hn : i + k = n)
    (hfuel : k < fuel) {s : σ} (hs : I s) :
    countWhile e bound body fuel i s = forUpE k (fun j => body (i + j)) s := by
  induction k generalizing fuel i s with
  | zero =>
      obtain ⟨fuel, rfl⟩ : ∃ l, fuel = l + 1 := ⟨fuel - 1, by omega⟩
      rw [countWhile, hbound s hs, ok_bind, if_neg (by omega)]
      rfl
  | succ k ih =>
      obtain ⟨fuel, rfl⟩ : ∃ l, fuel = l + 1 := ⟨fuel - 1, by omega⟩
      rw [countWhile, hbound s hs, ok_bind, if_pos (by omega), forUpE_succ_left]
      refine bind_eq_bind rfl (fun t ht => ?_)
      rw [ih (by omega) (by omega) (hbody i (by omega) s hs t ht)]
      congr 1
      funext j
      rw [show i + 1 + j = i + (j + 1) by omega]

end GridX64
