/-
# Counted loops whose body can fail

Three loops over `Except`, on top of `forUp`:

* `firstMatch n f` — search `f 0, .., f (n - 1)` for the first `some`, and stop there
  (`firstIn` is the same for the elements of a list);
* `collect n f`    — the list of all the results;
* `forUpE n body`  — a state that the rounds pass on.

An error stops each loop.  `firstMatch_eq_some_iff`, `firstMatch_eq_none_iff` and
`firstMatch_eq_error_iff` say when each outcome happens, in terms of the outcomes of
the single rounds.  Nothing here mentions the program.
-/
import GridX64.CountedLoop

namespace GridX64

variable {ε α β : Type}

/-! ## Sequencing -/

@[simp] theorem ok_bind (a : α) (f : α → Except ε β) : (Except.ok a >>= f) = f a := rfl

@[simp] theorem error_bind (e : ε) (f : α → Except ε β) :
    ((Except.error e : Except ε α) >>= f) = .error e := rfl

theorem bind_eq_ok_iff {x : Except ε α} {f : α → Except ε β} {b : β} :
    (x >>= f) = .ok b ↔ ∃ a, x = .ok a ∧ f a = .ok b := by
  cases x with
  | error e => simp
  | ok a => simp

theorem bind_eq_error_iff {x : Except ε α} {f : α → Except ε β} {e : ε} :
    (x >>= f) = .error e ↔ x = .error e ∨ ∃ a, x = .ok a ∧ f a = .error e := by
  cases x with
  | error e' => simp
  | ok a => simp

/-- If `x` can only fail with `e`, and the sequence does not, then `x` succeeds. -/
theorem ok_of_bind_ne_error {x : Except ε α} {f : α → Except ε β} {e : ε}
    (hx : ∀ e', x = .error e' → e' = e) (h : (x >>= f) ≠ .error e) :
    ∃ a, x = .ok a ∧ f a ≠ .error e := by
  cases hcase : x with
  | error e' =>
      rw [hcase, hx e' hcase] at h
      exact absurd rfl h
  | ok a =>
      rw [hcase] at h
      exact ⟨a, rfl, h⟩

/-! ## The search -/

/-- `for (i = 0; i < n; i++) if ((r = f(i))) return r; return none`. -/
def firstMatch (n : ℕ) (f : ℕ → Except ε (Option α)) : Except ε (Option α) :=
  forUp n
    (fun i acc => acc >>= fun r =>
      match r with
      | some a => .ok (some a)
      | none => f i)
    (.ok none)

variable {f : ℕ → Except ε (Option α)} {n : ℕ}

/-- One more round. -/
theorem firstMatch_succ (n : ℕ) (f : ℕ → Except ε (Option α)) :
    firstMatch (n + 1) f = (firstMatch n f >>= fun r =>
      match r with
      | some a => .ok (some a)
      | none => f n) := rfl

/-- The search finds nothing when no round does. -/
theorem firstMatch_eq_none_iff : firstMatch n f = .ok none ↔ ∀ i < n, f i = .ok none := by
  induction n with
  | zero =>
      constructor
      · intro _ i hi
        omega
      · intro _
        rfl
  | succ n ih =>
      rw [firstMatch_succ, bind_eq_ok_iff]
      constructor
      · rintro ⟨r, hr, hlast⟩ i hi
        cases r with
        | some a => exact absurd hlast (by simp)
        | none =>
            rcases Nat.lt_succ_iff_lt_or_eq.mp hi with hlt | rfl
            · exact ih.mp hr i hlt
            · exact hlast
      · intro h
        exact ⟨none, ih.mpr (fun i hi => h i (by omega)), h n (by omega)⟩

/-- **The search returns the first match.** -/
theorem firstMatch_eq_some_iff {a : α} :
    firstMatch n f = .ok (some a)
      ↔ ∃ i < n, f i = .ok (some a) ∧ ∀ j < i, f j = .ok none := by
  induction n with
  | zero =>
      constructor
      · intro h
        exact absurd (Except.ok.inj h) (by simp)
      · rintro ⟨i, hi, -⟩
        omega
  | succ n ih =>
      rw [firstMatch_succ, bind_eq_ok_iff]
      constructor
      · rintro ⟨r, hr, hlast⟩
        cases r with
        | some b =>
            obtain rfl : b = a := Option.some.inj (Except.ok.inj hlast)
            obtain ⟨i, hi, hmatch⟩ := ih.mp hr
            exact ⟨i, by omega, hmatch⟩
        | none => exact ⟨n, by omega, hlast, firstMatch_eq_none_iff.mp hr⟩
      · rintro ⟨i, hi, hmatch, hbefore⟩
        rcases Nat.lt_succ_iff_lt_or_eq.mp hi with hlt | rfl
        · exact ⟨some a, ih.mpr ⟨i, hlt, hmatch, hbefore⟩, rfl⟩
        · exact ⟨none, firstMatch_eq_none_iff.mpr hbefore, hmatch⟩

/-- A search whose rounds are the same. -/
theorem firstMatch_congr {g : ℕ → Except ε (Option α)} (h : ∀ i < n, f i = g i) :
    firstMatch n f = firstMatch n g := by
  induction n with
  | zero => rfl
  | succ n ih =>
      rw [firstMatch_succ, firstMatch_succ, ih (fun i hi => h i (by omega)), h n (by omega)]

/-- The search fails at the first round that fails, unless a match comes before. -/
theorem firstMatch_eq_error_iff {e : ε} :
    firstMatch n f = .error e
      ↔ ∃ i < n, f i = .error e ∧ ∀ j < i, f j = .ok none := by
  induction n with
  | zero =>
      constructor
      · intro h
        exact nomatch h
      · rintro ⟨i, hi, -⟩
        omega
  | succ n ih =>
      rw [firstMatch_succ, bind_eq_error_iff]
      constructor
      · rintro (herr | ⟨r, hr, hlast⟩)
        · obtain ⟨i, hi, hfail⟩ := ih.mp herr
          exact ⟨i, by omega, hfail⟩
        · cases r with
          | some b => exact nomatch hlast
          | none => exact ⟨n, by omega, hlast, firstMatch_eq_none_iff.mp hr⟩
      · rintro ⟨i, hi, hfail, hbefore⟩
        rcases Nat.lt_succ_iff_lt_or_eq.mp hi with hlt | rfl
        · exact Or.inl (ih.mpr ⟨i, hlt, hfail, hbefore⟩)
        · exact Or.inr ⟨none, firstMatch_eq_none_iff.mpr hbefore, hfail⟩

/-- What each round of a search does: it fails with `e` where `Fails` holds, matches
with `g i` where `Matches` holds, and passes on elsewhere. -/
structure Rounds (f : ℕ → Except ε (Option α)) (e : ε) (Fails Matches : ℕ → Prop) (g : ℕ → α) :
    Prop where
  fail_eq : ∀ i, Fails i → f i = .error e
  match_eq : ∀ i, Matches i → f i = .ok (some (g i))
  pass_eq : ∀ i, ¬ Fails i → ¬ Matches i → f i = .ok none

section Rounds

variable {e : ε} {Fails Matches : ℕ → Prop} {g : ℕ → α}

/-- A round passes on exactly where it neither fails nor matches. -/
theorem Rounds.eq_none_iff (h : Rounds f e Fails Matches g) (i : ℕ) :
    f i = .ok none ↔ ¬ Fails i ∧ ¬ Matches i := by
  constructor
  · intro hnone
    constructor
    · intro hfail
      rw [h.fail_eq i hfail] at hnone
      exact nomatch hnone
    · intro hmatch
      rw [h.match_eq i hmatch] at hnone
      exact nomatch hnone
  · rintro ⟨hfail, hmatch⟩
    exact h.pass_eq i hfail hmatch

theorem Rounds.eq_some_iff (h : Rounds f e Fails Matches g) (i : ℕ) {a : α} :
    f i = .ok (some a) ↔ Matches i ∧ g i = a := by
  constructor
  · intro hsome
    by_cases hmatch : Matches i
    · rw [h.match_eq i hmatch] at hsome
      exact ⟨hmatch, Option.some.inj (Except.ok.inj hsome)⟩
    · by_cases hfail : Fails i
      · rw [h.fail_eq i hfail] at hsome
        exact nomatch hsome
      · rw [h.pass_eq i hfail hmatch] at hsome
        exact nomatch hsome
  · rintro ⟨hmatch, rfl⟩
    exact h.match_eq i hmatch

/-- **The search returns the first match, if no round before it fails.** -/
theorem Rounds.firstMatch_some_iff (h : Rounds f e Fails Matches g) {a : α} :
    firstMatch n f = .ok (some a)
      ↔ ∃ i < n, (Matches i ∧ g i = a) ∧ ∀ j < i, ¬ Fails j ∧ ¬ Matches j := by
  rw [firstMatch_eq_some_iff]
  simp only [h.eq_some_iff, h.eq_none_iff]

/-- The rounds up to `i` neither fail nor match. -/
def PassesBefore (Fails Matches : ℕ → Prop) (i : ℕ) : Prop := ∀ j < i, ¬ Fails j ∧ ¬ Matches j

/-- A round that fails or matches is not one of them, so it is `i` or comes after it. -/
theorem PassesBefore.le_of_stop {i j : ℕ} (h : PassesBefore Fails Matches i)
    (hstop : Fails j ∨ Matches j) : i ≤ j := by
  by_contra hlt
  obtain ⟨hfails, hmatches⟩ := h j (not_le.mp hlt)
  rcases hstop with hstop | hstop
  · exact hfails hstop
  · exact hmatches hstop

/-- **How a search ends**: every round passes on, or the first that does not fails, or
it matches. -/
theorem Rounds.firstMatch_cases (h : Rounds f e Fails Matches g) :
    (PassesBefore Fails Matches n ∧ firstMatch n f = .ok none) ∨
      (∃ i < n, Fails i ∧ PassesBefore Fails Matches i ∧ firstMatch n f = .error e) ∨
      ∃ i < n, Matches i ∧ PassesBefore Fails Matches i ∧ firstMatch n f = .ok (some (g i)) := by
  rcases hres : firstMatch n f with e' | _ | a
  · obtain ⟨i, hi, hfail, hbefore⟩ := firstMatch_eq_error_iff.mp hres
    have hpass : PassesBefore Fails Matches i := fun j hj => (h.eq_none_iff j).mp (hbefore j hj)
    have hmatch : ¬ Matches i := by
      intro hm
      rw [h.match_eq i hm] at hfail
      exact nomatch hfail
    have hfails : Fails i := by
      by_contra hf
      rw [h.pass_eq i hf hmatch] at hfail
      exact nomatch hfail
    rw [h.fail_eq i hfails] at hfail
    exact Or.inr (Or.inl ⟨i, hi, hfails, hpass, hfail.symm⟩)
  · left
    refine ⟨?_, rfl⟩
    intro i hi
    exact (h.eq_none_iff i).mp (firstMatch_eq_none_iff.mp hres i hi)
  · obtain ⟨i, hi, ⟨hmatch, rfl⟩, hbefore⟩ := h.firstMatch_some_iff.mp hres
    exact Or.inr (Or.inr ⟨i, hi, hmatch, hbefore, rfl⟩)

/-- The search fails in no other way than its rounds. -/
theorem Rounds.firstMatch_error (h : Rounds f e Fails Matches g) {e' : ε}
    (herr : firstMatch n f = .error e') : e' = e := by
  obtain ⟨i, -, hi, -⟩ := firstMatch_eq_error_iff.mp herr
  by_cases hfail : Fails i
  · rw [h.fail_eq i hfail] at hi
    exact (Except.error.inj hi).symm
  · by_cases hmatch : Matches i
    · rw [h.match_eq i hmatch] at hi
      exact nomatch hi
    · rw [h.pass_eq i hfail hmatch] at hi
      exact nomatch hi

end Rounds

/-- **Every first match has `Q`** exactly when each match without `Q` has a failure or
a match before it. -/
theorem forall_first_iff {Fails Matches : ℕ → Prop} {g : ℕ → α} {Q : α → Prop} :
    (∀ a, (∃ i < n, (Matches i ∧ g i = a) ∧ ∀ j < i, ¬ Fails j ∧ ¬ Matches j) → Q a)
      ↔ ∀ i < n, Matches i → ¬ Q (g i) → ∃ j < i, Fails j ∨ Matches j := by
  constructor
  · intro h i hi hmatch hq
    by_contra hnone
    have hbefore : ∀ j < i, ¬ Fails j ∧ ¬ Matches j := fun j hj =>
      ⟨fun hf => hnone ⟨j, hj, Or.inl hf⟩, fun hm => hnone ⟨j, hj, Or.inr hm⟩⟩
    exact hq (h (g i) ⟨i, hi, ⟨hmatch, rfl⟩, hbefore⟩)
  · rintro h a ⟨i, hi, ⟨hmatch, rfl⟩, hbefore⟩
    by_contra hq
    obtain ⟨j, hj, hstop⟩ := h i hi hmatch hq
    rcases hstop with hf | hm
    · exact (hbefore j hj).1 hf
    · exact (hbefore j hj).2 hm

/-! ## The search of a list -/

/-- The first `some` that `f` gives on a list. -/
def firstIn (f : β → Except ε (Option α)) : List β → Except ε (Option α)
  | [] => .ok none
  | b :: bs => f b >>= fun r =>
      match r with
      | some a => .ok (some a)
      | none => firstIn f bs

theorem firstIn_append (f : β → Except ε (Option α)) (xs ys : List β) :
    firstIn f (xs ++ ys) = (firstIn f xs >>= fun r =>
      match r with
      | some a => .ok (some a)
      | none => firstIn f ys) := by
  induction xs with
  | nil => rfl
  | cons x xs ih =>
      rw [List.cons_append, firstIn, firstIn, ih]
      rcases f x with e | _ | a
      · rfl
      · rfl
      · rfl

/-- **The search over indices is the search of the list that they stand for.** -/
theorem firstMatch_eq_firstIn (f : β → Except ε (Option α)) (g : ℕ → β) (n : ℕ) :
    firstMatch n (fun i => f (g i)) = firstIn f ((List.range n).map g) := by
  induction n with
  | zero => rfl
  | succ n ih =>
      rw [firstMatch_succ, ih, List.range_succ, List.map_append, firstIn_append]
      congr 1
      funext r
      rcases r with _ | a
      · show f (g n) = (f (g n) >>= _)
        rcases f (g n) with e | _ | a <;> rfl
      · rfl

/-! ## The list of results -/

/-- `for (i = 0; i < n; i++) results.append(f(i))`. -/
def collect (n : ℕ) (f : ℕ → Except ε α) : Except ε (List α) :=
  forUp n (fun i acc => acc >>= fun l => f i >>= fun a => .ok (l ++ [a])) (.ok [])

/-- One more round. -/
theorem collect_succ (n : ℕ) (f : ℕ → Except ε α) :
    collect (n + 1) f = (collect n f >>= fun l => f n >>= fun a => .ok (l ++ [a])) := rfl

/-- A list whose rounds are the same. -/
theorem collect_congr {f g : ℕ → Except ε α} (h : ∀ i < n, f i = g i) :
    collect n f = collect n g := by
  induction n with
  | zero => rfl
  | succ n ih =>
      rw [collect_succ, collect_succ, ih (fun i hi => h i (by omega)), h n (by omega)]

/-- When every round succeeds the results are listed in order. -/
theorem collect_eq_ok {f : ℕ → Except ε α} {g : ℕ → α} (h : ∀ i < n, f i = .ok (g i)) :
    collect n f = .ok ((List.range n).map g) := by
  induction n with
  | zero => rfl
  | succ n ih =>
      rw [collect_succ, ih (fun i hi => h i (by omega)), h n (by omega), List.range_succ,
        List.map_append]
      rfl

/-- When the loop succeeds every round has. -/
theorem ok_of_collect_eq_ok {f : ℕ → Except ε α} {l : List α} (h : collect n f = .ok l) :
    ∀ i < n, ∃ a, f i = .ok a := by
  induction n generalizing l with
  | zero =>
      intro i hi
      omega
  | succ n ih =>
      rw [collect_succ, bind_eq_ok_iff] at h
      obtain ⟨l', hl', hlast⟩ := h
      rw [bind_eq_ok_iff] at hlast
      obtain ⟨a, ha, -⟩ := hlast
      intro i hi
      rcases Nat.lt_succ_iff_lt_or_eq.mp hi with hlt | rfl
      · exact ih hl' i hlt
      · exact ⟨a, ha⟩

/-- The loop fails in no other way than its rounds. -/
theorem collect_total {f : ℕ → Except ε α} {e : ε}
    (h : ∀ i < n, f i = .error e ∨ ∃ a, f i = .ok a) :
    collect n f = .error e ∨ ∃ l, collect n f = .ok l := by
  induction n with
  | zero => exact Or.inr ⟨[], rfl⟩
  | succ n ih =>
      rw [collect_succ]
      rcases ih (fun i hi => h i (by omega)) with herr | ⟨l, hl⟩
      · exact Or.inl (by rw [herr]; rfl)
      · rcases h n (by omega) with herr | ⟨a, ha⟩
        · exact Or.inl (by rw [hl, herr]; rfl)
        · exact Or.inr ⟨l ++ [a], by rw [hl, ha]; rfl⟩

/-- The loop fails when some round does. -/
theorem collect_eq_error {f : ℕ → Except ε α} {e : ε}
    (h : ∀ i < n, f i = .error e ∨ ∃ a, f i = .ok a) {i : ℕ} (hi : i < n)
    (hfail : f i = .error e) : collect n f = .error e := by
  rcases collect_total h with herr | ⟨l, hl⟩
  · exact herr
  · obtain ⟨a, ha⟩ := ok_of_collect_eq_ok hl i hi
    rw [hfail] at ha
    exact nomatch ha

/-! ## The loop over a state -/

variable {σ : Type}

/-- `for (i = 0; i < n; i++) s = body(i, s)`. -/
def forUpE (n : ℕ) (body : ℕ → σ → Except ε σ) (s : σ) : Except ε σ :=
  forUp n (fun i acc => acc >>= body i) (.ok s)

/-- One more round. -/
theorem forUpE_succ (n : ℕ) (body : ℕ → σ → Except ε σ) (s : σ) :
    forUpE (n + 1) body s = (forUpE n body s >>= body n) := rfl

/-- When the loop succeeds every round has. -/
theorem ok_of_forUpE_eq_ok {body : ℕ → σ → Except ε σ} {s t : σ} (h : forUpE n body s = .ok t) :
    ∀ i < n, ∃ u v, body i u = .ok v := by
  induction n generalizing t with
  | zero =>
      intro i hi
      omega
  | succ n ih =>
      rw [forUpE_succ, bind_eq_ok_iff] at h
      obtain ⟨u, hu, hlast⟩ := h
      intro i hi
      rcases Nat.lt_succ_iff_lt_or_eq.mp hi with hlt | rfl
      · exact ih hu i hlt
      · exact ⟨u, t, hlast⟩

end GridX64
