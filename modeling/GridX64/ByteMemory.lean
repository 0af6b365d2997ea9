/-
# A byte-addressed memory with an access record

`Mem` is a flat memory of bytes together with the list of every address that has
been read or written so far (`touched`, latest first), so that a statement about
which bytes an operation accesses is a statement about its final state.

Addresses are natural numbers: a pointer into an object never wraps, and the
32-bit index arithmetic of a program is done before it is turned into an address.

`TouchesOnly P` relates a memory to a later one: every address accessed in between
is in `P`.  It composes along a run.
-/
import GridX64.CountedLoop
import Mathlib.Logic.Function.Basic

namespace GridX64

/-- A byte of memory. -/
abbrev Byte := BitVec 8

/-- Memory contents, and every address read or written so far. -/
structure Mem where
  byte : ℕ → Byte
  touched : List ℕ

namespace Mem

/-! ## Loads and stores -/

/-- Read the byte at `a`. -/
def load (m : Mem) (a : ℕ) : Byte × Mem :=
  (m.byte a, { m with touched := a :: m.touched })

/-- Write the byte `v` at `a`. -/
def store (m : Mem) (a : ℕ) (v : Byte) : Mem :=
  { byte := Function.update m.byte a v, touched := a :: m.touched }

/-- Write the `k` low bytes of `v`, least significant first, from `a` on. -/
def storeLE (m : Mem) (a : ℕ) (k v : ℕ) : Mem :=
  forUp k (fun i m => m.store (a + i) (BitVec.ofNat 8 (v / 256 ^ i))) m

@[simp] theorem load_fst (m : Mem) (a : ℕ) : (m.load a).1 = m.byte a := rfl

@[simp] theorem load_snd_byte (m : Mem) (a : ℕ) : (m.load a).2.byte = m.byte := rfl

@[simp] theorem load_snd_touched (m : Mem) (a : ℕ) :
    (m.load a).2.touched = a :: m.touched := rfl

@[simp] theorem store_touched (m : Mem) (a : ℕ) (v : Byte) :
    (m.store a v).touched = a :: m.touched := rfl

theorem store_byte (m : Mem) (a b : ℕ) (v : Byte) :
    (m.store a v).byte b = if b = a then v else m.byte b := by
  rw [store]
  exact Function.update_apply m.byte a v b

/-! ## Footprint -/

/-- Every address accessed between `m` and `m'` is in `P`. -/
def TouchesOnly (P : ℕ → Prop) (m m' : Mem) : Prop :=
  ∀ a ∈ m'.touched, a ∈ m.touched ∨ P a

variable {P Q : ℕ → Prop} {m m₁ m₂ m₃ : Mem}

theorem TouchesOnly.refl (P : ℕ → Prop) (m : Mem) : TouchesOnly P m m :=
  fun _ ha => Or.inl ha

theorem TouchesOnly.trans (h₁ : TouchesOnly P m₁ m₂) (h₂ : TouchesOnly P m₂ m₃) :
    TouchesOnly P m₁ m₃ := by
  intro a ha
  rcases h₂ a ha with h | h
  · exact h₁ a h
  · exact Or.inr h

theorem TouchesOnly.store (v : Byte) {a : ℕ} (h : TouchesOnly P m m₁) (ha : P a) :
    TouchesOnly P m (m₁.store a v) := by
  intro b hb
  rw [store_touched, List.mem_cons] at hb
  rcases hb with rfl | hb
  · exact Or.inr ha
  · exact h b hb

theorem TouchesOnly.load {a : ℕ} (h : TouchesOnly P m m₁) (ha : P a) :
    TouchesOnly P m (m₁.load a).2 := by
  intro b hb
  rw [load_snd_touched, List.mem_cons] at hb
  rcases hb with rfl | hb
  · exact Or.inr ha
  · exact h b hb

/-! ## Multi-byte stores -/

/-- A multi-byte store, byte by byte. -/
theorem storeLE_byte (m : Mem) (a : ℕ) (k v : ℕ) (b : ℕ) :
    (m.storeLE a k v).byte b
      = if a ≤ b ∧ b < a + k then BitVec.ofNat 8 (v / 256 ^ (b - a)) else m.byte b := by
  refine forUp_induction
    (I := fun i (t : Mem) => t.byte b
      = if a ≤ b ∧ b < a + i then BitVec.ofNat 8 (v / 256 ^ (b - a)) else m.byte b) ?_ ?_
  · rw [if_neg (by omega)]
  · intro i _ t ht
    rw [store_byte]
    by_cases hb : b = a + i
    · rw [if_pos hb, if_pos (by omega), hb, Nat.add_sub_cancel_left]
    · rw [if_neg hb, ht]
      by_cases hin : a ≤ b ∧ b < a + i
      · rw [if_pos hin, if_pos (by omega)]
      · rw [if_neg hin, if_neg (by omega)]

theorem TouchesOnly.storeLE (k v : ℕ) {a : ℕ} (h : TouchesOnly P m m₁)
    (ha : ∀ i < k, P (a + i)) : TouchesOnly P m (m₁.storeLE a k v) :=
  forUp_preserves (I := fun t => TouchesOnly P m t) h
    (fun i hi _ ht => ht.store _ (ha i hi))

end Mem

/-! ## Little-endian words -/

/-- The `k`-byte little-endian word that `rd` reads at `a`. -/
def leWord (rd : ℕ → Byte) (a : ℕ) : ℕ → ℕ
  | 0 => 0
  | k + 1 => (rd a).toNat + 256 * leWord rd (a + 1) k

theorem leWord_lt (rd : ℕ → Byte) (a : ℕ) (k : ℕ) : leWord rd a k < 256 ^ k := by
  induction k generalizing a with
  | zero => simp [leWord]
  | succ k ih =>
      have hb : (rd a).toNat < 256 := (rd a).isLt
      have ht := ih (a + 1)
      rw [leWord, pow_succ]
      omega

/-- A word depends on its own bytes only. -/
theorem leWord_congr {rd rd' : ℕ → Byte} {a b k : ℕ} (h : ∀ i < k, rd (a + i) = rd' (b + i)) :
    leWord rd a k = leWord rd' b k := by
  induction k generalizing a b with
  | zero => rfl
  | succ k ih =>
      have hrest : leWord rd (a + 1) k = leWord rd' (b + 1) k := by
        apply ih
        intro i hi
        rw [show a + 1 + i = a + (i + 1) by omega, show b + 1 + i = b + (i + 1) by omega]
        exact h (i + 1) (by omega)
      have h0 : rd a = rd' b := h 0 (by omega)
      rw [leWord, leWord, h0, hrest]

/-- A word is zero exactly when all its bytes are. -/
theorem leWord_eq_zero_iff (rd : ℕ → Byte) (a : ℕ) (k : ℕ) :
    leWord rd a k = 0 ↔ ∀ i < k, rd (a + i) = 0 := by
  induction k generalizing a with
  | zero => simp [leWord]
  | succ k ih =>
      rw [leWord, Nat.add_eq_zero_iff, Nat.mul_eq_zero]
      simp only [show (256 : ℕ) ≠ 0 by omega, false_or]
      rw [ih (a + 1)]
      constructor
      · rintro ⟨h0, ht⟩ i hi
        rcases i with _ | i
        · exact BitVec.eq_of_toNat_eq h0
        · rw [show a + (i + 1) = a + 1 + i by omega]
          exact ht i (by omega)
      · intro h
        refine ⟨?_, fun i hi => ?_⟩
        · have h0 : rd a = 0 := h 0 (by omega)
          rw [h0]
          rfl
        · rw [show a + 1 + i = a + (i + 1) by omega]
          exact h (i + 1) (by omega)

/-- The word of `k` bytes that are all ones. -/
theorem leWord_ones {rd : ℕ → Byte} {a k : ℕ} (h : ∀ i < k, rd (a + i) = 0xFF) :
    leWord rd a k = 256 ^ k - 1 := by
  induction k generalizing a with
  | zero => rfl
  | succ k ih =>
      have h0 : rd a = 0xFF := h 0 (by omega)
      have hrest := ih (a := a + 1) (fun i hi => by
        rw [show a + 1 + i = a + (i + 1) by omega]
        exact h (i + 1) (by omega))
      have hpos : 0 < 256 ^ k := by positivity
      have hb : (0xFF : Byte).toNat = 255 := rfl
      rw [leWord, h0, hrest, pow_succ, hb]
      omega

end GridX64
