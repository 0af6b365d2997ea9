/-
# What checksum_valid detects

A checksum that accepts when a sum vanishes in a group detects every change of a
single term, because a term is what the others leave to be summed to zero:

* `sum_update_eq_zero_iff` — one value of a term makes the sum vanish, whatever the
  others are;
* `checksumValid_detects`  — so `checksum_valid` accepts one value of every byte, and
  it accepts exactly when the unbounded sum of the bytes is divisible by 256.
-/
import GridX64.Acpi
import Mathlib.Algebra.BigOperators.Group.Finset.Piecewise
import Mathlib.Algebra.BigOperators.Group.Finset.Basic
import Mathlib.Data.BitVec

namespace GridX64

open Finset

/-! ## Sums in a group -/

section Sum

variable {ι G : Type} [DecidableEq ι] [AddCommGroup G] {s : Finset ι} {p : ι}

/-- **The value of a term that makes a sum vanish** is the negated sum of the others. -/
theorem sum_update_eq_zero_iff (hp : p ∈ s) (f : ι → G) (v : G) :
    ∑ i ∈ s, Function.update f p v i = 0 ↔ v = -∑ i ∈ s \ {p}, f i := by
  rw [sum_update_of_mem hp]
  exact add_eq_zero_iff_eq_neg

/-- A sum that vanishes does so for one value of each of its terms. -/
theorem existsUnique_sum_update (hp : p ∈ s) (f : ι → G) :
    ∃! v, ∑ i ∈ s, Function.update f p v i = 0 := by
  refine ⟨-∑ i ∈ s \ {p}, f i, (sum_update_eq_zero_iff hp f _).mpr rfl, ?_⟩
  intro v hv
  exact (sum_update_eq_zero_iff hp f v).mp hv

/-- Another value of a term of a vanishing sum is noticed. -/
theorem sum_update_ne_zero (hp : p ∈ s) {f : ι → G} (hf : ∑ i ∈ s, f i = 0) {v : G}
    (hv : v ≠ f p) : ∑ i ∈ s, Function.update f p v i ≠ 0 := by
  intro hsum
  have hself : ∑ i ∈ s, Function.update f p (f p) i = 0 := by rwa [Function.update_eq_self]
  exact hv ((existsUnique_sum_update hp f).unique hsum hself)

end Sum

/-! ## The accumulator -/

variable {m : ℕ → Byte} {addr : BitVec 64} {len : ℕ}

/-- The accumulator is the sum of the bytes, as bytes. -/
theorem byteSum_eq_sum (m : ℕ → Byte) (addr : BitVec 64) (len : ℕ) :
    byteSum m addr len = ∑ i ∈ range len, m (addr.toNat + i) := by
  refine forUp_induction (fun n sum => sum = ∑ i ∈ range n, m (addr.toNat + i)) ?_ ?_
  · rfl
  · intro i sum _ hsum
    rw [sum_range_succ, hsum]

/-- The 8-bit accumulator holds the unbounded sum modulo 256. -/
theorem byteSum_toNat (m : ℕ → Byte) (addr : BitVec 64) (len : ℕ) :
    (byteSum m addr len).toNat = (∑ i ∈ range len, (m (addr.toNat + i)).toNat) % 256 := by
  refine forUp_induction
    (fun n (sum : Byte) => sum.toNat = (∑ i ∈ range n, (m (addr.toNat + i)).toNat) % 256) ?_ ?_
  · rfl
  · intro i sum _ hsum
    rw [BitVec.toNat_add, hsum, sum_range_succ]
    omega

/-- Writing one byte of a table is changing one term of its sum. -/
theorem byteSum_update (m : ℕ → Byte) (addr : BitVec 64) (len p : ℕ) (v : Byte) :
    byteSum (Function.update m (addr.toNat + p) v) addr len
      = ∑ i ∈ range len, Function.update (fun i => m (addr.toNat + i)) p v i := by
  rw [byteSum_eq_sum]
  apply sum_congr rfl
  intro i _
  by_cases hi : i = p
  · rw [hi, Function.update_self, Function.update_self]
  · rw [Function.update_of_ne hi, Function.update_of_ne (by omega)]

/-! ## The check -/

theorem checksumValid_true_iff (haddr : addr = 0 → len = 0) :
    checksumValid m addr len = .ok true ↔ byteSum m addr len = 0 := by
  rw [checksumValid_eq haddr, Except.ok.injEq, decide_eq_true_iff]

theorem checksumValid_false_iff (haddr : addr = 0 → len = 0) :
    checksumValid m addr len = .ok false ↔ byteSum m addr len ≠ 0 := by
  rw [checksumValid_eq haddr, Except.ok.injEq, decide_eq_false_iff_not]

/-- **`checksum_valid` detects every change of a single byte**: it holds exactly when
the sum of the bytes is divisible by 256, so it holds for one value of each byte. -/
theorem checksumValid_detects (m : ℕ → Byte) (addr : BitVec 64) (len : ℕ)
    (haddr : addr = 0 → len = 0) :
    (checksumValid m addr len = .ok true
        ↔ 256 ∣ ∑ i ∈ range len, (m (addr.toNat + i)).toNat) ∧
      ∀ p < len,
        (∃! v, checksumValid (Function.update m (addr.toNat + p) v) addr len = .ok true) ∧
          (checksumValid m addr len = .ok true →
            ∀ v, v ≠ m (addr.toNat + p) →
              checksumValid (Function.update m (addr.toNat + p) v) addr len = .ok false) := by
  constructor
  · rw [checksumValid_true_iff haddr, Nat.dvd_iff_mod_eq_zero, ← byteSum_toNat]
    exact BitVec.toNat_inj.symm
  · intro p hp
    have hmem : p ∈ range len := mem_range.mpr hp
    constructor
    · simp only [checksumValid_true_iff haddr, byteSum_update]
      exact existsUnique_sum_update hmem _
    · intro hvalid v hv
      rw [checksumValid_true_iff haddr, byteSum_eq_sum] at hvalid
      rw [checksumValid_false_iff haddr, byteSum_update]
      exact sum_update_ne_zero hmem hvalid hv

/-- A table of three bytes, the last of which makes it valid. -/
theorem checksumValid_detects_three :
    checksumValid (image [(16, [1, 2, 253])]) 16 3 = .ok true ∧
      ∀ v, v ≠ 2 →
        checksumValid (Function.update (image [(16, [1, 2, 253])]) 17 v) 16 3 = .ok false := by
  have h := checksumValid_detects (image [(16, [1, 2, 253])]) 16 3 (by decide)
  have hvalid : checksumValid (image [(16, [1, 2, 253])]) 16 3 = .ok true := by decide
  exact ⟨hvalid, (h.2 1 (by decide)).2 hvalid⟩

end GridX64
