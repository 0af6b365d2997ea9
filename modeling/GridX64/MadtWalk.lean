/-
# The walk over the MADT entries

The loop advances by the length byte of each entry, so its positions are fixed by
memory (`madtPos`).  It ends exactly when no entry that it reaches before the end has
length zero (`madtWalk_returns_iff`), and then it needs at most one round for each byte
that is left.  It reads through no pointer that could be null.
-/
import GridX64.Acpi

namespace GridX64

section Walk

variable (m : ℕ → Byte)

/-- `header->length`. -/
def madtEntryLength (ptr : ℕ) : ℕ := (m (ptr + 1)).toNat

/-- The entry is a local APIC with `MADT_LAPIC_ENABLED`. -/
def IsEnabledLapic (ptr : ℕ) : Prop := m ptr = 0 ∧ (leWord m (ptr + 4) 4).testBit 0

instance (ptr : ℕ) : Decidable (IsEnabledLapic m ptr) := inferInstanceAs (Decidable (_ ∧ _))

/-- The position of the walk after `k` entries. -/
def madtPos (ptr : ℕ) : ℕ → ℕ
  | 0 => ptr
  | k + 1 => madtPos (ptr + madtEntryLength m ptr) k

/-- Every entry that the walk reaches before the end moves it on. -/
def MadtEnds (ptr stop : ℕ) : Prop :=
  ∀ k, madtPos m ptr k < stop → madtEntryLength m (madtPos m ptr k) ≠ 0

variable {m} {ptr stop : ℕ}

theorem le_madtPos (k : ℕ) : ptr ≤ madtPos m ptr k := by
  induction k generalizing ptr with
  | zero => exact le_refl ptr
  | succ k ih =>
      have hnext : ptr + madtEntryLength m ptr ≤ madtPos m ptr (k + 1) := ih
      omega

/-- One round of the walk. -/
theorem madtWalk_succ (fuel : ℕ) (n : ℤ) (h : ptr < stop) :
    madtWalk m (fuel + 1) ptr stop n
      = madtWalk m fuel (ptr + madtEntryLength m ptr) stop
          (if IsEnabledLapic m ptr then n + 1 else n) := by
  rw [madtWalk, if_pos h]
  rfl

theorem madtWalk_done (fuel : ℕ) (n : ℤ) (h : ¬ ptr < stop) :
    madtWalk m fuel ptr stop n = .ok n := by
  rw [madtWalk.eq_def, if_neg h]

/-- More fuel does not change what the walk returns. -/
theorem madtWalk_more_fuel {fuel : ℕ} {n n' : ℤ} (hwalk : madtWalk m fuel ptr stop n = .ok n')
    (more : ℕ) : madtWalk m (fuel + more) ptr stop n = .ok n' := by
  induction fuel generalizing ptr n with
  | zero =>
      by_cases h : ptr < stop
      · rw [madtWalk, if_pos h] at hwalk
        exact nomatch hwalk
      · rw [madtWalk_done _ n h] at hwalk ⊢
        exact hwalk
  | succ fuel ih =>
      by_cases h : ptr < stop
      · rw [madtWalk_succ fuel n h] at hwalk
        rw [Nat.add_right_comm, madtWalk_succ _ n h]
        exact ih hwalk
      · rw [madtWalk_done _ n h] at hwalk ⊢
        exact hwalk

/-- The walk fails only by going on for too long. -/
theorem madtWalk_error {fuel : ℕ} {n : ℤ} {e : Fault}
    (herr : madtWalk m fuel ptr stop n = .error e) : e = .outOfFuel := by
  induction fuel generalizing ptr n with
  | zero =>
      rw [madtWalk] at herr
      split_ifs at herr
      exact (Except.error.inj herr).symm
  | succ fuel ih =>
      by_cases h : ptr < stop
      · rw [madtWalk_succ fuel n h] at herr
        exact ih herr
      · rw [madtWalk_done _ n h] at herr
        exact nomatch herr

/-- When the walk comes to its end, no entry on the way had length zero. -/
theorem MadtEnds.of_walk {fuel : ℕ} {n n' : ℤ} (hwalk : madtWalk m fuel ptr stop n = .ok n') :
    MadtEnds m ptr stop := by
  induction fuel generalizing ptr n with
  | zero =>
      intro k hk
      have hle : ptr ≤ madtPos m ptr k := le_madtPos k
      rw [madtWalk, if_pos (by omega)] at hwalk
      exact nomatch hwalk
  | succ fuel ih =>
      intro k hk
      have hle : ptr ≤ madtPos m ptr k := le_madtPos k
      have h : ptr < stop := by omega
      rw [madtWalk_succ fuel n h] at hwalk
      have hrest : MadtEnds m (ptr + madtEntryLength m ptr) stop := ih hwalk
      cases k with
      | zero =>
          -- an entry of length zero would be met again in the next round
          intro hzero
          have hsame : ptr + madtEntryLength m ptr = ptr := by
            rw [show madtEntryLength m ptr = 0 from hzero, Nat.add_zero]
          rw [hsame] at hrest
          exact hrest 0 h hzero
      | succ k => exact hrest k hk

/-- **The walk ends** within one round for each byte, if every entry moves it on. -/
theorem MadtEnds.walk {fuel : ℕ} (hends : MadtEnds m ptr stop) (hfuel : stop - ptr ≤ fuel) (n : ℤ) :
    ∃ n', madtWalk m fuel ptr stop n = .ok n' := by
  induction fuel generalizing ptr n with
  | zero => exact ⟨n, madtWalk_done 0 n (by omega)⟩
  | succ fuel ih =>
      by_cases h : ptr < stop
      · have hlength : madtEntryLength m ptr ≠ 0 := hends 0 h
        rw [madtWalk_succ fuel n h]
        exact ih (fun k hk => hends (k + 1) hk) (by omega) _
      · exact ⟨n, madtWalk_done _ n h⟩

/-- **When the walk returns.** -/
theorem madtWalk_returns_iff (n : ℤ) :
    (∃ fuel n', madtWalk m fuel ptr stop n = .ok n') ↔ MadtEnds m ptr stop := by
  constructor
  · rintro ⟨fuel, n', hwalk⟩
    exact MadtEnds.of_walk hwalk
  · intro hends
    exact ⟨stop - ptr, hends.walk (le_refl _) n⟩

end Walk

end GridX64
