/-
# memset, memmove and memcmp (src/lib/mem.c)

The repository's own byte loops, on `Mem`, and one specification each:

* `memset_byte`  — the filled range holds the fill byte, the rest is unchanged;
* `memmove_byte` — the destination range holds what the source range held before
  the call, whatever the overlap, and the rest is unchanged;
* `memcmp_order` — the sign is that of the lexicographic order.

`memmove` copies upwards when the destination is below the source and downwards
otherwise; each direction has its own invariant (`copyUp_byte`, `copyDown_byte`).
-/
import GridX64.ByteMemory

namespace GridX64

/-! ## The functions -/

/-- `memset`: write the byte `c` over `n` bytes from `s` on, and return `s`. -/
def memset (s : ℕ) (c : Byte) (n : ℕ) (m : Mem) : ℕ × Mem :=
  (s, forUp n (fun i m => m.store (s + i) c) m)

/-- The copy of one byte, `d[i] = s[i]`. -/
def copyByte (d s : ℕ) (i : ℕ) (m : Mem) : Mem :=
  let (v, m) := m.load (s + i)
  m.store (d + i) v

/-- `memmove`: copy `n` bytes from `src` to `dest`, and return `dest`. -/
def memmove (dest src : ℕ) (n : ℕ) (m : Mem) : ℕ × Mem :=
  if dest = src ∨ n = 0 then (dest, m)
  -- the direction in which no source byte is overwritten before it is read
  else if dest < src then (dest, forUp n (fun i m => copyByte dest src i m) m)
  else (dest, forDown n (fun i m => copyByte dest src (i - 1) m) m)

/-- `memcmp`: the difference of the first two bytes that differ, or `0`. -/
def memcmp (p₁ p₂ : ℕ → Byte) : ℕ → ℤ
  | 0 => 0
  | n + 1 =>
      if p₁ 0 ≠ p₂ 0 then (p₁ 0).toNat - (p₂ 0).toNat
      else memcmp (fun i => p₁ (i + 1)) (fun i => p₂ (i + 1)) n

/-! ## memset -/

theorem memset_byte (s : ℕ) (c : Byte) (n : ℕ) (m : Mem) (a : ℕ) :
    (memset s c n m).2.byte a = if s ≤ a ∧ a < s + n then c else m.byte a := by
  refine forUp_induction
    (I := fun i (t : Mem) => t.byte a = if s ≤ a ∧ a < s + i then c else m.byte a) ?_ ?_
  · rw [if_neg (by omega)]
  · intro i _ t ht
    rw [Mem.store_byte]
    by_cases ha : a = s + i
    · rw [if_pos ha, if_pos (by omega)]
    · rw [if_neg ha, ht]
      by_cases hin : s ≤ a ∧ a < s + i
      · rw [if_pos hin, if_pos (by omega)]
      · rw [if_neg hin, if_neg (by omega)]

theorem memset_touchesOnly {P : ℕ → Prop} {m₀ m : Mem} (s : ℕ) (c : Byte) (n : ℕ)
    (h : Mem.TouchesOnly P m₀ m) (hs : ∀ i < n, P (s + i)) :
    Mem.TouchesOnly P m₀ (memset s c n m).2 :=
  forUp_preserves (I := fun t => Mem.TouchesOnly P m₀ t) h
    (fun i hi _ ht => ht.store c (hs i hi))

/-! ## memmove -/

theorem copyByte_byte (d s : ℕ) (i : ℕ) (m : Mem) (a : ℕ) :
    (copyByte d s i m).byte a = if a = d + i then m.byte (s + i) else m.byte a := by
  rw [copyByte]
  simp only [Mem.load_fst, Mem.store_byte, Mem.load_snd_byte]

/-- The upward copy is right when the destination is below the source: the bytes
already written are all below the ones still to be read. -/
theorem copyUp_byte (d s : ℕ) (n : ℕ) (m : Mem) (hds : d < s) (a : ℕ) :
    (forUp n (fun i m => copyByte d s i m) m).byte a
      = if d ≤ a ∧ a < d + n then m.byte (s + (a - d)) else m.byte a := by
  suffices h : ∀ b, (forUp n (fun i m => copyByte d s i m) m).byte b
      = if d ≤ b ∧ b < d + n then m.byte (s + (b - d)) else m.byte b from h a
  refine forUp_induction
    (I := fun i (t : Mem) => ∀ b, t.byte b
      = if d ≤ b ∧ b < d + i then m.byte (s + (b - d)) else m.byte b) ?_ ?_
  · intro b
    rw [if_neg (by omega)]
  · intro i _ t ht b
    rw [copyByte_byte]
    by_cases hb : b = d + i
    · rw [if_pos hb, if_pos (by omega), ht, if_neg (by omega), hb, Nat.add_sub_cancel_left]
    · rw [if_neg hb, ht]
      by_cases hin : d ≤ b ∧ b < d + i
      · rw [if_pos hin, if_pos (by omega)]
      · rw [if_neg hin, if_neg (by omega)]

/-- The downward copy is right when the destination is above the source: the bytes
already written are all above the ones still to be read. -/
theorem copyDown_byte (d s : ℕ) (n : ℕ) (m : Mem) (hsd : s < d) (a : ℕ) :
    (forDown n (fun i m => copyByte d s (i - 1) m) m).byte a
      = if d ≤ a ∧ a < d + n then m.byte (s + (a - d)) else m.byte a := by
  suffices h : ∀ b, (forDown n (fun i m => copyByte d s (i - 1) m) m).byte b
      = if d + 0 ≤ b ∧ b < d + n then m.byte (s + (b - d)) else m.byte b from h a
  refine forDown_induction
    (I := fun i (t : Mem) => ∀ b, t.byte b
      = if d + i ≤ b ∧ b < d + n then m.byte (s + (b - d)) else m.byte b) ?_ ?_
  · intro b
    rw [if_neg (by omega)]
  · intro i hi t ht b
    rw [copyByte_byte, Nat.add_sub_cancel]
    by_cases hb : b = d + i
    · rw [if_pos hb, if_pos (by omega), ht, if_neg (by omega), hb, Nat.add_sub_cancel_left]
    · rw [if_neg hb, ht]
      by_cases hin : d + (i + 1) ≤ b ∧ b < d + n
      · rw [if_pos hin, if_pos (by omega)]
      · rw [if_neg hin, if_neg (by omega)]

/-- **memmove, for every overlap**: the destination range receives the source
range's old bytes and every other byte is unchanged. -/
theorem memmove_byte (d s : ℕ) (n : ℕ) (m : Mem) (a : ℕ) :
    (memmove d s n m).2.byte a
      = if d ≤ a ∧ a < d + n then m.byte (s + (a - d)) else m.byte a := by
  rw [memmove]
  by_cases hskip : d = s ∨ n = 0
  · rw [if_pos hskip]
    by_cases hin : d ≤ a ∧ a < d + n
    · rw [if_pos hin]
      congr 1
      omega
    · rw [if_neg hin]
  · rw [if_neg hskip]
    by_cases hlt : d < s
    · rw [if_pos hlt]
      exact copyUp_byte d s n m hlt a
    · rw [if_neg hlt]
      exact copyDown_byte d s n m (by omega) a

theorem copyByte_touchesOnly {P : ℕ → Prop} {m₀ m : Mem} {d s : ℕ} {i : ℕ}
    (h : Mem.TouchesOnly P m₀ m) (hd : P (d + i)) (hs : P (s + i)) :
    Mem.TouchesOnly P m₀ (copyByte d s i m) :=
  (h.load hs).store _ hd

theorem memmove_touchesOnly {P : ℕ → Prop} {m₀ m : Mem} {d s : ℕ} {n : ℕ}
    (h : Mem.TouchesOnly P m₀ m) (hd : ∀ i < n, P (d + i)) (hs : ∀ i < n, P (s + i)) :
    Mem.TouchesOnly P m₀ (memmove d s n m).2 := by
  rw [memmove]
  split_ifs
  · exact h
  · exact forUp_preserves (I := fun t => Mem.TouchesOnly P m₀ t) h
      (fun i hi _ ht => copyByte_touchesOnly ht (hd i hi) (hs i hi))
  · refine forDown_induction (I := fun _ (t : Mem) => Mem.TouchesOnly P m₀ t) h ?_
    intro i hi t ht
    rw [Nat.add_sub_cancel]
    exact copyByte_touchesOnly ht (hd i hi) (hs i hi)

/-! ## memcmp -/

/-- The `n` bytes that a pointer leads to. -/
def block (p : ℕ → Byte) (n : ℕ) : List Byte := (List.range n).map p

theorem block_succ (p : ℕ → Byte) (n : ℕ) : block p (n + 1) = p 0 :: block (fun i => p (i + 1)) n := by
  rw [block, List.range_succ_eq_map, List.map_cons, List.map_map]
  rfl

/-- **`memcmp` compares blocks in lexicographic order of unsigned bytes**: its sign says
which comes first, swapping the blocks turns the sign around, and the result is an `int`
whatever the bytes. -/
theorem memcmp_order (p₁ p₂ : ℕ → Byte) (n : ℕ) :
    (memcmp p₁ p₂ n < 0 ↔ block p₁ n < block p₂ n) ∧
      (memcmp p₁ p₂ n = 0 ↔ block p₁ n = block p₂ n) ∧
      memcmp p₂ p₁ n = -memcmp p₁ p₂ n ∧ |memcmp p₁ p₂ n| ≤ 255 := by
  induction n generalizing p₁ p₂ with
  | zero => simp [memcmp, block]
  | succ n ih =>
      have hlt₁ := (p₁ 0).isLt
      have hlt₂ := (p₂ 0).isLt
      rw [block_succ, block_succ, List.cons_lt_cons_iff, List.cons_eq_cons, memcmp, memcmp]
      by_cases hne : p₁ 0 = p₂ 0
      · obtain ⟨hlt, heq, hneg, hbound⟩ := ih (fun i => p₁ (i + 1)) (fun i => p₂ (i + 1))
        rw [if_neg (not_not.mpr hne), if_neg (not_not.mpr hne.symm)]
        refine ⟨?_, ?_, hneg, hbound⟩
        · rw [hlt, hne]
          simp
        · rw [heq, hne]
          simp
      · have htoNat : (p₁ 0).toNat ≠ (p₂ 0).toNat := fun h => hne (BitVec.eq_of_toNat_eq h)
        rw [if_pos hne, if_pos (Ne.symm hne)]
        refine ⟨?_, ?_, by omega, ?_⟩
        · rw [BitVec.lt_def]
          simp only [hne, false_and, or_false]
          omega
        · simp only [hne, false_and, iff_false]
          omega
        · rw [abs_le]
          omega

end GridX64
