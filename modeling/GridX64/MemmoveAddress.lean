/-
# memmove on 64-bit addresses

`Mem` is addressed by natural numbers, so a range in it cannot wrap.  Here `memmove`
runs over the address space itself, where `d + i` and `s + i` are 64-bit sums and the
pointers are compared as unsigned words.

* `memmoveAt_sameBytes` — if neither range wraps, the two memories stay the same, so
  the natural addresses lose nothing;
* `memmoveAt_every_overlap` — what `memmove` does to the address space.
-/
import GridX64.LibMem

namespace GridX64

/-- The bytes of the address space. -/
abbrev AddressSpace := BitVec 64 → Byte

/-- `d[i] = s[i]`. -/
def copyByteAt (d s : BitVec 64) (i : ℕ) (m : AddressSpace) : AddressSpace :=
  Function.update m (d + BitVec.ofNat 64 i) (m (s + BitVec.ofNat 64 i))

/-- `memmove`, with pointers and `size_t` of 64 bits. -/
def memmoveAt (dest src n : BitVec 64) (m : AddressSpace) : BitVec 64 × AddressSpace :=
  if dest = src ∨ n = 0 then (dest, m)
  else if dest < src then (dest, forUp n.toNat (fun i m => copyByteAt dest src i m) m)
  else (dest, forDown n.toNat (fun i m => copyByteAt dest src (i - 1) m) m)

/-! ## The two memories -/

/-- The address space holds the bytes of a memory. -/
def SameBytes (m : AddressSpace) (t : Mem) : Prop := ∀ a, m a = t.byte a.toNat

variable {dest src n : BitVec 64} {m : AddressSpace} {t : Mem}

/-- An address inside a range that does not wrap. -/
theorem toNat_add_index {p : BitVec 64} {i len : ℕ} (hi : i < len) (hp : p.toNat + len ≤ 2 ^ 64) :
    (p + BitVec.ofNat 64 i).toNat = p.toNat + i := by
  rw [BitVec.toNat_add, BitVec.toNat_ofNat, Nat.mod_eq_of_lt (show i < 2 ^ 64 by omega),
    Nat.mod_eq_of_lt (by omega)]

theorem copyByteAt_sameBytes (h : SameBytes m t) {i len : ℕ} (hi : i < len)
    (hdest : dest.toNat + len ≤ 2 ^ 64) (hsrc : src.toNat + len ≤ 2 ^ 64) :
    SameBytes (copyByteAt dest src i m) (copyByte dest.toNat src.toNat i t) := by
  intro a
  have hd := toNat_add_index hi hdest
  rw [copyByte_byte, copyByteAt, Function.update_apply, h, toNat_add_index hi hsrc, h]
  apply if_congr _ rfl rfl
  rw [← hd]
  exact BitVec.toNat_inj.symm

/-- **On ranges that do not wrap the address space behaves as the memory does.** -/
theorem memmoveAt_sameBytes (h : SameBytes m t) (hdest : dest.toNat + n.toNat ≤ 2 ^ 64)
    (hsrc : src.toNat + n.toNat ≤ 2 ^ 64) :
    SameBytes (memmoveAt dest src n m).2 (memmove dest.toNat src.toNat n.toNat t).2 := by
  have hskip : dest = src ∨ n = 0 ↔ dest.toNat = src.toNat ∨ n.toNat = 0 :=
    or_congr BitVec.toNat_inj.symm BitVec.toNat_inj.symm
  rw [memmoveAt, memmove]
  by_cases hsame : dest = src ∨ n = 0
  · rw [if_pos hsame, if_pos (hskip.mp hsame)]
    exact h
  rw [if_neg hsame, if_neg (fun hc => hsame (hskip.mpr hc))]
  by_cases hup : dest < src
  · rw [if_pos hup, if_pos (show dest.toNat < src.toNat from hup)]
    apply forUp_relates SameBytes h
    intro i hi s t hst
    exact copyByteAt_sameBytes hst hi hdest hsrc
  · rw [if_neg hup, if_neg (show ¬ dest.toNat < src.toNat from hup)]
    apply forDown_relates SameBytes h
    intro i hi s t hst
    rw [Nat.add_sub_cancel]
    exact copyByteAt_sameBytes hst hi hdest hsrc

/-! ## Every overlap -/

/-- **`memmove` is correct for every overlap**: the destination range gets the bytes
that the source range had, nothing else changes, and the destination is returned. -/
theorem memmoveAt_every_overlap (dest src n : BitVec 64) (m : AddressSpace)
    (hdest : dest.toNat + n.toNat ≤ 2 ^ 64) (hsrc : src.toNat + n.toNat ≤ 2 ^ 64) :
    (memmoveAt dest src n m).1 = dest ∧
      (∀ i < n, (memmoveAt dest src n m).2 (dest + i) = m (src + i)) ∧
      ∀ a, ¬ (dest.toNat ≤ a.toNat ∧ a.toNat < dest.toNat + n.toNat) →
        (memmoveAt dest src n m).2 a = m a := by
  -- a memory that holds the address space
  let t : Mem := { byte := fun a => m (BitVec.ofNat 64 a), touched := [] }
  have ht : SameBytes m t := by
    intro a
    show m a = m (BitVec.ofNat 64 a.toNat)
    rw [BitVec.ofNat_toNat, BitVec.setWidth_eq]
  have hmove : ∀ a, (memmoveAt dest src n m).2 a
      = if dest.toNat ≤ a.toNat ∧ a.toNat < dest.toNat + n.toNat
        then m (BitVec.ofNat 64 (src.toNat + (a.toNat - dest.toNat))) else m a := by
    intro a
    rw [memmoveAt_sameBytes ht hdest hsrc a, memmove_byte, ← ht a]
  refine ⟨?_, ?_, ?_⟩
  · rw [memmoveAt]
    split_ifs <;> rfl
  · intro i hi
    have hilt : i.toNat < n.toNat := hi
    have haddr : (dest + i).toNat = dest.toNat + i.toNat := by
      rw [BitVec.toNat_add]
      exact Nat.mod_eq_of_lt (by omega)
    rw [hmove, haddr, if_pos (by omega), Nat.add_sub_cancel_left, BitVec.ofNat_add,
      BitVec.ofNat_toNat, BitVec.ofNat_toNat, BitVec.setWidth_eq, BitVec.setWidth_eq]
  · intro a hout
    rw [hmove, if_neg hout]

/-- Four bytes moved up by one, the source and the destination overlapping. -/
theorem memmoveAt_every_overlap_up :
    (memmoveAt 0x1001 0x1000 4 (fun a => a.setWidth 8)).2 0x1004 = 3 ∧
      (memmoveAt 0x1001 0x1000 4 (fun a => a.setWidth 8)).2 0x1005 = 5 := by
  obtain ⟨-, hcopied, hframe⟩ := memmoveAt_every_overlap 0x1001 0x1000 4 (fun a => a.setWidth 8)
    (by decide) (by decide)
  exact ⟨hcopied 3 (by decide), hframe 0x1005 (by decide)⟩

end GridX64
