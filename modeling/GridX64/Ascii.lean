/-
# The characters the console code tests for

`char` is a signed byte on this target, so the range test of the drivers
(`c >= 32 && c <= 126`) is a comparison of signed values: a byte from `0x80` on
is negative and never printable.

`keyOf` is the reading of a byte as a key of a text terminal.
-/
import GridX64.ByteMemory
import GridX64.TextPage

namespace GridX64

/-- `'\b'`. -/
abbrev chBackspace : Byte := 8

/-- `'\n'`. -/
abbrev chNewline : Byte := 10

/-- `'\r'`. -/
abbrev chReturn : Byte := 13

/-- `' '`. -/
abbrev chSpace : Byte := 32

/-- `c >= 32 && c <= 126`. -/
def IsPrintable (c : Byte) : Prop := 32 ≤ c.toInt ∧ c.toInt ≤ 126

instance : DecidablePred IsPrintable := fun c =>
  inferInstanceAs (Decidable (32 ≤ c.toInt ∧ c.toInt ≤ 126))

/-- The signed test accepts the unsigned range `32..126`. -/
theorem isPrintable_iff (c : Byte) : IsPrintable c ↔ 32 ≤ c.toNat ∧ c.toNat ≤ 126 := by
  have hc : c.toNat < 256 := c.isLt
  rw [IsPrintable, BitVec.toInt_eq_toNat_cond]
  split_ifs <;> omega

/-- A printable character is none of the control characters. -/
theorem IsPrintable.ne_control {c : Byte} (h : IsPrintable c) :
    c ≠ chNewline ∧ c ≠ chReturn ∧ c ≠ chBackspace := by
  rw [isPrintable_iff] at h
  refine ⟨?_, ?_, ?_⟩ <;> rintro rfl <;> simp at h

/-- The key that a character stands for. -/
def keyOf (c : Byte) : Key Byte :=
  if c = chNewline then .newline
  else if c = chReturn then .carriageReturn
  else if c = chBackspace then .backspace
  else if IsPrintable c then .print c
  else .ignored

theorem keyOf_ne_carriageReturn {c : Byte} (h : c ≠ chReturn) : keyOf c ≠ .carriageReturn := by
  rw [keyOf]
  split_ifs <;> simp

end GridX64
