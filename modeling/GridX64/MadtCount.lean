/-
# Counting the processors of a MADT

`acpi_init` sets `end = Entries + Header.Length`, but `Length` counts the 44 bytes
before `Entries` as well, so the walk goes on for 44 bytes after the table.

* `madtReads` — the addresses that the walk reads, and `madtWalk_congr`, that its
  result depends on nothing else;
* `madtWalk_entries` — over well-formed entries the walk counts the enabled local
  APICs, and is then at the end of the table with 44 bytes to go;
* `madt_walk_overruns` — so it reads past the table, whatever the table;
* `madt_walk_terminates_iff` — it ends exactly when it reaches no entry of length 0.
-/
import GridX64.AcpiInit
import Mathlib.Data.List.GetD

namespace GridX64

/-! ## The bytes that the walk reads -/

/-- The addresses that the walk reads, in its order: the type of an entry, the flags
of a local APIC, the length. -/
def madtReads (m : ℕ → Byte) : ℕ → ℕ → ℕ → List ℕ
  | 0, _, _ => []
  | fuel + 1, ptr, stop =>
      if ptr < stop then
        ptr :: (if m ptr = 0 then [ptr + 4, ptr + 5, ptr + 6, ptr + 7] else [])
          ++ (ptr + 1) :: madtReads m fuel (ptr + madtEntryLength m ptr) stop
      else []

section Reads

variable {m m' : ℕ → Byte}

/-- **The walk depends on the bytes that it reads**, and on no others. -/
theorem madtWalk_congr {fuel ptr stop : ℕ} {n : ℤ}
    (h : ∀ a ∈ madtReads m fuel ptr stop, m' a = m a) :
    madtWalk m' fuel ptr stop n = madtWalk m fuel ptr stop n := by
  induction fuel generalizing ptr n with
  | zero => rw [madtWalk, madtWalk]
  | succ fuel ih =>
      by_cases hptr : ptr < stop
      · rw [madtReads, if_pos hptr] at h
        have htype : m' ptr = m ptr := h ptr (by simp)
        have hlength : madtEntryLength m' ptr = madtEntryLength m ptr := by
          rw [madtEntryLength, madtEntryLength, h (ptr + 1) (by simp)]
        have hcount : IsEnabledLapic m' ptr ↔ IsEnabledLapic m ptr := by
          rw [IsEnabledLapic, IsEnabledLapic, htype]
          apply and_congr_right
          intro hzero
          -- the flags are read of a local APIC only
          have hflags : leWord m' (ptr + 4) 4 = leWord m (ptr + 4) 4 := by
            apply leWord_congr
            intro i hi
            apply h
            interval_cases i <;> simp [hzero]
          rw [hflags]
        rw [madtWalk_succ fuel n hptr, madtWalk_succ fuel n hptr, hlength, if_congr hcount rfl rfl]
        apply ih
        intro a ha
        apply h
        simp [ha]
      · rw [madtWalk_done _ n hptr, madtWalk_done _ n hptr]

end Reads

/-! ## Well-formed tables -/

/-- A well-formed MADT entry: its type and what follows the length byte.  The length
fits in a byte, and a local APIC has its flags. -/
structure MadtEntry where
  type : Byte
  body : List Byte
  length_lt : body.length + 2 < 256
  lapic_length : type = 0 → 8 ≤ body.length + 2

namespace MadtEntry

/-- The bytes of an entry; its length byte is its size. -/
def bytes (e : MadtEntry) : List Byte :=
  e.type :: BitVec.ofNat 8 (e.body.length + 2) :: e.body

/-- A type-0 entry whose flags have `MADT_LAPIC_ENABLED` set. -/
def enabled (e : MadtEntry) : Bool :=
  e.type = 0 ∧ (leWord (fun i => e.bytes.getD i 0) 4 4).testBit 0

theorem length_bytes (e : MadtEntry) : e.bytes.length = e.body.length + 2 := rfl

end MadtEntry

/-- The bytes stand at `a`. -/
def BytesFrom (m : ℕ → Byte) (a : ℕ) (bytes : List Byte) : Prop :=
  ∀ i < bytes.length, m (a + i) = bytes.getD i 0

theorem BytesFrom.append {m : ℕ → Byte} {a : ℕ} {xs ys : List Byte}
    (h : BytesFrom m a (xs ++ ys)) : BytesFrom m a xs ∧ BytesFrom m (a + xs.length) ys := by
  constructor
  · intro i hi
    rw [h i (by rw [List.length_append]; omega), List.getD_append _ _ _ _ hi]
  · intro i hi
    have hright := h (xs.length + i) (by rw [List.length_append]; omega)
    rw [List.getD_append_right _ _ _ _ (by omega), Nat.add_sub_cancel_left] at hright
    rw [Nat.add_assoc, hright]

/-- The MADT at `madt` has the given entries: they are the bytes from `Entries` to
`Header.Length`. -/
structure MadtHas (m : ℕ → Byte) (madt : BitVec 64) (entries : List MadtEntry) : Prop where
  length_eq : member m madt sdtLength = madtEntries + (entries.flatMap MadtEntry.bytes).length
  stored : BytesFrom m (madt.toNat + madtEntries) (entries.flatMap MadtEntry.bytes)

/-- The end that `acpi_init` computes: `Entries + Header.Length`. -/
def madtEnd (m : ℕ → Byte) (madt : BitVec 64) : ℕ :=
  madt.toNat + madtEntries + member m madt sdtLength

/-- The walk of `acpi_init` over the MADT. -/
def walkMadt (m : ℕ → Byte) (fuel : ℕ) (madt : BitVec 64) (numCores : ℤ) : Except Fault ℤ :=
  madtWalk m fuel (madt.toNat + madtEntries) (madtEnd m madt) numCores

/-- The walk adds the number of enabled local APICs of the table, and reads nothing at
or beyond `madt + Header.Length`. -/
def CountsExactly (m : ℕ → Byte) (madt : BitVec 64) (entries : List MadtEntry) (numCores : ℤ) :
    Prop :=
  ∃ fuel, walkMadt m fuel madt numCores = .ok (numCores + entries.countP MadtEntry.enabled) ∧
    ∀ a ∈ madtReads m fuel (madt.toNat + madtEntries) (madtEnd m madt),
      a < madt.toNat + member m madt sdtLength

/-! ## The walk over a table -/

section Entries

variable {m : ℕ → Byte} {ptr stop fuel : ℕ} {n : ℤ} {e : MadtEntry} {entries : List MadtEntry}

/-- Of a stored entry the walk sees the size. -/
theorem madtEntryLength_of_bytes (h : BytesFrom m ptr e.bytes) :
    madtEntryLength m ptr = e.bytes.length := by
  have hlt := e.length_lt
  have hbyte : m (ptr + 1) = BitVec.ofNat 8 (e.body.length + 2) :=
    h 1 (by rw [e.length_bytes]; omega)
  rw [madtEntryLength, hbyte, BitVec.toNat_ofNat, Nat.mod_eq_of_lt (by omega), e.length_bytes]

/-- Of a stored entry the walk sees whether it is an enabled local APIC. -/
theorem isEnabledLapic_of_bytes (h : BytesFrom m ptr e.bytes) :
    IsEnabledLapic m ptr ↔ e.enabled = true := by
  have htype : m ptr = e.type := h 0 (by rw [e.length_bytes]; omega)
  rw [IsEnabledLapic, MadtEntry.enabled, decide_eq_true_iff, htype]
  apply and_congr_right
  intro hzero
  have hlength := e.lapic_length hzero
  have hflags : leWord m (ptr + 4) 4 = leWord (fun i => e.bytes.getD i 0) 4 4 := by
    apply leWord_congr
    intro i hi
    rw [Nat.add_assoc]
    apply h
    rw [e.length_bytes]
    omega
  rw [hflags]

/-- **The walk over well-formed entries** counts the enabled local APICs among them. -/
theorem madtWalk_entries (h : BytesFrom m ptr (entries.flatMap MadtEntry.bytes))
    (hstop : ptr + (entries.flatMap MadtEntry.bytes).length ≤ stop) :
    madtWalk m (entries.length + fuel) ptr stop n
      = madtWalk m fuel (ptr + (entries.flatMap MadtEntry.bytes).length) stop
          (n + entries.countP MadtEntry.enabled) := by
  induction entries generalizing ptr n with
  | nil => simp
  | cons e entries ih =>
      rw [List.flatMap_cons] at h hstop ⊢
      rw [List.length_append] at hstop ⊢
      obtain ⟨hentry, hrest⟩ := h.append
      have hsize := e.length_bytes
      have hcount : ((if IsEnabledLapic m ptr then n + 1 else n) : ℤ)
            + (entries.countP MadtEntry.enabled : ℤ)
          = n + ((e :: entries).countP MadtEntry.enabled : ℤ) := by
        rw [List.countP_cons, if_congr (isEnabledLapic_of_bytes hentry) rfl rfl]
        split_ifs <;> push_cast <;> ring
      -- one round: the length byte takes `ptr` to the next entry
      rw [List.length_cons, Nat.add_right_comm, madtWalk_succ _ n (by omega),
        madtEntryLength_of_bytes hentry, ih hrest (by omega), hcount, Nat.add_assoc]

/-- A walk that goes on past the entries reads the byte after them. -/
theorem mem_madtReads_of_ok (h : BytesFrom m ptr (entries.flatMap MadtEntry.bytes))
    (hstop : ptr + (entries.flatMap MadtEntry.bytes).length < stop) {n' : ℤ}
    (hok : madtWalk m fuel ptr stop n = .ok n') :
    ptr + (entries.flatMap MadtEntry.bytes).length ∈ madtReads m fuel ptr stop := by
  induction entries generalizing ptr fuel n with
  | nil =>
      rw [List.flatMap_nil, List.length_nil, Nat.add_zero] at hstop ⊢
      rcases fuel with _ | fuel
      · rw [madtWalk, if_pos hstop] at hok
        cases hok
      · rw [madtReads, if_pos hstop]
        exact List.mem_cons_self
  | cons e entries ih =>
      rw [List.flatMap_cons] at h hstop ⊢
      rw [List.length_append] at hstop ⊢
      obtain ⟨hentry, hrest⟩ := h.append
      have hptr : ptr < stop := by omega
      rcases fuel with _ | fuel
      · rw [madtWalk, if_pos hptr] at hok
        cases hok
      · rw [madtWalk_succ fuel n hptr, madtEntryLength_of_bytes hentry] at hok
        have hmem := ih hrest (by omega) hok
        rw [madtReads, if_pos hptr, madtEntryLength_of_bytes hentry, ← Nat.add_assoc]
        apply List.mem_append_right
        exact List.mem_cons_of_mem _ hmem

end Entries

/-- Past the entries the walk has 44 bytes to go. -/
theorem walkMadt_eq {m : ℕ → Byte} {madt : BitVec 64} {entries : List MadtEntry}
    (h : MadtHas m madt entries) (fuel : ℕ) (numCores : ℤ) :
    walkMadt m (entries.length + fuel) madt numCores
      = madtWalk m fuel (madt.toNat + member m madt sdtLength)
          (madt.toNat + member m madt sdtLength + madtEntries)
          (numCores + entries.countP MadtEntry.enabled) := by
  have hlength := h.length_eq
  have hpos : madt.toNat + madtEntries + (entries.flatMap MadtEntry.bytes).length
      = madt.toNat + member m madt sdtLength := by omega
  rw [walkMadt, madtEnd, madtWalk_entries h.stored (by omega), hpos, Nat.add_right_comm]

/-- **The walk over a MADT reads past its end**, whatever its entries are and whatever
follows it. -/
theorem madt_walk_overruns (m : ℕ → Byte) (madt : BitVec 64) (entries : List MadtEntry)
    (h : MadtHas m madt entries) (numCores : ℤ) : ¬ CountsExactly m madt entries numCores := by
  rintro ⟨fuel, hwalk, hreads⟩
  have hlength := h.length_eq
  -- the byte after the entries is read, and it is at `madt + Length`
  have hlast := mem_madtReads_of_ok h.stored
    (by rw [madtEnd]; simp only [madtEntries] at hlength ⊢; omega) hwalk
  have hbound := hreads _ hlast
  omega

/-! ## A phantom processor -/

/-- The bytes of one more enabled local APIC, 44 bytes long, from `a` on. -/
def withPhantom (m : ℕ → Byte) (a i : ℕ) : Byte :=
  if i < a then m i else if i = a + 1 then 44 else if i = a + 4 then 1 else 0

/-- The walk counts it. -/
theorem madtWalk_withPhantom (m : ℕ → Byte) (a : ℕ) (n : ℤ) :
    madtWalk (withPhantom m a) 1 a (a + madtEntries) n = .ok (n + 1) := by
  have hlength : madtEntryLength (withPhantom m a) a = 44 := by
    rw [madtEntryLength, withPhantom, if_neg (by omega), if_pos rfl]
    rfl
  have henabled : IsEnabledLapic (withPhantom m a) a := by
    refine ⟨by simp [withPhantom], ?_⟩
    have hflags : leWord (withPhantom m a) (a + 4) 4
        = leWord (fun i => if i = 0 then 1 else 0) 0 4 := by
      apply leWord_congr
      intro i hi
      rw [withPhantom, if_neg (by omega), if_neg (by omega)]
      apply if_congr _ rfl rfl
      omega
    rw [hflags]
    decide
  rw [madtWalk_succ 0 _ (by simp only [madtEntries]; omega), hlength, if_pos henabled,
    madtWalk_done 0 _ (by simp only [madtEntries]; omega)]

/-- **After any MADT there can be bytes that count as a processor.** -/
theorem madt_phantom_processor {m : ℕ → Byte} {madt : BitVec 64} {entries : List MadtEntry}
    (h : MadtHas m madt entries) (numCores : ℤ) :
    let m' := withPhantom m (madt.toNat + member m madt sdtLength)
    MadtHas m' madt entries ∧ walkMadt m' (entries.length + 1) madt numCores
      = .ok (numCores + entries.countP MadtEntry.enabled + 1) := by
  intro m'
  have hsame : ∀ a < madt.toNat + member m madt sdtLength, m' a = m a := fun a ha => if_pos ha
  have hsize := h.length_eq
  simp only [madtEntries] at hsize
  have hlength : member m' madt sdtLength = member m madt sdtLength := by
    have hmember : sdtLength.offset = 4 ∧ sdtLength.size = 4 := ⟨rfl, rfl⟩
    apply leWord_congr
    intro i hi
    apply hsame
    omega
  have hhas : MadtHas m' madt entries := by
    constructor
    · rw [hlength, h.length_eq]
    · intro i hi
      rw [hsame _ (by simp only [madtEntries]; omega)]
      exact h.stored i hi
  refine ⟨hhas, ?_⟩
  rw [walkMadt_eq hhas, hlength]
  apply madtWalk_withPhantom

/-- One enabled local APIC. -/
def lapicEntry : MadtEntry where
  type := 0
  body := [0, 0, 1, 0, 0, 0]
  length_lt := by decide
  lapic_length := by decide

/-- A MADT at `0x7000` with one enabled local APIC, and bytes after it that look like
another. -/
def phantomMadt : ℕ → Byte :=
  image [(0x7000, sdt "APIC" ([0, 0, 0, 0, 1, 0, 0, 0] ++ lapicEntry.bytes)),
    (0x7034, [0, 44, 0, 0, 1])]

theorem phantomMadt_has : MadtHas phantomMadt 0x7000 [lapicEntry] := by
  constructor
  · decide +kernel
  · unfold BytesFrom
    decide +kernel

/-- One local APIC is walked past its end. -/
theorem madt_walk_overruns_phantom :
    MadtHas phantomMadt 0x7000 [lapicEntry] ∧ ¬ CountsExactly phantomMadt 0x7000 [lapicEntry] 0 :=
  ⟨phantomMadt_has, madt_walk_overruns phantomMadt 0x7000 [lapicEntry] phantomMadt_has 0⟩

/-- One local APIC is counted as two. -/
theorem madt_counts_phantom :
    [lapicEntry].countP MadtEntry.enabled = 1 ∧ walkMadt phantomMadt 2 0x7000 0 = .ok 2 ∧
      ¬ ∀ m madt entries, MadtHas m madt entries → ∀ numCores,
        CountsExactly m madt entries numCores := by
  have hcount : [lapicEntry].countP MadtEntry.enabled = 1 := by decide +kernel
  have hwalk : walkMadt phantomMadt 2 0x7000 0 = .ok 2 := by decide +kernel
  refine ⟨hcount, hwalk, ?_⟩
  intro h
  obtain ⟨fuel, hexact, -⟩ := h phantomMadt 0x7000 [lapicEntry] phantomMadt_has 0
  have htwo := madtWalk_more_fuel hwalk fuel
  have hone := madtWalk_more_fuel hexact 2
  rw [Nat.add_comm fuel 2, htwo, hcount] at hone
  exact absurd (Except.ok.inj hone) (by decide)

/-! ## Termination -/

/-- **The walk over a MADT ends exactly when it reaches no entry of length 0.**  Positions
are natural numbers: the table and the 44 bytes after it do not wrap around 2^64. -/
theorem madt_walk_terminates_iff (m : ℕ → Byte) (madt : BitVec 64) (numCores : ℤ) :
    (∃ fuel n, walkMadt m fuel madt numCores = .ok n)
      ↔ ∀ k, madtPos m (madt.toNat + madtEntries) k < madtEnd m madt →
          m (madtPos m (madt.toNat + madtEntries) k + 1) ≠ 0 := by
  have hbyte : ∀ a, madtEntryLength m a ≠ 0 ↔ m (a + 1) ≠ 0 := by
    intro a
    rw [madtEntryLength, Ne, Ne, ← BitVec.toNat_inj]
    rfl
  unfold walkMadt
  rw [madtWalk_returns_iff, MadtEnds]
  apply forall_congr'
  intro k
  rw [hbyte]

/-- Firmware whose checksum-valid MADT has an entry of length 0. -/
def stuckFirmware : ℕ → Byte :=
  image [(0x3008, [-0x40]), (0x3011, [0x40]), (0x4000, sdt "RSDT" [0x00, 0x70, 0, 0]),
    (0x7000, sdt "APIC" [0, 0, 0, 0, 1, 0, 0, 0, 1, 0])]

/-- `find_acpi_table` returns that MADT, and the walk stays at its first entry. -/
theorem madt_walk_stuck :
    findAcpiTable stuckFirmware 0x3000 (chars "APIC") = .ok 0x7000 ∧
      ¬ ∃ fuel n, walkMadt stuckFirmware fuel 0x7000 0 = .ok n := by
  refine ⟨by decide +kernel, ?_⟩
  intro h
  have hends : MadtEnds stuckFirmware _ _ := (madtWalk_returns_iff 0).mp h
  have hlt : (0x7000 : BitVec 64).toNat + madtEntries < madtEnd stuckFirmware 0x7000 := by
    decide +kernel
  have hzero : madtEntryLength stuckFirmware ((0x7000 : BitVec 64).toNat + madtEntries) = 0 := by
    decide +kernel
  exact hends 0 hlt hzero

end GridX64
