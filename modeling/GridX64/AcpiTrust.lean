/-
# Which bytes the ACPI checksums cover

A lookup sums as many bytes of a table as the table's own `Length` says.  A table
whose `Length` stops before the members that are read later passes on few bytes, and
one whose `Length` is zero on none.  `trusted_iff` says exactly when no such table is
returned: when every one that passes comes after the entry where the lookup stops.

A root table cannot be too short (`FindsTable.root_length`): without room for its
header it has no entries to find anything through.
-/
import GridX64.AcpiLookup

namespace GridX64

/-! ## What the checksums have to cover -/

/-- The checksum of a revision 2 RSDP covers `Length`, `RsdtAddress` and
`XsdtAddress`. -/
def RsdpCovered (m : ℕ → Byte) (rsdp : BitVec 64) : Prop :=
  member m rsdp rsdpRevision ≥ 2 → 36 ≤ member m rsdp rsdpLength

instance (m : ℕ → Byte) (rsdp : BitVec 64) : Decidable (RsdpCovered m rsdp) :=
  inferInstanceAs (Decidable (_ → _))

/-- The members that `acpi_init` reads of a table end at this offset. -/
def neededLength (signature : List Byte) : ℕ :=
  if signature = chars "FACP" then 111 else if signature = chars "APIC" then 44 else 36

/-- The `Length` bytes of a table sum to zero. -/
def SumsToZero (m : ℕ → Byte) (table : BitVec 64) : Prop :=
  byteSum m table (member m table sdtLength) = 0

/-- The checksums of a table and of its root hold, and cover the members that are
read of them. -/
def TableCovered (m : ℕ → Byte) (signature : List Byte) (root table : BitVec 64) : Prop :=
  (36 ≤ member m root sdtLength ∧ SumsToZero m root) ∧
    (36 ≤ member m table sdtLength ∧ SumsToZero m table) ∧
    (signature = chars "FACP" → 111 ≤ member m table sdtLength) ∧
    (signature = chars "APIC" → 44 ≤ member m table sdtLength)

section Covered

variable {m : ℕ → Byte} {signature : List Byte}

/-- The three bounds on `Length` are one. -/
theorem neededLength_le_iff {n : ℕ} :
    neededLength signature ≤ n
      ↔ 36 ≤ n ∧ (signature = chars "FACP" → 111 ≤ n) ∧ (signature = chars "APIC" → 44 ≤ n) := by
  have hne : chars "FACP" ≠ chars "APIC" := by decide
  unfold neededLength
  split_ifs with hfacp hapic
  · constructor
    · intro h
      exact ⟨by omega, fun _ => h, fun hapic => absurd (hfacp.symm.trans hapic) hne⟩
    · intro h
      exact h.2.1 hfacp
  · constructor
    · intro h
      exact ⟨by omega, fun hfacp' => absurd hfacp' hfacp, fun _ => h⟩
    · intro h
      exact h.2.2 hapic
  · constructor
    · intro h
      exact ⟨h, fun hfacp' => absurd hfacp' hfacp, fun hapic' => absurd hapic' hapic⟩
    · intro h
      exact h.1

/-- Of a table that a lookup finds, only the `Length` can be too small. -/
theorem FindsTable.covered_iff {root table : BitVec 64} {w : ℕ}
    (h : FindsTable m root w signature table) (hw : w = 4 ∨ w = 8) :
    TableCovered m signature root table ↔ neededLength signature ≤ member m table sdtLength := by
  have hroot : 36 ≤ member m root sdtLength ∧ SumsToZero m root := ⟨h.root_length hw, h.1⟩
  have htable : SumsToZero m table := by
    obtain ⟨-, i, -, ⟨haccept, rfl⟩, -⟩ := h
    exact haccept.2.2
  rw [neededLength_le_iff]
  unfold TableCovered
  constructor
  · rintro ⟨-, ⟨hlength, -⟩, hfixed⟩
    exact ⟨hlength, hfixed⟩
  · rintro ⟨hlength, hfixed⟩
    exact ⟨hroot, ⟨hlength, htable⟩, hfixed⟩

end Covered

/-! ## When the lookups stop before a short table -/

/-- Every RSDP of revision 2 that passes on fewer than 36 bytes comes after an entry
at which `find_rsdp` stops. -/
def ShortRsdpsHidden (m : ℕ → Byte) (systemTable : BitVec 64) : Prop :=
  systemTable ≠ 0 → ∀ i < member m systemTable numberOfTableEntries,
    AcceptsRsdp m systemTable i → ¬ RsdpCovered m (entryRsdp m systemTable i) →
      ∃ j < i, NullAtRsdp m systemTable j ∨ AcceptsRsdp m systemTable j

/-- Every table that passes on too few bytes comes after an entry at which
`find_acpi_table` stops. -/
def ShortTablesHidden (m : ℕ → Byte) (rsdp : BitVec 64) (signature : List Byte) : Prop :=
  rsdp ≠ 0 → ∀ root w, searchedRoot m rsdp = some (root, w) → SumsToZero m root →
    ∀ i < (entryCount (member m root sdtLength) w).toNat,
      AcceptsTable m root w signature i →
      ¬ neededLength signature ≤ member m (entryTable m root w i) sdtLength →
        ∃ j < i, entryTable m root w j = 0 ∨ AcceptsTable m root w signature j

section Trust

variable {m : ℕ → Byte} {systemTable rsdp : BitVec 64} {signature : List Byte}

theorem rsdp_covered_iff :
    (∀ r, findRsdp m systemTable = .ok r → r ≠ 0 → RsdpCovered m r)
      ↔ ShortRsdpsHidden m systemTable := by
  unfold ShortRsdpsHidden
  constructor
  · intro h hst
    apply forall_first_iff.mp
    intro r hfirst
    obtain ⟨hfind, hne⟩ := findRsdp_found_iff.mpr ⟨hst, hfirst⟩
    exact h r hfind hne
  · intro h r hfind hne
    obtain ⟨hst, hfirst⟩ := findRsdp_found_iff.mp ⟨hfind, hne⟩
    exact forall_first_iff.mpr (h hst) r hfirst

theorem table_covered_iff :
    (∀ t, findAcpiTable m rsdp signature = .ok t → t ≠ 0 →
        ∃ root w, searchedRoot m rsdp = some (root, w) ∧ TableCovered m signature root t)
      ↔ ShortTablesHidden m rsdp signature := by
  unfold ShortTablesHidden
  constructor
  · intro h hrsdp root w hroot hsum
    refine forall_first_iff (Q := fun t => neededLength signature ≤ member m t sdtLength) |>.mp ?_
    intro t hfirst
    have hfinds : FindsTable m root w signature t := ⟨hsum, hfirst⟩
    obtain ⟨hfind, hne⟩ := findAcpiTable_found_iff.mpr ⟨hrsdp, root, w, hroot, hfinds⟩
    obtain ⟨root', w', hroot', hcovered⟩ := h t hfind hne
    obtain ⟨rfl, rfl⟩ := Prod.mk.inj (Option.some.inj (hroot.symm.trans hroot'))
    exact (hfinds.covered_iff (searchedRoot_spec hroot).2).mp hcovered
  · intro h t hfind hne
    obtain ⟨hrsdp, root, w, hroot, hfinds⟩ := findAcpiTable_found_iff.mp ⟨hfind, hne⟩
    refine ⟨root, w, hroot, (hfinds.covered_iff (searchedRoot_spec hroot).2).mpr ?_⟩
    exact forall_first_iff (Q := fun t => neededLength signature ≤ member m t sdtLength) |>.mpr
      (h hrsdp root w hroot hfinds.1) t hfinds.2

/-- **Only checksummed bytes are trusted exactly when no short table comes first.** -/
theorem trusted_iff (m : ℕ → Byte) (systemTable rsdp : BitVec 64) (signature : List Byte) :
    ((∀ r, findRsdp m systemTable = .ok r → r ≠ 0 → RsdpCovered m r) ∧
      (∀ t, findAcpiTable m rsdp signature = .ok t → t ≠ 0 →
        ∃ root w, searchedRoot m rsdp = some (root, w) ∧ TableCovered m signature root t))
      ↔ ShortRsdpsHidden m systemTable ∧ ShortTablesHidden m rsdp signature :=
  and_congr rsdp_covered_iff table_covered_iff

end Trust

/-- A system table at `0x1000` with one configuration entry, for an RSDP of revision
2 at `0x3000` whose `Length` is zero. -/
def emptyRsdp : ℕ → Byte :=
  image [(0x1068, [1]), (0x1070, [0x00, 0x20]), (0x2000, acpi20TableGuid ++ [0x00, 0x30]),
    (0x300F, [2])]

/-- The sum of no bytes is zero, and the RSDP is returned. -/
theorem emptyRsdp_not_covered :
    ¬ ∀ r, findRsdp emptyRsdp 0x1000 = .ok r → r ≠ 0 → RsdpCovered emptyRsdp r := by
  intro h
  have hfind : findRsdp emptyRsdp 0x1000 = .ok 0x3000 := by decide +kernel
  have hshort : ¬ RsdpCovered emptyRsdp 0x3000 := by decide +kernel
  exact hshort (h 0x3000 hfind (by decide))

end GridX64
