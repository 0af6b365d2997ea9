/-
# The configuration table's order and the ACPI generation

`find_rsdp` takes the first entry that passes, of either generation, so whether it
prefers an ACPI 2.0 entry is up to the order of the table.

* `Prefers20` — what it is for: an ACPI 2.0 entry wherever there is one, an ACPI 1.0
  entry otherwise, and NULL without either;
* `Acpi20First` — the tables whose order already puts things right;
* `prefers20_iff` — these are the tables on which it does what it is for;
* `Permuted.same_generation` — among them the order no longer matters.
-/
import GridX64.AcpiLookup
import Mathlib.Logic.Equiv.Defs

namespace GridX64

section Order

variable (m : ℕ → Byte) (systemTable : BitVec 64)

/-- Entry `i` of the configuration table has the GUID and leads to an RSDP with a valid
checksum. -/
def ValidEntry (guid : List Byte) (i : ℕ) : Prop :=
  memberPtr m systemTable configurationTable ≠ 0 ∧
    BytesAt m (memberPtr m systemTable configurationTable) (24 * i) guid 16 ∧
    entryRsdp m systemTable i ≠ 0 ∧
    byteSum m (entryRsdp m systemTable i) (rsdpCheckedLength m (entryRsdp m systemTable i)) = 0

/-- The number of entries; without a system table there are none. -/
def numberOfEntries : ℕ :=
  if systemTable = 0 then 0 else member m systemTable numberOfTableEntries

/-- Some entry with the GUID leads to an RSDP with a valid checksum. -/
def HasValidEntry (guid : List Byte) : Prop :=
  ∃ i < numberOfEntries m systemTable, ValidEntry m systemTable guid i

/-- `find_rsdp` returns the RSDP of such an entry. -/
def ReturnsValidEntry (guid : List Byte) : Prop :=
  ∃ i < numberOfEntries m systemTable, ValidEntry m systemTable guid i ∧
    findRsdp m systemTable = .ok (entryRsdp m systemTable i)

/-- What `find_rsdp` is for. -/
structure Prefers20 : Prop where
  acpi20 : HasValidEntry m systemTable acpi20TableGuid →
    ReturnsValidEntry m systemTable acpi20TableGuid
  acpi10 : ¬ HasValidEntry m systemTable acpi20TableGuid →
    HasValidEntry m systemTable acpiTableGuid → ReturnsValidEntry m systemTable acpiTableGuid
  neither : ¬ HasValidEntry m systemTable acpi20TableGuid →
    ¬ HasValidEntry m systemTable acpiTableGuid → findRsdp m systemTable = .ok 0

/-- Entry `i` leads to the RSDP of a valid ACPI 2.0 entry. -/
def LeadsTo20 (i : ℕ) : Prop :=
  ∃ k < numberOfEntries m systemTable, ValidEntry m systemTable acpi20TableGuid k ∧
    entryRsdp m systemTable k = entryRsdp m systemTable i

/-- The order of the table puts an accepted entry before every null pointer, and one
that leads to an ACPI 2.0 RSDP, if there is any, before the others. -/
structure Acpi20First : Prop where
  null_after : ∀ j < numberOfEntries m systemTable, NullAtRsdp m systemTable j →
    ∃ i < j, AcceptsRsdp m systemTable i
  acpi10_after : HasValidEntry m systemTable acpi20TableGuid →
    ∀ j < numberOfEntries m systemTable, ValidEntry m systemTable acpiTableGuid j →
      ¬ LeadsTo20 m systemTable j → ∃ i < j, AcceptsRsdp m systemTable i

variable {m systemTable}

/-- `find_rsdp` accepts the valid entries of both generations. -/
theorem acceptsRsdp_iff (i : ℕ) : AcceptsRsdp m systemTable i
    ↔ ValidEntry m systemTable acpi20TableGuid i ∨ ValidEntry m systemTable acpiTableGuid i := by
  constructor
  · rintro ⟨hct, hguid | hguid, hrest⟩
    · exact Or.inl ⟨hct, hguid, hrest⟩
    · exact Or.inr ⟨hct, hguid, hrest⟩
  · rintro (⟨hct, hguid, hrest⟩ | ⟨hct, hguid, hrest⟩)
    · exact ⟨hct, Or.inl hguid, hrest⟩
    · exact ⟨hct, Or.inr hguid, hrest⟩

/-- An accepted entry is not read through a null pointer. -/
theorem AcceptsRsdp.not_null {i : ℕ} (h : AcceptsRsdp m systemTable i) :
    ¬ NullAtRsdp m systemTable i := by
  rintro (hct | ⟨-, hrsdp⟩)
  · exact h.1 hct
  · exact h.2.2.1 hrsdp

/-- Whatever `find_rsdp` is for, it is to return something. -/
theorem Prefers20.returns (h : Prefers20 m systemTable) :
    ∃ rsdp, findRsdp m systemTable = .ok rsdp := by
  by_cases h20 : HasValidEntry m systemTable acpi20TableGuid
  · obtain ⟨i, -, -, hfind⟩ := h.acpi20 h20
    exact ⟨_, hfind⟩
  by_cases h10 : HasValidEntry m systemTable acpiTableGuid
  · obtain ⟨i, -, -, hfind⟩ := h.acpi10 h20 h10
    exact ⟨_, hfind⟩
  · exact ⟨0, h.neither h20 h10⟩

/-- How `find_rsdp` ends: at no entry, at a null pointer, or at an accepted entry. -/
theorem findRsdp_cases :
    (PassesBefore (NullAtRsdp m systemTable) (AcceptsRsdp m systemTable)
        (numberOfEntries m systemTable) ∧ findRsdp m systemTable = .ok 0) ∨
      (∃ i < numberOfEntries m systemTable, NullAtRsdp m systemTable i ∧
        PassesBefore (NullAtRsdp m systemTable) (AcceptsRsdp m systemTable) i ∧
        findRsdp m systemTable = .error .nullDeref) ∨
      ∃ i < numberOfEntries m systemTable, AcceptsRsdp m systemTable i ∧
        PassesBefore (NullAtRsdp m systemTable) (AcceptsRsdp m systemTable) i ∧
        findRsdp m systemTable = .ok (entryRsdp m systemTable i) := by
  by_cases hst : systemTable = 0
  · left
    rw [numberOfEntries, if_pos hst, findRsdp, if_pos hst]
    exact ⟨fun j hj => absurd hj (by omega), rfl⟩
  · rw [numberOfEntries, if_neg hst, findRsdp_of_ne hst]
    rcases (rsdpCandidate_rounds hst).firstMatch_cases with
      ⟨hpass, hfirst⟩ | ⟨i, hi, hnull, hpass, hfirst⟩ | ⟨i, hi, haccept, hpass, hfirst⟩
    · rw [hfirst]
      exact Or.inl ⟨hpass, rfl⟩
    · rw [hfirst]
      exact Or.inr (Or.inl ⟨i, hi, hnull, hpass, rfl⟩)
    · rw [hfirst]
      exact Or.inr (Or.inr ⟨i, hi, haccept, hpass, rfl⟩)

/-- Where no entry stops the search, the order does not matter. -/
theorem prefers20_of_no_stop (hpass : PassesBefore (NullAtRsdp m systemTable)
      (AcceptsRsdp m systemTable) (numberOfEntries m systemTable))
    (hfind : findRsdp m systemTable = .ok 0) :
    Prefers20 m systemTable ∧ Acpi20First m systemTable := by
  have hnone : ∀ i < numberOfEntries m systemTable,
      ¬ ValidEntry m systemTable acpi20TableGuid i ∧ ¬ ValidEntry m systemTable acpiTableGuid i := by
    intro i hi
    exact not_or.mp ((acceptsRsdp_iff i).not.mp (hpass i hi).2)
  constructor
  · constructor
    · rintro ⟨i, hi, hvalid⟩
      exact absurd hvalid (hnone i hi).1
    · rintro - ⟨i, hi, hvalid⟩
      exact absurd hvalid (hnone i hi).2
    · intro _ _
      exact hfind
  · constructor
    · intro j hj hnull
      exact absurd hnull (hpass j hj).1
    · rintro ⟨i, hi, hvalid⟩
      exact absurd hvalid (hnone i hi).1

/-- Where the first stop is an accepted entry, that entry decides. -/
theorem prefers20_iff_of_accepted {i : ℕ} (hi : i < numberOfEntries m systemTable)
    (haccept : AcceptsRsdp m systemTable i)
    (hpass : PassesBefore (NullAtRsdp m systemTable) (AcceptsRsdp m systemTable) i)
    (hfind : findRsdp m systemTable = .ok (entryRsdp m systemTable i)) :
    Prefers20 m systemTable ↔ Acpi20First m systemTable := by
  constructor
  · intro h
    constructor
    · intro j _ hnull
      refine ⟨i, lt_of_le_of_ne (hpass.le_of_stop (Or.inl hnull)) ?_, haccept⟩
      rintro rfl
      exact haccept.not_null hnull
    · intro h20 j _ hvalid hlead
      have hstop : AcceptsRsdp m systemTable j := (acceptsRsdp_iff j).mpr (Or.inr hvalid)
      refine ⟨i, lt_of_le_of_ne (hpass.le_of_stop (Or.inr hstop)) ?_, haccept⟩
      rintro rfl
      -- `find_rsdp` returned this entry, so it leads to the ACPI 2.0 RSDP after all
      obtain ⟨k, hk, hvalid20, hfind'⟩ := h.acpi20 h20
      exact hlead ⟨k, hk, hvalid20, (Except.ok.inj (hfind.symm.trans hfind')).symm⟩
  · intro h
    constructor
    · intro h20
      -- otherwise the entry returned is a valid ACPI 1.0 one, and not the first stop
      by_contra hnone
      have hlead : ¬ LeadsTo20 m systemTable i := by
        rintro ⟨k, hk, hvalid, hsame⟩
        rw [← hsame] at hfind
        exact hnone ⟨k, hk, hvalid, hfind⟩
      rcases (acceptsRsdp_iff i).mp haccept with hvalid | hvalid
      · exact hlead ⟨i, hi, hvalid, rfl⟩
      · obtain ⟨j, hj, hacc⟩ := h.acpi10_after h20 i hi hvalid hlead
        exact (hpass j hj).2 hacc
    · intro hno20 _
      rcases (acceptsRsdp_iff i).mp haccept with hvalid | hvalid
      · exact absurd ⟨i, hi, hvalid⟩ hno20
      · exact ⟨i, hi, hvalid, hfind⟩
    · intro hno20 hno10
      rcases (acceptsRsdp_iff i).mp haccept with hvalid | hvalid
      · exact absurd ⟨i, hi, hvalid⟩ hno20
      · exact absurd ⟨i, hi, hvalid⟩ hno10

theorem Prefers20.acpi20First (h : Prefers20 m systemTable) : Acpi20First m systemTable := by
  rcases @findRsdp_cases m systemTable with
    ⟨hpass, hfind⟩ | ⟨i, hi, hnull, hpass, hfind⟩ | ⟨i, hi, haccept, hpass, hfind⟩
  · exact (prefers20_of_no_stop hpass hfind).2
  · obtain ⟨rsdp, hreturns⟩ := h.returns
    rw [hfind] at hreturns
    cases hreturns
  · exact (prefers20_iff_of_accepted hi haccept hpass hfind).mp h

theorem Acpi20First.prefers20 (h : Acpi20First m systemTable) : Prefers20 m systemTable := by
  rcases @findRsdp_cases m systemTable with
    ⟨hpass, hfind⟩ | ⟨i, hi, hnull, hpass, hfind⟩ | ⟨i, hi, haccept, hpass, hfind⟩
  · exact (prefers20_of_no_stop hpass hfind).1
  · obtain ⟨j, hj, hacc⟩ := h.null_after i hi hnull
    exact absurd hacc (hpass j hj).2
  · exact (prefers20_iff_of_accepted hi haccept hpass hfind).mpr h

/-- **`find_rsdp` prefers ACPI 2.0 exactly when the table's order does.** -/
theorem prefers20_iff (m : ℕ → Byte) (systemTable : BitVec 64) :
    Prefers20 m systemTable ↔ Acpi20First m systemTable :=
  ⟨Prefers20.acpi20First, Acpi20First.prefers20⟩

end Order

/-! ## Two orders of one table -/

section Permuted

variable {m m' : ℕ → Byte} {systemTable : BitVec 64}
  {σ : Equiv.Perm (Fin (numberOfEntries m systemTable))}

/-- The table in `m'` has the entries of the one in `m` in another order: the same GUIDs with
the same pointers, and RSDPs behind them whose bytes add up to the same. -/
structure Permuted (m m' : ℕ → Byte) (systemTable : BitVec 64)
    (σ : Equiv.Perm (Fin (numberOfEntries m systemTable))) : Prop where
  count : numberOfEntries m' systemTable = numberOfEntries m systemTable
  table : memberPtr m' systemTable configurationTable ≠ 0
    ↔ memberPtr m systemTable configurationTable ≠ 0
  guid : ∀ i bytes, BytesAt m' (memberPtr m' systemTable configurationTable) (24 * σ i) bytes 16
    ↔ BytesAt m (memberPtr m systemTable configurationTable) (24 * i) bytes 16
  rsdp : ∀ i, entryRsdp m' systemTable (σ i) = entryRsdp m systemTable i
  sum : ∀ i : Fin (numberOfEntries m systemTable),
    byteSum m' (entryRsdp m systemTable i) (rsdpCheckedLength m' (entryRsdp m systemTable i))
      = byteSum m (entryRsdp m systemTable i) (rsdpCheckedLength m (entryRsdp m systemTable i))

theorem Permuted.validEntry_iff (h : Permuted m m' systemTable σ) (guid : List Byte)
    (i : Fin (numberOfEntries m systemTable)) :
    ValidEntry m' systemTable guid (σ i) ↔ ValidEntry m systemTable guid i := by
  rw [ValidEntry, ValidEntry, h.table, h.guid, h.rsdp, h.sum]

/-- The order does not matter to whether there is a valid entry. -/
theorem Permuted.hasValidEntry_iff (h : Permuted m m' systemTable σ) (guid : List Byte) :
    HasValidEntry m' systemTable guid ↔ HasValidEntry m systemTable guid := by
  constructor
  · rintro ⟨j, hj, hvalid⟩
    rw [h.count] at hj
    refine ⟨σ.symm ⟨j, hj⟩, Fin.isLt _, (h.validEntry_iff guid _).mp ?_⟩
    rwa [Equiv.apply_symm_apply]
  · rintro ⟨i, hi, hvalid⟩
    have hlt : σ ⟨i, hi⟩ < numberOfEntries m' systemTable :=
      lt_of_lt_of_eq (σ ⟨i, hi⟩).isLt h.count.symm
    exact ⟨σ ⟨i, hi⟩, hlt, (h.validEntry_iff guid ⟨i, hi⟩).mpr hvalid⟩

/-- **Two good orders of one table select the same generation.** -/
theorem Permuted.same_generation (h : Permuted m m' systemTable σ)
    (hfirst : Acpi20First m systemTable) (hfirst' : Acpi20First m' systemTable) :
    (ReturnsValidEntry m systemTable acpi20TableGuid ∧
        ReturnsValidEntry m' systemTable acpi20TableGuid) ∨
      ((¬ HasValidEntry m systemTable acpi20TableGuid ∧
          ¬ HasValidEntry m' systemTable acpi20TableGuid) ∧
        ReturnsValidEntry m systemTable acpiTableGuid ∧
          ReturnsValidEntry m' systemTable acpiTableGuid) ∨
      (findRsdp m systemTable = .ok 0 ∧ findRsdp m' systemTable = .ok 0) := by
  have hm := hfirst.prefers20
  have hm' := hfirst'.prefers20
  have h20' := h.hasValidEntry_iff acpi20TableGuid
  have h10' := h.hasValidEntry_iff acpiTableGuid
  by_cases h20 : HasValidEntry m systemTable acpi20TableGuid
  · exact Or.inl ⟨hm.acpi20 h20, hm'.acpi20 (h20'.mpr h20)⟩
  by_cases h10 : HasValidEntry m systemTable acpiTableGuid
  · exact Or.inr (Or.inl ⟨⟨h20, h20'.not.mpr h20⟩, hm.acpi10 h20 h10,
      hm'.acpi10 (h20'.not.mpr h20) (h10'.mpr h10)⟩)
  · exact Or.inr (Or.inr ⟨hm.neither h20 h10, hm'.neither (h20'.not.mpr h20) (h10'.not.mpr h10)⟩)

end Permuted

/-- A system table at `0x1000` whose configuration entries have the given GUIDs and
lead to the given pages: at `0x3000` is an RSDP of revision 0, at `0x4000` one of
revision 2. -/
def bothGenerations (guid₀ : List Byte) (page₀ : Byte) (guid₁ : List Byte) (page₁ : Byte) :
    ℕ → Byte :=
  image [(0x1068, [2]), (0x1070, [0x00, 0x20]),
    (0x2000, guid₀ ++ [0x00, page₀]), (0x2018, guid₁ ++ [0x00, page₁]),
    (0x3000, [0x01]), (0x3008, [-0x01]),
    (0x4008, [-(2 + 36)]), (0x400F, [2]), (0x4014, [36])]

/-- With the ACPI 1.0 entry first the ACPI 2.0 one is passed over; the other order
selects it. -/
theorem acpi10_first_selected :
    ¬ Prefers20 (bothGenerations acpiTableGuid 0x30 acpi20TableGuid 0x40) 0x1000 ∧
      findRsdp (bothGenerations acpiTableGuid 0x30 acpi20TableGuid 0x40) 0x1000 = .ok 0x3000 ∧
      findRsdp (bothGenerations acpi20TableGuid 0x40 acpiTableGuid 0x30) 0x1000 = .ok 0x4000 := by
  have hfind : findRsdp (bothGenerations acpiTableGuid 0x30 acpi20TableGuid 0x40) 0x1000
      = .ok 0x3000 := by decide +kernel
  refine ⟨?_, hfind, by decide +kernel⟩
  generalize hm : bothGenerations acpiTableGuid 0x30 acpi20TableGuid 0x40 = m at hfind ⊢
  have hcount : numberOfEntries m 0x1000 = 2 := by
    subst hm
    decide +kernel
  have hvalid20 : ValidEntry m 0x1000 acpi20TableGuid 1 := by
    subst hm
    unfold ValidEntry
    decide +kernel
  have hguid : ¬ BytesAt m (memberPtr m 0x1000 configurationTable) (24 * 0) acpi20TableGuid 16 := by
    subst hm
    decide +kernel
  have hother : entryRsdp m 0x1000 1 ≠ 0x3000 := by
    subst hm
    decide +kernel
  intro h
  obtain ⟨i, hi, hvalid, hreturned⟩ := h.acpi20 ⟨1, by omega, hvalid20⟩
  have hpage := Except.ok.inj (hfind.symm.trans hreturned)
  rw [hcount] at hi
  interval_cases i
  · exact hguid hvalid.2.1
  · exact hother hpage.symm

end GridX64
