/-
# acpi_init

`acpi_init` looks up the RSDP, the FADT and the MADT, reads its facts from them, walks
the MADT, and lists the tables of a root.  It tests none of the three pointers, so it
gets past the lookups exactly when all three find something (`TablesFound`,
`tablesFound_of_ne_nullDeref`), and past the end when moreover every entry of the root
that it lists leads somewhere.

* `roots_agree_iff` — the root that is counted and listed is the root that was searched,
  except for an RSDP of revision 2 that carries only an RSDT;
* `degrades_iff` — no null pointer is read exactly when nothing is missing.
-/
import GridX64.AcpiTrust
import GridX64.MadtWalk

namespace GridX64

/-! ## The lookups -/

/-- The three lookups of `acpi_init` find something. -/
structure TablesFound (m : ℕ → Byte) (systemTable rsdp fadt madt : BitVec 64) : Prop where
  rsdp_eq : findRsdp m systemTable = .ok rsdp
  rsdp_ne : rsdp ≠ 0
  fadt_eq : findAcpiTable m rsdp (chars "FACP") = .ok fadt
  fadt_ne : fadt ≠ 0
  madt_eq : findAcpiTable m rsdp (chars "APIC") = .ok madt
  madt_ne : madt ≠ 0

/-- The walk of `acpi_init` over `madt` ends. -/
def MadtWalkEnds (m : ℕ → Byte) (madt : BitVec 64) : Prop :=
  MadtEnds m (madt.toNat + madtEntries) (madt.toNat + madtEntries + member m madt sdtLength)

/-- `acpi_info` before the walk over the MADT. -/
def detectedInfo (m : ℕ → Byte) (cpu : Cpu) (rsdp fadt madt : BitVec 64) (info : AcpiInfo) :
    AcpiInfo :=
  let xsdt := if member m rsdp rsdpRevision > 1 then memberPtr m rsdp rsdpXsdtAddress else 0
  let info :=
    { info with
      rsdp := rsdp, rsdt := memberPtr m rsdp rsdpRsdtAddress, xsdt := xsdt
      fadt := fadt, madt := madt }
  let info := fadtFacts (member m fadt fadtBootArchitectureFlags) (detectApic cpu info)
  { info with has8259 := info.has8259 || (member m madt madtFlags).testBit 0 }

section Detect

variable {m : ℕ → Byte} {fuel : ℕ} {cpu : Cpu} {systemTable rsdp fadt madt : BitVec 64}
  {info info' : AcpiInfo}

/-- `acpi_init` reads the address of the XSDT from revision 2 on. -/
theorem xsdt_eq (hrsdp : rsdp ≠ 0) :
    (if member m rsdp rsdpRevision > 1 then derefPtr m rsdp rsdpXsdtAddress else .ok 0)
      = .ok (if member m rsdp rsdpRevision > 1 then memberPtr m rsdp rsdpXsdtAddress else 0) := by
  rw [derefPtr_of_ne hrsdp]
  split_ifs <;> rfl

/-- `acpi_init` up to the MADT walk, when nothing is missing. -/
theorem TablesFound.acpiDetect_eq (h : TablesFound m systemTable rsdp fadt madt) :
    acpiDetect m fuel cpu systemTable info
      = (madtWalk m fuel (madt.toNat + madtEntries)
            (madt.toNat + madtEntries + member m madt sdtLength)
            (detectedInfo m cpu rsdp fadt madt info).numCores >>= fun numCores =>
          .ok { detectedInfo m cpu rsdp fadt madt info with numCores := numCores }) := by
  unfold acpiDetect
  rw [h.rsdp_eq, ok_bind, derefPtr_of_ne h.rsdp_ne, ok_bind, deref_of_ne h.rsdp_ne, ok_bind,
    xsdt_eq h.rsdp_ne, ok_bind, h.fadt_eq, ok_bind, h.madt_eq, ok_bind]
  simp only [deref_of_ne h.fadt_ne, deref_of_ne h.madt_ne, ok_bind]
  rfl

/-- **Past the lookups nothing is missing.** -/
theorem tablesFound_of_ne_nullDeref
    (h : acpiDetect m fuel cpu systemTable info ≠ .error .nullDeref) :
    ∃ rsdp fadt madt, TablesFound m systemTable rsdp fadt madt := by
  unfold acpiDetect at h
  obtain ⟨rsdp, hrsdp, h⟩ := ok_of_bind_ne_error (fun _ => findRsdp_error) h
  have hrsdp_ne : rsdp ≠ 0 := by
    rintro rfl
    exact h rfl
  rw [derefPtr_of_ne hrsdp_ne, ok_bind, deref_of_ne hrsdp_ne, ok_bind, xsdt_eq hrsdp_ne, ok_bind] at h
  obtain ⟨fadt, hfadt, h⟩ := ok_of_bind_ne_error (fun _ => findAcpiTable_error) h
  obtain ⟨madt, hmadt, h⟩ := ok_of_bind_ne_error (fun _ => findAcpiTable_error) h
  obtain ⟨hfadt_ne, h⟩ := ne_zero_of_deref_ne_nullDeref h
  obtain ⟨hmadt_ne, -⟩ := ne_zero_of_deref_ne_nullDeref h
  exact ⟨rsdp, fadt, madt, hrsdp, hrsdp_ne, hfadt, hfadt_ne, hmadt, hmadt_ne⟩

/-- `acpi_init` gets past the MADT walk exactly when the walk ends. -/
theorem TablesFound.detects_iff (h : TablesFound m systemTable rsdp fadt madt) (cpu : Cpu)
    (info : AcpiInfo) :
    (∃ fuel info', acpiDetect m fuel cpu systemTable info = .ok info') ↔ MadtWalkEnds m madt := by
  unfold MadtWalkEnds
  rw [← madtWalk_returns_iff (detectedInfo m cpu rsdp fadt madt info).numCores]
  constructor
  · rintro ⟨fuel, info', hdetect⟩
    rw [h.acpiDetect_eq, bind_eq_ok_iff] at hdetect
    obtain ⟨n, hwalk, -⟩ := hdetect
    exact ⟨fuel, n, hwalk⟩
  · rintro ⟨fuel, n, hwalk⟩
    exact ⟨fuel, _, by rw [h.acpiDetect_eq, hwalk, ok_bind]⟩

end Detect

/-! ## The root that is listed -/

/-- The root that `acpi_init` lists, in terms of the RSDP. -/
def listedRoot (m : ℕ → Byte) (rsdp : BitVec 64) : BitVec 64 × ℕ :=
  if member m rsdp rsdpRevision ≤ 1 then (memberPtr m rsdp rsdpRsdtAddress, 4)
  else (memberPtr m rsdp rsdpXsdtAddress, 8)

section Root

variable {m : ℕ → Byte} {fuel : ℕ} {cpu : Cpu} {systemTable rsdp fadt madt : BitVec 64}
  {info info' : AcpiInfo}

theorem enumeratedRoot_detectApic (info : AcpiInfo) :
    enumeratedRoot m (detectApic cpu info) = enumeratedRoot m info := by
  unfold detectApic
  cases cpu.cpuid1 with
  | none => rfl
  | some edx =>
      dsimp only
      split_ifs <;> rfl

/-- The pointers that `acpi_init` stores lead to `listedRoot`. -/
theorem TablesFound.enumeratedRoot_eq (h : TablesFound m systemTable rsdp fadt madt)
    (hdetect : acpiDetect m fuel cpu systemTable info = .ok info') :
    enumeratedRoot m info' = listedRoot m rsdp := by
  rw [h.acpiDetect_eq, bind_eq_ok_iff] at hdetect
  obtain ⟨n, -, hinfo⟩ := hdetect
  obtain rfl := Except.ok.inj hinfo
  have hroot : enumeratedRoot m { detectedInfo m cpu rsdp fadt madt info with numCores := n }
      = enumeratedRoot m (detectApic cpu
          { info with
            rsdp := rsdp, rsdt := memberPtr m rsdp rsdpRsdtAddress
            xsdt := if member m rsdp rsdpRevision > 1 then memberPtr m rsdp rsdpXsdtAddress else 0
            fadt := fadt, madt := madt }) := rfl
  rw [hroot, enumeratedRoot_detectApic]
  unfold enumeratedRoot listedRoot
  dsimp only
  by_cases hrev : member m rsdp rsdpRevision ≤ 1
  · rw [if_pos hrev, if_pos hrev]
  · rw [if_neg hrev, if_neg hrev, if_pos (by omega)]

/-- The choices of a root differ for an RSDP of revision 2 without an XSDT. -/
theorem searchedRoot_eq_listedRoot_iff (hsome : searchedRoot m rsdp ≠ none) :
    searchedRoot m rsdp = some (listedRoot m rsdp)
      ↔ member m rsdp rsdpRevision ≤ 1 ∨ member m rsdp rsdpXsdtAddress ≠ 0 := by
  unfold searchedRoot at hsome ⊢
  unfold listedRoot
  by_cases hrev : member m rsdp rsdpRevision ≤ 1
  · have hold : ¬ (member m rsdp rsdpRevision ≥ 2 ∧ member m rsdp rsdpXsdtAddress ≠ 0) :=
      fun h => absurd h.1 (by omega)
    rw [if_neg hold] at hsome ⊢
    have hrsdt : member m rsdp rsdpRsdtAddress ≠ 0 := fun h => hsome (if_neg (not_not.mpr h))
    rw [if_pos hrsdt, if_pos hrev]
    exact ⟨fun _ => Or.inl hrev, fun _ => rfl⟩
  · by_cases hxsdt : member m rsdp rsdpXsdtAddress ≠ 0
    · rw [if_pos ⟨by omega, hxsdt⟩, if_neg hrev]
      exact ⟨fun _ => Or.inr hxsdt, fun _ => rfl⟩
    · rw [if_neg (fun h => hxsdt h.2)] at hsome ⊢
      have hrsdt : member m rsdp rsdpRsdtAddress ≠ 0 := fun h => hsome (if_neg (not_not.mpr h))
      rw [if_pos hrsdt, if_neg hrev]
      constructor
      · intro heq
        -- an RSDT has entries of 4 bytes, where 8 bytes are listed
        have hw : (4 : ℕ) = 8 := congrArg Prod.snd (Option.some.inj heq)
        omega
      · rintro (h | h)
        · exact absurd h hrev
        · exact absurd h hxsdt

/-- A table was found, so some root was searched. -/
theorem TablesFound.searchedRoot_ne_none (h : TablesFound m systemTable rsdp fadt madt) :
    searchedRoot m rsdp ≠ none := by
  obtain ⟨-, root, w, hroot, -⟩ := findAcpiTable_found_iff.mp ⟨h.fadt_eq, h.fadt_ne⟩
  rw [hroot]
  exact Option.some_ne_none _

/-- Where the choices agree, the root that is listed is the one that was searched. -/
theorem TablesFound.enumeratedRoot_of_searched (h : TablesFound m systemTable rsdp fadt madt)
    {root : BitVec 64} {w : ℕ} (hroot : searchedRoot m rsdp = some (root, w))
    (hxsdt : member m rsdp rsdpRevision ≤ 1 ∨ member m rsdp rsdpXsdtAddress ≠ 0)
    (hdetect : acpiDetect m fuel cpu systemTable info = .ok info') :
    enumeratedRoot m info' = (root, w) := by
  have hsame : searchedRoot m rsdp = some (listedRoot m rsdp) :=
    (searchedRoot_eq_listedRoot_iff h.searchedRoot_ne_none).mpr hxsdt
  rw [h.enumeratedRoot_eq hdetect]
  exact Option.some.inj (hsame.symm.trans hroot)

end Root

/-! ## The list of tables -/

section List

variable {m : ℕ → Byte} {info : AcpiInfo} {root : BitVec 64} {w : ℕ}

/-- The line printed for a table. -/
def listedTable (m : ℕ → Byte) (table : BitVec 64) : ListedTable :=
  { signature := (List.range 4).map (fun k => m (table.toNat + k))
    start := table
    stop := table + BitVec.ofNat 64 (member m table sdtLength) }

theorem listTable_of_ne (hroot : root ≠ 0) {i : ℕ} (hentry : entryTable m root w i ≠ 0) :
    listTable m root w i = .ok (listedTable m (entryTable m root w i)) := by
  unfold entryTable at hentry ⊢
  unfold listTable
  rw [derefPtr_of_ne hroot, ok_bind, deref_of_ne hentry]
  rfl

theorem listTable_null (hroot : root ≠ 0) {i : ℕ} (hentry : entryTable m root w i = 0) :
    listTable m root w i = .error .nullDeref := by
  unfold entryTable at hentry
  unfold listTable
  rw [derefPtr_of_ne hroot, ok_bind, hentry]
  rfl

theorem acpiEnumerate_eq (hroot : enumeratedRoot m info = (root, w)) :
    acpiEnumerate m info = (deref m root sdtLength >>= fun length =>
      collect (entryCount length w).toNat (listTable m root w) >>= fun listed =>
        .ok ({ info with numEntries := entryCount length w }, listed)) := by
  unfold acpiEnumerate
  rw [hroot]
  rfl

/-- **The end of `acpi_init`**: the entries of the root are counted, and listed in order. -/
theorem acpiEnumerate_ok (hroot : enumeratedRoot m info = (root, w)) (hne : root ≠ 0)
    (hentries : ∀ i < (entryCount (member m root sdtLength) w).toNat, entryTable m root w i ≠ 0) :
    acpiEnumerate m info
      = .ok ({ info with numEntries := entryCount (member m root sdtLength) w },
          (List.range (entryCount (member m root sdtLength) w).toNat).map
            (fun i => listedTable m (entryTable m root w i))) := by
  rw [acpiEnumerate_eq hroot, deref_of_ne hne, ok_bind,
    collect_eq_ok (fun i hi => listTable_of_ne hne (hentries i hi)), ok_bind]

/-- The list is printed exactly when the root and its entries lead somewhere. -/
theorem acpiEnumerate_ne_nullDeref_iff (hroot : enumeratedRoot m info = (root, w)) :
    acpiEnumerate m info ≠ .error .nullDeref
      ↔ root ≠ 0 ∧
        ∀ i < (entryCount (member m root sdtLength) w).toNat, entryTable m root w i ≠ 0 := by
  constructor
  · intro h
    rw [acpiEnumerate_eq hroot] at h
    obtain ⟨hne, h⟩ := ne_zero_of_deref_ne_nullDeref h
    refine ⟨hne, fun i hi hnull => h ?_⟩
    have hrounds : ∀ j < (entryCount (member m root sdtLength) w).toNat,
        listTable m root w j = .error .nullDeref ∨ ∃ a, listTable m root w j = .ok a := by
      intro j hj
      by_cases hentry : entryTable m root w j = 0
      · exact Or.inl (listTable_null hne hentry)
      · exact Or.inr ⟨_, listTable_of_ne hne hentry⟩
    rw [collect_eq_error hrounds hi (listTable_null hne hnull)]
    rfl
  · rintro ⟨hne, hentries⟩
    rw [acpiEnumerate_ok hroot hne hentries]
    exact fun h => nomatch h

end List

/-! ## The root that is counted and listed -/

/-- From the facts `info` on, `acpi_init` goes to the table `root` with entries of `w`
bytes, which is not at zero: it returns with the number of its entries and their headers
in order, unless one of them is null, where it faults. -/
structure ListsRoot (m : ℕ → Byte) (fuel : ℕ) (cpu : Cpu) (systemTable : BitVec 64)
    (info : AcpiInfo) (root : BitVec 64) (w : ℕ) : Prop where
  root_eq : enumeratedRoot m info = (root, w)
  root_ne : root ≠ 0
  lists : (∀ i < (entryCount (member m root sdtLength) w).toNat, entryTable m root w i ≠ 0) →
    acpiInit m fuel cpu systemTable AcpiInfo.zero
      = .ok ({ info with numEntries := entryCount (member m root sdtLength) w },
          (List.range (entryCount (member m root sdtLength) w).toNat).map
            (fun i => listedTable m (entryTable m root w i)))
  faults : ∀ i < (entryCount (member m root sdtLength) w).toNat, entryTable m root w i = 0 →
    acpiInit m fuel cpu systemTable AcpiInfo.zero = .error .nullDeref

/-- Whenever `acpi_init` gets past the walk over the MADT, it counts and lists the root that
`find_acpi_table` searches. -/
def ListsSearchedRoot (m : ℕ → Byte) (systemTable rsdp : BitVec 64) : Prop :=
  ∀ fuel cpu info, acpiDetect m fuel cpu systemTable AcpiInfo.zero = .ok info →
    ∃ root w, searchedRoot m rsdp = some (root, w) ∧ ListsRoot m fuel cpu systemTable info root w

section Agree

variable {m : ℕ → Byte} {fuel : ℕ} {cpu : Cpu} {systemTable rsdp fadt madt root : BitVec 64}
  {w : ℕ} {info : AcpiInfo}

/-- Past the walk, `acpi_init` is its end. -/
theorem acpiInit_eq_enumerate {info₀ : AcpiInfo}
    (hdetect : acpiDetect m fuel cpu systemTable info₀ = .ok info) :
    acpiInit m fuel cpu systemTable info₀ = acpiEnumerate m info := by
  unfold acpiInit
  rw [hdetect, ok_bind]

theorem listsRoot_of_ne (hdetect : acpiDetect m fuel cpu systemTable AcpiInfo.zero = .ok info)
    (hroot : enumeratedRoot m info = (root, w)) (hne : root ≠ 0) :
    ListsRoot m fuel cpu systemTable info root w := by
  refine { root_eq := hroot, root_ne := hne, lists := ?_, faults := ?_ }
  · intro hentries
    rw [acpiInit_eq_enumerate hdetect, acpiEnumerate_ok hroot hne hentries]
  · intro i hi hnull
    rw [acpiInit_eq_enumerate hdetect]
    by_contra herr
    exact ((acpiEnumerate_ne_nullDeref_iff hroot).mp herr).2 i hi hnull

/-- **When `acpi_init` counts and lists the root that `find_acpi_table` searches.** -/
theorem roots_agree_iff (h : TablesFound m systemTable rsdp fadt madt) :
    ListsSearchedRoot m systemTable rsdp
      ↔ (MadtWalkEnds m madt →
          member m rsdp rsdpRevision ≤ 1 ∨ member m rsdp rsdpXsdtAddress ≠ 0) := by
  constructor
  · intro hlists hends
    obtain ⟨fuel, info, hdetect⟩ := (h.detects_iff ⟨none, 0⟩ AcpiInfo.zero).mpr hends
    obtain ⟨root, w, hroot, hlist⟩ := hlists fuel ⟨none, 0⟩ info hdetect
    rw [← searchedRoot_eq_listedRoot_iff h.searchedRoot_ne_none, hroot,
      ← h.enumeratedRoot_eq hdetect, hlist.root_eq]
  · intro hagree fuel cpu info hdetect
    have hxsdt := hagree ((h.detects_iff cpu AcpiInfo.zero).mp ⟨fuel, info, hdetect⟩)
    obtain ⟨⟨root, w⟩, hroot⟩ := Option.ne_none_iff_exists'.mp h.searchedRoot_ne_none
    have hsame := h.enumeratedRoot_of_searched hroot hxsdt hdetect
    exact ⟨root, w, hroot, listsRoot_of_ne hdetect hsame (searchedRoot_spec hroot).1⟩

end Agree

/-- A table with its `Length` and its `Checksum` filled in. -/
def sdt (signature : String) (body : List Byte) : List Byte :=
  let length : List Byte := [BitVec.ofNat 8 (sdtHeaderSize + body.length), 0, 0, 0]
  let sum := (chars signature ++ length ++ body).foldl (· + ·) 0
  chars signature ++ length ++ [0, -sum] ++ List.replicate 26 0 ++ body

/-- Firmware with an RSDP of revision 2 at `0x3000`, and with an RSDT at `0x4000` and an
XSDT at `0x5000` that list a FADT and a MADT with one enabled processor.  `xsdtPage` is
the second byte of `XsdtAddress`; after the MADT stands one more entry, for the walk
goes 44 bytes too far. -/
def firmware (xsdtPage : Byte) : ℕ → Byte :=
  image [(0x1068, [1]), (0x1070, [0x00, 0x20]),
    (0x2000, acpi20TableGuid ++ [0x00, 0x30]),
    (0x3008, [-(2 + 0x40 + 36 + xsdtPage)]), (0x300F, [2]), (0x3010, [0x00, 0x40]),
    (0x3014, [36]), (0x3018, [0x00, xsdtPage]),
    (0x4000, sdt "RSDT" [0x00, 0x60, 0, 0, 0x00, 0x70, 0, 0]),
    (0x5000, sdt "XSDT" [0x00, 0x60, 0, 0, 0, 0, 0, 0, 0x00, 0x70, 0, 0, 0, 0, 0, 0]),
    (0x6000, sdt "FACP" (List.replicate 80 0)),
    (0x7000, sdt "APIC" [0, 0, 0, 0, 1, 0, 0, 0, 0, 8, 0, 0, 1, 0, 0, 0]),
    (0x7034, [4, 44])]

theorem firmware_tablesFound (xsdtPage : Byte) (h : xsdtPage = 0x50 ∨ xsdtPage = 0) :
    TablesFound (firmware xsdtPage) 0x1000 0x3000 0x6000 0x7000 := by
  rcases h with rfl | rfl <;> constructor <;> decide +kernel

/-- With an `XsdtAddress` the XSDT is searched and listed. -/
theorem roots_agree_firmware :
    TablesFound (firmware 0x50) 0x1000 0x3000 0x6000 0x7000 ∧
      ListsSearchedRoot (firmware 0x50) 0x1000 0x3000 := by
  have hfound := firmware_tablesFound 0x50 (Or.inl rfl)
  have hxsdt : member (firmware 0x50) 0x3000 rsdpXsdtAddress ≠ 0 := by decide +kernel
  exact ⟨hfound, (roots_agree_iff hfound).mpr (fun _ => Or.inr hxsdt)⟩

/-- Without one the tables are found through the RSDT, which has no null entry, and
`acpi_init` goes on to count the entries of an XSDT at zero. -/
theorem roots_differ_firmware :
    TablesFound (firmware 0) 0x1000 0x3000 0x6000 0x7000 ∧
      searchedRoot (firmware 0) 0x3000 = some (0x4000, 4) ∧
      (∃ fuel, acpiInit (firmware 0) fuel ⟨none, 0⟩ 0x1000 AcpiInfo.zero = .error .nullDeref) ∧
      ¬ ListsSearchedRoot (firmware 0) 0x1000 0x3000 := by
  have hfound := firmware_tablesFound 0 (Or.inr rfl)
  have hends : MadtWalkEnds (firmware 0) 0x7000 :=
    (madtWalk_returns_iff 0).mp ⟨4, 1, by decide +kernel⟩
  obtain ⟨fuel, info, hdetect⟩ := (hfound.detects_iff ⟨none, 0⟩ AcpiInfo.zero).mpr hends
  have hlisted : listedRoot (firmware 0) 0x3000 = (0, 8) := by decide +kernel
  have hzero : enumeratedRoot (firmware 0) info = (0, 8) :=
    (hfound.enumeratedRoot_eq hdetect).trans hlisted
  have hfault : acpiInit (firmware 0) fuel ⟨none, 0⟩ 0x1000 AcpiInfo.zero = .error .nullDeref := by
    rw [acpiInit_eq_enumerate hdetect, acpiEnumerate_eq hzero]
    rfl
  have hroot : searchedRoot (firmware 0) 0x3000 = some (0x4000, 4) := by decide +kernel
  have hentries : ∀ i < (entryCount (member (firmware 0) 0x4000 sdtLength) 4).toNat,
      entryTable (firmware 0) 0x4000 4 i ≠ 0 := by decide +kernel
  refine ⟨hfound, hroot, ⟨fuel, hfault⟩, fun h => ?_⟩
  obtain ⟨root, w, hsearched, hlist⟩ := h fuel ⟨none, 0⟩ info hdetect
  obtain ⟨rfl, rfl⟩ := Prod.mk.inj (Option.some.inj (hroot.symm.trans hsearched))
  -- the RSDT would have been listed
  rw [hlist.lists hentries] at hfault
  cases hfault

/-! ## A missing table -/

/-- `acpi_init` returns on every processor, with facts that have `P`. -/
def Returns (m : ℕ → Byte) (systemTable : BitVec 64) (P : AcpiInfo → Prop) : Prop :=
  ∀ cpu, ∃ fuel info listed,
    acpiInit m fuel cpu systemTable AcpiInfo.zero = .ok (info, listed) ∧ P info

/-- No null pointer is read, and without one of the tables `acpi_init` returns with the
facts of that table at zero. -/
structure Degrades (m : ℕ → Byte) (systemTable : BitVec 64) : Prop where
  no_null : ∀ fuel cpu, acpiInit m fuel cpu systemTable AcpiInfo.zero ≠ .error .nullDeref
  no_root : ∀ rsdp, findRsdp m systemTable = .ok rsdp →
    rsdp = 0 ∨ searchedRoot m rsdp = none →
      Returns m systemTable (fun info =>
        info.hasI8042 = false ∧ info.hasVga = false ∧ info.has8259 = false ∧
          info.numCores = 0 ∧ info.numEntries = 0)
  no_fadt : ∀ rsdp, findRsdp m systemTable = .ok rsdp →
    findAcpiTable m rsdp (chars "FACP") = .ok 0 →
      Returns m systemTable (fun info => info.hasI8042 = false ∧ info.hasVga = false)
  no_madt : ∀ rsdp, findRsdp m systemTable = .ok rsdp →
    findAcpiTable m rsdp (chars "APIC") = .ok 0 →
      Returns m systemTable (fun info => info.has8259 = false ∧ info.numCores = 0)

/-- All three lookups find something, and if the walk over the MADT ends, then the root
that was searched is also the one that is listed, and it has no null entry. -/
def NothingMissing (m : ℕ → Byte) (systemTable : BitVec 64) : Prop :=
  ∃ rsdp fadt madt root w,
    FindsRsdp m systemTable rsdp ∧ searchedRoot m rsdp = some (root, w) ∧
      FindsTable m root w (chars "FACP") fadt ∧ FindsTable m root w (chars "APIC") madt ∧
        (MadtWalkEnds m madt →
          (member m rsdp rsdpRevision ≤ 1 ∨ member m rsdp rsdpXsdtAddress ≠ 0) ∧
            ∀ i < (entryCount (member m root sdtLength) w).toNat, entryTable m root w i ≠ 0)

section Missing

variable {m : ℕ → Byte} {systemTable rsdp fadt madt : BitVec 64}

/-- What the three lookups find, in terms of memory. -/
theorem tablesFound_iff :
    TablesFound m systemTable rsdp fadt madt
      ↔ ∃ root w, FindsRsdp m systemTable rsdp ∧ searchedRoot m rsdp = some (root, w) ∧
          FindsTable m root w (chars "FACP") fadt ∧ FindsTable m root w (chars "APIC") madt := by
  constructor
  · intro h
    obtain ⟨-, root, w, hroot, hfadt⟩ := findAcpiTable_found_iff.mp ⟨h.fadt_eq, h.fadt_ne⟩
    obtain ⟨-, root', w', hroot', hmadt⟩ := findAcpiTable_found_iff.mp ⟨h.madt_eq, h.madt_ne⟩
    obtain ⟨rfl, rfl⟩ := Prod.mk.inj (Option.some.inj (hroot.symm.trans hroot'))
    exact ⟨root, w, findRsdp_found_iff.mp ⟨h.rsdp_eq, h.rsdp_ne⟩, hroot, hfadt, hmadt⟩
  · rintro ⟨root, w, hrsdp, hroot, hfadt, hmadt⟩
    obtain ⟨hrsdp_eq, hrsdp_ne⟩ := findRsdp_found_iff.mpr hrsdp
    obtain ⟨hfadt_eq, hfadt_ne⟩ := findAcpiTable_found_iff.mpr ⟨hrsdp_ne, root, w, hroot, hfadt⟩
    obtain ⟨hmadt_eq, hmadt_ne⟩ := findAcpiTable_found_iff.mpr ⟨hrsdp_ne, root, w, hroot, hmadt⟩
    exact ⟨hrsdp_eq, hrsdp_ne, hfadt_eq, hfadt_ne, hmadt_eq, hmadt_ne⟩

/-- A listed root that leads somewhere was not read from a missing XSDT. -/
theorem xsdt_ne_of_listedRoot (hne : (listedRoot m rsdp).1 ≠ 0) :
    member m rsdp rsdpRevision ≤ 1 ∨ member m rsdp rsdpXsdtAddress ≠ 0 := by
  by_contra hxsdt
  rw [not_or, not_not] at hxsdt
  apply hne
  unfold listedRoot memberPtr
  rw [if_neg hxsdt.1, hxsdt.2]
  rfl

/-- **When `acpi_init` reads no null pointer.** -/
theorem acpiInit_ne_nullDeref_iff :
    (∀ fuel cpu, acpiInit m fuel cpu systemTable AcpiInfo.zero ≠ .error .nullDeref)
      ↔ NothingMissing m systemTable := by
  constructor
  · intro h
    have hdetect : acpiDetect m 0 ⟨none, 0⟩ systemTable AcpiInfo.zero ≠ .error .nullDeref := by
      intro herr
      apply h 0 ⟨none, 0⟩
      unfold acpiInit
      rw [herr]
      rfl
    obtain ⟨rsdp, fadt, madt, hfound⟩ := tablesFound_of_ne_nullDeref hdetect
    obtain ⟨root, w, hrsdp, hroot, hfadt, hmadt⟩ := tablesFound_iff.mp hfound
    refine ⟨rsdp, fadt, madt, root, w, hrsdp, hroot, hfadt, hmadt, fun hends => ?_⟩
    obtain ⟨fuel, info, hinfo⟩ := (hfound.detects_iff ⟨none, 0⟩ AcpiInfo.zero).mpr hends
    have hlist : acpiEnumerate m info ≠ .error .nullDeref := by
      rw [← acpiInit_eq_enumerate hinfo]
      exact h fuel ⟨none, 0⟩
    -- the root that is listed is not at zero, so it is the one that was searched
    have hxsdt : member m rsdp rsdpRevision ≤ 1 ∨ member m rsdp rsdpXsdtAddress ≠ 0 :=
      xsdt_ne_of_listedRoot
        ((acpiEnumerate_ne_nullDeref_iff (hfound.enumeratedRoot_eq hinfo)).mp hlist).1
    exact ⟨hxsdt, ((acpiEnumerate_ne_nullDeref_iff
      (hfound.enumeratedRoot_of_searched hroot hxsdt hinfo)).mp hlist).2⟩
  · rintro ⟨rsdp, fadt, madt, root, w, hrsdp, hroot, hfadt, hmadt, hlist⟩ fuel cpu herr
    have hfound : TablesFound m systemTable rsdp fadt madt :=
      tablesFound_iff.mpr ⟨root, w, hrsdp, hroot, hfadt, hmadt⟩
    unfold acpiInit at herr
    rcases bind_eq_error_iff.mp herr with herr | ⟨info, hinfo, herr⟩
    · rw [hfound.acpiDetect_eq, bind_eq_error_iff] at herr
      rcases herr with herr | ⟨n, -, herr⟩
      · exact absurd (madtWalk_error herr) (by decide)
      · exact nomatch herr
    · obtain ⟨hxsdt, hentries⟩ := hlist ((hfound.detects_iff cpu AcpiInfo.zero).mp ⟨fuel, info, hinfo⟩)
      exact (acpiEnumerate_ne_nullDeref_iff
        (hfound.enumeratedRoot_of_searched hroot hxsdt hinfo)).mpr
          ⟨(searchedRoot_spec hroot).1, hentries⟩ herr

/-- **`acpi_init` degrades exactly when there is nothing to degrade from.** -/
theorem degrades_iff (m : ℕ → Byte) (systemTable : BitVec 64) :
    Degrades m systemTable ↔ NothingMissing m systemTable := by
  constructor
  · intro h
    exact acpiInit_ne_nullDeref_iff.mp h.no_null
  · intro h
    obtain ⟨rsdp, fadt, madt, root, w, hrsdp, hroot, hfadt, hmadt, -⟩ := id h
    have hfound : TablesFound m systemTable rsdp fadt madt :=
      tablesFound_iff.mpr ⟨root, w, hrsdp, hroot, hfadt, hmadt⟩
    -- none of the lookups comes back with NULL
    have hsame : ∀ r, findRsdp m systemTable = .ok r → r = rsdp := fun r hr =>
      Except.ok.inj (hr.symm.trans hfound.rsdp_eq)
    constructor
    · exact acpiInit_ne_nullDeref_iff.mpr h
    · intro r hr hmissing
      obtain rfl := hsame r hr
      rcases hmissing with hnull | hnone
      · exact absurd hnull hfound.rsdp_ne
      · exact absurd hnone hfound.searchedRoot_ne_none
    · intro r hr hnull
      obtain rfl := hsame r hr
      exact absurd (Except.ok.inj (hfound.fadt_eq.symm.trans hnull)) hfound.fadt_ne
    · intro r hr hnull
      obtain rfl := hsame r hr
      exact absurd (Except.ok.inj (hfound.madt_eq.symm.trans hnull)) hfound.madt_ne

end Missing

/-- On firmware with an empty configuration table `acpi_init` reads through the NULL
that `find_rsdp` returns. -/
theorem no_rsdp_faults : ¬ Degrades (fun _ => 0) 0x1000 := by
  intro h
  have hnull : acpiInit (fun _ => 0) 0 ⟨none, 0⟩ 0x1000 AcpiInfo.zero = .error .nullDeref := by rfl
  exact h.no_null 0 ⟨none, 0⟩ hnull

end GridX64
