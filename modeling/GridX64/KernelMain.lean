/-
# kernel_main (src/kernel/main.c)

`kernel_main` sets up the console, runs `acpi_init`, reports on the configuration table
and on the memory map, and then loops for ever.  `kernelMain` is everything before the
loop: a result is the state in which the kernel idles, a trap stops it before that.

Firmware memory is only read, and the framebuffer is a memory of its own.

* `kernelReport_settles` — what is printed before the loop;
* `kernelMain_idles_iff` — when the loop is reached.
-/
import GridX64.AcpiReport

namespace GridX64

/-! ## The configuration table -/

/-- The versions of ACPI that the configuration table announces. -/
inductive AcpiVersion
  | v1
  | v2

namespace AcpiVersion

/-- The GUID of a version. -/
def guid : AcpiVersion → List Byte
  | v1 => acpiTableGuid
  | v2 => acpi20TableGuid

/-- The number of a version. -/
def number : AcpiVersion → List Byte
  | v1 => chars "1.0"
  | v2 => chars "2.0"

/-- `"Found ACPI 1.0 at 0x%08x\n"`. -/
def foundFormat (v : AcpiVersion) : List Byte := chars "Found ACPI " ++ v.number ++ chars " at 0x%08x\n"

/-- `"ACPI 1.0 Revision: %d\n"`. -/
def revisionFormat (v : AcpiVersion) : List Byte :=
  chars "ACPI " ++ v.number ++ chars " Revision: %d\n"

end AcpiVersion

section Kernel

variable {σ : Type} (putc : σ → Byte → σ) (fuel : ℕ) (m : ℕ → Byte)

/-- The test of entry `i` of the configuration table for a version, and its report. -/
def reportVersion (ct : BitVec 64) (i : ℕ) (v : AcpiVersion) (s : σ) : Except Fault σ := do
  let same ← memcmpAt m ct (24 * i) v.guid 16
  if same then
    let s ← printfE putc fuel v.foundFormat [] [ct + BitVec.ofNat 64 (24 * i)] s
    let rsdp ← derefPtr m ct (vendorTable i)
    let revision ← deref m rsdp rsdpRevision
    printfE putc fuel v.revisionFormat [] [BitVec.ofNat 64 revision] s
  else return s

/-- The loop over the configuration table. -/
def kernelConfigTables (systemTable : BitVec 64) (s : σ) : Except Fault σ := do
  let n ← deref m systemTable numberOfTableEntries
  forUpE n
    (fun i s => do
      let ct ← derefPtr m systemTable configurationTable
      let s ← reportVersion putc fuel m ct i .v1 s
      reportVersion putc fuel m ct i .v2 s) s

/-! ## The kernel -/

/-- What stops the kernel. -/
inductive KernelTrap
  | fault (f : Fault)
  | divideError
  deriving DecidableEq, Repr

/-- A fault stops the kernel. -/
def orTrap {α : Type} (x : Except Fault α) : Except KernelTrap α := x.mapError KernelTrap.fault

/-- The loop over the memory map.  It divides by the stride, and reads the map. -/
def kernelMapReport (b : BootInfo) (s : σ) : Except KernelTrap σ :=
  if b.DescriptorSize = 0 then .error .divideError
  else if b.MemoryMap = 0 ∧ 0 < mmapEntries b then .error (.fault .nullDeref)
  else
    match kernelMemoryMap putc fuel m b s with
    | some s => .ok s
    | none => .error (.fault .outOfFuel)

/-- `kernel_main` from `acpi_init` on, up to the loop at its end. -/
def kernelReport (cpu : Cpu) (b : BootInfo) (s : σ) : Except KernelTrap (AcpiInfo × σ) := do
  let (info, s) ← orTrap (acpiInitReport putc fuel m cpu b.SystemTable AcpiInfo.zero s)
  let s ← orTrap (kernelConfigTables putc fuel m b.SystemTable s)
  let s ← kernelMapReport putc fuel m b s
  return (info, s)

end Kernel

/-- `kernel_main`, up to the loop at its end; whether `console_init` fails is not tested. -/
def kernelMain (fuel : ℕ) (m : ℕ → Byte) (cpu : Cpu) (b : BootInfo) (s : ConsoleState) :
    Except KernelTrap (AcpiInfo × ConsoleState) :=
  let s := (consoleInit b s).2
  let s := consoleClear s
  kernelReport (fun s c => consolePutc c s) fuel m cpu b s

/-! ## The text -/

namespace AcpiVersion

theorem found_plain (v : AcpiVersion) :
    ∀ c ∈ chars "Found ACPI " ++ v.number ++ chars " at 0x", c ≠ 0 ∧ c ≠ chPercent := by
  cases v <;> simp [number, chars]

theorem revision_plain (v : AcpiVersion) :
    ∀ c ∈ chars "ACPI " ++ v.number ++ chars " Revision: ", c ≠ 0 ∧ c ≠ chPercent := by
  cases v <;> simp [number, chars]

/-- `foundFormat` as a line. -/
def foundLine (v : AcpiVersion) : FormatLine :=
  .field ⟨_, v.found_plain⟩ .hex08 (.last .newline)

/-- `revisionFormat` as a line. -/
def revisionLine (v : AcpiVersion) : FormatLine :=
  .field ⟨_, v.revision_plain⟩ .decimal (.last .newline)

theorem bytes_foundLine (v : AcpiVersion) : v.foundLine.bytes = v.foundFormat := by
  cases v <;> rfl

theorem bytes_revisionLine (v : AcpiVersion) : v.revisionLine.bytes = v.revisionFormat := by
  cases v <;> rfl

/-- The lines on an entry of the configuration table at `a`. -/
def text (v : AcpiVersion) (a : BitVec 64) (revision : ℕ) : List Byte :=
  chars "Found ACPI " ++ v.number ++ chars " at 0x" ++
      (FormatItem.hexText 8 (a.setWidth 32) ++ chars "\n") ++
    (chars "ACPI " ++ v.number ++ chars " Revision: " ++
      (FormatItem.decimalText 0 (BitVec.ofNat 32 revision) ++ chars "\n"))

end AcpiVersion

/-- The lines on entry `i` of the configuration table for a version. -/
def versionEntryText (m : ℕ → Byte) (systemTable : BitVec 64) (i : ℕ) (v : AcpiVersion) : List Byte :=
  if BytesAt m (memberPtr m systemTable configurationTable) (24 * i) v.guid 16 then
    v.text (memberPtr m systemTable configurationTable + BitVec.ofNat 64 (24 * i))
      (member m (entryRsdp m systemTable i) rsdpRevision)
  else []

/-- The lines on the configuration table. -/
def configText (m : ℕ → Byte) (systemTable : BitVec 64) : List Byte :=
  (List.range (member m systemTable numberOfTableEntries)).flatMap
    (fun i => versionEntryText m systemTable i .v1 ++ versionEntryText m systemTable i .v2)

/-- What `kernel_main` prints. -/
def kernelText (m : ℕ → Byte) (b : BootInfo) (info : AcpiInfo) (tables : List ListedTable) :
    List Byte :=
  acpiReportText m info tables ++
    (configText m b.SystemTable ++ ((descriptors m b).filter IsUsable).flatMap usableLine)

/-! ## When the loops end -/

/-- No entry with an ACPI GUID of the configuration table is empty. -/
def ConfigReadable (m : ℕ → Byte) (systemTable : BitVec 64) : Prop :=
  ∀ i < member m systemTable numberOfTableEntries,
    HasAcpiGuid m systemTable i → entryRsdp m systemTable i ≠ 0

section Loops

variable {σ : Type} (putc : σ → Byte → σ) {m : ℕ → Byte} {systemTable : BitVec 64}

theorem hasAcpiGuid_of_bytesAt {i : ℕ} {v : AcpiVersion}
    (h : BytesAt m (memberPtr m systemTable configurationTable) (24 * i) v.guid 16) :
    HasAcpiGuid m systemTable i := by
  cases v with
  | v1 => exact Or.inr h
  | v2 => exact Or.inl h

/-- The lines on an entry are printed. -/
theorem printVersion_text_settles (v : AcpiVersion) (a : BitVec 64) (revision : ℕ) (s : σ) :
    Settles (fun fuel => printfE putc fuel v.foundFormat [] [a] s >>= fun s =>
        printfE putc fuel v.revisionFormat [] [BitVec.ofNat 64 revision] s)
      (run putc s (v.text a revision)) := by
  have hfound : v.foundLine.Takes (ofBytes (v.foundFormat ++ [0] ++ [])) [.int a] := ⟨trivial, rfl⟩
  have hrevision : v.revisionLine.Takes (ofBytes (v.revisionFormat ++ [0] ++ []))
      [.int (BitVec.ofNat 64 revision)] := ⟨trivial, rfl⟩
  have htext : v.revisionLine.expand [.int (BitVec.ofNat 64 revision)]
      = chars "ACPI " ++ v.number ++ chars " Revision: " ++
        (FormatItem.decimalText 0 (BitVec.ofNat 32 revision) ++ chars "\n") := by
    show _ ++ (FormatItem.decimalText 0 ((BitVec.ofNat 64 revision).setWidth 32) ++ _) = _
    rw [BitVec.setWidth_ofNat_of_le (by omega)]
    rfl
  rw [AcpiVersion.text, run_append, ← htext]
  exact (printfE_settles putc v.bytes_foundLine hfound s).bind
    (printfE_settles putc v.bytes_revisionLine hrevision _)

/-- The test of an entry for a version, when the entry can be read. -/
theorem reportVersion_settles (hct : memberPtr m systemTable configurationTable ≠ 0) {i : ℕ}
    (hentry : HasAcpiGuid m systemTable i → entryRsdp m systemTable i ≠ 0) (v : AcpiVersion) (s : σ) :
    Settles (fun fuel =>
        reportVersion putc fuel m (memberPtr m systemTable configurationTable) i v s)
      (run putc s (versionEntryText m systemTable i v)) := by
  unfold reportVersion versionEntryText
  simp only [memcmpAt_of_ne hct, ok_bind]
  by_cases hguid : BytesAt m (memberPtr m systemTable configurationTable) (24 * i) v.guid 16
  · have hrsdp := hentry (hasAcpiGuid_of_bytesAt hguid)
    simp only [hguid, decide_true, if_true, derefPtr_of_ne hct, ok_bind]
    rw [entryRsdp] at hrsdp
    simp only [deref_of_ne hrsdp, ok_bind]
    exact printVersion_text_settles putc v _ _ s
  · simp only [hguid, decide_false, Bool.false_eq_true, if_false, run_nil]
    exact Settles.pure rfl

/-- The loop over the configuration table prints its lines. -/
theorem kernelConfigTables_settles (hst : systemTable ≠ 0)
    (hct : memberPtr m systemTable configurationTable ≠ 0) (hread : ConfigReadable m systemTable)
    (s : σ) :
    Settles (fun fuel => kernelConfigTables putc fuel m systemTable s)
      (run putc s (configText m systemTable)) := by
  unfold kernelConfigTables
  simp only [deref_of_ne hst, derefPtr_of_ne hst, ok_bind]
  rw [configText, ← forUp_run]
  refine Settles.forUpE (fun i hi t => ?_) s
  rw [run_append]
  exact (reportVersion_settles putc hct (hread i hi) .v1 t).bind
    (reportVersion_settles putc hct (hread i hi) .v2 _)

/-- An entry that has been reported leads somewhere. -/
theorem entryRsdp_ne_of_ok {fuel i : ℕ} {v : AcpiVersion} {s t : σ}
    (h : reportVersion putc fuel m (memberPtr m systemTable configurationTable) i v s = .ok t)
    (hguid : BytesAt m (memberPtr m systemTable configurationTable) (24 * i) v.guid 16) :
    entryRsdp m systemTable i ≠ 0 := by
  have hct : memberPtr m systemTable configurationTable ≠ 0 := by
    intro hnull
    rw [hnull] at h
    exact nomatch h
  unfold reportVersion at h
  simp only [memcmpAt_of_ne hct, ok_bind, hguid, decide_true, if_true, derefPtr_of_ne hct] at h
  obtain ⟨u, hfound, h⟩ := bind_eq_ok_iff.mp h
  obtain ⟨revision, hrevision, h⟩ := bind_eq_ok_iff.mp h
  intro hnull
  rw [entryRsdp] at hnull
  rw [hnull] at hrevision
  exact nomatch hrevision

/-- The loop over the configuration table ends in no other case. -/
theorem configReadable_of_ok {fuel : ℕ} {s t : σ}
    (h : kernelConfigTables putc fuel m systemTable s = .ok t) : ConfigReadable m systemTable := by
  have hst : systemTable ≠ 0 := by
    rintro rfl
    exact nomatch h
  unfold kernelConfigTables at h
  simp only [deref_of_ne hst, derefPtr_of_ne hst, ok_bind] at h
  intro i hi hguid
  obtain ⟨u, w, hround⟩ := ok_of_forUpE_eq_ok h i hi
  obtain ⟨x, hfirst, hsecond⟩ := bind_eq_ok_iff.mp hround
  rcases hguid with h2 | h1
  · exact entryRsdp_ne_of_ok putc (v := .v2) hsecond h2
  · exact entryRsdp_ne_of_ok putc (v := .v1) hfirst h1

/-- The loop over the memory map prints its lines. -/
theorem kernelMapReport_settles (m : ℕ → Byte) {b : BootInfo} (hstride : b.DescriptorSize ≠ 0)
    (hmap : b.MemoryMap = 0 → mmapEntries b = 0) (s : σ) :
    Settles (fun fuel => kernelMapReport putc fuel m b s)
      (run putc s (((descriptors m b).filter IsUsable).flatMap usableLine)) := by
  obtain ⟨N, hN⟩ := kernelMemoryMap_eq putc m hstride s
  have hread : ¬ (b.MemoryMap = 0 ∧ 0 < mmapEntries b) := fun h => absurd (hmap h.1) h.2.ne'
  refine ⟨N, fun fuel hfuel => ?_⟩
  simp only [kernelMapReport, if_neg hstride, if_neg hread, hN fuel hfuel]

/-- The loop over the memory map ends in no other case. -/
theorem map_of_ok {fuel : ℕ} {b : BootInfo} {s t : σ} (h : kernelMapReport putc fuel m b s = .ok t) :
    b.DescriptorSize ≠ 0 ∧ (b.MemoryMap = 0 → mmapEntries b = 0) := by
  unfold kernelMapReport at h
  split_ifs at h with hstride hmap
  exact ⟨hstride, fun hnull => Nat.eq_zero_of_not_pos (fun hpos => hmap ⟨hnull, hpos⟩)⟩

end Loops

/-! ## When the kernel idles -/

/-- `acpi_init` returns: the lookups find something, the walk over the MADT ends, and the
root that is listed and its entries lead somewhere. -/
structure AcpiReturns (m : ℕ → Byte) (systemTable rsdp fadt madt : BitVec 64) : Prop where
  tables : TablesFound m systemTable rsdp fadt madt
  walk : MadtWalkEnds m madt
  root : (listedRoot m rsdp).1 ≠ 0
  entries : ∀ i < (entryCount (member m (listedRoot m rsdp).1 sdtLength) (listedRoot m rsdp).2).toNat,
    entryTable m (listedRoot m rsdp).1 (listedRoot m rsdp).2 i ≠ 0

/-- What `kernel_main` needs of the firmware to reach its loop. -/
structure KernelIdles (m : ℕ → Byte) (b : BootInfo) : Prop where
  acpi : ∃ rsdp fadt madt, AcpiReturns m b.SystemTable rsdp fadt madt
  config : ConfigReadable m b.SystemTable
  stride : b.DescriptorSize ≠ 0
  map : b.MemoryMap = 0 → mmapEntries b = 0

section Idle

variable {m : ℕ → Byte} {systemTable : BitVec 64} {cpu : Cpu} {b : BootInfo}

/-- **When `acpi_init` returns.** -/
theorem acpiInit_returns_iff (cpu : Cpu) (info₀ : AcpiInfo) :
    (∃ fuel r, acpiInit m fuel cpu systemTable info₀ = .ok r)
      ↔ ∃ rsdp fadt madt, AcpiReturns m systemTable rsdp fadt madt := by
  constructor
  · rintro ⟨fuel, ⟨info, tables⟩, h⟩
    obtain ⟨found, hdetect, henumerate⟩ := bind_eq_ok_iff.mp h
    have hnull : acpiDetect m fuel cpu systemTable info₀ ≠ .error .nullDeref := by
      rw [hdetect]
      exact fun h => nomatch h
    obtain ⟨rsdp, fadt, madt, hfound⟩ := tablesFound_of_ne_nullDeref hnull
    obtain ⟨root, w, hroot, hne, hentries, -, -⟩ := acpiEnumerate_inv henumerate
    rw [hfound.enumeratedRoot_eq hdetect] at hroot
    refine ⟨rsdp, fadt, madt, hfound, (hfound.detects_iff cpu info₀).mp ⟨fuel, found, hdetect⟩, ?_, ?_⟩
    · rw [hroot]
      exact hne
    · rw [hroot]
      exact hentries
  · rintro ⟨rsdp, fadt, madt, h⟩
    obtain ⟨fuel, found, hdetect⟩ := (h.tables.detects_iff cpu info₀).mpr h.walk
    have henumerate := acpiEnumerate_ok (h.tables.enumeratedRoot_eq hdetect) h.root h.entries
    exact ⟨fuel, _, by rw [acpiInit, hdetect, ok_bind, henumerate]⟩

theorem orTrap_eq_ok_iff {α : Type} {x : Except Fault α} {a : α} :
    orTrap x = .ok a ↔ x = .ok a := by
  cases x with
  | error e =>
      constructor
      · exact fun h => nomatch h
      · exact fun h => nomatch h
  | ok a' =>
      show Except.ok a' = Except.ok a ↔ _
      rw [Except.ok.injEq, Except.ok.injEq]

theorem orTrap_settles {α : Type} {f : ℕ → Except Fault α} {a : α} (h : Settles f a) :
    Settles (fun fuel => orTrap (f fuel)) a := by
  obtain ⟨N, hN⟩ := h
  exact ⟨N, fun fuel hfuel => orTrap_eq_ok_iff.mpr (hN fuel hfuel)⟩

variable {σ : Type} (putc : σ → Byte → σ)

/-- **What `kernel_main` prints before its loop.** -/
theorem kernelReport_settles {fuel : ℕ} {info : AcpiInfo} {tables : List ListedTable}
    (hinit : acpiInit m fuel cpu b.SystemTable AcpiInfo.zero = .ok (info, tables))
    (hconfig : ConfigReadable m b.SystemTable) (hstride : b.DescriptorSize ≠ 0)
    (hmap : b.MemoryMap = 0 → mmapEntries b = 0) (s : σ) :
    Settles (fun fuel => kernelReport putc fuel m cpu b s)
      (info, run putc s (kernelText m b info tables)) := by
  obtain ⟨rsdp, fadt, madt, hacpi⟩ :=
    (acpiInit_returns_iff cpu AcpiInfo.zero).mp ⟨fuel, _, hinit⟩
  obtain ⟨hst, i, -, ⟨⟨hct, -⟩, -⟩, -⟩ :=
    findRsdp_found_iff.mp ⟨hacpi.tables.rsdp_eq, hacpi.tables.rsdp_ne⟩
  rw [kernelText, run_append, run_append]
  refine (orTrap_settles (acpiInitReport_settles putc hinit s)).bind ?_
  refine (orTrap_settles (kernelConfigTables_settles putc hst hct hconfig _)).bind ?_
  exact (kernelMapReport_settles putc m hstride hmap _).bind (Settles.pure rfl)

/-- The loop is reached in no other case. -/
theorem kernelIdles_of_ok {fuel : ℕ} {s : σ} {r : AcpiInfo × σ}
    (h : kernelReport putc fuel m cpu b s = .ok r) : KernelIdles m b := by
  obtain ⟨⟨info, t⟩, hacpi, h⟩ := bind_eq_ok_iff.mp h
  obtain ⟨u, hconfig, h⟩ := bind_eq_ok_iff.mp h
  obtain ⟨v, hmap, -⟩ := bind_eq_ok_iff.mp h
  obtain ⟨tables, hinit⟩ := acpiInit_of_report putc (orTrap_eq_ok_iff.mp hacpi)
  obtain ⟨hstride, hmap⟩ := map_of_ok putc hmap
  exact { acpi := (acpiInit_returns_iff cpu AcpiInfo.zero).mp ⟨fuel, _, hinit⟩
          config := configReadable_of_ok putc (orTrap_eq_ok_iff.mp hconfig)
          stride := hstride
          map := hmap }

end Idle

/-- **`kernel_main` reaches its loop exactly when** the three tables are found, the walk
over the MADT ends, the listed root and its entries lead somewhere, every entry of the
configuration table with an ACPI GUID does, and the memory map has a stride and is not
at zero.  The firmware's memory is one that the console does not draw in. -/
theorem kernelMain_idles_iff (m : ℕ → Byte) (cpu : Cpu) (b : BootInfo) (s : ConsoleState) :
    (∃ fuel r, kernelMain fuel m cpu b s = .ok r) ↔ KernelIdles m b := by
  constructor
  · rintro ⟨fuel, r, h⟩
    exact kernelIdles_of_ok _ h
  · intro h
    obtain ⟨fuel, ⟨info, tables⟩, hinit⟩ := (acpiInit_returns_iff cpu AcpiInfo.zero).mpr h.acpi
    obtain ⟨N, hN⟩ := kernelReport_settles (fun s c => consolePutc c s) hinit h.config h.stride
      h.map (consoleClear (consoleInit b s).2)
    exact ⟨N, _, hN N (Nat.le_refl N)⟩

end GridX64
