/-
# The console output of acpi_init (src/acpi/acpi.c)

`acpi_init` reports what it has found: the version, a line for each table of the root,
the devices, and the number of processors.  `acpiInitReport` is the function with its
output and `acpiReportText` the text.  It is printed whenever `acpi_init` returns
(`acpiInitReport_settles`), and with the output `acpi_init` returns in no other case
(`acpiInit_of_report`).
-/
import GridX64.AcpiInit
import GridX64.Fuel
import GridX64.MemoryMap
import GridX64.PrintfLine

namespace GridX64

/-! ## The output -/

/-- `"ACPI: Version %x\n"`. -/
def versionFormat : List Byte := chars "ACPI: Version %x\n"

/-- `"ACPI: %s 0x%08x - 0x%08x\n"`. -/
def tableFormat : List Byte := chars "ACPI: %s 0x%08x - 0x%08x\n"

/-- `"CPU Cores Detected: %d\n"`. -/
def coresFormat : List Byte := chars "CPU Cores Detected: %d\n"

/-- The devices that `acpi_init` reports on. -/
inductive Device
  | apic
  | vga
  | i8042
  | dual8259

/-- The name of a device. -/
def Device.name : Device → List Byte
  | apic => chars "APIC"
  | vga => chars "VGA"
  | i8042 => chars "I8042"
  | dual8259 => chars "Dual 8259"

/-- What is reported of a device. -/
inductive Status
  | detected
  | notDetected
  | enabled

/-- The word for it. -/
def Status.word : Status → List Byte
  | detected => chars "Detected\n"
  | notDetected => chars "Not Detected\n"
  | enabled => chars "Enabled\n"

/-- The messages on devices, such as `"APIC Status: Detected\n"`. -/
def statusFormat (d : Device) (st : Status) : List Byte := d.name ++ chars " Status: " ++ st.word

/-- Detected or not. -/
def Status.ofFlag (present : Bool) : Status := if present then detected else notDetected

section Output

variable {σ : Type} (putc : σ → Byte → σ) (fuel : ℕ)

/-- `console_printf(fmt, args..)`, where the kernel stops without fuel. -/
def printfE (fmt buffer : List Byte) (args : List (BitVec 64)) (s : σ) : Except Fault σ :=
  match printLiteral putc fuel fmt buffer args s with
  | some s => .ok s
  | none => .error .outOfFuel

/-- The line of a table: `char signature[5] = {0}` holds the signature. -/
def printTable (table : ListedTable) (s : σ) : Except Fault σ :=
  printfE putc fuel tableFormat (table.signature ++ [0])
    [bufferAt tableFormat, table.start, table.stop] s

/-- The message on a device. -/
def printStatus (d : Device) (st : Status) (s : σ) : Except Fault σ :=
  printfE putc fuel (statusFormat d st) [] [] s

/-- The messages on the APIC. -/
def printApic (info : AcpiInfo) (s : σ) : Except Fault σ :=
  if info.hasApic then do
    let s ← printStatus putc fuel .apic .detected s
    if info.apicEnabled then printStatus putc fuel .apic .enabled s else .ok s
  else printStatus putc fuel .apic .notDetected s

/-- The messages on all devices. -/
def printStatuses (info : AcpiInfo) (s : σ) : Except Fault σ := do
  let s ← printApic putc fuel info s
  let s ← printStatus putc fuel .vga (.ofFlag info.hasVga) s
  let s ← printStatus putc fuel .i8042 (.ofFlag info.hasI8042) s
  printStatus putc fuel .dual8259 (.ofFlag info.has8259) s

/-- `acpi_init` from its first `console_printf` on. -/
def acpiReport (m : ℕ → Byte) (info : AcpiInfo) (s : σ) : Except Fault (AcpiInfo × σ) := do
  let revision ← deref m info.rsdp rsdpRevision
  let s ← printfE putc fuel versionFormat [] [BitVec.ofNat 64 revision] s
  let (root, w) := enumeratedRoot m info
  let length ← deref m root sdtLength
  let info := { info with numEntries := entryCount length w }
  let s ← forUpE info.numEntries.toNat
    (fun i s => do
      let table ← listTable m root w i
      printTable putc fuel table s) s
  let s ← printStatuses putc fuel info s
  let s ← printfE putc fuel coresFormat [] [BitVec.ofInt 64 info.numCores] s
  return (info, s)

/-- `acpi_init`, with its output. -/
def acpiInitReport (m : ℕ → Byte) (cpu : Cpu) (systemTable : BitVec 64) (info : AcpiInfo) (s : σ) :
    Except Fault (AcpiInfo × σ) := do
  let info ← acpiDetect m fuel cpu systemTable info
  acpiReport putc fuel m info s

end Output

/-! ## The text -/

theorem version_plain : ∀ c ∈ chars "ACPI: Version ", c ≠ 0 ∧ c ≠ chPercent := by simp [chars]

theorem table_plain : ∀ c ∈ chars "ACPI: ", c ≠ 0 ∧ c ≠ chPercent := by simp [chars]

theorem start_plain : ∀ c ∈ chars " 0x", c ≠ 0 ∧ c ≠ chPercent := by simp [chars]

theorem stop_plain : ∀ c ∈ chars " - 0x", c ≠ 0 ∧ c ≠ chPercent := by simp [chars]

theorem cores_plain : ∀ c ∈ chars "CPU Cores Detected: ", c ≠ 0 ∧ c ≠ chPercent := by
  simp [chars]

/-- `versionFormat` as a line. -/
def versionLine : FormatLine := .field ⟨_, version_plain⟩ .hex (.last .newline)

/-- `tableFormat` as a line. -/
def tableLine : FormatLine :=
  .field ⟨_, table_plain⟩ .string
    (.field ⟨_, start_plain⟩ .hex08 (.field ⟨_, stop_plain⟩ .hex08 (.last .newline)))

/-- `coresFormat` as a line. -/
def coresLine : FormatLine := .field ⟨_, cores_plain⟩ .decimal (.last .newline)

theorem Device.name_plain (d : Device) : ∀ c ∈ d.name, c ≠ 0 ∧ c ≠ chPercent := by
  cases d <;> simp [name, chars]

theorem Status.word_plain (st : Status) : ∀ c ∈ st.word, c ≠ 0 ∧ c ≠ chPercent := by
  cases st <;> simp [word, chars]

theorem statusFormat_plain (d : Device) (st : Status) :
    ∀ c ∈ statusFormat d st, c ≠ 0 ∧ c ≠ chPercent := by
  intro c hc
  rw [statusFormat, List.mem_append, List.mem_append] at hc
  rcases hc with (hname | hstatus) | hword
  · exact d.name_plain c hname
  · have hplain : ∀ c ∈ chars " Status: ", c ≠ 0 ∧ c ≠ chPercent := by simp [chars]
    exact hplain c hstatus
  · exact st.word_plain c hword

/-- `statusFormat` as a line. -/
def statusLine (d : Device) (st : Status) : FormatLine :=
  .last ⟨statusFormat d st, statusFormat_plain d st⟩

theorem bytes_versionLine : versionLine.bytes = versionFormat := rfl

theorem bytes_tableLine : tableLine.bytes = tableFormat := rfl

theorem bytes_coresLine : coresLine.bytes = coresFormat := rfl

/-- The version line. -/
def versionText (revision : ℕ) : List Byte :=
  chars "ACPI: Version " ++ (FormatItem.hexText 0 (BitVec.ofNat 32 revision) ++ chars "\n")

/-- The line of a table, with the low 32 bits of its bounds. -/
def tableText (table : ListedTable) : List Byte :=
  chars "ACPI: " ++ (table.signature.takeWhile (· ≠ 0) ++
    (chars " 0x" ++ (FormatItem.hexText 8 (table.start.setWidth 32) ++
      (chars " - 0x" ++ (FormatItem.hexText 8 (table.stop.setWidth 32) ++ chars "\n")))))

/-- The messages on the APIC. -/
def apicText (info : AcpiInfo) : List Byte :=
  if info.hasApic then
    statusFormat .apic .detected ++ if info.apicEnabled then statusFormat .apic .enabled else []
  else statusFormat .apic .notDetected

/-- The messages on the devices. -/
def statusesText (info : AcpiInfo) : List Byte :=
  apicText info ++
    (statusFormat .vga (.ofFlag info.hasVga) ++
      (statusFormat .i8042 (.ofFlag info.hasI8042) ++
        statusFormat .dual8259 (.ofFlag info.has8259)))

/-- The line on the processors. -/
def coresText (numCores : ℤ) : List Byte :=
  chars "CPU Cores Detected: " ++
    (FormatItem.decimalText 0 (BitVec.ofInt 32 numCores) ++ chars "\n")

/-- What `acpi_init` prints. -/
def acpiReportText (m : ℕ → Byte) (info : AcpiInfo) (tables : List ListedTable) : List Byte :=
  versionText (member m info.rsdp rsdpRevision) ++
    (tables.flatMap tableText ++ (statusesText info ++ coresText info.numCores))

section Settles

variable {σ : Type} (putc : σ → Byte → σ) {line : FormatLine} {fmt buffer : List Byte}
  {args : List PrintfArg}

/-- A call with a literal format prints the line. -/
theorem printfE_settles (hfmt : line.bytes = fmt)
    (hargs : line.Takes (ofBytes (fmt ++ [0] ++ buffer)) args) (s : σ) :
    Settles (fun fuel => printfE putc fuel fmt buffer (args.map PrintfArg.slot) s)
      (run putc s (line.expand args)) := by
  obtain ⟨N, hN⟩ := printLiteral_eq putc hfmt hargs s
  refine ⟨N, fun fuel hfuel => ?_⟩
  simp only [printfE, hN fuel hfuel]

theorem printVersion_settles (revision : ℕ) (s : σ) :
    Settles (fun fuel => printfE putc fuel versionFormat [] [BitVec.ofNat 64 revision] s)
      (run putc s (versionText revision)) := by
  have hargs : versionLine.Takes (ofBytes (versionFormat ++ [0] ++ []))
      [.int (BitVec.ofNat 64 revision)] := ⟨trivial, rfl⟩
  have hprint := printfE_settles putc bytes_versionLine hargs s
  have htext : versionLine.expand [.int (BitVec.ofNat 64 revision)] = versionText revision := by
    show _ ++ (FormatItem.hexText 0 ((BitVec.ofNat 64 revision).setWidth 32) ++ _) = _
    rw [BitVec.setWidth_ofNat_of_le (by omega)]
    rfl
  rwa [htext] at hprint

theorem printTable_settles (table : ListedTable) (s : σ) :
    Settles (fun fuel => printTable putc fuel table s) (run putc s (tableText table)) := by
  have hargs : tableLine.Takes (ofBytes (tableFormat ++ [0] ++ (table.signature ++ [0])))
      [.string (bufferAt tableFormat) (table.signature.takeWhile (· ≠ 0)), .int table.start,
        .int table.stop] :=
    ⟨stringAt_buffer (by decide +kernel) table.signature, trivial, trivial, rfl⟩
  exact printfE_settles putc bytes_tableLine hargs s

theorem printStatus_settles (d : Device) (st : Status) (s : σ) :
    Settles (fun fuel => printStatus putc fuel d st s) (run putc s (statusFormat d st)) := by
  have hfmt : (statusLine d st).bytes = statusFormat d st := rfl
  have hargs : (statusLine d st).Takes (ofBytes (statusFormat d st ++ [0] ++ [])) [] := rfl
  exact printfE_settles putc hfmt hargs s

/-- The low word of an integer. -/
theorem setWidth_ofInt (n : ℤ) : (BitVec.ofInt 64 n).setWidth 32 = BitVec.ofInt 32 n := by
  apply BitVec.eq_of_toNat_eq
  rw [BitVec.toNat_setWidth, BitVec.toNat_ofInt, BitVec.toNat_ofInt]
  omega

theorem printCores_settles (numCores : ℤ) (s : σ) :
    Settles (fun fuel => printfE putc fuel coresFormat [] [BitVec.ofInt 64 numCores] s)
      (run putc s (coresText numCores)) := by
  have hargs : coresLine.Takes (ofBytes (coresFormat ++ [0] ++ []))
      [.int (BitVec.ofInt 64 numCores)] := ⟨trivial, rfl⟩
  have hprint := printfE_settles putc bytes_coresLine hargs s
  have htext : coresLine.expand [.int (BitVec.ofInt 64 numCores)] = coresText numCores := by
    show _ ++ (FormatItem.decimalText 0 ((BitVec.ofInt 64 numCores).setWidth 32) ++ _) = _
    rw [setWidth_ofInt]
    rfl
  rwa [htext] at hprint

theorem printApic_settles (info : AcpiInfo) (s : σ) :
    Settles (fun fuel => printApic putc fuel info s) (run putc s (apicText info)) := by
  unfold printApic apicText
  cases info.hasApic with
  | false => exact printStatus_settles putc .apic .notDetected s
  | true =>
      simp only [if_true, run_append]
      refine (printStatus_settles putc .apic .detected s).bind ?_
      cases info.apicEnabled with
      | false => exact Settles.pure rfl
      | true => exact printStatus_settles putc .apic .enabled _

theorem printStatuses_settles (info : AcpiInfo) (s : σ) :
    Settles (fun fuel => printStatuses putc fuel info s) (run putc s (statusesText info)) := by
  rw [statusesText, run_append, run_append, run_append]
  refine (printApic_settles putc info s).bind ?_
  refine (printStatus_settles putc .vga _ _).bind ?_
  refine (printStatus_settles putc .i8042 _ _).bind ?_
  exact printStatus_settles putc .dual8259 _ _

end Settles

/-! ## When the text is printed -/

section Report

variable {σ : Type} (putc : σ → Byte → σ) {m : ℕ → Byte} {cpu : Cpu} {systemTable : BitVec 64}
  {info info' : AcpiInfo} {tables : List ListedTable} {fuel : ℕ}

/-- What is behind a list of tables: a root that leads somewhere, and whose entries do. -/
theorem acpiEnumerate_inv (h : acpiEnumerate m info = .ok (info', tables)) :
    ∃ root w, enumeratedRoot m info = (root, w) ∧ root ≠ 0 ∧
      (∀ i < (entryCount (member m root sdtLength) w).toNat, entryTable m root w i ≠ 0) ∧
      info' = { info with numEntries := entryCount (member m root sdtLength) w } ∧
      tables = (List.range (entryCount (member m root sdtLength) w).toNat).map
        (fun i => listedTable m (entryTable m root w i)) := by
  obtain ⟨root, w, hroot⟩ : ∃ root w, enumeratedRoot m info = (root, w) := ⟨_, _, rfl⟩
  have hnull : acpiEnumerate m info ≠ .error .nullDeref := by
    rw [h]
    exact fun h => nomatch h
  obtain ⟨hne, hentries⟩ := (acpiEnumerate_ne_nullDeref_iff hroot).mp hnull
  rw [acpiEnumerate_ok hroot hne hentries, Except.ok.injEq, Prod.mk.injEq] at h
  exact ⟨root, w, hroot, hne, hentries, h.1.symm, h.2.symm⟩

/-- The end of `acpi_init` prints its text. -/
theorem acpiReport_settles (hrsdp : info.rsdp ≠ 0)
    (h : acpiEnumerate m info = .ok (info', tables)) (s : σ) :
    Settles (fun fuel => acpiReport putc fuel m info s)
      (info', run putc s (acpiReportText m info' tables)) := by
  obtain ⟨root, w, hroot, hne, hentries, rfl, rfl⟩ := acpiEnumerate_inv h
  unfold acpiReport
  simp only [deref_of_ne hrsdp, hroot, deref_of_ne hne, ok_bind]
  rw [acpiReportText, run_append, run_append, run_append, List.flatMap_map, ← forUp_run]
  have htables : ∀ t, Settles (fun fuel => forUpE (entryCount (member m root sdtLength) w).toNat
      (fun i t => listTable m root w i >>= fun table => printTable putc fuel table t) t)
        (forUp (entryCount (member m root sdtLength) w).toNat
          (fun i t => run putc t (tableText (listedTable m (entryTable m root w i)))) t) := by
    refine fun t => Settles.forUpE (fun i hi t => ?_) t
    simp only [listTable_of_ne hne (hentries i hi), ok_bind]
    exact printTable_settles putc _ t
  refine (printVersion_settles putc _ s).bind ((htables _).bind ?_)
  refine (printStatuses_settles putc _ _).bind ?_
  exact (printCores_settles putc _ _).bind (Settles.pure rfl)

/-- The RSDP is stored. -/
theorem detectedInfo_rsdp (rsdp fadt madt : BitVec 64) (info : AcpiInfo) :
    (detectedInfo m cpu rsdp fadt madt info).rsdp = rsdp := by
  unfold detectedInfo detectApic
  cases cpu.cpuid1 with
  | none => rfl
  | some edx =>
      dsimp only
      split_ifs <;> rfl

/-- More fuel does not change what the lookups and the MADT walk find, and they find an RSDP. -/
theorem acpiDetect_settles {info₀ : AcpiInfo}
    (h : acpiDetect m fuel cpu systemTable info₀ = .ok info) :
    Settles (fun fuel => acpiDetect m fuel cpu systemTable info₀) info ∧ info.rsdp ≠ 0 := by
  have hnull : acpiDetect m fuel cpu systemTable info₀ ≠ .error .nullDeref := by
    rw [h]
    exact fun h => nomatch h
  obtain ⟨rsdp, fadt, madt, hfound⟩ := tablesFound_of_ne_nullDeref hnull
  rw [hfound.acpiDetect_eq, bind_eq_ok_iff] at h
  obtain ⟨numCores, hwalk, hinfo⟩ := h
  obtain rfl := Except.ok.inj hinfo
  refine ⟨⟨fuel, fun more hmore => ?_⟩, ?_⟩
  · obtain ⟨more, rfl⟩ := Nat.exists_eq_add_of_le hmore
    show acpiDetect m (fuel + more) cpu systemTable info₀ = _
    rw [hfound.acpiDetect_eq, madtWalk_more_fuel hwalk, ok_bind]
  · show (detectedInfo m cpu rsdp fadt madt info₀).rsdp ≠ 0
    rw [detectedInfo_rsdp]
    exact hfound.rsdp_ne

/-- **`acpi_init` prints its text whenever it returns.** -/
theorem acpiInitReport_settles {info₀ : AcpiInfo}
    (h : acpiInit m fuel cpu systemTable info₀ = .ok (info, tables)) (s : σ) :
    Settles (fun fuel => acpiInitReport putc fuel m cpu systemTable info₀ s)
      (info, run putc s (acpiReportText m info tables)) := by
  unfold acpiInit at h
  rw [bind_eq_ok_iff] at h
  obtain ⟨found, hdetect, henumerate⟩ := h
  obtain ⟨hsettles, hrsdp⟩ := acpiDetect_settles hdetect
  exact hsettles.bind (acpiReport_settles putc hrsdp henumerate s)

/-- The end of `acpi_init` prints only what it lists. -/
theorem acpiEnumerate_of_report {s t : σ} (h : acpiReport putc fuel m info s = .ok (info', t)) :
    ∃ tables, acpiEnumerate m info = .ok (info', tables) := by
  obtain ⟨root, w, hroot⟩ : ∃ root w, enumeratedRoot m info = (root, w) := ⟨_, _, rfl⟩
  unfold acpiReport at h
  rw [hroot, bind_eq_ok_iff] at h
  obtain ⟨revision, hrevision, h⟩ := h
  rw [bind_eq_ok_iff] at h
  obtain ⟨u, hversion, h⟩ := h
  dsimp only at h
  rw [bind_eq_ok_iff] at h
  obtain ⟨length, hlength, h⟩ := h
  rw [bind_eq_ok_iff] at h
  obtain ⟨v, hloop, h⟩ := h
  have hne : root ≠ 0 := by
    rintro rfl
    exact nomatch hlength
  rw [deref_of_ne hne, Except.ok.injEq] at hlength
  subst hlength
  have hentries : ∀ i < (entryCount (member m root sdtLength) w).toNat, entryTable m root w i ≠ 0 := by
    intro i hi hnull
    obtain ⟨a, b, hround⟩ := ok_of_forUpE_eq_ok hloop i hi
    rw [listTable_null hne hnull] at hround
    exact nomatch hround
  have hinfo : info' = { info with numEntries := entryCount (member m root sdtLength) w } := by
    rw [bind_eq_ok_iff] at h
    obtain ⟨x, hstatuses, h⟩ := h
    rw [bind_eq_ok_iff] at h
    obtain ⟨y, hcores, h⟩ := h
    exact (congrArg Prod.fst (Except.ok.inj h)).symm
  rw [hinfo, acpiEnumerate_ok hroot hne hentries]
  exact ⟨_, rfl⟩

/-- With its output `acpi_init` returns in no other case. -/
theorem acpiInit_of_report {info₀ : AcpiInfo} {s t : σ}
    (h : acpiInitReport putc fuel m cpu systemTable info₀ s = .ok (info, t)) :
    ∃ tables, acpiInit m fuel cpu systemTable info₀ = .ok (info, tables) := by
  unfold acpiInitReport at h
  rw [bind_eq_ok_iff] at h
  obtain ⟨found, hdetect, hreport⟩ := h
  obtain ⟨tables, htables⟩ := acpiEnumerate_of_report putc hreport
  exact ⟨tables, (acpiInit_eq_enumerate hdetect).trans htables⟩

end Report

end GridX64
