/-
# Reading the report of acpi_init

`readAcpiReport` reads the text that `acpi_init` prints, line by line.  The addresses
are printed with eight digits and the signatures up to their first NUL, so what is read
back is what `acpi_init` has found exactly when the tables lie below 4 GiB and their
signatures are four characters.

* `readTables_lines` — the lines of the tables;
* `readAcpiReport_text` — what can be read back from a report;
* `acpi_report_iff` — when that is what `acpi_init` has found.
-/
import GridX64.AcpiReport
import Mathlib.Data.List.TakeWhile

namespace GridX64

/-! ## Reading the report -/

/-- What the report says of a table. -/
structure TableLine where
  signature : List Byte
  start : ℕ
  stop : ℕ
  deriving DecidableEq

/-- What the report says. -/
structure AcpiSummary where
  version : ℕ
  tables : List TableLine
  hasApic : Bool
  apicEnabled : Bool
  hasVga : Bool
  hasI8042 : Bool
  has8259 : Bool
  numCores : ℤ
  deriving DecidableEq

/-- The rest of the line, and what follows the line. -/
def restOfLine (cs : List Byte) : List Byte × List Byte :=
  (cs.takeWhile (· ≠ chNewline), (cs.dropWhile (· ≠ chNewline)).drop 1)

/-- Read the eight digits of an address. -/
def readAddress (cs : List Byte) : Option (ℕ × List Byte) :=
  (readNumeral 16 (cs.take 8)).map (fun a => (a, cs.drop 8))

/-- Read the line of a table behind its `"ACPI: "`. -/
def readTable (cs : List Byte) : Option (TableLine × List Byte) := do
  let signature := cs.take 4
  let cs ← expect (chars " 0x") (cs.drop 4)
  let (start, cs) ← readAddress cs
  let cs ← expect (chars " - 0x") cs
  let (stop, cs) ← readAddress cs
  let cs ← expect (chars "\n") cs
  return ({ signature := signature, start := start, stop := stop }, cs)

/-- Read at most `n` lines of tables. -/
def readTables : ℕ → List Byte → Option (List TableLine × List Byte)
  | 0, cs => some ([], cs)
  | n + 1, cs =>
      match expect (chars "ACPI: ") cs with
      | none => some ([], cs)
      | some cs => do
          let (table, cs) ← readTable cs
          let (tables, cs) ← readTables n cs
          return (table :: tables, cs)

/-- Read whether a device is detected. -/
def readStatus (d : Device) (cs : List Byte) : Option (Bool × List Byte) :=
  match expect (statusFormat d .detected) cs with
  | some cs => some (true, cs)
  | none => (expect (statusFormat d .notDetected) cs).map (fun cs => (false, cs))

/-- Read whether the APIC is enabled. -/
def readEnabled (cs : List Byte) : Bool × List Byte :=
  match expect (statusFormat .apic .enabled) cs with
  | some cs => (true, cs)
  | none => (false, cs)

/-- Read whether the APIC is detected, and whether it is enabled. -/
def readApic (cs : List Byte) : Option ((Bool × Bool) × List Byte) :=
  (readStatus .apic cs).map
    (fun (detected, cs) => ((detected, (readEnabled cs).1), (readEnabled cs).2))

/-- Read a report. -/
def readAcpiReport (cs : List Byte) : Option AcpiSummary := do
  let cs ← expect (chars "ACPI: Version ") cs
  let version ← readNumeral 16 (restOfLine cs).1
  let (tables, cs) ← readTables cs.length (restOfLine cs).2
  let ((hasApic, apicEnabled), cs) ← readApic cs
  let (hasVga, cs) ← readStatus .vga cs
  let (hasI8042, cs) ← readStatus .i8042 cs
  let (has8259, cs) ← readStatus .dual8259 cs
  let cs ← expect (chars "CPU Cores Detected: ") cs
  let numCores ← readInt 10 (restOfLine cs).1
  return { version := version, tables := tables, hasApic := hasApic, apicEnabled := apicEnabled,
           hasVga := hasVga, hasI8042 := hasI8042, has8259 := has8259, numCores := numCores }

/-! ## Fields of a line -/

/-- The characters of a number are digits. -/
theorem notMem_padLeft_numeral {b : ℕ} (hb : 1 < b) (hb' : b ≤ 36) (n v : ℕ) {c : Byte}
    (hc : c.toNat < 48) : c ∉ padLeft n (numeral b v) := by
  intro hmem
  obtain ⟨d, hd, rfl⟩ := mem_padLeft_numeral hb hmem
  exact absurd hc (Nat.not_lt.mpr (le_digitByte (by omega)))

theorem notMem_hexText (n : ℕ) (v : BitVec 32) {c : Byte} (hc : c.toNat < 48) :
    c ∉ FormatItem.hexText n v :=
  notMem_padLeft_numeral (by omega) (by omega) n v.toNat hc

theorem newline_notMem_decimalText (n : ℕ) (v : BitVec 32) :
    chNewline ∉ FormatItem.decimalText n v := by
  intro hmem
  rw [FormatItem.decimalText, List.mem_append] at hmem
  rcases hmem with hsign | hdigits
  · split_ifs at hsign
    · exact absurd (List.mem_singleton.mp hsign) (by decide)
    · exact List.not_mem_nil hsign
  · exact notMem_padLeft_numeral (by omega) (by omega) n _ (by decide) hdigits

theorem chars_newline : chars "\n" = [chNewline] := rfl

/-- A field without newlines ends at the newline. -/
theorem restOfLine_append {ds : List Byte} (hds : chNewline ∉ ds) (cs : List Byte) :
    restOfLine (ds ++ (chars "\n" ++ cs)) = (ds, cs) := by
  have hall : ∀ c ∈ ds, decide (c ≠ chNewline) = true := by
    intro c hc
    exact decide_eq_true (fun heq => hds (heq ▸ hc))
  rw [restOfLine, List.takeWhile_append_of_pos hall, List.dropWhile_append_of_pos hall,
    chars_newline]
  simp

/-- An address is printed with eight digits. -/
theorem length_hexText_eight (v : BitVec 32) : (FormatItem.hexText 8 v).length = 8 := by
  have hle : (numeral 16 v.toNat).length ≤ 8 := length_numeral_le (by omega) (by omega) v.isLt
  rw [FormatItem.hexText, length_padLeft]
  omega

theorem readAddress_hexText (v : BitVec 32) (cs : List Byte) :
    readAddress (FormatItem.hexText 8 v ++ cs) = some (v.toNat, cs) := by
  rw [readAddress, List.take_left' (length_hexText_eight v), List.drop_left' (length_hexText_eight v),
    readNumeral_hexText]
  rfl

/-- A signed number reads back. -/
theorem readInt_decimalText (n : ℕ) (v : BitVec 32) :
    readInt 10 (FormatItem.decimalText n v) = some v.toInt := by
  rw [FormatItem.decimalText_eq_signed, readInt_signed (by omega) (by omega)]
  by_cases hneg : v.toInt < 0
  · rw [decide_eq_true hneg, if_pos rfl, Int.ofNat_natAbs_of_nonpos (by omega), neg_neg]
  · rw [decide_eq_false hneg, if_neg Bool.false_ne_true, Int.natAbs_of_nonneg (by omega)]

/-! ## The lines of the tables -/

/-- What `acpi_init` has found of a table. -/
def ListedTable.line (table : ListedTable) : TableLine :=
  { signature := table.signature, start := table.start.toNat, stop := table.stop.toNat }

/-- What can be read back of it: the low words of the bounds. -/
def ListedTable.printedLine (table : ListedTable) : TableLine :=
  { signature := table.signature
    start := (table.start.setWidth 32).toNat
    stop := (table.stop.setWidth 32).toNat }

theorem ListedTable.printedLine_eq_iff (table : ListedTable) :
    table.printedLine = table.line
      ↔ table.start.toNat < 2 ^ 32 ∧ table.stop.toNat < 2 ^ 32 := by
  have hstart := table.start.isLt
  have hstop := table.stop.isLt
  rw [printedLine, line, TableLine.mk.injEq, BitVec.toNat_setWidth, BitVec.toNat_setWidth]
  constructor
  · rintro ⟨-, hs, ht⟩
    exact ⟨by omega, by omega⟩
  · rintro ⟨hs, ht⟩
    exact ⟨rfl, by omega, by omega⟩

/-- The line of a table behind its `"ACPI: "`. -/
def tableRest (table : ListedTable) : List Byte :=
  table.signature.takeWhile (· ≠ 0) ++
    (chars " 0x" ++ (FormatItem.hexText 8 (table.start.setWidth 32) ++
      (chars " - 0x" ++ (FormatItem.hexText 8 (table.stop.setWidth 32) ++ chars "\n"))))

theorem tableText_eq (table : ListedTable) : tableText table = chars "ACPI: " ++ tableRest table :=
  rfl

/-- A signature of four characters reads back. -/
theorem readTable_tableRest {table : ListedTable} (hlen : table.signature.length = 4)
    (hzero : (0 : Byte) ∉ table.signature) (cs : List Byte) :
    readTable (tableRest table ++ cs) = some (table.printedLine, cs) := by
  have hsignature : table.signature.takeWhile (· ≠ 0) = table.signature := by
    refine List.takeWhile_eq_self_iff.mpr (fun c hc => ?_)
    exact decide_eq_true (fun heq => hzero (heq ▸ hc))
  unfold tableRest readTable
  rw [hsignature]
  simp only [List.append_assoc, Option.bind_eq_bind, List.take_left' hlen, List.drop_left' hlen]
  rw [expect_append, Option.bind_some, readAddress_hexText, Option.bind_some, expect_append,
    Option.bind_some, readAddress_hexText, Option.bind_some, expect_append]
  rfl

/-- A text that does not start with a space. -/
theorem expect_space_of_head {cs : List Byte} (h : cs.head? ≠ some chSpace) :
    expect (chars " 0x") cs = none := by
  refine if_neg (fun hprefix => h ?_)
  obtain ⟨rest, rfl⟩ := hprefix
  rfl

/-- Behind the space that ends a signature stand no more spaces for ten characters. -/
theorem head_drop_address (v : BitVec 32) (cs : List Byte) {k : ℕ} (hk : k < 10) :
    ((chars "0x" ++ FormatItem.hexText 8 v ++ cs).drop k).head? ≠ some chSpace := by
  have hlen : (chars "0x" ++ FormatItem.hexText 8 v).length = 10 := by
    rw [List.length_append, length_hexText_eight]
    rfl
  rw [List.head?_drop, List.getElem?_append_left (by omega)]
  intro hget
  rcases List.mem_append.mp (List.mem_of_getElem? hget) with hprefix | hdigit
  · exact absurd hprefix (by simp [chars])
  · exact notMem_hexText 8 v (by decide) hdigit

/-- With fewer than four characters in front of it, the space is among those that the reader
takes for the signature. -/
theorem expect_space_of_short {signature : List Byte} (hshort : signature.length < 4)
    (v : BitVec 32) (cs : List Byte) :
    expect (chars " 0x")
      ((signature ++ (chars " 0x" ++ (FormatItem.hexText 8 v ++ cs))).drop 4) = none := by
  have hspace : chars " 0x" = chSpace :: chars "0x" := rfl
  obtain ⟨k, hk⟩ : ∃ k, 4 - signature.length = k + 1 := ⟨3 - signature.length, by omega⟩
  have hdrop : (signature ++ (chars " 0x" ++ (FormatItem.hexText 8 v ++ cs))).drop 4
      = (chars "0x" ++ FormatItem.hexText 8 v ++ cs).drop k := by
    rw [List.drop_append, List.drop_of_length_le (by omega), List.nil_append, hk, hspace,
      List.cons_append, List.drop_succ_cons, List.append_assoc]
  rw [hdrop]
  exact expect_space_of_head (head_drop_address v cs (by omega))

/-- A shorter signature does not read back. -/
theorem readTable_short {table : ListedTable} (hlen : table.signature.length = 4)
    (hzero : (0 : Byte) ∈ table.signature) (cs : List Byte) :
    readTable (tableRest table ++ cs) = none := by
  have hshort : (table.signature.takeWhile (· ≠ 0)).length < 4 := by
    refine Nat.lt_of_le_of_ne (hlen ▸ (List.takeWhile_prefix _).length_le) (fun heq => ?_)
    have hall : table.signature.takeWhile (· ≠ 0) = table.signature :=
      (List.takeWhile_prefix _).eq_of_length (heq.trans hlen.symm)
    exact absurd (List.takeWhile_eq_self_iff.mp hall 0 hzero) (by decide)
  unfold tableRest readTable
  simp only [List.append_assoc]
  rw [expect_space_of_short hshort]
  rfl

/-- **The lines of the tables** read back as far as the signatures have four characters. -/
theorem readTables_lines {tables : List ListedTable} (hlen : ∀ t ∈ tables, t.signature.length = 4)
    {rest : List Byte} (hrest : expect (chars "ACPI: ") rest = none) {n : ℕ}
    (hn : tables.length ≤ n) :
    readTables n (tables.flatMap tableText ++ rest)
      = if ∀ t ∈ tables, (0 : Byte) ∉ t.signature then
          some (tables.map ListedTable.printedLine, rest)
        else none := by
  induction tables generalizing n with
  | nil =>
      rw [if_pos (fun t ht => absurd ht List.not_mem_nil)]
      cases n with
      | zero => rfl
      | succ n =>
          rw [readTables, List.flatMap_nil, List.nil_append, hrest]
          rfl
  | cons table tables ih =>
      obtain ⟨n, rfl⟩ := Nat.exists_eq_succ_of_ne_zero
        (show n ≠ 0 by rw [List.length_cons] at hn; omega)
      have hhead := hlen table List.mem_cons_self
      have htail := ih (fun t ht => hlen t (List.mem_cons_of_mem _ ht)) (Nat.le_of_succ_le_succ hn)
      rw [List.flatMap_cons, tableText_eq, List.append_assoc, List.append_assoc, readTables,
        expect_append]
      by_cases hzero : (0 : Byte) ∈ table.signature
      · rw [if_neg (fun h => h table List.mem_cons_self hzero)]
        simp only [readTable_short hhead hzero]
        rfl
      · simp only [readTable_tableRest hhead hzero, Option.bind_eq_bind, Option.bind_some, htail]
        simp only [List.forall_mem_cons, hzero, not_false_iff, true_and]
        split_ifs <;> rfl

/-! ## The messages on the devices -/

/-- What is said of a device reads back. -/
theorem readStatus_statusFormat (d : Device) (present : Bool) (cs : List Byte) :
    readStatus d (statusFormat d (.ofFlag present) ++ cs) = some (present, cs) := by
  cases present with
  | true =>
      show (match expect (statusFormat d .detected) (statusFormat d .detected ++ cs) with
        | some cs => some (true, cs)
        | none => _) = _
      rw [expect_append]
  | false =>
      have hword : Status.detected.word.length ≤ Status.notDetected.word.length := by
        simp [Status.word, chars]
      have hlen : (statusFormat d .detected).length ≤ (statusFormat d .notDetected).length := by
        simp only [statusFormat, List.length_append]
        omega
      have hne : ¬ statusFormat d .detected <+: statusFormat d .notDetected := by
        rw [statusFormat, statusFormat, List.prefix_append_right_inj]
        simp [Status.word, chars]
      show (match expect (statusFormat d .detected) (statusFormat d .notDetected ++ cs) with
        | some cs => some (true, cs)
        | none => (expect (statusFormat d .notDetected) (statusFormat d .notDetected ++ cs)).map _) = _
      rw [expect_append_of_not_starts hlen hne, expect_append]
      rfl

/-- The message on the VGA adapter is none on the APIC. -/
theorem readEnabled_vga (present : Bool) (cs : List Byte) :
    readEnabled (statusFormat .vga (.ofFlag present) ++ cs)
      = (false, statusFormat .vga (.ofFlag present) ++ cs) := by
  have hlen : (statusFormat .apic .enabled).length
      ≤ (statusFormat .vga (.ofFlag present)).length := by
    cases present <;> simp [statusFormat, Device.name, Status.ofFlag, Status.word, chars]
  have hne : ¬ statusFormat .apic .enabled <+: statusFormat .vga (.ofFlag present) := by
    cases present <;> simp [statusFormat, Device.name, Status.ofFlag, Status.word, chars]
  rw [readEnabled, expect_append_of_not_starts hlen hne]

/-- What is said of the APIC reads back, if it is not enabled without being there. -/
theorem readApic_apicText {info : AcpiInfo} (henabled : info.apicEnabled = true → info.hasApic = true)
    (present : Bool) (cs : List Byte) :
    readApic (apicText info ++ (statusFormat .vga (.ofFlag present) ++ cs))
      = some ((info.hasApic, info.apicEnabled), statusFormat .vga (.ofFlag present) ++ cs) := by
  rw [readApic, apicText]
  cases happic : info.hasApic with
  | false =>
      have hdisabled : info.apicEnabled = false :=
        Bool.eq_false_iff.mpr (fun h => absurd ((henabled h).symm.trans happic) (by decide))
      have hread := readStatus_statusFormat .apic false (statusFormat .vga (.ofFlag present) ++ cs)
      rw [show Status.ofFlag false = .notDetected from rfl] at hread
      rw [if_neg Bool.false_ne_true, hdisabled, hread, Option.map_some]
      simp only [readEnabled_vga]
  | true =>
      have hread := readStatus_statusFormat .apic true
      rw [show Status.ofFlag true = .detected from rfl] at hread
      rw [if_pos rfl, List.append_assoc, hread, Option.map_some]
      cases info.apicEnabled with
      | false => simp only [Bool.false_eq_true, if_false, List.nil_append, readEnabled_vga]
      | true => simp only [if_true, readEnabled, expect_append]

/-! ## The report -/

/-- What `acpi_init` has found. -/
def acpiSummary (m : ℕ → Byte) (info : AcpiInfo) (tables : List ListedTable) : AcpiSummary :=
  { version := member m info.rsdp rsdpRevision
    tables := tables.map ListedTable.line
    hasApic := info.hasApic
    apicEnabled := info.apicEnabled
    hasVga := info.hasVga
    hasI8042 := info.hasI8042
    has8259 := info.has8259
    numCores := info.numCores }

/-- What can be read back of it. -/
def printedSummary (m : ℕ → Byte) (info : AcpiInfo) (tables : List ListedTable) : AcpiSummary :=
  { acpiSummary m info tables with
    tables := tables.map ListedTable.printedLine
    numCores := (BitVec.ofInt 32 info.numCores).toInt }

section Report

variable {m : ℕ → Byte} {info : AcpiInfo} {tables : List ListedTable}

/-- A revision is a byte, so it is printed whole. -/
theorem readNumeral_revision (p : BitVec 64) :
    readNumeral 16 (FormatItem.hexText 0 (BitVec.ofNat 32 (member m p rsdpRevision)))
      = some (member m p rsdpRevision) := by
  have hbyte : member m p rsdpRevision < 256 ^ 1 := leWord_lt _ _ _
  rw [readNumeral_hexText, BitVec.toNat_ofNat, Nat.mod_eq_of_lt (by omega)]

/-- A line is not empty. -/
theorem length_tableLines (tables : List ListedTable) :
    tables.length ≤ (tables.flatMap tableText).length := by
  induction tables with
  | nil => exact Nat.le_refl 0
  | cons table tables ih =>
      have hline : 1 ≤ (tableText table).length := Nat.succ_le_of_lt (List.length_pos_of_ne_nil
        (List.append_ne_nil_of_left_ne_nil (by simp [chars]) _))
      rw [List.flatMap_cons, List.length_cons, List.length_append]
      omega

/-- **What can be read back from a report**, whatever follows it. -/
theorem readAcpiReport_text (hlen : ∀ t ∈ tables, t.signature.length = 4)
    (henabled : info.apicEnabled = true → info.hasApic = true) (rest : List Byte) :
    readAcpiReport (acpiReportText m info tables ++ rest)
      = if ∀ t ∈ tables, (0 : Byte) ∉ t.signature then some (printedSummary m info tables)
        else none := by
  have hrest : expect (chars "ACPI: ") (statusesText info ++ (coresText info.numCores ++ rest))
      = none := by
    have hapic : (chars "ACPI: ").length ≤ (apicText info).length
        ∧ ¬ chars "ACPI: " <+: apicText info := by
      unfold apicText
      cases info.hasApic <;> cases info.apicEnabled <;>
        simp [statusFormat, Device.name, Status.word, chars]
    rw [statusesText, List.append_assoc]
    exact expect_append_of_not_starts hapic.1 hapic.2 _
  unfold readAcpiReport acpiReportText versionText
  simp only [List.append_assoc, Option.bind_eq_bind]
  rw [expect_append, Option.bind_some, restOfLine_append (notMem_hexText 0 _ (by decide)),
    readNumeral_revision, Option.bind_some, readTables_lines hlen hrest]
  · split_ifs with hzero
    · unfold statusesText coresText
      simp only [List.append_assoc, Option.bind_some, readApic_apicText henabled,
        readStatus_statusFormat, expect_append,
        restOfLine_append (newline_notMem_decimalText 0 _), readInt_decimalText]
      rfl
    · rfl
  · have hlines := length_tableLines tables
    simp only [List.length_append]
    omega

theorem detectApic_apicEnabled (cpu : Cpu) (h : info.apicEnabled = true → info.hasApic = true) :
    (detectApic cpu info).apicEnabled = true → (detectApic cpu info).hasApic = true := by
  unfold detectApic
  cases cpu.cpuid1 with
  | none => exact h
  | some edx =>
      dsimp only
      by_cases hedx : edx.getLsbD 9 = true
      · rw [if_pos hedx]
        exact fun _ => rfl
      · rw [if_neg hedx]
        exact h

/-- The APIC is not enabled without being there. -/
theorem acpiDetect_apicEnabled {fuel : ℕ} {cpu : Cpu} {systemTable : BitVec 64} {info₀ : AcpiInfo}
    (h₀ : info₀.apicEnabled = true → info₀.hasApic = true)
    (h : acpiDetect m fuel cpu systemTable info₀ = .ok info) :
    info.apicEnabled = true → info.hasApic = true := by
  have hnull : acpiDetect m fuel cpu systemTable info₀ ≠ .error .nullDeref := by
    rw [h]
    exact fun h => nomatch h
  obtain ⟨rsdp, fadt, madt, hfound⟩ := tablesFound_of_ne_nullDeref hnull
  rw [hfound.acpiDetect_eq, bind_eq_ok_iff] at h
  obtain ⟨numCores, -, hinfo⟩ := h
  obtain rfl := Except.ok.inj hinfo
  exact detectApic_apicEnabled cpu h₀

/-- Signatures are printed from an array of four characters and a terminator. -/
theorem length_signature {info' : AcpiInfo} (h : acpiEnumerate m info = .ok (info', tables)) :
    ∀ t ∈ tables, t.signature.length = 4 := by
  obtain ⟨root, w, -, -, -, -, rfl⟩ := acpiEnumerate_inv h
  intro t ht
  obtain ⟨i, -, rfl⟩ := List.mem_map.mp ht
  rw [listedTable, List.length_map, List.length_range]

/-- The report is right exactly when nothing is cut off in it. -/
theorem printedSummary_eq_iff :
    printedSummary m info tables = acpiSummary m info tables
      ↔ (∀ t ∈ tables, t.start.toNat < 2 ^ 32 ∧ t.stop.toNat < 2 ^ 32)
        ∧ -2 ^ 31 ≤ info.numCores ∧ info.numCores < 2 ^ 31 := by
  have hcores : (BitVec.ofInt 32 info.numCores).toInt = info.numCores
      ↔ -2 ^ 31 ≤ info.numCores ∧ info.numCores < 2 ^ 31 := by
    rw [BitVec.toInt_ofInt, Int.bmod_eq_iff (by omega)]
    omega
  have htables : tables.map ListedTable.printedLine = tables.map ListedTable.line
      ↔ ∀ t ∈ tables, t.start.toNat < 2 ^ 32 ∧ t.stop.toNat < 2 ^ 32 := by
    rw [List.map_inj_left]
    exact forall₂_congr (fun t _ => t.printedLine_eq_iff)
  rw [← hcores, ← htables, printedSummary, acpiSummary, AcpiSummary.mk.injEq]
  simp only [true_and]

/-- **What the report of `acpi_init` says is what it has found**, whatever is printed
afterwards, exactly when nothing is cut off in it. -/
theorem readAcpiReport_eq_iff {fuel₀ : ℕ} {cpu : Cpu} {systemTable : BitVec 64}
    (h : acpiInit m fuel₀ cpu systemTable AcpiInfo.zero = .ok (info, tables)) (rest : List Byte) :
    readAcpiReport (acpiReportText m info tables ++ rest) = some (acpiSummary m info tables)
      ↔ (∀ t ∈ tables,
          (0 : Byte) ∉ t.signature ∧ t.start.toNat < 2 ^ 32 ∧ t.stop.toNat < 2 ^ 32)
        ∧ -2 ^ 31 ≤ info.numCores ∧ info.numCores < 2 ^ 31 := by
  obtain ⟨found, hdetect, henumerate⟩ := bind_eq_ok_iff.mp h
  have henabled : info.apicEnabled = true → info.hasApic = true := by
    obtain ⟨root, w, -, -, -, rfl, -⟩ := acpiEnumerate_inv henumerate
    have hfound := acpiDetect_apicEnabled (fun h => absurd h Bool.false_ne_true) hdetect
    exact hfound
  have hfaithful : readAcpiReport (acpiReportText m info tables ++ rest)
        = some (acpiSummary m info tables)
      ↔ (∀ t ∈ tables, (0 : Byte) ∉ t.signature) ∧
        printedSummary m info tables = acpiSummary m info tables := by
    rw [readAcpiReport_text (length_signature henumerate) henabled]
    split_ifs with hzero
    · rw [Option.some_inj]
      exact ⟨fun heq => ⟨hzero, heq⟩, fun h => h.2⟩
    · constructor
      · exact fun h => nomatch h
      · exact fun h => absurd h.1 hzero
  rw [hfaithful, printedSummary_eq_iff]
  constructor
  · rintro ⟨hzero, haddr, hcores⟩
    exact ⟨fun t ht => ⟨hzero t ht, haddr t ht⟩, hcores⟩
  · rintro ⟨htables, hcores⟩
    exact ⟨fun t ht => (htables t ht).1, fun t ht => (htables t ht).2, hcores⟩

end Report

/-- **The report of `acpi_init` reads back as what it has found** exactly when every table
has a signature of four characters and lies below 4 GiB, and the number of processors is
an `int`. -/
theorem acpi_report_iff {m : ℕ → Byte} {fuel₀ : ℕ} {cpu : Cpu} {systemTable : BitVec 64}
    {info : AcpiInfo} {tables : List ListedTable}
    (h : acpiInit m fuel₀ cpu systemTable AcpiInfo.zero = .ok (info, tables)) :
    (∃ N, ∀ fuel ≥ N, ∃ out,
      acpiInitReport record fuel m cpu systemTable AcpiInfo.zero [] = .ok (info, out) ∧
        readAcpiReport out = some (acpiSummary m info tables))
      ↔ (∀ t ∈ tables,
          (0 : Byte) ∉ t.signature ∧ t.start.toNat < 2 ^ 32 ∧ t.stop.toNat < 2 ^ 32)
        ∧ -2 ^ 31 ≤ info.numCores ∧ info.numCores < 2 ^ 31 := by
  obtain ⟨N, hN⟩ : ∃ N, ∀ fuel ≥ N,
      acpiInitReport record fuel m cpu systemTable AcpiInfo.zero []
        = .ok (info, acpiReportText m info tables) := by
    have hsettles := acpiInitReport_settles record h []
    rwa [run_record, List.nil_append] at hsettles
  have hfaithful := readAcpiReport_eq_iff h []
  rw [List.append_nil] at hfaithful
  rw [← hfaithful]
  constructor
  · rintro ⟨N', hN'⟩
    obtain ⟨out, hout, hsummary⟩ := hN' (max N N') (by omega)
    rw [hN _ (by omega), Except.ok.injEq, Prod.mk.injEq] at hout
    rwa [hout.2]
  · intro hread
    exact ⟨N, fun fuel hfuel => ⟨_, hN fuel hfuel, hread⟩⟩

/-- A processor with an enabled APIC. -/
def cpuWithApic : Cpu := { cpuid1 := some 0x200, apicBaseMsr := 0xFEE00900 }

/-- The tables of the firmware with an XSDT. -/
def firmwareTables : List ListedTable :=
  [listedTable (firmware 0x50) 0x6000, listedTable (firmware 0x50) 0x7000]

/-- `acpi_info` behind the walk over its MADT. -/
def firmwareFound : AcpiInfo :=
  { detectedInfo (firmware 0x50) cpuWithApic 0x3000 0x6000 0x7000 AcpiInfo.zero with numCores := 1 }

/-- `acpi_info` at the end of `acpi_init`. -/
def firmwareInfo : AcpiInfo := { firmwareFound with numEntries := 2 }

/-- What `acpi_init` finds in that firmware. -/
theorem firmware_acpiInit :
    acpiInit (firmware 0x50) 4 cpuWithApic 0x1000 AcpiInfo.zero
      = .ok (firmwareInfo, firmwareTables) := by
  have hfound := firmware_tablesFound 0x50 (Or.inl rfl)
  have hwalk : madtWalk (firmware 0x50) 4 ((0x7000 : BitVec 64).toNat + madtEntries)
      ((0x7000 : BitVec 64).toNat + madtEntries + member (firmware 0x50) 0x7000 sdtLength)
      (detectedInfo (firmware 0x50) cpuWithApic 0x3000 0x6000 0x7000 AcpiInfo.zero).numCores
        = .ok 1 := by
    decide +kernel
  have hdetect : acpiDetect (firmware 0x50) 4 cpuWithApic 0x1000 AcpiInfo.zero
      = .ok firmwareFound := by
    rw [hfound.acpiDetect_eq, hwalk, ok_bind, firmwareFound]
  have hlisted : listedRoot (firmware 0x50) 0x3000 = (0x5000, 8) := by decide +kernel
  have hroot := (hfound.enumeratedRoot_eq hdetect).trans hlisted
  have hcount : entryCount (member (firmware 0x50) 0x5000 sdtLength) 8 = 2 := by decide +kernel
  have hentries : entryTable (firmware 0x50) 0x5000 8 0 = 0x6000
      ∧ entryTable (firmware 0x50) 0x5000 8 1 = 0x7000 := by decide +kernel
  have hne : ∀ i < (entryCount (member (firmware 0x50) 0x5000 sdtLength) 8).toNat,
      entryTable (firmware 0x50) 0x5000 8 i ≠ 0 := by
    rw [hcount]
    decide +kernel
  have henumerate := acpiEnumerate_ok hroot (by decide) hne
  rw [hcount] at henumerate
  have hlist : (List.range (2 : ℤ).toNat).map
      (fun i => listedTable (firmware 0x50) (entryTable (firmware 0x50) 0x5000 8 i))
        = firmwareTables := by
    show [listedTable _ (entryTable _ _ 8 0), listedTable _ (entryTable _ _ 8 1)] = _
    rw [hentries.1, hentries.2, firmwareTables]
  rw [acpiInit, hdetect, ok_bind, henumerate, hlist, firmwareInfo]

/-- The two tables of the firmware and its processor are reported as they are. -/
theorem acpi_report_firmware :
    ∃ N, ∀ fuel ≥ N, ∃ out,
      acpiInitReport record fuel (firmware 0x50) cpuWithApic 0x1000 AcpiInfo.zero []
          = .ok (firmwareInfo, out) ∧
        readAcpiReport out = some (acpiSummary (firmware 0x50) firmwareInfo firmwareTables) := by
  refine (acpi_report_iff firmware_acpiInit).mpr ⟨?_, by decide, by decide⟩
  intro t ht
  rcases List.mem_pair.mp ht with rfl | rfl <;> decide +kernel

end GridX64
