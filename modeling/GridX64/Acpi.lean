/-
# ACPI discovery (src/acpi/acpi.c)

Firmware memory is `m : ℕ → Byte` and a pointer is a 64-bit word; the objects that
pointers lead to do not wrap around the address space.  A read through a null
pointer is the fault `nullDeref`.  The walk over the MADT takes as many rounds as
the table's entries make it take, so it is bounded by `fuel`.

The console output of `acpi_init` is kept as the list of the tables that it
prints; the two branches that print it, for an RSDT and for an XSDT, are one
loop over a root table with entries of `w` bytes, and so are the two branches of
`find_acpi_table`.
-/
import GridX64.FallibleLoops
import GridX64.LibMem
import GridX64.LibString

namespace GridX64

/-- How a run can go wrong. -/
inductive Fault
  | nullDeref
  | outOfFuel
  deriving DecidableEq, Repr

/-! ## Reading firmware structures -/

/-- A member of a packed structure: its offset and its size. -/
structure Field where
  offset : ℕ
  size : ℕ

/-- `EFI_SYSTEM_TABLE.NumberOfTableEntries`. -/
def numberOfTableEntries : Field := ⟨104, 8⟩

/-- `EFI_SYSTEM_TABLE.ConfigurationTable`. -/
def configurationTable : Field := ⟨112, 8⟩

/-- `ConfigurationTable[i].VendorTable`, an `EFI_CONFIGURATION_TABLE` being 24 bytes. -/
def vendorTable (i : ℕ) : Field := ⟨24 * i + 16, 8⟩

/-- `RSDP.Revision`. -/
def rsdpRevision : Field := ⟨15, 1⟩

/-- `RSDP.RsdtAddress`. -/
def rsdpRsdtAddress : Field := ⟨16, 4⟩

/-- `RSDP.Length`. -/
def rsdpLength : Field := ⟨20, 4⟩

/-- `RSDP.XsdtAddress`. -/
def rsdpXsdtAddress : Field := ⟨24, 8⟩

/-- `SDTHeader.Length`. -/
def sdtLength : Field := ⟨4, 4⟩

/-- `sizeof(struct SDTHeader)`. -/
abbrev sdtHeaderSize : ℕ := 36

/-- `RSDT.Entries[i]` with `w = 4`, `XSDT.Entries[i]` with `w = 8`. -/
def tableEntry (w i : ℕ) : Field := ⟨sdtHeaderSize + w * i, w⟩

/-- `FADT.BootArchitectureFlags`. -/
def fadtBootArchitectureFlags : Field := ⟨109, 2⟩

/-- `MADT.Flags`. -/
def madtFlags : Field := ⟨40, 4⟩

/-- The offset of `MADT.Entries`. -/
abbrev madtEntries : ℕ := 44

/-- The value of a member of the object at `p`. -/
def member (m : ℕ → Byte) (p : BitVec 64) (f : Field) : ℕ := leWord m (p.toNat + f.offset) f.size

/-- `p->f`. -/
def deref (m : ℕ → Byte) (p : BitVec 64) (f : Field) : Except Fault ℕ :=
  if p = 0 then .error .nullDeref else .ok (member m p f)

/-- `p->f`, for a member that is a pointer. -/
def derefPtr (m : ℕ → Byte) (p : BitVec 64) (f : Field) : Except Fault (BitVec 64) :=
  (deref m p f).map (BitVec.ofNat 64)

/-- `memcmp(p + off, bytes, n) == 0`. -/
def memcmpAt (m : ℕ → Byte) (p : BitVec 64) (off : ℕ) (bytes : List Byte) (n : ℕ) :
    Except Fault Bool :=
  if p = 0 then .error .nullDeref
  else .ok (memcmp (fun i => m (p.toNat + off + i)) (fun i => bytes.getD i 0) n = 0)

/-- The 8-bit sum of the first `n` bytes at `p`. -/
def byteSum (m : ℕ → Byte) (p : BitVec 64) (n : ℕ) : Byte :=
  forUp n (fun i sum => sum + m (p.toNat + i)) 0

/-- `checksum_valid`: nothing is read when `len` is zero. -/
def checksumValid (m : ℕ → Byte) (addr : BitVec 64) (len : ℕ) : Except Fault Bool :=
  if addr = 0 ∧ 0 < len then .error .nullDeref else .ok (byteSum m addr len = 0)

/-- Through a pointer that may be read the sum decides. -/
theorem checksumValid_eq {m : ℕ → Byte} {addr : BitVec 64} {len : ℕ} (haddr : addr = 0 → len = 0) :
    checksumValid m addr len = .ok (decide (byteSum m addr len = 0)) := by
  apply if_neg
  rintro ⟨hnull, hpos⟩
  exact absurd (haddr hnull) hpos.ne'

/-- The memory that holds the given bytes from the given addresses on, and zeros
elsewhere. -/
def image (parts : List (ℕ × List Byte)) (a : ℕ) : Byte :=
  parts.foldr
    (fun part rest =>
      if part.1 ≤ a ∧ a < part.1 + part.2.length then part.2.getD (a - part.1) 0 else rest)
    0

/-! ## The RSDP -/

/-- `ACPI_TABLE_GUID`. -/
def acpiTableGuid : List Byte :=
  [0x30, 0x2d, 0x9d, 0xeb, 0x88, 0x2d, 0xd3, 0x11, 0x9a, 0x16, 0x00, 0x90, 0x27, 0x3f, 0xc1, 0x4d]

/-- `ACPI_20_TABLE_GUID`. -/
def acpi20TableGuid : List Byte :=
  [0x71, 0xe8, 0x68, 0x88, 0xf1, 0xe4, 0xd3, 0x11, 0xbc, 0x22, 0x00, 0x80, 0xc7, 0x3c, 0x88, 0x81]

/-- Entry `i` of the configuration table has one of the two GUIDs. -/
def isAcpiEntry (m : ℕ → Byte) (ct : BitVec 64) (i : ℕ) : Except Fault Bool := do
  let is20 ← memcmpAt m ct (24 * i) acpi20TableGuid 16
  if is20 then return true else memcmpAt m ct (24 * i) acpiTableGuid 16

/-- The checksum test of an RSDP, over `Length` bytes from revision 2 on. -/
def rsdpValid (m : ℕ → Byte) (rsdp : BitVec 64) : Except Fault Bool := do
  let revision ← deref m rsdp rsdpRevision
  if revision ≥ 2 then
    -- from 2.0 on the RSDP says itself how long it is
    let length ← deref m rsdp rsdpLength
    checksumValid m rsdp length
  else checksumValid m rsdp 20

/-- One round of the loop of `find_rsdp`: the RSDP that it returns, if it does. -/
def rsdpCandidate (m : ℕ → Byte) (systemTable : BitVec 64) (i : ℕ) :
    Except Fault (Option (BitVec 64)) := do
  let ct ← derefPtr m systemTable configurationTable
  let isAcpi ← isAcpiEntry m ct i
  if isAcpi then
    let rsdp ← derefPtr m ct (vendorTable i)
    let valid ← rsdpValid m rsdp
    return if valid then some rsdp else none
  else return none

/-- `find_rsdp`. -/
def findRsdp (m : ℕ → Byte) (systemTable : BitVec 64) : Except Fault (BitVec 64) :=
  if systemTable = 0 then .ok 0
  else do
    let n ← deref m systemTable numberOfTableEntries
    let found ← firstMatch n (rsdpCandidate m systemTable)
    return found.getD 0

/-! ## Tables -/

/-- `(Header.Length - sizeof(Header)) / w`, computed in 64 bits and stored in an `int`. -/
def entryCount (length w : ℕ) : ℤ :=
  ((((BitVec.ofNat 64 length - BitVec.ofNat 64 sdtHeaderSize) / BitVec.ofNat 64 w).setWidth 32 :
    BitVec 32)).toInt

/-- One round of the loop of `find_acpi_table`: the table that it returns, if it does. -/
def tableCandidate (m : ℕ → Byte) (root : BitVec 64) (w : ℕ) (signature : List Byte) (i : ℕ) :
    Except Fault (Option (BitVec 64)) := do
  let hdr ← derefPtr m root (tableEntry w i)
  let same ← memcmpAt m hdr 0 signature 4
  if same then
    let length ← deref m hdr sdtLength
    let valid ← checksumValid m hdr length
    return if valid then some hdr else none
  else return none

/-- The search of one root table in `find_acpi_table`. -/
def searchTable (m : ℕ → Byte) (root : BitVec 64) (w : ℕ) (signature : List Byte) :
    Except Fault (BitVec 64) := do
  let length ← deref m root sdtLength
  let valid ← checksumValid m root length
  if valid then
    -- a negative count, of a root below 36 bytes, makes no rounds
    let found ← firstMatch (entryCount length w).toNat (tableCandidate m root w signature)
    return found.getD 0
  else return 0

/-- The root table that `find_acpi_table` searches, and the size of its entries. -/
def searchedRoot (m : ℕ → Byte) (rsdp : BitVec 64) : Option (BitVec 64 × ℕ) :=
  if member m rsdp rsdpRevision ≥ 2 ∧ member m rsdp rsdpXsdtAddress ≠ 0 then
    some (BitVec.ofNat 64 (member m rsdp rsdpXsdtAddress), 8)
  else if member m rsdp rsdpRsdtAddress ≠ 0 then
    some (BitVec.ofNat 64 (member m rsdp rsdpRsdtAddress), 4)
  else none

/-- `find_acpi_table`.  The callers pass literals, so the test of `signature` for
NULL is left out. -/
def findAcpiTable (m : ℕ → Byte) (rsdp : BitVec 64) (signature : List Byte) :
    Except Fault (BitVec 64) :=
  if rsdp = 0 then .ok 0
  else
    match searchedRoot m rsdp with
    | some (root, w) => searchTable m root w signature
    | none => .ok 0

/-! ## acpi_init -/

/-- `struct ACPIInfo`. -/
structure AcpiInfo where
  rsdp : BitVec 64
  rsdt : BitVec 64
  xsdt : BitVec 64
  fadt : BitVec 64
  madt : BitVec 64
  hasApic : Bool
  apicEnabled : Bool
  hasVga : Bool
  has8259 : Bool
  hasI8042 : Bool
  numCores : ℤ
  numEntries : ℤ

/-- The initial value of `acpi_info`. -/
def AcpiInfo.zero : AcpiInfo :=
  { rsdp := 0, rsdt := 0, xsdt := 0, fadt := 0, madt := 0
    hasApic := false, apicEnabled := false, hasVga := false, has8259 := false, hasI8042 := false
    numCores := 0, numEntries := 0 }

/-- What the processor answers: `edx` of CPUID leaf 1, if there is one, and the
MSR `0x1B`. -/
structure Cpu where
  cpuid1 : Option (BitVec 32)
  apicBaseMsr : BitVec 64

/-- The APIC test. -/
def detectApic (cpu : Cpu) (info : AcpiInfo) : AcpiInfo :=
  match cpu.cpuid1 with
  | some edx =>
      if edx.getLsbD 9 then
        { info with
          hasApic := true
          apicEnabled := info.apicEnabled || cpu.apicBaseMsr.getLsbD 11 }
      else info
  | none => info

/-- The facts taken from `FADT.BootArchitectureFlags`: bit 1 is
`FADT_BOOT_8042_PRESENT`, bit 2 is `FADT_BOOT_VGA_NOT_PRESENT`. -/
def fadtFacts (flags : ℕ) (info : AcpiInfo) : AcpiInfo :=
  { info with
    hasI8042 := info.hasI8042 || flags.testBit 1
    hasVga := info.hasVga || !flags.testBit 2 }

/-- The loop `while (ptr < end)` over the MADT entries: count the local APICs
(type 0) whose `flags` have `MADT_LAPIC_ENABLED`. -/
def madtWalk (m : ℕ → Byte) (fuel ptr stop : ℕ) (numCores : ℤ) : Except Fault ℤ :=
  if ptr < stop then
    match fuel with
    | 0 => .error .outOfFuel
    | fuel + 1 =>
        let enabled := m ptr = 0 ∧ (leWord m (ptr + 4) 4).testBit 0
        -- with a zero length `ptr` stays where it is
        let length := (m (ptr + 1)).toNat
        madtWalk m fuel (ptr + length) stop (if enabled then numCores + 1 else numCores)
  else .ok numCores

/-- `acpi_init` up to the end of the MADT walk. -/
def acpiDetect (m : ℕ → Byte) (fuel : ℕ) (cpu : Cpu) (systemTable : BitVec 64)
    (info : AcpiInfo) : Except Fault AcpiInfo := do
  let rsdp ← findRsdp m systemTable
  let rsdt ← derefPtr m rsdp rsdpRsdtAddress
  let revision ← deref m rsdp rsdpRevision
  let xsdt ← (if revision > 1 then derefPtr m rsdp rsdpXsdtAddress else .ok 0)
  let fadt ← findAcpiTable m rsdp (chars "FACP")
  let madt ← findAcpiTable m rsdp (chars "APIC")
  let info := { info with rsdp := rsdp, rsdt := rsdt, xsdt := xsdt, fadt := fadt, madt := madt }
  let info := detectApic cpu info
  let flags ← deref m fadt fadtBootArchitectureFlags
  let info := fadtFacts flags info
  let flags ← deref m madt madtFlags
  let info := { info with has8259 := info.has8259 || flags.testBit 0 }
  let length ← deref m madt sdtLength
  let entries := madt.toNat + madtEntries
  let numCores ← madtWalk m fuel entries (entries + length) info.numCores
  return { info with numCores := numCores }

/-- A table as `acpi_init` prints it. -/
structure ListedTable where
  signature : List Byte
  start : BitVec 64
  stop : BitVec 64

/-- The line for entry `i` of a root table. -/
def listTable (m : ℕ → Byte) (root : BitVec 64) (w i : ℕ) : Except Fault ListedTable := do
  let header ← derefPtr m root (tableEntry w i)
  let length ← deref m header sdtLength
  return { signature := (List.range 4).map (fun k => m (header.toNat + k))
           start := header
           stop := header + BitVec.ofNat 64 length }

/-- The root table that `acpi_init` counts and lists, and the size of its entries. -/
def enumeratedRoot (m : ℕ → Byte) (info : AcpiInfo) : BitVec 64 × ℕ :=
  if member m info.rsdp rsdpRevision ≤ 1 then (info.rsdt, 4) else (info.xsdt, 8)

/-- The end of `acpi_init`: count the entries of the root table and list them. -/
def acpiEnumerate (m : ℕ → Byte) (info : AcpiInfo) : Except Fault (AcpiInfo × List ListedTable) := do
  let (root, w) := enumeratedRoot m info
  let length ← deref m root sdtLength
  let numEntries := entryCount length w
  let listed ← collect numEntries.toNat (listTable m root w)
  return ({ info with numEntries := numEntries }, listed)

/-- `acpi_init`: the final `acpi_info` and the tables listed. -/
def acpiInit (m : ℕ → Byte) (fuel : ℕ) (cpu : Cpu) (systemTable : BitVec 64) (info : AcpiInfo) :
    Except Fault (AcpiInfo × List ListedTable) := do
  let info ← acpiDetect m fuel cpu systemTable info
  acpiEnumerate m info

end GridX64
