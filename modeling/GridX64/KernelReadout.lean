/-
# Reading the transcript off the screen

The way back from the pixels: rows of glyphs are lines of text once the spaces behind them
are dropped, and the transcript of `kernel_main` begins with the report of `acpi_init`.

* `screenLines_eq` — lines that fit the screen are the lines on it;
* `kernelMain_reads_back` — the framebuffer says what the kernel has found.
-/
import GridX64.KernelScreen
import Mathlib.Data.List.DropRight

namespace GridX64

/-! ## The lines on a screen -/

/-- A row of the screen as text: the spaces at its end are dropped. -/
def rowText (row : List (Option Byte)) : List Byte :=
  (row.map (fun c => c.getD chSpace)).rdropWhile (fun c => decide (c = chSpace))

/-- The lines on the screen: the empty ones at its end are dropped. -/
def screenLines (fb : Framebuffer) (m : Mem) : List (List Byte) :=
  ((readScreen fb m).map rowText).rdropWhile (fun l => decide (l = []))

section Padding

variable {α : Type*} {l : List α} {a : α}

/-- A list filled up with a default. -/
theorem map_getD_range (a : α) {n : ℕ} (hl : l.length ≤ n) :
    (List.range n).map (fun i => l.getD i a) = l ++ List.replicate (n - l.length) a := by
  apply List.ext_getElem
  · simp only [List.length_map, List.length_range, List.length_append, List.length_replicate]
    omega
  · intro i hi hi'
    rw [List.getElem_map, List.getElem_range, List.getElem_append]
    split_ifs with h
    · exact List.getD_eq_getElem l a h
    · rw [List.getElem_replicate]
      exact List.getD_eq_default l a (by omega)

/-- Dropping the default from the end again. -/
theorem rdropWhile_append_replicate [DecidableEq α] (hl : l.getLast? ≠ some a) (n : ℕ) :
    (l ++ List.replicate n a).rdropWhile (fun b => decide (b = a)) = l := by
  induction n with
  | zero =>
      rw [List.replicate_zero, List.append_nil, List.rdropWhile_eq_self_iff]
      intro hne hlast
      exact hl (by rw [List.getLast?_eq_some_getLast hne, of_decide_eq_true hlast])
  | succ n ih =>
      rw [List.replicate_succ', ← List.append_assoc,
        List.rdropWhile_concat_pos _ _ a (decide_eq_true rfl), ih]

end Padding

/-- A line that fits a row and can be told from the spaces behind it. -/
structure ScreenLine (fb : Framebuffer) (l : List Byte) : Prop where
  printable : ∀ c ∈ l, IsPrintable c
  fits : l.length < fb.maxCols.toNat
  trimmed : l.getLast? ≠ some chSpace

/-- **The lines on a screen of lines.** -/
theorem screenLines_eq {fb : Framebuffer} {m : Mem} {lines : List (List Byte)}
    (hread : readScreen fb m = (List.range fb.maxRows.toNat).map (fun j =>
      (List.range fb.maxCols.toNat).map (fun i => some (lineCells lines j i))))
    (hlines : ∀ l ∈ lines, ScreenLine fb l) (hlast : lines.getLast? ≠ some [])
    (hrows : lines.length < fb.maxRows.toNat) : screenLines fb m = lines := by
  have hrow : ∀ j, rowText ((List.range fb.maxCols.toNat).map
      (fun i => some (lineCells lines j i))) = lines.getD j [] := by
    intro j
    have hline : (lines.getD j []).length ≤ fb.maxCols.toNat
        ∧ (lines.getD j []).getLast? ≠ some chSpace := by
      rw [List.getD_eq_getElem?_getD]
      rcases hj : lines[j]? with _ | l
      · exact ⟨Nat.zero_le _, by simp⟩
      · have hl := hlines l (List.mem_of_getElem? hj)
        exact ⟨hl.fits.le, hl.trimmed⟩
    rw [rowText, List.map_map]
    show ((List.range fb.maxCols.toNat).map
      (fun i => (lines.getD j []).getD i chSpace)).rdropWhile _ = _
    rw [map_getD_range chSpace hline.1, rdropWhile_append_replicate hline.2]
  rw [screenLines, hread, List.map_map]
  show ((List.range fb.maxRows.toNat).map (fun j => rowText ((List.range fb.maxCols.toNat).map
    (fun i => some (lineCells lines j i))))).rdropWhile _ = _
  simp only [hrow]
  rw [map_getD_range [] hrows.le, rdropWhile_append_replicate hlast]

/-! ## The kernel -/

/-- **The screen says what the kernel has found.**  When the kernel idles on a sane framebuffer
and its transcript consists of lines that fit the screen, the last one not empty, they are
the lines on it; and the report of `acpi_init` among them says what it has found, unless
something is cut off in it. -/
theorem kernelMain_reads_back {m : ℕ → Byte} {cpu : Cpu} {b : BootInfo} (hb : b.Sane)
    (hidles : KernelIdles m b) {fuel₀ : ℕ} {info : AcpiInfo} {tables : List ListedTable}
    (hinit : acpiInit m fuel₀ cpu b.SystemTable AcpiInfo.zero = .ok (info, tables))
    {lines : List (List Byte)} (htext : kernelText m b info tables = linesText lines)
    (hlines : ∀ l ∈ lines, ScreenLine (framebufferOf b) l) (hlast : lines.getLast? ≠ some [])
    (hrows : lines.length < (framebufferOf b).maxRows.toNat) (s : ConsoleState) :
    ∃ N, ∀ fuel ≥ N, ∃ t, kernelMain fuel m cpu b s = .ok (info, t) ∧
      screenLines (framebufferOf b) t.rgb.screen = lines ∧
      (readAcpiReport (linesText (screenLines (framebufferOf b) t.rgb.screen))
          = some (acpiSummary m info tables)
        ↔ (∀ t ∈ tables,
            (0 : Byte) ∉ t.signature ∧ t.start.toNat < 2 ^ 32 ∧ t.stop.toNat < 2 ^ 32)
          ∧ -2 ^ 31 ≤ info.numCores ∧ info.numCores < 2 ^ 31) := by
  obtain ⟨N, hN⟩ := kernelMain_settles hinit hidles s
  have hread := (hb.renders_clear s.rgb).readScreen_lines hb.height hb.fits
    (fun l hl => ⟨(hlines l hl).printable, (hlines l hl).fits⟩) hrows
  have hscreen := screenLines_eq hread hlines hlast hrows
  refine ⟨N, fun fuel hfuel => ⟨_, hN fuel hfuel, ?_, ?_⟩⟩
  · rw [consoleClear_init hb, run_consolePutc, htext]
    exact hscreen
  · rw [consoleClear_init hb, run_consolePutc, htext, hscreen, ← htext, kernelText]
    exact readAcpiReport_eq_iff hinit _

/-- The lines of the firmware's transcript. -/
def firmwareLines : List (List Byte) :=
  ["ACPI: Version 2", "ACPI: FACP 0x00006000 - 0x00006074",
    "ACPI: APIC 0x00007000 - 0x00007034", "APIC Status: Detected", "APIC Status: Enabled",
    "VGA Status: Detected", "I8042 Status: Not Detected", "Dual 8259 Status: Detected",
    "CPU Cores Detected: 1", "Found ACPI 2.0 at 0x00002000", "ACPI 2.0 Revision: 2"].map chars

/-- They can be read on the 1024x768 screen. -/
theorem kernelMain_reads_back_1024x768 :
    ∃ N, ∀ fuel ≥ N, ∃ t,
      kernelMain fuel (firmware 0x50) cpuWithApic bootFirmware (consoleBoot ⟨fun _ => 0xFF, []⟩)
          = .ok (firmwareInfo, t) ∧
        screenLines (framebufferOf bootFirmware) t.rgb.screen = firmwareLines ∧
        (readAcpiReport (linesText (screenLines (framebufferOf bootFirmware) t.rgb.screen))
            = some (acpiSummary (firmware 0x50) firmwareInfo firmwareTables)
          ↔ (∀ t ∈ firmwareTables,
              (0 : Byte) ∉ t.signature ∧ t.start.toNat < 2 ^ 32 ∧ t.stop.toNat < 2 ^ 32)
            ∧ -2 ^ 31 ≤ firmwareInfo.numCores ∧ firmwareInfo.numCores < 2 ^ 31) := by
  refine kernelMain_reads_back bootFirmware_sane bootFirmware_idles firmware_acpiInit
    (by decide +kernel) ?_ (by decide +kernel) (by decide +kernel)
    (consoleBoot ⟨fun _ => 0xFF, []⟩)
  have hall : firmwareLines.all (fun l => l.all (fun c => decide (IsPrintable c)) &&
      decide (l.length < (framebufferOf bootFirmware).maxCols.toNat) &&
      decide (l.getLast? ≠ some chSpace)) = true := by
    decide +kernel
  simp only [List.all_eq_true, Bool.and_eq_true, decide_eq_true_iff] at hall
  intro l hl
  obtain ⟨⟨hprintable, hfits⟩, htrimmed⟩ := hall l hl
  exact { printable := hprintable, fits := hfits, trimmed := htrimmed }

end GridX64
