/-
# What kernel_main leaves on the screen

The output of `kernel_main` goes to the framebuffer console.  `kernelMain_renders` puts
the layers together: when the kernel idles, the framebuffer shows the text page of its
transcript, glyph by glyph, as long as the page has not scrolled.  `kernelMain_footprint`
needs no such condition: the kernel writes to the framebuffer and to nothing else, and
without a framebuffer it writes nothing.
-/
import GridX64.AcpiSummary
import GridX64.ConsoleInit
import GridX64.KernelMain
import GridX64.ScreenText

namespace GridX64

/-! ## The console behind console_init -/

section Console

variable {b : BootInfo}

/-- The console after `console_init` and `console_clear`. -/
theorem consoleClear_init (hb : b.Sane) (s : ConsoleState) :
    consoleClear (consoleInit b s).2
      = { fb := framebufferOf b, drv := rgb32Driver, rgb := rgbClear32 (framebufferOf b) s.rgb } := by
  rw [consoleInit_sane hb]
  rfl

/-- On this console `console_putc` is `rgb_putc32`. -/
theorem run_consolePutc (fb : Framebuffer) (r : RgbState Mem) (cs : List Byte) :
    run (fun s c => consolePutc c s) { fb := fb, drv := rgb32Driver, rgb := r } cs
      = { fb := fb, drv := rgb32Driver, rgb := run (fun s c => rgbPutc32 fb c s) r cs } := by
  induction cs generalizing r with
  | nil => rfl
  | cons c cs ih => exact ih (rgbPutc32 fb c r)

/-- Without a framebuffer nothing is drawn. -/
theorem run_noopPutc (fb : Framebuffer) (r : RgbState Mem) (cs : List Byte) :
    run (fun s c => consolePutc c s)
        { fb := fb, drv := { clear := noopClear, scroll := noopScroll, putc := noopPutc }, rgb := r } cs
      = { fb := fb, drv := { clear := noopClear, scroll := noopScroll, putc := noopPutc }, rgb := r } := by
  induction cs with
  | nil => rfl
  | cons c cs ih => exact ih

theorem BootInfo.Sane.renders_clear (hb : b.Sane) (r : RgbState Mem) :
    Renders (framebufferOf b) b.PixelsPerScanLine.toNat (rgbClear32 (framebufferOf b) r)
      (TextPage.blank chSpace) :=
  GridX64.renders_clear hb.width hb.height hb.fits hb.pitch_toNat r

end Console

/-! ## The screen of the idle kernel -/

section Idle

variable {m : ℕ → Byte} {cpu : Cpu} {b : BootInfo} {fuel₀ : ℕ} {info : AcpiInfo}
  {tables : List ListedTable}

/-- Once the firmware lets it idle, `kernel_main` ends up with its transcript typed on the
cleared console. -/
theorem kernelMain_settles (hinit : acpiInit m fuel₀ cpu b.SystemTable AcpiInfo.zero = .ok (info, tables))
    (hidles : KernelIdles m b) (s : ConsoleState) :
    Settles (fun fuel => kernelMain fuel m cpu b s)
      (info, run (fun s c => consolePutc c s) (consoleClear (consoleInit b s).2)
        (kernelText m b info tables)) :=
  kernelReport_settles _ hinit hidles.config hidles.stride hidles.map _

end Idle

/-- **The idle kernel shows its transcript**: when it does not scroll the screen, and
nothing in it is a carriage return, the framebuffer renders the page of the transcript. -/
theorem kernelMain_renders {m : ℕ → Byte} {cpu : Cpu} {b : BootInfo} (hb : b.Sane)
    (hidles : KernelIdles m b) {fuel₀ : ℕ} {info : AcpiInfo} {tables : List ListedTable}
    (hinit : acpiInit m fuel₀ cpu b.SystemTable AcpiInfo.zero = .ok (info, tables))
    (hreturn : chReturn ∉ kernelText m b info tables)
    (htop : ((TextPage.blank chSpace).type (framebufferOf b) (kernelText m b info tables)).top = 0)
    (s : ConsoleState) :
    ∃ N, ∀ fuel ≥ N, ∃ t, kernelMain fuel m cpu b s = .ok (info, t) ∧
      RendersPage (framebufferOf b) b.PixelsPerScanLine.toNat t.rgb.screen
        ((TextPage.blank chSpace).type (framebufferOf b) (kernelText m b info tables)) := by
  obtain ⟨N, hN⟩ := kernelMain_settles hinit hidles s
  refine ⟨N, fun fuel hfuel => ⟨_, hN fuel hfuel, ?_⟩⟩
  have hpage := (hb.renders_clear s.rgb).type hb.height hb.fits hreturn htop
  obtain ⟨t, htext, hshow, -, -⟩ := hpage
  rw [htext.screen] at hshow
  rw [consoleClear_init hb, run_consolePutc]
  exact hshow.rendersPage hb.line

/-- The 1024x768 framebuffer, with the firmware that has an XSDT. -/
def bootFirmware : BootInfo := { bootInfo1024x768 with SystemTable := 0x1000 }

theorem bootFirmware_sane : bootFirmware.Sane :=
  { base := by decide
    width := by decide
    height := by decide
    line := by decide
    size := by decide
    wrap := by decide }

theorem bootFirmware_idles : KernelIdles (firmware 0x50) bootFirmware :=
  { acpi := (acpiInit_returns_iff cpuWithApic AcpiInfo.zero).mp ⟨4, _, firmware_acpiInit⟩
    config := by
      unfold ConfigReadable
      decide +kernel
    stride := by decide
    map := fun _ => by decide }

/-- The transcript on that screen. -/
theorem kernelMain_renders_1024x768 :
    ∃ N, ∀ fuel ≥ N, ∃ t,
      kernelMain fuel (firmware 0x50) cpuWithApic bootFirmware (consoleBoot ⟨fun _ => 0xFF, []⟩)
          = .ok (firmwareInfo, t) ∧
        RendersPage (framebufferOf bootFirmware) 1056 t.rgb.screen
          ((TextPage.blank chSpace).type (framebufferOf bootFirmware)
            (kernelText (firmware 0x50) bootFirmware firmwareInfo firmwareTables)) :=
  kernelMain_renders bootFirmware_sane bootFirmware_idles firmware_acpiInit
    (by decide +kernel) (by decide +kernel) (consoleBoot ⟨fun _ => 0xFF, []⟩)

/-- **The footprint of the kernel**: when it idles on a sane framebuffer, it has written to
that only, and left what is right of the text area black; without a framebuffer it has
written nothing. -/
theorem kernelMain_footprint {m : ℕ → Byte} {b : BootInfo} (hidles : KernelIdles m b) (cpu : Cpu)
    (mem : Mem) :
    ∃ N, ∀ fuel ≥ N, ∃ info t, kernelMain fuel m cpu b (consoleBoot mem) = .ok (info, t) ∧
      (b.Sane → Mem.TouchesOnly (framebufferOf b).Inside mem t.rgb.screen ∧
        BlackMargin (framebufferOf b) b.PixelsPerScanLine.toNat t.rgb.screen) ∧
      (b.FrameBufferBase = 0 → t.rgb.screen = mem) := by
  obtain ⟨fuel₀, ⟨info, tables⟩, hinit⟩ := (acpiInit_returns_iff cpu AcpiInfo.zero).mpr hidles.acpi
  obtain ⟨N, hN⟩ := kernelMain_settles hinit hidles (consoleBoot mem)
  refine ⟨N, fun fuel hfuel => ⟨info, _, hN fuel hfuel, fun hb => ?_, fun hnull => ?_⟩⟩
  · have hinside : ConsoleInside b mem (consoleClear (consoleInit b (consoleBoot mem)).2) := by
      rw [consoleInit_sane hb]
      exact consoleInside_clear hb rfl rfl (Mem.TouchesOnly.refl _ _)
    have hrun : ConsoleInside b mem (run (fun s c => consolePutc c s)
        (consoleClear (consoleInit b (consoleBoot mem)).2) (kernelText m b info tables)) :=
      run_invariant (ConsoleInside b mem) hinside (fun _ h c => h.step hb (.putc c))
    exact ⟨hrun.touches, hrun.margin⟩
  · have hfail : consoleClear (consoleInit b (consoleBoot mem)).2
        = { consoleBoot mem with fb := framebufferOf b } := by
      rw [consoleInit_null hnull]
      rfl
    rw [hfail]
    exact congrArg (fun s => s.rgb.screen) (run_noopPutc _ _ _)

/-- The footprint on that screen. -/
theorem kernelMain_footprint_1024x768 :
    ∃ N, ∀ fuel ≥ N, ∃ info t,
      kernelMain fuel (firmware 0x50) cpuWithApic bootFirmware (consoleBoot ⟨fun _ => 0xFF, []⟩)
          = .ok (info, t) ∧
        (bootFirmware.Sane →
          Mem.TouchesOnly (framebufferOf bootFirmware).Inside ⟨fun _ => 0xFF, []⟩ t.rgb.screen ∧
            BlackMargin (framebufferOf bootFirmware) 1056 t.rgb.screen) ∧
        (bootFirmware.FrameBufferBase = 0 → t.rgb.screen = ⟨fun _ => 0xFF, []⟩) :=
  kernelMain_footprint bootFirmware_idles cpuWithApic ⟨fun _ => 0xFF, []⟩

end GridX64
