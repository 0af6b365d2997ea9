/-
# Initialising the console again

`console_init` fills in `fb` before it looks at the address, so a call that fails has
already replaced the framebuffer's description under the driver of an earlier call.

* `FailsCleanly` — the call returns -1 and is otherwise as if it had not been made;
* `consoleRun_fb` — `fb` is what the last call described, failed or not;
* `failed_init_clean_iff` — a failed call changes nothing exactly when the call before it
  had failed with the same screen.
-/
import GridX64.Console

namespace GridX64

/-! ## A call that fails -/

/-- `console_init(b)` returns -1 and leaves `fb` and the driver table as they were, and
every later sequence of calls draws on the same memory with the same effect. -/
structure FailsCleanly (b : BootInfo) (s : ConsoleState) : Prop where
  returns : (consoleInit b s).1 = -1
  fb : (consoleInit b s).2.fb = s.fb
  drv : (consoleInit b s).2.drv = s.drv
  later : ∀ ops, (run consoleStep (consoleInit b s).2 ops).rgb = (run consoleStep s ops).rgb

/-- Without a framebuffer address the call fails, with `fb` filled in. -/
theorem consoleInit_null {b : BootInfo} (hb : b.FrameBufferBase = 0) (s : ConsoleState) :
    consoleInit b s = (-1, { s with fb := framebufferOf b }) := by
  have haddr : (framebufferOf b).addr = 0 := congrArg BitVec.toNat hb
  rw [consoleInit]
  exact if_pos haddr

/-- Such a call changes nothing exactly when `fb` was filled in the same way. -/
theorem failsCleanly_iff_fb {b : BootInfo} (hb : b.FrameBufferBase = 0) (s : ConsoleState) :
    FailsCleanly b s ↔ s.fb = framebufferOf b := by
  constructor
  · intro h
    have hfb := h.fb
    rw [consoleInit_null hb] at hfb
    exact hfb.symm
  · intro hfb
    have hsame : consoleInit b s = (-1, s) := by
      rw [consoleInit_null hb, ← hfb]
    constructor
    · rw [hsame]
    · rw [hsame]
    · rw [hsame]
    · intro ops
      rw [hsame]

/-! ## The framebuffer of a run -/

/-- What the kernel does with the console. -/
inductive ConsoleEvent
  | init (b : BootInfo)
  | op (op : ScreenOp)

/-- One call. -/
def consoleEvent (s : ConsoleState) : ConsoleEvent → ConsoleState
  | .init b => (consoleInit b s).2
  | .op op => consoleStep s op

/-- The boot information that a call is made with, if it is `console_init`. -/
def ConsoleEvent.bootInfo : ConsoleEvent → Option BootInfo
  | .init b => some b
  | .op _ => none

/-- The boot information of the last `console_init`. -/
def lastInit (events : List ConsoleEvent) : Option BootInfo :=
  (events.filterMap ConsoleEvent.bootInfo).getLast?

/-- **`fb` is what the last `console_init` described**, whether it returned 0 or -1. -/
theorem consoleRun_fb (s : ConsoleState) (events : List ConsoleEvent) :
    (run consoleEvent s events).fb = ((lastInit events).map framebufferOf).getD s.fb := by
  have hlast : (events.filterMap fun event => event.bootInfo.map framebufferOf).getLast?
      = (lastInit events).map framebufferOf := by
    rw [lastInit, ← List.getLast?_map, List.map_filterMap]
  rw [← hlast]
  apply run_observe (fun _ => True) ConsoleState.fb trivial
  · intro _ _ _ _
    trivial
  · intro s _ event _
    rcases event with b | op
    -- both returns of `console_init` come after `fb` was filled in
    · exact consoleInit_fb b s
    · rcases op with _ | _ | c <;> rfl

/-! ## Failing again -/

/-- Two boot informations describe the same screen without an address, in what
`console_init` takes over. -/
structure SameMissingScreen (b b' : BootInfo) : Prop where
  base : b.FrameBufferBase = 0
  base' : b'.FrameBufferBase = 0
  pitch : b'.PixelsPerScanLine * 4 = b.PixelsPerScanLine * 4
  width : b'.HorizontalResolution = b.HorizontalResolution
  height : b'.VerticalResolution = b.VerticalResolution

theorem framebufferOf_eq_iff {b b' : BootInfo} (hb : b.FrameBufferBase = 0) :
    framebufferOf b' = framebufferOf b ↔ SameMissingScreen b b' := by
  constructor
  · intro h
    have haddr : b'.FrameBufferBase.toNat = b.FrameBufferBase.toNat := congrArg Framebuffer.addr h
    exact { base := hb
            base' := (BitVec.eq_of_toNat_eq haddr).trans hb
            pitch := congrArg Framebuffer.pitch h
            width := congrArg Framebuffer.width h
            height := congrArg Framebuffer.height h }
  · intro h
    rw [framebufferOf, framebufferOf, h.base, h.base', h.pitch, h.width, h.height]

/-- **When a failed `console_init` changes nothing.**  After any calls from boot, exactly
when the last `console_init` before it had failed too, with the same screen: neither the
first call nor one after a success leaves `fb` alone. -/
theorem failed_init_clean_iff (m : Mem) (events : List ConsoleEvent) (b : BootInfo)
    (hb : b.FrameBufferBase = 0) :
    FailsCleanly b (run consoleEvent (consoleBoot m) events)
      ↔ ∃ b', lastInit events = some b' ∧ SameMissingScreen b b' := by
  rw [failsCleanly_iff_fb hb, consoleRun_fb]
  rcases hlast : lastInit events with _ | b'
  · -- at boot `fb` has no depth yet
    have hboot : (consoleBoot m).fb ≠ framebufferOf b := by
      intro h
      have hbpp : (0 : Byte) = 32 := congrArg Framebuffer.bpp h
      exact absurd hbpp (by decide)
    simp [hboot]
  · simp [framebufferOf_eq_iff hb]

/-- After a success, some output and a failure, the same failure again changes nothing. -/
theorem failed_init_clean_again :
    FailsCleanly { bootInfo1024x768 with FrameBufferBase := 0 }
      (run consoleEvent (consoleBoot ⟨fun _ => 0, []⟩)
        [.init bootInfo1024x768, .op (.putc 65),
          .init { bootInfo1024x768 with FrameBufferBase := 0 }, .op .scroll]) :=
  (failed_init_clean_iff ⟨fun _ => 0, []⟩ _ { bootInfo1024x768 with FrameBufferBase := 0 } rfl).mpr
    ⟨{ bootInfo1024x768 with FrameBufferBase := 0 }, rfl, ⟨rfl, rfl, rfl, rfl, rfl⟩⟩

/-- After a framebuffer at 3 GiB, a failed call leaves the 32-bit driver drawing at the
bottom of memory. -/
theorem failed_init_redirects :
    let s := run consoleEvent (consoleBoot ⟨fun _ => 0, []⟩) [.init bootInfo1024x768]
    let t := (consoleInit { bootInfo1024x768 with FrameBufferBase := 0 } s).2
    (consolePutc 65 s).rgb.screen.touched.all (fun a => 0xC0000000 ≤ a) ∧
      (consolePutc 65 t).rgb.screen.touched.any (fun a => a < 0x10000) ∧
      ¬ ∀ m events b, b.FrameBufferBase = 0 →
        FailsCleanly b (run consoleEvent (consoleBoot m) events) := by
  intro s t
  refine ⟨by decide +kernel, by decide +kernel, ?_⟩
  intro h
  have hfb := (h ⟨fun _ => 0, []⟩ [.init bootInfo1024x768]
    { bootInfo1024x768 with FrameBufferBase := 0 } rfl).fb
  rw [consoleInit_null rfl] at hfb
  exact absurd (congrArg Framebuffer.addr hfb) (by decide)

end GridX64
