/-
# The delivery of interrupts

A request is latched, waits until its mask and the interrupts in service let it through,
and is delivered by an acknowledge cycle of the processor, which reads a vector.

* `PicPair.irq_eq_find` — two controllers resolve priorities as one list of lines would;
* `intAck_after_remap` — which interrupt an acknowledge cycle delivers, and its vector;
* `drain_eq` — handlers that end with `pic_send_eoi` are entered in order of priority.
-/
import GridX64.PicPreemption

namespace GridX64

/-! ## Priorities -/

namespace Pic

instance (k : ℕ) (p : Pic) : Decidable (p.CanAcknowledge k) :=
  inferInstanceAs (Decidable (∀ j ≤ k, p.isr.getLsbD j = false))

/-- Input `k` is requested, not masked, and not held back by one in service. -/
def ready (input : ℕ → Bool) (p : Pic) (k : ℕ) : Bool :=
  input k && !p.imr.getLsbD k && decide (p.CanAcknowledge k)

/-- The input that has priority. -/
def priority (input : ℕ → Bool) (p : Pic) : Option ℕ := (List.range 8).find? (p.ready input)

end Pic

namespace PicPair

/-- What the slave asks for. -/
def slaveInput (s : PicPair) : Option ℕ := s.slave.priority fun k => s.slave.irr.getLsbD k

/-- The inputs of the master: the slave is on input 2. -/
def masterInputs (s : PicPair) (k : ℕ) : Bool :=
  if k = 2 then s.slaveInput.isSome else s.master.irr.getLsbD k

/-- The IRQ that an acknowledge cycle would deliver, if the processor is interrupted. -/
def irq (s : PicPair) : Option ℕ :=
  (s.master.priority s.masterInputs).bind fun k =>
    if k = 2 then s.slaveInput.map (· + 8) else some k

/-- The vector of IRQ `n` in 8086 mode: the high bits of ICW2, then the line. -/
def vector (s : PicPair) (n : ℕ) : Byte :=
  if n < 8 then vectorBase s.master.icw2 ||| BitVec.ofNat 8 n
  else vectorBase s.slave.icw2 ||| BitVec.ofNat 8 (n - 8)

/-- An acknowledge cycle of the processor: the IRQ delivered, the vector read and the pair
afterwards. -/
def intAck (s : PicPair) : Option ((ℕ × Byte) × PicPair) :=
  s.irq.map fun n => ((n, s.vector n), s.acknowledge n)

/-- IRQ `n` is requested. -/
def requested (s : PicPair) (n : ℕ) : Bool :=
  if n < 8 then s.master.irr.getLsbD n else s.slave.irr.getLsbD (n - 8)

/-- No mask keeps IRQ `n` back: neither its own nor, for the slave's lines, that of IRQ 2. -/
def heard (s : PicPair) (n : ℕ) : Bool := !s.masked n && (decide (n < 8) || !s.masked 2)

instance (n : ℕ) (s : PicPair) : Decidable (s.CanAcknowledge n) :=
  inferInstanceAs (Decidable (_ ∧ _))

/-- IRQ `n` is requested and nothing keeps it back. -/
def deliverable (s : PicPair) (n : ℕ) : Bool :=
  s.requested n && s.heard n && decide (s.CanAcknowledge n)

end PicPair

/-- The lines with devices, highest priority first: the slave's stand in for line 2. -/
def linesByPriority : List ℕ := [0, 1, 8, 9, 10, 11, 12, 13, 14, 15, 3, 4, 5, 6, 7]

theorem mem_linesByPriority {n : ℕ} : n ∈ linesByPriority ↔ n < 16 ∧ n ≠ 2 := by
  constructor
  · revert n
    decide
  · rintro ⟨hn, hne⟩
    interval_cases n <;> first | decide | exact absurd rfl hne

/-- A search in two stages is one search of the list with its elements replaced by what the
second stage looks through. -/
theorem find?_flatMap_eq_bind {α β : Type} {p : α → Bool} {f : α → Option β} {g : α → List β}
    {q : β → Bool} {xs : List α} (hf : ∀ a ∈ xs, p a = true → (f a).isSome)
    (hg : ∀ a ∈ xs, (g a).find? q = if p a then f a else none) :
    (xs.flatMap g).find? q = (xs.find? p).bind f := by
  induction xs with
  | nil => rfl
  | cons a xs ih =>
      rw [List.flatMap_cons, List.find?_append, hg a List.mem_cons_self, List.find?_cons]
      cases hp : p a
      · exact ih (fun b hb => hf b (List.mem_cons_of_mem a hb))
          (fun b hb => hg b (List.mem_cons_of_mem a hb))
      · obtain ⟨b, hb⟩ := Option.isSome_iff_exists.mp (hf a List.mem_cons_self hp)
        simp [hb]

namespace PicPair

variable (s : PicPair)

theorem deliverable_master {k : ℕ} (hk : k < 8) (hne : k ≠ 2) :
    s.deliverable k = s.master.ready s.masterInputs k := by
  have hcan : s.CanAcknowledge k ↔ s.master.CanAcknowledge k := by
    rw [CanAcknowledge, masterLine, if_pos hk]
    simp only [Nat.not_le.mpr hk, false_implies, and_true]
  simp [deliverable, Pic.ready, requested, heard, masked, masterInputs, hk, hne, hcan]

theorem deliverable_slave (k : ℕ) : s.deliverable (k + 8)
    = (s.slave.ready (fun j => s.slave.irr.getLsbD j) k
        && (!s.master.imr.getLsbD 2 && decide (s.master.CanAcknowledge 2))) := by
  have hcan : s.CanAcknowledge (k + 8) ↔ s.master.CanAcknowledge 2 ∧ s.slave.CanAcknowledge k := by
    rw [CanAcknowledge, masterLine, if_neg (by omega)]
    simp
  simp only [deliverable, Pic.ready, requested, heard, masked, hcan, Bool.decide_and,
    Nat.add_sub_cancel, if_neg (show ¬ k + 8 < 8 by omega), if_pos (show 2 < 8 by omega)]
  grind

/-- **The two controllers resolve priorities together**: the interrupt delivered is the
first deliverable line in the order of priority. -/
theorem irq_eq_find : s.irq = linesByPriority.find? s.deliverable := by
  have hlines : linesByPriority
      = (List.range 8).flatMap fun k => if k = 2 then (List.range 8).map (· + 8) else [k] := rfl
  rw [hlines]
  symm
  apply find?_flatMap_eq_bind
  · intro k hk hready
    by_cases hne : k = 2
    · subst hne
      rw [Pic.ready, masterInputs, if_pos rfl, Bool.and_assoc, Bool.and_eq_true] at hready
      rw [if_pos rfl, Option.isSome_map]
      exact hready.1
    · rw [if_neg hne]
      rfl
  · intro k hk
    by_cases hne : k = 2
    · subst hne
      have hslave : s.deliverable ∘ (· + 8) = _ := funext s.deliverable_slave
      rw [if_pos rfl, if_pos rfl, List.find?_map, hslave, Pic.ready, masterInputs, if_pos rfl,
        Bool.and_assoc]
      -- the master lets the slave through, or it does not
      cases hopen : !s.master.imr.getLsbD 2 && decide (s.master.CanAcknowledge 2)
      · simp
      · simp only [Bool.and_true]
        rw [← Pic.priority, ← slaveInput]
        cases s.slaveInput <;> rfl
    · rw [if_neg hne, if_neg hne, List.find?_singleton,
        s.deliverable_master (List.mem_range.mp hk) hne]

end PicPair

/-! ## Events -/

/-- A device requests an interrupt, the processor acknowledges one if there is one, or the
kernel calls the driver. -/
inductive PicEvent
  | request (n : ℕ)
  | intAck
  | call (c : PicCall)

namespace PicEvent

/-- Devices are on the lines of the pair. -/
def Valid : PicEvent → Prop
  | request n => n ∈ linesByPriority
  | intAck => True
  | call c => c.Valid

/-- The offsets of a `pic_remap`. -/
def offsets : PicEvent → Option (Byte × Byte)
  | call c => c.offsets
  | _ => none

end PicEvent

/-- The pair, the requests that it has latched and the interrupts that it has delivered. -/
structure PicBoard where
  pair : PicPair
  latched : List ℕ
  delivered : List (ℕ × Byte)

/-- The edge on line `n` latches a request. -/
def PicPair.request (n : ℕ) (s : PicPair) : PicPair :=
  if n < 8 then { s with master := { s.master with irr := s.master.irr ||| (1 : Byte) <<< n } }
  else { s with slave := { s.slave with irr := s.slave.irr ||| (1 : Byte) <<< (n - 8) } }

/-- One event.  An edge on a line whose request is still waiting is not seen. -/
def picEvent (b : PicBoard) : PicEvent → PicBoard
  | .request n =>
      if b.pair.requested n then b
      else { b with pair := b.pair.request n, latched := b.latched ++ [n] }
  | .intAck =>
      match b.pair.intAck with
      | none => b
      | some (d, t) => { b with pair := t, delivered := b.delivered ++ [d] }
  | .call c => { b with pair := picStep b.pair c }

/-! ## Vectors -/

namespace PicPair

variable {s : PicPair} {n : ℕ}

theorem Operational.acknowledge (hs : s.Operational) (n : ℕ) : (s.acknowledge n).Operational := by
  refine ⟨hs.master, ?_⟩
  rw [PicPair.acknowledge]
  split_ifs
  · exact hs.slave
  · exact hs.slave

theorem acknowledge_setup (s : PicPair) (n : ℕ) : (s.acknowledge n).setup = s.setup := by
  rw [acknowledge]
  split_ifs <;> rfl

theorem Operational.request (hs : s.Operational) (n : ℕ) : (s.request n).Operational := by
  rw [PicPair.request]
  split_ifs
  · exact ⟨hs.master, hs.slave⟩
  · exact ⟨hs.master, hs.slave⟩

theorem request_setup (s : PicPair) (n : ℕ) : (s.request n).setup = s.setup := by
  rw [request]
  split_ifs <;> rfl

/-- A line is or'ed into a vector base as it would be added. -/
theorem toNat_or_line {m : Byte} (hm : 8 ∣ m.toNat) {k : ℕ} (hk : k < 8) :
    (m ||| BitVec.ofNat 8 k).toNat = m.toNat + k := by
  obtain ⟨q, hq⟩ := hm
  rw [BitVec.toNat_or, BitVec.toNat_ofNat, Nat.mod_eq_of_lt (by omega), hq]
  exact (Nat.two_pow_add_eq_or_of_lt (i := 3) hk q).symm

/-- The vectors of a pair that `pic_remap(m, o)` has programmed. -/
theorem vector_toNat {m o : Byte} (hm : 8 ∣ m.toNat) (ho : 8 ∣ o.toNat)
    (hsetup : s.setup = remapped m o) (hn : n < 16) :
    (s.vector n).toNat = if n < 8 then m.toNat + n else o.toNat + (n - 8) := by
  have hmaster : vectorBase s.master.icw2 = m := congrArg PicSetup.masterBase hsetup
  have hslave : vectorBase s.slave.icw2 = o := congrArg PicSetup.slaveBase hsetup
  rw [vector, hmaster, hslave]
  split_ifs with h8
  · exact toNat_or_line hm h8
  · exact toNat_or_line ho (by omega)

end PicPair

/-- **One event** keeps the pair operational, and changes its programming only as a remap
does. -/
theorem picEvent_spec {b : PicBoard} (hb : b.pair.Operational) {e : PicEvent} (he : e.Valid) :
    (picEvent b e).pair.Operational ∧
      (picEvent b e).pair.setup
        = (e.offsets.map fun (m, o) => remapped m o).getD b.pair.setup := by
  cases e with
  | request n =>
      rw [picEvent]
      split_ifs
      · exact ⟨hb, rfl⟩
      · exact ⟨hb.request n, b.pair.request_setup n⟩
  | intAck =>
      rw [picEvent, PicPair.intAck]
      rcases b.pair.irq with _ | n
      · exact ⟨hb, rfl⟩
      · exact ⟨hb.acknowledge n, b.pair.acknowledge_setup n⟩
  | call c =>
      obtain ⟨hop, hsetup, -⟩ := picStep_spec hb he
      exact ⟨hop, hsetup⟩

theorem picEvent_remap_spec (b : PicBoard) {m o : Byte} (hm : 8 ∣ m.toNat) (ho : 8 ∣ o.toNat) :
    (picEvent b (.call (.remap m o))).pair.Operational ∧
      (picEvent b (.call (.remap m o))).pair.setup = remapped m o := by
  obtain ⟨hop, hsetup, -⟩ := picRemap_spec hm ho b.pair
  exact ⟨hop, hsetup⟩

/-- The programming after a remap and further events is that of the last remap. -/
theorem picEvents_setup (b : PicBoard) {m o : Byte} {events : List PicEvent}
    (hevents : ∀ e ∈ .call (.remap m o) :: events, e.Valid) {m' o' : Byte}
    (hlast : ((.call (.remap m o) :: events).filterMap PicEvent.offsets).getLast?
      = some (m', o')) :
    (run picEvent b (.call (.remap m o) :: events)).pair.setup = remapped m' o' := by
  have hremap : 8 ∣ m.toNat ∧ 8 ∣ o.toNat := hevents _ List.mem_cons_self
  have hvalid : ∀ e ∈ events, e.Valid := fun e he => hevents e (List.mem_cons_of_mem _ he)
  obtain ⟨hop, hsetup⟩ := picEvent_remap_spec b hremap.1 hremap.2
  have hrun := run_observe (fun b : PicBoard => b.pair.Operational) (fun b => b.pair.setup) hop
    (fun b hb e he => (picEvent_spec hb (hvalid e he)).1)
    (fun b hb e he => (picEvent_spec hb (hvalid e he)).2)
  have hmap : (events.filterMap fun e => e.offsets.map fun (m, o) => remapped m o)
      = (events.filterMap PicEvent.offsets).map fun (m, o) => remapped m o := by
    rw [List.map_filterMap]
  rw [run_cons, hrun, hmap, hsetup, List.getLast?_map]
  -- the first remap counts if there is no other
  have hcons : (.call (.remap m o) :: events).filterMap PicEvent.offsets
      = (m, o) :: events.filterMap PicEvent.offsets := rfl
  rw [hcons, List.getLast?_cons, Option.some.injEq] at hlast
  rcases hrest : (events.filterMap PicEvent.offsets).getLast? with _ | ⟨m₁, o₁⟩
  · rw [hrest, Option.getD_none, Prod.mk.injEq] at hlast
    obtain ⟨rfl, rfl⟩ := hlast
    rfl
  · rw [hrest, Option.getD_some, Prod.mk.injEq] at hlast
    obtain ⟨rfl, rfl⟩ := hlast
    rfl

/-- **What an acknowledge cycle delivers.**  Whatever state the controllers were in before
a `pic_remap`, after any valid events since then the processor gets the highest-priority
IRQ that is requested, not masked on its way and not held back by one in service, and reads
the offset of the last remap plus the number of its line; it gets none only if there is no
such IRQ. -/
theorem intAck_after_remap (b : PicBoard) {m o : Byte} {events : List PicEvent}
    (hevents : ∀ e ∈ .call (.remap m o) :: events, e.Valid) {m' o' : Byte}
    (hlast : ((.call (.remap m o) :: events).filterMap PicEvent.offsets).getLast?
      = some (m', o')) :
    let s := (run picEvent b (.call (.remap m o) :: events)).pair
    (∀ n v t, s.intAck = some ((n, v), t) ↔
      linesByPriority.find? s.deliverable = some n ∧ t = s.acknowledge n ∧
        v.toNat = if n < 8 then m'.toNat + n else o'.toNat + (n - 8)) ∧
      (s.intAck = none ↔ ∀ n ∈ linesByPriority, s.deliverable n = false) := by
  intro s
  have hsetup : s.setup = remapped m' o' := picEvents_setup b hevents hlast
  have hoffsets : 8 ∣ m'.toNat ∧ 8 ∣ o'.toNat := by
    obtain ⟨e, he, hoff⟩ := List.mem_filterMap.mp (List.mem_of_getLast? hlast)
    have hvalid := hevents e he
    rcases e with n | _ | c
    · cases hoff
    · cases hoff
    · cases c <;> cases hoff
      exact hvalid
  constructor
  · intro n v t
    rw [PicPair.intAck, s.irq_eq_find]
    constructor
    · intro h
      obtain ⟨k, hk, hout⟩ := Option.map_eq_some_iff.mp h
      rw [Prod.mk.injEq, Prod.mk.injEq] at hout
      obtain ⟨⟨rfl, rfl⟩, rfl⟩ := hout
      have hline := (mem_linesByPriority.mp (List.mem_of_find?_eq_some hk)).1
      exact ⟨hk, rfl, PicPair.vector_toNat hoffsets.1 hoffsets.2 hsetup hline⟩
    · rintro ⟨hk, rfl, hv⟩
      have hline := (mem_linesByPriority.mp (List.mem_of_find?_eq_some hk)).1
      rw [← PicPair.vector_toNat hoffsets.1 hoffsets.2 hsetup hline] at hv
      rw [hk, BitVec.eq_of_toNat_eq hv]
      rfl
  · rw [PicPair.intAck, s.irq_eq_find, Option.map_eq_none_iff, List.find?_eq_none]
    simp only [Bool.not_eq_true]

/-- IRQ 4 is requested before IRQ 9, whose vector comes first. -/
theorem intAck_after_remap_serial :
    let s := (run picEvent ⟨⟨Pic.quiet, Pic.quiet⟩, [], []⟩
      [.call (.remap 0x20 0x28), .request 4, .request 9]).pair
    s.intAck = some ((9, 0x29), s.acknowledge 9) := by
  intro s
  have hevents : ∀ e ∈ [.call (.remap 0x20 0x28), .request 4, .request 9], PicEvent.Valid e := by
    simp [PicEvent.Valid, PicCall.Valid, linesByPriority]
  have hack := intAck_after_remap ⟨⟨Pic.quiet, Pic.quiet⟩, [], []⟩ hevents rfl
  exact (hack.1 9 0x29 _).mpr ⟨by decide, rfl, by decide⟩

/-! ## Requests -/

theorem Pic.acknowledge_irr (p : Pic) (k : ℕ) {j : ℕ} (hj : j < 8) :
    (p.acknowledge k).irr.getLsbD j = (!decide (j = k) && p.irr.getLsbD j) := by
  rw [Pic.acknowledge, BitVec.getLsbD_and, BitVec.getLsbD_not, getLsbD_one_shiftLeft hj,
    decide_eq_true hj, Bool.true_and, Bool.and_comm]

namespace PicPair

variable {n k : ℕ}

/-- A device's request is withdrawn only by its own acknowledgement. -/
theorem acknowledge_requested (s : PicPair) (hn : n ∈ linesByPriority)
    (hk : k ∈ linesByPriority) :
    (s.acknowledge k).requested n = (!decide (n = k) && s.requested n) := by
  obtain ⟨hn, hndev⟩ := mem_linesByPriority.mp hn
  obtain ⟨hk, hkdev⟩ := mem_linesByPriority.mp hk
  rw [acknowledge, requested, requested]
  by_cases hn8 : n < 8
  · have hline : n = masterLine k ↔ n = k := by
      rw [masterLine]
      split_ifs <;> omega
    rw [if_pos hn8, if_pos hn8, Pic.acknowledge_irr _ _ hn8, decide_eq_decide.mpr hline]
  · rw [if_neg hn8, if_neg hn8]
    by_cases hk8 : 8 ≤ k
    · have hline : n - 8 = k - 8 ↔ n = k := by omega
      rw [if_pos hk8, Pic.acknowledge_irr _ _ (by omega), decide_eq_decide.mpr hline]
    · rw [if_neg hk8, decide_eq_false (by omega)]
      rfl

/-- No write to a port requests an interrupt or withdraws a request. -/
theorem outb_requested (s : PicPair) (port : BitVec 16) (val : Byte) (n : ℕ) :
    (s.outb port val).requested n = s.requested n := by
  have hirr : (s.outb port val).master.irr = s.master.irr
      ∧ (s.outb port val).slave.irr = s.slave.irr := by
    rw [outb]
    split_ifs
    · exact ⟨Pic.writeCommand_irr val s.master, rfl⟩
    · exact ⟨Pic.writeData_irr val s.master, rfl⟩
    · exact ⟨rfl, Pic.writeCommand_irr val s.slave⟩
    · exact ⟨rfl, Pic.writeData_irr val s.slave⟩
    · exact ⟨rfl, rfl⟩
  rw [requested, requested, hirr.1, hirr.2]

end PicPair

/-- Nor does a call of the driver. -/
theorem picStep_requested (s : PicPair) (c : PicCall) (n : ℕ) :
    (picStep s c).requested n = s.requested n := by
  have hprogram := PortProgram.exec_observe picDevice (PicPair.requested · n)
    (fun t port val => t.outb_requested port val n) c.program s
  rwa [c.exec_program] at hprogram

/-! ## Draining -/

/-- The processor takes interrupts one after another: each handler ends with
`pic_send_eoi` before the next one is entered.  The lines are those of the handlers. -/
def drain : ℕ → PicPair → List ℕ × PicPair
  | 0, s => ([], s)
  | fuel + 1, s =>
      match s.irq with
      | none => ([], s)
      | some n =>
          let (ns, t) := drain fuel (picSendEoi (BitVec.ofNat 8 n) (s.acknowledge n))
          (n :: ns, t)

/-- Nothing is in service, and the controllers wait for an end of interrupt (manual EOI). -/
structure PicPair.Idle (s : PicPair) : Prop where
  manual : s.ManualEoi
  master : s.master.isr = 0
  slave : s.slave.isr = 0

/-- The lines that are requested and that no mask keeps back, highest priority first. -/
def PicPair.waiting (s : PicPair) : List ℕ :=
  linesByPriority.filter fun n => s.requested n && s.heard n

namespace PicPair

variable {s t : PicPair} {n : ℕ}

theorem Idle.canAcknowledge (h : s.Idle) (n : ℕ) : s.CanAcknowledge n := by
  have hclear : ∀ p : Pic, p.isr = 0 → ∀ k, p.CanAcknowledge k := by
    intro p hp k j _
    rw [hp]
    exact BitVec.getLsbD_zero
  exact ⟨hclear _ h.master _, fun _ => hclear _ h.slave _⟩

/-- With nothing in service, the first line that waits has priority. -/
theorem Idle.irq_eq (h : s.Idle) : s.irq = s.waiting.head? := by
  rw [s.irq_eq_find, waiting, List.head?_filter]
  congr 1
  funext n
  rw [deliverable, decide_eq_true (h.canAcknowledge n), Bool.and_true]

/-- A handler that is not interrupted leaves nothing behind in service. -/
theorem Idle.serve (h : s.Idle) (hn : n < 16) (hdevice : n ≠ 2) :
    SameButRequests s (picSendEoi (BitVec.ofNat 8 n) (s.acknowledge n)) :=
  Served.sameButRequests (.interrupt hn hdevice (h.canAcknowledge n) .done .done) h.manual

theorem Idle.of_sameButRequests (h : s.Idle) (hst : SameButRequests s t) : t.Idle := by
  refine { manual := hst.manualEoi h.manual, master := ?_, slave := ?_ }
  · rw [hst.master]
    exact h.master
  · rw [hst.slave]
    exact h.slave

theorem heard_of_sameButRequests (hst : SameButRequests s t) (n : ℕ) : t.heard n = s.heard n := by
  have hmasked : ∀ k, t.masked k = s.masked k := by
    intro k
    rw [masked, masked, hst.master, hst.slave]
  rw [heard, heard, hmasked, hmasked]

/-- A handler withdraws the request that it serves. -/
theorem serve_requested (s : PicPair) {k : ℕ} (hk : k ∈ linesByPriority)
    (hn : n ∈ linesByPriority) :
    (picSendEoi (BitVec.ofNat 8 n) (s.acknowledge n)).requested k
      = (!decide (k = n) && s.requested k) := by
  rw [← s.acknowledge_requested hk hn]
  exact picStep_requested _ (.sendEoi _) k

/-- Serving the first line that waits leaves the others waiting. -/
theorem Idle.waiting_serve (h : s.Idle) {ns : List ℕ} (hwaiting : s.waiting = n :: ns) :
    (picSendEoi (BitVec.ofNat 8 n) (s.acknowledge n)).waiting = ns := by
  have hmem : n ∈ linesByPriority := by
    have hhead : n ∈ s.waiting := hwaiting ▸ List.mem_cons_self
    exact (List.mem_filter.mp hhead).1
  have hline := mem_linesByPriority.mp hmem
  have hnodup : (n :: ns).Nodup := hwaiting ▸ List.Nodup.sublist List.filter_sublist (by decide)
  calc (picSendEoi (BitVec.ofNat 8 n) (s.acknowledge n)).waiting
      = linesByPriority.filter fun k => !decide (k = n) && (s.requested k && s.heard k) := by
        apply List.filter_congr
        intro k hk
        rw [s.serve_requested hk hmem, heard_of_sameButRequests (h.serve hline.1 hline.2), Bool.and_assoc]
    _ = s.waiting.filter fun k => !decide (k = n) := by
        rw [waiting, List.filter_filter]
    _ = ns := by
        have hothers : ∀ k ∈ ns, (!decide (k = n)) = true := by
          intro k hk
          have hne : k ≠ n := fun heq => (List.nodup_cons.mp hnodup).1 (heq ▸ hk)
          rw [decide_eq_false hne]
          rfl
        rw [hwaiting, List.filter_cons, decide_eq_true rfl, List.filter_eq_self.mpr hothers]
        rfl

end PicPair

/-- What draining an idle pair does, by induction on the handlers that it takes. -/
theorem PicPair.Idle.drain_spec {s : PicPair} (hs : s.Idle) {fuel : ℕ} (hfuel : 16 ≤ fuel) :
    (drain fuel s).1 = s.waiting ∧ SameButRequests s (drain fuel s).2 ∧
      ∀ n ∈ linesByPriority, (drain fuel s).2.requested n = (s.requested n && !s.heard n) := by
  have hlength : s.waiting.length < fuel :=
    lt_of_le_of_lt (List.length_filter_le _ _) hfuel
  clear hfuel
  induction fuel generalizing s with
  | zero => exact absurd hlength (Nat.not_lt_zero _)
  | succ fuel ih =>
      rw [drain, hs.irq_eq]
      rcases hwaiting : s.waiting with _ | ⟨n, ns⟩
      · refine ⟨rfl, SameButRequests.refl s, ?_⟩
        intro n hn
        have hnot := List.filter_eq_nil_iff.mp hwaiting n hn
        rw [List.head?_nil]
        cases hreq : s.requested n
        · simp
        · simp only [hreq, Bool.true_and] at hnot ⊢
          simp [hnot]
      · -- one handler, and the drain of what it leaves
        have hhead : n ∈ s.waiting := hwaiting ▸ List.mem_cons_self
        obtain ⟨hmem, hwaits⟩ := List.mem_filter.mp hhead
        have hline := mem_linesByPriority.mp hmem
        have hserve := hs.serve hline.1 hline.2
        have hrest := hs.waiting_serve hwaiting
        rw [hwaiting, List.length_cons] at hlength
        obtain ⟨hlines, hframe, hleft⟩ :=
          ih (hs.of_sameButRequests hserve) (by rw [hrest]; omega)
        refine ⟨?_, hserve.trans hframe, ?_⟩
        · show n :: (drain fuel _).1 = _
          rw [hlines, hrest]
        · intro k hk
          refine (hleft k hk).trans ?_
          rw [PicPair.heard_of_sameButRequests hserve, s.serve_requested hk hmem]
          by_cases hkn : k = n
          · subst hkn
            rw [Bool.and_eq_true] at hwaits
            simp [hwaits.2]
          · simp [hkn]

/-- **Interrupts drain in order.**  From a pair with manual EOI and nothing in service, handlers
that each end with `pic_send_eoi` are entered exactly once for every line that waits, in the
order of priority, and leave nothing changed but the requests: those that a mask keeps back
are still there, and no line waits. -/
theorem drain_eq {s : PicPair} (hs : s.Idle) {fuel : ℕ} (hfuel : 16 ≤ fuel) :
    (drain fuel s).1 = s.waiting ∧ SameButRequests s (drain fuel s).2 ∧
      ∀ n ∈ linesByPriority, (drain fuel s).2.requested n = (s.requested n && !s.heard n) :=
  hs.drain_spec hfuel

/-- IRQ 9 is entered before IRQ 4, and IRQ 1 stays masked. -/
theorem drain_eq_serial :
    (drain 16 ⟨{ Pic.quiet with irr := 0x12, imr := 2 }, { Pic.quiet with irr := 2 }⟩).1
      = [9, 4] := by
  have hidle : PicPair.Idle
      ⟨{ Pic.quiet with irr := 0x12, imr := 2 }, { Pic.quiet with irr := 2 }⟩ :=
    ⟨⟨rfl, rfl⟩, rfl, rfl⟩
  rw [(drain_eq hidle (Nat.le_refl 16)).1]
  decide

end GridX64
