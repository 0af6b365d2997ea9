/-
# The delivery of interrupts over a history

Devices request interrupts, the processor takes them and enters their handlers, handlers are
interrupted by others of higher priority and end with `pic_send_eoi`, and the kernel masks
and unmasks lines meanwhile.  Two invariants together say that nothing gets lost: the
in-service bits are those of the active handlers (`Nested`), and on each line what has been
delivered and what still waits are what has been latched (`Balanced`).

* `Delivering.event` — one event keeps both;
* `handlers_deliver_once` — when no handler is active, every request has been served once or
  is served by draining the pair, unless a mask keeps it back.
-/
import GridX64.PicDelivery

namespace GridX64

/-! ## Histories -/

/-- What happens on a machine whose handlers end with `pic_send_eoi`. -/
inductive HandlerEvent
  /-- A device requests an interrupt. -/
  | request (n : ℕ)
  /-- The processor takes an interrupt, if there is one, and enters its handler. -/
  | enter
  /-- The handler entered last ends its own interrupt. -/
  | leave
  /-- The kernel or a handler calls the driver for something else. -/
  | call (c : PicCall)

/-- Devices are on the lines of the pair, and the other calls neither initialise it again
nor end interrupts. -/
def HandlerEvent.Valid : HandlerEvent → Prop
  | request n => n ∈ linesByPriority
  | call (.remap _ _) => False
  | call (.sendEoi _) => False
  | call c => c.Valid
  | _ => True

/-- One event, with the handlers that have been entered and not left, the last one first. -/
def handlerEvent (s : PicBoard × List ℕ) : HandlerEvent → PicBoard × List ℕ
  | .request n => (picEvent s.1 (.request n), s.2)
  | .enter =>
      match s.1.pair.irq with
      | none => s
      | some n => (picEvent s.1 .intAck, n :: s.2)
  | .leave =>
      match s.2 with
      | [] => s
      | n :: stack => (picEvent s.1 (.call (.sendEoi (BitVec.ofNat 8 n))), stack)
  | .call c => (picEvent s.1 (.call c), s.2)

/-! ## What is in service -/

namespace PicPair

/-- What `Nested` depends on. -/
def service (s : PicPair) : (Byte × Bool) × Byte × Bool :=
  ((s.master.isr, s.master.autoEoi), s.slave.isr, s.slave.autoEoi)

theorem request_service (s : PicPair) (n : ℕ) : (s.request n).service = s.service := by
  rw [request]
  split_ifs <;> rfl

end PicPair

theorem picUpdateMask_service (combine : BitVec 32 → BitVec 32 → BitVec 32) (irq : Byte)
    {s : PicPair} (hs : s.Operational) : (picUpdateMask combine irq s).service = s.service := by
  by_cases hirq : irq < 8
  · rw [picUpdateMask_master combine hirq hs.master]
    rfl
  · rw [picUpdateMask_slave combine hirq hs.slave]
    rfl

/-- A call that neither initialises nor ends leaves what is in service. -/
theorem picStep_service {s : PicPair} (hs : s.Operational) {c : PicCall}
    (hc : (HandlerEvent.call c).Valid) : (picStep s c).service = s.service := by
  cases c with
  | setMask irq => rw [picStep, picSetMask, picUpdateMask_service _ irq hs]
  | clearMask irq => rw [picStep, picClearMask, picUpdateMask_service _ irq hs]
  | disable =>
      rw [picStep, picDisable_eq hs.master hs.slave]
      rfl
  | remap m o => exact absurd hc id
  | sendEoi irq => exact absurd hc id
  | getIsr => rfl
  | getIrr => rfl

theorem Nested.of_service {s t : PicPair} {stack : List ℕ} (h : Nested s stack)
    (hst : t.service = s.service) : Nested t stack := by
  obtain ⟨⟨hisr, hauto⟩, hisr', hauto'⟩ :
      (t.master.isr = s.master.isr ∧ t.master.autoEoi = s.master.autoEoi) ∧
        t.slave.isr = s.slave.isr ∧ t.slave.autoEoi = s.slave.autoEoi := by
    simpa only [PicPair.service, Prod.mk.injEq] using hst
  refine { master_manual := hauto.trans h.master_manual
           slave_manual := hauto'.trans h.slave_manual
           device := h.device
           ordered := h.ordered
           master_bit := ?_
           slave_bit := ?_ }
  · rw [hisr]
    exact h.master_bit
  · rw [hisr']
    exact h.slave_bit

/-- No handler is active exactly when the pair is idle. -/
theorem nested_nil_iff {s : PicPair} : Nested s [] ↔ s.Idle := by
  have hclear : ∀ isr : Byte, (∀ k < 8, ¬ isr.getLsbD k = true) → isr = 0 := by
    intro isr hbits
    apply BitVec.eq_of_getLsbD_eq
    intro k hk
    have hbit : isr.getLsbD k = false := (Bool.not_eq_true _).mp (hbits k hk)
    rw [hbit, show (0 : Byte) = 0#8 from rfl, BitVec.getLsbD_zero]
  constructor
  · intro h
    refine { manual := ⟨h.master_manual, h.slave_manual⟩, master := ?_, slave := ?_ }
    · apply hclear
      intro k hk
      simp [h.master_bit k hk]
    · apply hclear
      intro k hk
      simp [h.slave_bit k hk]
  · intro h
    refine { master_manual := h.manual.master
             slave_manual := h.manual.slave
             device := by simp
             ordered := List.Pairwise.nil
             master_bit := ?_
             slave_bit := ?_ }
    · intro k _
      simp [h.master]
    · intro k _
      simp [h.slave]

/-! ## What is requested -/

/-- An edge on line `k` requests that line only. -/
theorem PicPair.request_requested (s : PicPair) {n k : ℕ} (hn : n ∈ linesByPriority)
    (hk : k ∈ linesByPriority) :
    (s.request k).requested n = (decide (n = k) || s.requested n) := by
  obtain ⟨hn, -⟩ := mem_linesByPriority.mp hn
  obtain ⟨hk, -⟩ := mem_linesByPriority.mp hk
  by_cases hk8 : k < 8
  · rw [request, if_pos hk8, requested, requested]
    by_cases hn8 : n < 8
    · rw [if_pos hn8, if_pos hn8, BitVec.getLsbD_or, getLsbD_one_shiftLeft hn8, Bool.or_comm]
    · rw [if_neg hn8, if_neg hn8, decide_eq_false (by omega), Bool.false_or]
  · rw [request, if_neg hk8, requested, requested]
    by_cases hn8 : n < 8
    · rw [if_pos hn8, if_pos hn8, decide_eq_false (by omega), Bool.false_or]
    · have hline : n - 8 = k - 8 ↔ n = k := by omega
      rw [if_neg hn8, if_neg hn8, BitVec.getLsbD_or, getLsbD_one_shiftLeft (by omega),
        Bool.or_comm, decide_eq_decide.mpr hline]

/-- What an acknowledge cycle delivers is a device's, was requested, and has priority over what
is in service. -/
theorem PicPair.irq_spec {s : PicPair} {n : ℕ} (h : s.irq = some n) :
    n ∈ linesByPriority ∧ s.requested n = true ∧ s.CanAcknowledge n := by
  rw [s.irq_eq_find] at h
  have hdeliverable := List.find?_some h
  rw [PicPair.deliverable, Bool.and_eq_true, Bool.and_eq_true, decide_eq_true_iff] at hdeliverable
  exact ⟨List.mem_of_find?_eq_some h, hdeliverable.1.1, hdeliverable.2⟩

/-- The balance of line `n`: what has been delivered and what is still waiting, against what
has been latched. -/
def Balanced (n : ℕ) (start : Bool) (b : PicBoard) : Prop :=
  (b.delivered.map Prod.fst).count n + (b.pair.requested n).toNat
    = b.latched.count n + start.toNat

theorem balanced_start (s : PicPair) (n : ℕ) : Balanced n (s.requested n) ⟨s, [], []⟩ := rfl

/-- One event keeps the balance. -/
theorem Balanced.picEvent {n : ℕ} (hn : n ∈ linesByPriority) {start : Bool} {b : PicBoard}
    (hb : Balanced n start b) {e : PicEvent} (he : e.Valid) : Balanced n start (picEvent b e) := by
  unfold Balanced at hb ⊢
  cases e with
  | request k =>
      rw [GridX64.picEvent]
      split_ifs with hwaiting
      · exact hb
      · rw [b.pair.request_requested hn he, List.count_append, List.count_singleton]
        by_cases hnk : n = k
        · subst hnk
          rw [Bool.not_eq_true] at hwaiting
          simp [hwaiting] at hb ⊢
          omega
        · simp [hnk, Ne.symm hnk, hb]
  | intAck =>
      rw [GridX64.picEvent, PicPair.intAck]
      rcases hirq : b.pair.irq with _ | k
      · exact hb
      · obtain ⟨hk, hrequested, -⟩ := PicPair.irq_spec hirq
        simp only [Option.map_some]
        rw [b.pair.acknowledge_requested hn hk, List.map_append, List.count_append,
          List.map_singleton, List.count_singleton]
        by_cases hnk : n = k
        · subst hnk
          simp [hrequested] at hb ⊢
          omega
        · simp [hnk, Ne.symm hnk, hb]
  | call c =>
      rw [GridX64.picEvent, picStep_requested]
      exact hb

/-! ## Exactly-once delivery -/

/-- What every event keeps: the in-service bits are those of the active handlers, and line
`n` is balanced. -/
structure Delivering (n : ℕ) (start : Bool) (s : PicBoard × List ℕ) : Prop where
  operational : s.1.pair.Operational
  nested : Nested s.1.pair s.2
  balanced : Balanced n start s.1

/-- One event. -/
theorem Delivering.event {n : ℕ} (hn : n ∈ linesByPriority) {start : Bool}
    {s : PicBoard × List ℕ} (hs : Delivering n start s) {e : HandlerEvent} (he : e.Valid) :
    Delivering n start (handlerEvent s e) := by
  obtain ⟨b, stack⟩ := s
  obtain ⟨hop, hnested, hbalanced⟩ := hs
  -- an event of the pair keeps it operational and the line balanced
  have hkeep : ∀ (e : PicEvent) {stack' : List ℕ}, e.Valid → Nested (picEvent b e).pair stack' →
      Delivering n start (picEvent b e, stack') := fun e _ he hnest =>
    { operational := (picEvent_spec hop he).1, nested := hnest, balanced := hbalanced.picEvent hn he }
  cases e with
  | request k =>
      apply hkeep (.request k) he
      rw [picEvent]
      split_ifs
      · exact hnested
      · exact hnested.of_service (b.pair.request_service k)
  | enter =>
      rw [handlerEvent]
      rcases hirq : b.pair.irq with _ | k
      · exact ⟨hop, hnested, hbalanced⟩
      · obtain ⟨hk, -, hready⟩ := PicPair.irq_spec hirq
        obtain ⟨hk16, hdevice⟩ := mem_linesByPriority.mp hk
        apply hkeep .intAck trivial
        rw [picEvent, PicPair.intAck, hirq]
        exact hnested.acknowledge hk16 hdevice hready
  | leave =>
      rcases stack with _ | ⟨k, stack⟩
      · exact ⟨hop, hnested, hbalanced⟩
      · exact hkeep (.call _) trivial hnested.endOfInterrupt
  | call c =>
      have hvalid : c.Valid := by
        cases c <;> first | exact he | trivial
      exact hkeep (.call c) hvalid (hnested.of_service (picStep_service hop he))

/-- A line waits once at most. -/
theorem PicPair.count_waiting (s : PicPair) {n : ℕ} (hn : n ∈ linesByPriority) :
    s.waiting.count n = (s.requested n && s.heard n).toNat := by
  have hnodup : s.waiting.Nodup := List.Nodup.sublist List.filter_sublist (by decide)
  cases hwaits : s.requested n && s.heard n
  · apply List.count_eq_zero_of_not_mem
    intro hmem
    rw [PicPair.waiting, List.mem_filter, hwaits] at hmem
    exact Bool.false_ne_true hmem.2
  · exact hnodup.count.trans (if_pos (List.mem_filter.mpr ⟨hn, hwaits⟩))

/-- **Exactly-once delivery.**  From an operational pair with nothing in service, over any
history whose handlers, nested or not, end with `pic_send_eoi`, and whatever is masked and
unmasked in between: once no handler is active and the processor has taken what waits, the
handlers entered for a line, with the request that a mask still keeps back, are as many as
the requests latched on it, with the one that may have been waiting at the start. -/
theorem handlers_deliver_once {s : PicPair} (hop : s.Operational) (hs : s.Idle)
    {events : List HandlerEvent} (hevents : ∀ e ∈ events, e.Valid) {b : PicBoard}
    (hend : run handlerEvent (⟨s, [], []⟩, []) events = (b, [])) {fuel : ℕ} (hfuel : 16 ≤ fuel)
    {n : ℕ} (hn : n ∈ linesByPriority) :
    (b.delivered.map Prod.fst ++ (drain fuel b.pair).1).count n
          + ((drain fuel b.pair).2.requested n).toNat
        = b.latched.count n + (s.requested n).toNat ∧
      (b.pair.heard n = true → (drain fuel b.pair).2.requested n = false) := by
  have hstart : Delivering n (s.requested n) (⟨s, [], []⟩, []) :=
    { operational := hop, nested := nested_nil_iff.mpr hs, balanced := balanced_start s n }
  have hrun : Delivering n (s.requested n) (b, []) := by
    rw [← hend]
    exact run_invariant_of_mem (Delivering n (s.requested n)) hstart
      (fun t ht e he => ht.event hn (hevents e he))
  obtain ⟨hlines, -, hleft⟩ := (nested_nil_iff.mp hrun.nested).drain_spec hfuel
  have hbalance := hrun.balanced
  unfold Balanced at hbalance
  rw [hlines, hleft n hn, List.count_append, b.pair.count_waiting hn]
  -- what waits is served, what a mask keeps back is not
  revert hbalance
  cases b.pair.requested n <;> cases b.pair.heard n <;> simp

/-- IRQ 8 is interrupted by IRQ 1 and requested again before its handler ends: it is entered
twice in all. -/
theorem handlers_deliver_once_nested :
    let b := (run handlerEvent (⟨picRemap 0x20 0x28 ⟨Pic.quiet, Pic.quiet⟩, [], []⟩, [])
      [.request 8, .enter, .request 1, .enter, .request 8, .call (.setMask 4), .leave, .leave]).1
    b.delivered.map Prod.fst = [8, 1] ∧
      (b.delivered.map Prod.fst ++ (drain 16 b.pair).1).count 8 = 2 := by
  intro b
  have hevents : ∀ e ∈ [.request 8, .enter, .request 1, .enter, .request 8, .call (.setMask 4),
      .leave, .leave], HandlerEvent.Valid e := by
    simp [HandlerEvent.Valid, PicCall.Valid, linesByPriority]
  have hop : (picRemap 0x20 0x28 ⟨Pic.quiet, Pic.quiet⟩).Operational := ⟨rfl, rfl⟩
  have hidle : (picRemap 0x20 0x28 ⟨Pic.quiet, Pic.quiet⟩).Idle := ⟨⟨rfl, rfl⟩, rfl, rfl⟩
  obtain ⟨hcount, hserved⟩ := handlers_deliver_once (b := b) hop hidle hevents rfl
    (Nat.le_refl 16) (by decide : 8 ∈ linesByPriority)
  have hlatched : b.latched.count 8 = 2 := by decide
  have hbefore : (picRemap 0x20 0x28 ⟨Pic.quiet, Pic.quiet⟩).requested 8 = false := by decide
  rw [hserved (by decide), hlatched, hbefore] at hcount
  exact ⟨by decide, hcount⟩

end GridX64
