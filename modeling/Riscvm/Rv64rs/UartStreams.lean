import Riscvm.Rv64rs.Devices

/-!
# The byte streams of the UART

Whatever is injected, polled, read and written, in any order: the bytes taken from the receive
buffer are the first of those that came in, the rest is still queued, and the bytes that go out
are those written to the transmit register.
-/

namespace Riscvm.Rv64rs.Uart

open Bits Exec

section Access

variable (address : U64) (size : U8) (value : U64) (uart : Uart)

/-- The accesses of offset 0 that take the first byte of the queue. -/
def Takes : Prop := address = 0 ∧ size = 1 ∧ uart.dlab = false ∧ uart.rxQueue ≠ []

/-- The byte at the front of the queue. -/
def front : U8 := uart.rxQueue.headD 0

instance : Decidable (Takes address size uart) := by
  unfold Takes
  infer_instance

theorem lsr_ready : uart.lsr &&& 1 ≠ 0 ↔ uart.rxQueue ≠ [] := by
  unfold lsr dataAvailable
  cases uart.rxQueue with
  | nil => decide
  | cons byte rest =>
      simp
      decide

theorem read_takes (h : Takes address size uart) : read address size uart =
    .ok (uart.front.setWidth 64) { uart with rxQueue := uart.rxQueue.tail } := by
  obtain ⟨rfl, rfl, hdlab, hqueue⟩ := h
  unfold read
  rw [if_neg (by decide), get_bind_apply]
  dsimp only
  rw [if_neg (by rw [hdlab]; decide)]
  unfold rbr front
  cases hq : uart.rxQueue with
  | nil => exact absurd hq hqueue
  | cons byte rest => rfl

/-- Any other read leaves the UART as it is. -/
theorem read_keeps (h : ¬Takes address size uart) :
    (size = 1 ∧ ∃ v, read address size uart = .ok v uart) ∨
      ∃ e, read address size uart = .error e uart := by
  unfold read
  by_cases hsize : size = 1
  · rw [if_neg (not_not_intro hsize), get_bind_apply]
    refine .inl ⟨hsize, ?_⟩
    split
    · by_cases hdlab : uart.dlab
      · rw [if_pos hdlab]
        exact ⟨_, rfl⟩
      · rw [if_neg hdlab]
        have hempty : uart.rxQueue = [] := by
          by_contra hne
          exact h ⟨rfl, hsize, by simpa using hdlab, hne⟩
        have hrbr : uart.rbr = (0, uart) := by
          unfold rbr
          rw [hempty]
        rw [hrbr]
        exact ⟨_, rfl⟩
    all_goals exact ⟨_, rfl⟩
  · rw [if_pos hsize]
    exact .inr ⟨_, rfl⟩

theorem rxEnable_bit : (value.setWidth 8 &&& IER_RX_ENABLE != 0) = value.getLsbD 0 := by
  have hbit : value.setWidth 8 &&& IER_RX_ENABLE ≠ 0 ↔ (value.setWidth 8).getLsbD 0 = true :=
    and_bit_ne_zero
  rw [BitVec.getLsbD_setWidth] at hbit
  by_cases h : value.getLsbD 0
  · rw [h] at hbit ⊢
    exact bne_iff_ne.mpr (hbit.mpr rfl)
  · rw [Bool.not_eq_true] at h
    rw [h] at hbit ⊢
    exact bne_eq_false_iff_eq.mpr (not_not.mp fun hne => Bool.false_ne_true (hbit.mp hne))

/-- A write that is accepted sends one byte, or sets the receive interrupt, or neither; one that
is not changes nothing. -/
theorem write_cases :
    (∃ e, write address size value uart = .error e uart) ∨
      ∃ uart', write address size value uart = .ok () uart' ∧ uart'.rxQueue = uart.rxQueue ∧
        uart'.output = (if address = 0 ∧ uart.dlab = false then
          uart.output.map (· ++ [value.setWidth 8]) else uart.output) ∧
        uart'.interruptEnabledRx = (if address = 1 ∧ uart.dlab = false then
          value.setWidth 8 &&& IER_RX_ENABLE != 0 else uart.interruptEnabledRx) ∧
        uart'.dlab = (if address = 3 then value.setWidth 8 &&& LCR_BAUD_LATCH != 0
          else uart.dlab) := by
  unfold write
  by_cases hsize : size = 1
  · rw [if_neg (not_not_intro hsize), get_bind_apply]
    split
    · exact .inl ⟨_, rfl⟩
    · exact .inl ⟨_, rfl⟩
    · right
      cases hdlab : uart.dlab
      · exact ⟨_, rfl, rfl, rfl, rfl, hdlab⟩
      · exact ⟨_, rfl, rfl, rfl, rfl, hdlab⟩
    · cases hdlab : uart.dlab
      · rw [if_neg Bool.false_ne_true]
        by_cases hflags : value.setWidth 8 &&& ~~~(IER_RX_ENABLE ||| IER_TX_ENABLE) ≠ 0
        · rw [if_pos hflags]
          exact .inl ⟨_, rfl⟩
        · rw [if_neg hflags]
          exact .inr ⟨_, rfl, rfl, rfl, rfl, hdlab⟩
      · exact .inr ⟨_, rfl, rfl, rfl, rfl, hdlab⟩
    · exact .inr ⟨_, rfl, rfl, rfl, rfl, rfl⟩
    next h0 h1 h3 =>
      right
      exact ⟨_, rfl, rfl, by rw [if_neg (fun h => h0 h.1)], by rw [if_neg (fun h => h1 h.1)],
        (if_neg h3).symm⟩
  · rw [if_pos hsize]
    exact .inl ⟨_, rfl⟩

/-- The writes that are accepted: of one byte, not to a register that is read only, and to the
interrupt enable register only the two flags that there are. -/
def Accepts : Prop :=
  size = 1 ∧ address ≠ 5 ∧ address ≠ 6 ∧ (address = 1 → uart.dlab = false →
    value.setWidth 8 &&& ~~~(IER_RX_ENABLE ||| IER_TX_ENABLE) = 0)

theorem read_ok_iff : (∃ v uart', read address size uart = .ok v uart') ↔ size = 1 := by
  by_cases takes : Takes address size uart
  · exact iff_of_true ⟨_, _, read_takes _ _ _ takes⟩ takes.2.1
  · constructor
    · rintro ⟨v, uart', hread⟩
      obtain ⟨hsize, -⟩ | ⟨e, herror⟩ := read_keeps _ _ _ takes
      · exact hsize
      · cases herror.symm.trans hread
    · rintro rfl
      obtain ⟨-, v, hread⟩ | ⟨e, herror⟩ := read_keeps _ _ _ takes
      · exact ⟨v, uart, hread⟩
      · rw [read, if_neg (not_not_intro rfl), get_bind_apply] at herror
        split at herror
        · split at herror <;> cases herror
        all_goals cases herror

theorem write_ok_iff :
    (∃ uart', write address size value uart = .ok () uart') ↔ Accepts address size value uart := by
  unfold write Accepts
  by_cases hsize : size = 1
  · rw [if_neg (not_not_intro hsize), get_bind_apply]
    split
    · exact iff_of_false nofun fun h => h.2.1 rfl
    · exact iff_of_false nofun fun h => h.2.2.1 rfl
    · refine iff_of_true ?_ ⟨hsize, by decide, by decide, fun h => absurd h (by decide)⟩
      split <;> exact ⟨_, rfl⟩
    · cases hdlab : uart.dlab
      · rw [if_neg Bool.false_ne_true]
        by_cases hflags : value.setWidth 8 &&& ~~~(IER_RX_ENABLE ||| IER_TX_ENABLE) = 0
        · rw [if_neg (not_not_intro hflags)]
          exact iff_of_true ⟨_, rfl⟩ ⟨hsize, by decide, by decide, fun _ _ => hflags⟩
        · rw [if_pos hflags]
          exact iff_of_false nofun fun h => hflags (h.2.2.2 rfl rfl)
      · exact iff_of_true ⟨_, rfl⟩ ⟨hsize, by decide, by decide, fun _ h => absurd h (by decide)⟩
    · exact iff_of_true ⟨_, rfl⟩ ⟨hsize, by decide, by decide, fun h => absurd h (by decide)⟩
    next h5 h6 _ h1 _ => exact iff_of_true ⟨_, rfl⟩ ⟨hsize, h5, h6, fun h => absurd h h1⟩
  · rw [if_pos hsize]
    exact iff_of_false nofun fun h => hsize h.1

theorem write_sends (h : uart.dlab = false) : ∃ uart', write 0 1 value uart = .ok () uart' ∧
    uart'.output = uart.output.map (· ++ [value.setWidth 8]) := by
  obtain ⟨uart', hwrite⟩ := (write_ok_iff 0 1 value uart).mpr
    ⟨rfl, by decide, by decide, fun h => absurd h (by decide)⟩
  obtain ⟨e, herror⟩ | ⟨uart'', hok, -, houtput, -⟩ := write_cases 0 1 value uart
  · cases herror.symm.trans hwrite
  · rw [if_pos ⟨rfl, h⟩] at houtput
    exact ⟨uart'', hok, houtput⟩

end Access

/-- What happens to a UART. -/
inductive Event where
  | inject (data : List U8)
  | pollInput
  | read (address : U64) (size : U8)
  | write (address : U64) (size : U8) (value : U64)

/-- The bytes that the next `poll_input` finds. -/
def polled (uart : Uart) : List U8 :=
  match uart.input with
  | some (some bytes :: _) => bytes.take 256
  | some (none :: _) | some [] | none => []

/-- What was seen of a UART: the bytes that came in, the values that reads of offset 0 returned
while data was available there, the bytes written to be sent, and whether the last interrupt
enable that was accepted is one for reception. -/
structure Streams where
  received : List U8
  taken : List U64
  sent : List U8
  rxEnabled : Bool

/-- The UART after an event, and what is then seen of it. -/
def step : Uart × Streams → Event → Uart × Streams
  | (uart, streams), .inject data =>
      (uart.inject data, { streams with received := streams.received ++ data })
  | (uart, streams), .pollInput =>
      (uart.pollInput, { streams with received := streams.received ++ uart.polled })
  | (uart, streams), .read address size =>
      match read address size uart with
      | .ok value uart' =>
          if address = 0 ∧ uart.dlab = false ∧ uart.lsr &&& 1 ≠ 0 then
            (uart', { streams with taken := streams.taken ++ [value] })
          else (uart', streams)
      | .error _ uart' => (uart', streams)
  | (uart, streams), .write address size value =>
      match write address size value uart with
      | .ok _ uart' =>
          if address = 0 ∧ uart.dlab = false then
            (uart', { streams with sent := streams.sent ++ [value.setWidth 8] })
          else if address = 1 ∧ uart.dlab = false then
            (uart', { streams with rxEnabled := value.getLsbD 0 })
          else (uart', streams)
      | .error _ uart' => (uart', streams)

/-- Nothing is lost, doubled or out of order; `output` is what the output held at first. -/
structure Lossless (output : Option (List U8)) (uart : Uart) (streams : Streams) : Prop where
  taken : streams.received.map (·.setWidth 64) =
    streams.taken ++ uart.rxQueue.map (·.setWidth 64)
  sent : uart.output = output.map (· ++ streams.sent)
  ready : uart.lsr &&& 1 ≠ 0 ↔ uart.rxQueue ≠ []
  interrupt : uart.interruptStatus = 1 ↔ uart.rxQueue ≠ [] ∧ streams.rxEnabled = true

theorem interruptStatus_eq_one (uart : Uart) :
    uart.interruptStatus = 1 ↔ uart.rxQueue ≠ [] ∧ uart.interruptEnabledRx = true := by
  unfold interruptStatus dataAvailable
  cases uart.rxQueue <;> cases uart.interruptEnabledRx <;> simp

/-- The part of `Lossless` that steps carry. -/
structure Kept (output : Option (List U8)) (uart : Uart) (streams : Streams) : Prop where
  taken : streams.received.map (·.setWidth 64) =
    streams.taken ++ uart.rxQueue.map (·.setWidth 64)
  sent : uart.output = output.map (· ++ streams.sent)
  enabled : uart.interruptEnabledRx = streams.rxEnabled

theorem Kept.lossless {output : Option (List U8)} {uart : Uart} {streams : Streams}
    (kept : Kept output uart streams) : Lossless output uart streams where
  taken := kept.taken
  sent := kept.sent
  ready := lsr_ready uart
  interrupt := by rw [interruptStatus_eq_one, kept.enabled]

theorem pollInput_eq (uart : Uart) : uart.pollInput =
    { uart with
      rxQueue := uart.rxQueue ++ uart.polled
      input := uart.pollInput.input } := by
  unfold pollInput polled
  obtain _ | (_ | ⟨_ | bytes, rest⟩) := uart.input
  all_goals simp

theorem Kept.step {output : Option (List U8)} {s : Uart × Streams}
    (kept : Kept output s.1 s.2) (event : Event) :
    Kept output (step s event).1 (step s event).2 := by
  obtain ⟨uart, streams⟩ := s
  obtain ⟨taken, sent, enabled⟩ := kept
  cases event with
  | inject data =>
      refine ⟨?_, sent, enabled⟩
      simp only [Uart.step, inject, List.map_append]
      rw [taken, List.append_assoc]
  | pollInput =>
      simp only [Uart.step]
      rw [pollInput_eq]
      refine ⟨?_, sent, enabled⟩
      simp only [List.map_append]
      rw [taken, List.append_assoc]
  | read address size =>
      simp only [Uart.step]
      by_cases takes : Takes address size uart
      · obtain ⟨haddress, -, hdlab, hqueue⟩ := id takes
        rw [read_takes _ _ _ takes]
        dsimp only
        rw [if_pos ⟨haddress, hdlab, (lsr_ready uart).mpr hqueue⟩]
        refine ⟨?_, sent, enabled⟩
        obtain ⟨byte, rest, hrest⟩ := List.exists_cons_of_ne_nil hqueue
        rw [taken, front, hrest, List.append_assoc]
        rfl
      · obtain ⟨hsize, v, hread⟩ | ⟨e, hread⟩ := read_keeps _ _ _ takes
        · rw [hread]
          dsimp only
          rw [if_neg]
          · exact ⟨taken, sent, enabled⟩
          · rintro ⟨haddress, hdlab, hready⟩
            exact takes ⟨haddress, hsize, hdlab, (lsr_ready uart).mp hready⟩
        · rw [hread]
          exact ⟨taken, sent, enabled⟩
  | write address size value =>
      simp only [Uart.step]
      obtain ⟨e, hwrite⟩ | ⟨uart', hwrite, hqueue, houtput, hrx, -⟩ :=
        write_cases address size value uart
      · rw [hwrite]
        exact ⟨taken, sent, enabled⟩
      · rw [hwrite]
        dsimp only
        rw [← hqueue] at taken
        by_cases h0 : address = 0 ∧ uart.dlab = false
        · rw [if_pos h0] at houtput ⊢
          rw [if_neg (fun h1 => absurd (h0.1.symm.trans h1.1) (by decide))] at hrx
          refine ⟨taken, ?_, hrx.trans enabled⟩
          rw [houtput, sent, Option.map_map]
          congr
          funext bytes
          exact List.append_assoc _ _ _
        · rw [if_neg h0] at houtput ⊢
          by_cases h1 : address = 1 ∧ uart.dlab = false
          · rw [if_pos h1] at hrx ⊢
            exact ⟨taken, houtput.trans sent, hrx.trans (rxEnable_bit value)⟩
          · rw [if_neg h1] at hrx ⊢
            exact ⟨taken, houtput.trans sent, hrx.trans enabled⟩

theorem Kept.run {output : Option (List U8)} {s : Uart × Streams} (kept : Kept output s.1 s.2)
    (events : List Event) :
    Kept output (events.foldl Uart.step s).1 (events.foldl Uart.step s).2 := by
  induction events generalizing s with
  | nil => exact kept
  | cons event events ih => exact ih (kept.step event)

theorem step_read (s : Uart × Streams) {address : U64} {size : U8} (h : ¬Takes address size s.1) :
    (Uart.step s (.read address size)).1 = s.1 := by
  obtain ⟨uart, streams⟩ := s
  simp only [Uart.step]
  obtain ⟨-, v, hread⟩ | ⟨e, hread⟩ := read_keeps _ _ _ h
  · rw [hread]
    dsimp only
    split <;> rfl
  · rw [hread]

theorem step_write (s : Uart × Streams) (address : U64) (size : U8) (value : U64) :
    (Uart.step s (.write address size value)).1.rxQueue = s.1.rxQueue := by
  obtain ⟨uart, streams⟩ := s
  simp only [Uart.step]
  obtain ⟨e, hwrite⟩ | ⟨uart', hwrite, hqueue, -⟩ := write_cases address size value uart
  · rw [hwrite]
  · rw [hwrite]
    dsimp only
    split
    · exact hqueue
    · split <;> exact hqueue

theorem read_rejected {address : U64} {size : U8} {uart uart' : Uart} {e : Fault}
    (h : read address size uart = .error e uart') : uart' = uart := by
  by_cases takes : Takes address size uart
  · rw [read_takes _ _ _ takes] at h
    cases h
  · obtain ⟨-, v, hread⟩ | ⟨e', hread⟩ := read_keeps _ _ _ takes
    · cases hread.symm.trans h
    · cases hread.symm.trans h
      rfl

theorem write_rejected {address : U64} {size : U8} {value : U64} {uart uart' : Uart} {e : Fault}
    (h : write address size value uart = .error e uart') : uart' = uart := by
  obtain ⟨e', hwrite⟩ | ⟨uart'', hwrite, -⟩ := write_cases address size value uart
  · cases hwrite.symm.trans h
    rfl
  · cases hwrite.symm.trans h

/-- The UART serves what it has to: a read of one byte always, and with a byte in the queue one of
offset 0 returns it; the status register; a write that is accepted, and one of offset 0 sends its
byte. -/
structure Serves (uart : Uart) : Prop where
  reads : ∀ address size, (∃ v uart', read address size uart = .ok v uart') ↔ size = 1
  takes : ∀ address size, Takes address size uart → read address size uart =
    .ok (uart.front.setWidth 64) { uart with rxQueue := uart.rxQueue.tail }
  status : read 5 1 uart = .ok (uart.lsr.setWidth 64) uart
  writes : ∀ address size value, (∃ uart', write address size value uart = .ok () uart') ↔
    Accepts address size value uart
  sends : ∀ value, uart.dlab = false → ∃ uart', write 0 1 value uart = .ok () uart' ∧
    uart'.output = uart.output.map (· ++ [value.setWidth 8])

theorem serves (uart : Uart) : Serves uart where
  reads address size := read_ok_iff address size uart
  takes address size := read_takes address size uart
  status := rfl
  writes address size value := write_ok_iff address size value uart
  sends value := write_sends value uart

/-- A new UART, and the record of it. -/
def fresh (size : U64) (output : Option (List U8)) (input : Option (List (Option (List U8)))) :
    Uart × Streams :=
  (new size output input, ⟨[], [], [], false⟩)

/-- After every run the streams are lossless and in order, every access that the registers allow is
served, and a read takes a byte only from offset 0 where there is one, a write never, a rejected
access nothing at all. -/
theorem streams_lossless (size : U64) (output : Option (List U8))
    (input : Option (List (Option (List U8)))) (events : List Event) :
    let s := events.foldl Uart.step (fresh size output input)
    Lossless output s.1 s.2 ∧ Serves s.1 ∧
    (∀ address size, ¬Takes address size s.1 →
      (Uart.step s (.read address size)).1 = s.1) ∧
    (∀ address size value, (Uart.step s (.write address size value)).1.rxQueue = s.1.rxQueue) ∧
    (∀ address size e uart, read address size s.1 = .error e uart → uart = s.1) ∧
    ∀ address size value e uart, write address size value s.1 = .error e uart → uart = s.1 := by
  intro s
  have kept : Kept output s.1 s.2 :=
    Kept.run (s := fresh size output input) ⟨rfl, by cases output <;> simp [fresh, new], rfl⟩ events
  exact ⟨kept.lossless, serves s.1, fun _ _ => step_read s, step_write s,
    fun _ _ _ _ => read_rejected, fun _ _ _ _ _ => write_rejected⟩

end Riscvm.Rv64rs.Uart
