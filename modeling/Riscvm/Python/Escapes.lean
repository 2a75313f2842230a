import Riscvm.Python.Bus
import Riscvm.Python.Traps

/-!
# Encodings that abort the emulator

On a machine whose RAM covers the memory operand, an uncompressed instruction either retires
or raises its trap, and `execute` delivers it. The actor of the compressed instructions checks
its operands with assertions and internal errors, which `execute` does not catch.
-/

namespace Riscvm.Python

open Bytes Exec

/-! ## The memory operand -/

namespace Bus

/-- The bytes lie in one RAM of the bus. -/
structure Covers (bus : Bus) (address size : Int) : Prop where
  device : ∃ range ram, RangeManger.getRange address size bus.rangeManager =
      .ok range bus.rangeManager ∧ bus.devices.lookup range = some ram ∧
    address - range.1 + size ≤ ram.length

/-- The sizes of the memory operands. -/
abbrev Width (size : Int) : Prop := size = 1 ∨ size = 2 ∨ size = 4 ∨ size = 8

theorem getDevice_covers {bus : Bus} {address size : Int} (h : bus.Covers address size) :
    ∃ device, getDevice address size bus = .ok device bus := by
  obtain ⟨range, ram, hrange, hlookup, -⟩ := h.device
  refine ⟨(ram, range), ?_⟩
  have hbus : onRangeManger (RangeManger.getRange address size) bus = .ok range bus :=
    zoom_ok hrange
  rw [getDevice, bind_ok hbus, get_bind_apply, hlookup]
  rfl

theorem read_covers {bus : Bus} {address size : Int} (h : bus.Covers address size)
    (width : Width size) : ∃ value, Board.read address size bus = .ok value bus := by
  obtain ⟨device, hdevice⟩ := getDevice_covers h
  have hram : Ram.read (address - device.2.1) size device.1 () =
      .ok ((leNat (extract device.1 (address - device.2.1).toNat size.toNat) : Nat) : Int) () := by
    rw [Ram.read, if_pos width]
    rfl
  exact ⟨_, (bind_ok hdevice _).trans (zoom_ok hram)⟩

theorem write_covers {bus : Bus} {address size : Int} (h : bus.Covers address size)
    (width : Width size) (value : Int) :
    ∃ bus', Board.write address size value bus = .ok () bus' := by
  obtain ⟨device, hdevice⟩ := getDevice_covers h
  have hram : Ram.write (address - device.2.1) size value device.1 () =
      .ok (splice device.1 (address - device.2.1).toNat
        (leBytes size.toNat (value % 256 ^ size.toNat).toNat)) () := by
    rw [Ram.write, if_pos width]
    rfl
  exact ⟨_, (bind_ok hdevice _).trans ((bind_ok (zoom_ok hram) _).trans rfl)⟩

end Bus

/-- Address translation is off. -/
def Bare (cpu : Cpu) : Prop := cpu.csrs CSR.SATP >>> 60 = 0

/-- RAM covers the operand, if it is accessed at all. -/
def Served (hart : Hart Bus) (access : Access) : Prop :=
  access.trap = none → hart.board.Covers access.address access.size

section Operands

variable {hart : Hart Bus} {access : Access}

theorem translate_bare {σ : Type} [Board σ] {hart : Hart σ} (bare : Bare hart.cpu) (va : Int)
    (kind : String) :
    translate va kind hart = .ok va hart := by
  rw [translate, getCpu, bind_assoc, get_bind_apply]
  rw [pure_bind]
  dsimp only
  rw [if_pos (show hart.cpu.csrs CSR.SATP >>> 60 = 0 from bare)]
  rfl

theorem checkAlignment_aligned {address size : Int} {cause : Nat}
    (h : ¬Int.land address (size - 1) ≠ 0) :
    checkAlignment address size cause hart = .ok () hart := by
  rw [checkAlignment, if_neg fun hboth => h hboth.2]
  rfl

theorem aligned_of_trap (h : access.trap = none) :
    ¬Int.land access.address (access.size - 1) ≠ 0 := by
  intro hmis
  rw [Access.trap, if_pos hmis] at h
  cases h

theorem read_served (bare : Bare hart.cpu) (served : Served hart access)
    (width : Bus.Width access.size) (aligned : access.trap = none) :
    ∃ value, read access.address access.size hart = .ok value hart := by
  have haligned := aligned_of_trap aligned
  obtain ⟨value, hread⟩ := Bus.read_covers (served aligned) width
  refine ⟨value, ?_⟩
  rw [read, bind_ok (checkAlignment_aligned haligned), bind_ok (translate_bare bare _ _)]
  exact zoom_ok hread

theorem write_served (bare : Bare hart.cpu) (served : Served hart access)
    (width : Bus.Width access.size) (aligned : access.trap = none) (value : Int) :
    ∃ hart', write access.address access.size value hart = .ok () hart' ∧ hart'.cpu = hart.cpu := by
  have haligned := aligned_of_trap aligned
  obtain ⟨bus', hwrite⟩ := Bus.write_covers (served aligned) width value
  refine ⟨⟨hart.cpu, bus'⟩, ?_, rfl⟩
  rw [write, bind_ok (checkAlignment_aligned haligned), bind_ok (translate_bare bare _ _)]
  exact zoom_ok hwrite

end Operands

/-! ## Calls that return -/

/-- The call returns while an instruction is current. -/
def Completes {α : Type} (x : Call (Hart Bus) α) : Prop :=
  ∀ hart, hart.cpu.instruction.isSome →
    ∃ a hart', x hart = .ok a hart' ∧ hart'.cpu.instruction.isSome

section Completes

variable {α β : Type} {x : Call (Hart Bus) α} {f : α → Call (Hart Bus) β}

theorem Completes.bind (first : Completes x) (rest : ∀ a, Completes (f a)) :
    Completes (x >>= f) := by
  intro hart h
  obtain ⟨a, hart', hx, h'⟩ := first hart h
  obtain ⟨b, hart'', hf, h''⟩ := rest a hart' h'
  exact ⟨b, hart'', (bind_ok hx f).trans hf, h''⟩

theorem Completes.ends (h : Completes x) {hart : Hart Bus} (hi : hart.cpu.instruction.isSome) :
    ∃ a hart', x hart = .ok a hart' := by
  obtain ⟨a, hart', hx, -⟩ := h hart hi
  exact ⟨a, hart', hx⟩

theorem completes_pure (a : α) : Completes (pure a) := fun hart h => ⟨a, hart, rfl, h⟩

theorem completes_modifyCpu {g : Cpu → Cpu} (h : ∀ cpu, (g cpu).instruction = cpu.instruction) :
    Completes (modifyCpu g) :=
  fun hart hsome => ⟨(), _, rfl, (congrArg Option.isSome (h hart.cpu)).trans hsome⟩

theorem completes_rd (value : Int) : Completes (rd value) := by
  intro hart h
  obtain ⟨instruction, hi⟩ := Option.isSome_iff_exists.mp h
  rw [rd, getCpu_bind_apply, hi]
  refine Completes.bind (completes_modifyCpu ?_) (fun _ => completes_modifyCpu ?_) hart h
  · exact fun _ => rfl
  · exact fun _ => rfl

theorem completes_deliver (cause : Nat) (isInterrupt : Bool) (tval : Int) :
    Completes (deliver cause isInterrupt tval) := by
  intro hart h
  refine ⟨_, _, rfl, ?_⟩
  change (raiseTrap hart.cpu cause isInterrupt tval).2.instruction.isSome
  unfold raiseTrap
  dsimp only
  split
  next => exact h
  next => exact h

theorem completes_csrWrite (addr : Nat) (value : Int) :
    Completes (modifyCpu (csrWrite addr value)) := by
  refine completes_modifyCpu fun cpu => ?_
  unfold csrWrite
  split
  next => rfl
  next =>
    split
    next => rfl
    next => rfl

theorem completes_result (value next : Int) :
    Completes (do rd value; return next : Call (Hart Bus) Int) :=
  .bind (completes_rd _) fun _ => completes_pure _

end Completes

/-! ## Uncompressed instructions -/

namespace Rv64i

variable {x : Nat} {mnemonic : Mnemonic} {hart : Hart Bus}

theorem access_width {cpu : Cpu} {operand : Access} (h : access x cpu mnemonic = some operand) :
    Bus.Width operand.size := by
  cases mnemonic with
  | LB | LBU | SB =>
      cases h
      exact .inl rfl
  | LH | LHU | SH =>
      cases h
      exact .inr (.inl rfl)
  | LW | LWU | SW | AMOSWAP_W =>
      cases h
      exact .inr (.inr (.inl rfl))
  | LD | SD =>
      cases h
      exact .inr (.inr (.inr rfl))
  | _ => cases h

/-- An instruction whose memory operand is in RAM retires if it raises no trap. -/
theorem perform_retires (hi : hart.cpu.instruction.isSome) (bare : Bare hart.cpu)
    (served : ∀ operand, access x hart.cpu mnemonic = some operand → Served hart operand)
    (hnone : trapOf x hart.cpu mnemonic = none) :
    ∃ pc hart', perform x mnemonic hart = .ok pc hart' := by
  have hload (operand : Access) (convert : Int → Int) (next : Int)
      (haccess : access x hart.cpu mnemonic = some operand) (aligned : operand.trap = none) :
      ∃ pc hart', (do
        Python.rd (convert (← read operand.address operand.size))
        return next : Call (Hart Bus) Int) hart = .ok pc hart' := by
    obtain ⟨value, hread⟩ := read_served bare (served operand haccess)
        (access_width haccess) aligned
    rw [bind_ok hread]
    exact (completes_result _ _).ends hi
  have hstore (operand : Access) (value next : Int)
      (haccess : access x hart.cpu mnemonic = some operand) (aligned : operand.trap = none) :
      ∃ pc hart', (do
        write operand.address operand.size value
        return next : Call (Hart Bus) Int) hart = .ok pc hart' := by
    obtain ⟨hart', hwrite, -⟩ :=
      write_served bare (served operand haccess) (access_width haccess) aligned value
    rw [bind_ok hwrite]
    exact ⟨_, _, rfl⟩
  rw [perform, getCpu_bind_apply]
  cases mnemonic with
  | LB | LBU | LH | LHU | LW | LWU | LD => exact hload _ _ _ rfl hnone
  | SB | SH | SW | SD => exact hstore _ _ _ rfl hnone
  | AMOSWAP_W =>
      have width := @access_width x .AMOSWAP_W hart.cpu _ rfl
      obtain ⟨value, hread⟩ := read_served bare (served _ rfl) width hnone
      obtain ⟨hart', hwrite, hcpu⟩ :=
        write_served bare (served _ rfl) width hnone (hart.cpu.reg (rs2 x))
      obtain ⟨pc, hart'', hrd⟩ :=
        (completes_result (i 32 value) (hart.cpu.pc.toNat + 4)).ends (hcpu.symm ▸ hi)
      exact ⟨pc, hart'', (bind_ok hread _).trans ((bind_ok hwrite _).trans hrd)⟩
  | MRET | SRET => exact ⟨_, _, rfl⟩
  | ECALL => exact (completes_deliver _ _ _).ends hi
  | CSRRS | CSRRW | CSRRC | CSRRWI | CSRRSI | CSRRCI =>
      exact (Completes.bind (completes_rd _) fun _ =>
        .bind (completes_csrWrite _ _) fun _ => completes_pure _).ends hi
  | BGE | BLT | BEQ | BNE | BLTU | BGEU | WFI | FENCE | FENCE_I | SFENCE_VMA =>
      exact ⟨_, _, rfl⟩
  | UNDEFINED | EBREAK | LR_W | SC_W | AMOADD_W | AMOXOR_W | AMOAND_W | AMOOR_W | AMOMIN_W
  | AMOMAX_W | AMOMINU_W | AMOMAXU_W | LR_D | SC_D | AMOSWAP_D | AMOADD_D | AMOXOR_D | AMOAND_D
  | AMOOR_D | AMOMIN_D | AMOMAX_D | AMOMINU_D | AMOMAXU_D => cases hnone
  | _ => exact (completes_result _ _).ends hi

end Rv64i

section Misaligned

variable {σ α : Type} [Board σ] {hart : Hart σ} {operand : Access} {t : ArchitecturalTrap}

/-- What follows a misaligned load does not run. -/
theorem read_traps (h : operand.trap = some t) (hsize : operand.size ≠ 0)
    (hcause : operand.cause = 4)
    (f : Int → Call (Hart σ) α) :
    (read operand.address operand.size >>= f) hart = .error (.trap t) hart := by
  unfold Access.trap at h
  split at h
  next hmis =>
    cases h
    rw [bind_error (read_misaligned hsize hmis), hcause]
    rfl
  next => cases h

theorem write_traps (h : operand.trap = some t) (hsize : operand.size ≠ 0)
    (hcause : operand.cause = 6) (value : Int) (f : Unit → Call (Hart σ) α) :
    (write operand.address operand.size value >>= f) hart = .error (.trap t) hart := by
  unfold Access.trap at h
  split at h
  next hmis =>
    cases h
    rw [bind_error (write_misaligned hsize hmis value), hcause]
    rfl
  next => cases h

end Misaligned

/-- An instruction that raises a trap does nothing else. -/
theorem Rv64i.perform_traps {σ : Type} [Board σ] {x : Nat} {mnemonic : Mnemonic} {hart : Hart σ}
    {t : ArchitecturalTrap} (htrap : trapOf x hart.cpu mnemonic = some t) :
    perform x mnemonic hart = .error (.trap t) hart := by
  rw [perform, getCpu_bind_apply]
  cases mnemonic with
  | LB | LBU | LH | LHU | LW | LWU | LD | AMOSWAP_W => exact read_traps htrap nofun rfl _
  | SB | SH | SW | SD => exact write_traps htrap nofun rfl _ _
  | UNDEFINED | EBREAK | LR_W | SC_W | AMOADD_W | AMOXOR_W | AMOAND_W | AMOOR_W | AMOMIN_W
  | AMOMAX_W | AMOMINU_W | AMOMAXU_W | LR_D | SC_D | AMOSWAP_D | AMOADD_D | AMOXOR_D | AMOAND_D
  | AMOOR_D | AMOMIN_D | AMOMAX_D | AMOMINU_D | AMOMAXU_D =>
      cases htrap
      rfl
  | _ => cases htrap

/-! ## Compressed instructions -/

namespace Rv64c

/-- The actor has no branch for the mnemonic, or an assertion or a `nz_error` on the operands
of the word fails. -/
def refused (x : Nat) : Mnemonic → Bool
  | .UNDEFINED => true
  | .LDSP | .LI | .ADDIW => rd x = 0
  | .ADDI4SPN => uimm92 x = 0
  | .ADDI => imm50 x = 0
  | .LUI => rd x = 0 || rd x = 2 || imm50 x = 0
  | .ADDI16SP => rd x ≠ 2 || imm94 x = 0
  | .SRAI | .SRLI | .SLLI => uimm50 x = 0
  | .ADD => rd x = 0 || rs2 x = 0
  | .JR | .JALR => rs1 x = 0 || rs2 x ≠ 0
  | .MV => rs1 x = 0 || rs2 x = 0
  | _ => false

/-- The instruction set defines no instruction, or the actor has none. The other operands that
are refused make hints and the no-operation. -/
def reserved (x : Nat) : Mnemonic → Bool
  | .UNDEFINED => true
  | .LDSP | .ADDIW => rd x = 0
  | .ADDI4SPN => uimm92 x = 0
  | .LUI => imm50 x = 0
  | .ADDI16SP => imm94 x = 0
  | .JR => rs1 x = 0
  | _ => false

variable {x : Nat} {mnemonic : Mnemonic} {hart : Hart Bus}

theorem refused_of_reserved (h : reserved x mnemonic = true) : refused x mnemonic = true := by
  cases mnemonic with
  | UNDEFINED => rfl
  | LDSP | ADDIW | ADDI4SPN => exact h
  | LUI | ADDI16SP => exact (Bool.or_eq_true _ _).mpr (.inr h)
  | JR => exact (Bool.or_eq_true _ _).mpr (.inl h)
  | _ => cases h

theorem access_width {cpu : Cpu} {operand : Access} (h : access x cpu mnemonic = some operand) :
    Bus.Width operand.size := by
  cases mnemonic with
  | SW | LW =>
      cases h
      exact .inr (.inr (.inl rfl))
  | SDSP | LDSP | SD | LD =>
      cases h
      exact .inr (.inr (.inr rfl))
  | _ => cases h

theorem assert_bind {α : Type} {p : Prop} [Decidable p] (h : p) (f : Unit → Call (Hart Bus) α) :
    (assert p >>= f) hart = f () hart :=
  bind_ok (assert_eq_ok.mpr ⟨h, rfl⟩) f

theorem nonzero_bind {α : Type} {value : Int} (h : value ≠ 0) (f : Int → Call (Hart Bus) α) :
    (nonzero value >>= f) hart = f value hart := by
  rw [nonzero, if_pos h]
  rfl

/-- The call returns from this hart. -/
def Finishes {α : Type} (x : Call (Hart Bus) α) (hart : Hart Bus) : Prop :=
  ∃ a hart', x hart = .ok a hart'

theorem assert_returns {α : Type} {p : Prop} [Decidable p] {f : Unit → Call (Hart Bus) α} (h : p)
    (rest : Finishes (f ()) hart) : Finishes (assert p >>= f) hart := by
  obtain ⟨a, hart', hf⟩ := rest
  exact ⟨a, hart', (assert_bind h f).trans hf⟩

theorem nonzero_returns {α : Type} {value : Int} {f : Int → Call (Hart Bus) α} (h : value ≠ 0)
    (rest : Finishes (f value) hart) : Finishes (nonzero value >>= f) hart := by
  obtain ⟨a, hart', hf⟩ := rest
  exact ⟨a, hart', (nonzero_bind h f).trans hf⟩

theorem update_returns (k : Nat) (value next : Int) :
    Finishes (do assign k value; return next : Call (Hart Bus) Int) hart :=
  ⟨_, _, rfl⟩

/-- An accepted instruction whose memory operand is in RAM retires if it is aligned. -/
theorem perform_retires (bare : Bare hart.cpu) (accepted : refused x mnemonic = false)
    (served : ∀ operand, access x hart.cpu mnemonic = some operand → Served hart operand)
    (hnone : trapOf x hart.cpu mnemonic = none) :
    Finishes (perform x mnemonic) hart := by
  have hload (operand : Access) (k : Nat) (convert : Int → Int) (next : Int)
      (haccess : access x hart.cpu mnemonic = some operand) (aligned : operand.trap = none) :
      Finishes (do
        assign k (convert (← read operand.address operand.size))
        return next : Call (Hart Bus) Int) hart := by
    obtain ⟨value, hread⟩ := read_served bare (served operand haccess)
        (access_width haccess) aligned
    exact ⟨_, _, (bind_ok hread _).trans rfl⟩
  have hstore (operand : Access) (value next : Int)
      (haccess : access x hart.cpu mnemonic = some operand) (aligned : operand.trap = none) :
      Finishes (do
        write operand.address operand.size value
        return next : Call (Hart Bus) Int) hart := by
    obtain ⟨hart', hwrite, -⟩ :=
      write_served bare (served operand haccess) (access_width haccess) aligned value
    exact ⟨_, _, (bind_ok hwrite _).trans rfl⟩
  unfold Finishes
  rw [perform, getCpu_bind_apply]
  cases mnemonic with
  | UNDEFINED => cases accepted
  | SDSP | SD | SW => exact hstore _ _ _ rfl hnone
  | LD => exact hload _ _ id _ rfl hnone
  | LW => exact hload _ _ _ _ rfl hnone
  | LDSP => exact assert_returns (of_decide_eq_false accepted) (hload _ _ id _ rfl hnone)
  | LI | ADDIW => exact assert_returns (of_decide_eq_false accepted) (update_returns _ _ _)
  | ADDI4SPN | ADDI => exact nonzero_returns (of_decide_eq_false accepted) (update_returns _ _ _)
  | SRAI | SRLI | SLLI =>
      have hshamt : uimm50 x ≠ 0 := of_decide_eq_false accepted
      exact nonzero_returns (Int.natCast_ne_zero.mpr hshamt) (update_returns _ _ _)
  | LUI =>
      obtain ⟨hrd, himm⟩ : (rd x ≠ 0 ∧ rd x ≠ 2) ∧ imm50 x ≠ 0 := by
        simpa [refused] using accepted
      exact assert_returns hrd (nonzero_returns himm (update_returns _ _ _))
  | ADDI16SP =>
      obtain ⟨hrd, himm⟩ : rd x = 2 ∧ imm94 x ≠ 0 := by simpa [refused] using accepted
      exact assert_returns hrd (nonzero_returns himm (update_returns _ _ _))
  | ADD =>
      obtain ⟨hrd, hrs⟩ : rd x ≠ 0 ∧ rs2 x ≠ 0 := by simpa [refused] using accepted
      exact assert_returns hrd (assert_returns hrs (update_returns _ _ _))
  | MV =>
      obtain ⟨hrd, hrs⟩ : rs1 x ≠ 0 ∧ rs2 x ≠ 0 := by simpa [refused] using accepted
      exact assert_returns hrd (assert_returns hrs (update_returns _ _ _))
  | JR =>
      obtain ⟨hrs1, hrs2⟩ : rs1 x ≠ 0 ∧ rs2 x = 0 := by simpa [refused] using accepted
      exact assert_returns hrs1 (assert_returns hrs2 ⟨_, _, rfl⟩)
  | JALR =>
      obtain ⟨hrs1, hrs2⟩ : rs1 x ≠ 0 ∧ rs2 x = 0 := by simpa [refused] using accepted
      exact assert_returns hrs1 (assert_returns hrs2 ⟨_, _, rfl⟩)
  | _ => exact ⟨_, _, rfl⟩

/-- An accepted instruction that raises a trap does nothing else. -/
theorem perform_traps {t : ArchitecturalTrap} (accepted : refused x mnemonic = false)
    (htrap : trapOf x hart.cpu mnemonic = some t) :
    perform x mnemonic hart = .error (.trap t) hart := by
  rw [perform, getCpu_bind_apply]
  cases mnemonic with
  | SDSP | SD | SW => exact write_traps htrap nofun rfl _ _
  | LD | LW => exact read_traps htrap nofun rfl _
  | LDSP => exact (assert_bind (of_decide_eq_false accepted) _).trans (read_traps htrap nofun rfl _)
  | _ => cases htrap

/-- An exception that `execute` does not catch. -/
def Uncaught {α : Type} (x : Call (Hart Bus) α) (hart : Hart Bus) : Prop :=
  ∃ e hart', x hart = .error e hart' ∧ ∀ t, e ≠ .trap t

theorem assert_uncaught {α : Type} {p : Prop} [Decidable p] (h : ¬p)
    (f : Unit → Call (Hart Bus) α) :
    Uncaught (assert p >>= f) hart := by
  refine ⟨.assertionError, hart, bind_error ?_ f, nofun⟩
  rw [assert, if_neg h]
  rfl

theorem nonzero_uncaught {α : Type} {value : Int} (h : value = 0) (f : Int → Call (Hart Bus) α) :
    Uncaught (nonzero value >>= f) hart := by
  refine ⟨.internal .zeroImmediate, hart, bind_error ?_ f, nofun⟩
  rw [nonzero, if_neg (not_not.mpr h)]
  rfl

/-- Behind an assertion that holds, or instead of one that fails. -/
theorem assert_then {α : Type} {p : Prop} [Decidable p] {f : Unit → Call (Hart Bus) α}
    (h : p → Uncaught (f ()) hart) : Uncaught (assert p >>= f) hart := by
  by_cases hp : p
  · obtain ⟨e, hart', hf, huncaught⟩ := h hp
    exact ⟨e, hart', (assert_bind hp f).trans hf, huncaught⟩
  · exact assert_uncaught hp f

theorem perform_refuses (h : refused x mnemonic = true) : Uncaught (perform x mnemonic) hart := by
  unfold Uncaught
  rw [perform, getCpu_bind_apply]
  cases mnemonic with
  | UNDEFINED => exact ⟨_, hart, rfl, nofun⟩
  | LDSP | LI | ADDIW => exact assert_uncaught (not_not.mpr (of_decide_eq_true h)) _
  | ADDI4SPN | ADDI => exact nonzero_uncaught (of_decide_eq_true h) _
  | SRAI | SRLI | SLLI =>
      exact nonzero_uncaught (congrArg Nat.cast (of_decide_eq_true h)) _
  | LUI =>
      have hbad : (rd x = 0 ∨ rd x = 2) ∨ imm50 x = 0 := by simpa [refused] using h
      refine assert_then fun hrd => nonzero_uncaught (hbad.resolve_left ?_) _
      exact not_or.mpr hrd
  | ADDI16SP =>
      have hbad : rd x ≠ 2 ∨ imm94 x = 0 := by simpa [refused] using h
      exact assert_then fun hrd => nonzero_uncaught (hbad.resolve_left (not_not.mpr hrd)) _
  | ADD =>
      have hbad : rd x = 0 ∨ rs2 x = 0 := by simpa [refused] using h
      exact assert_then fun hrd => assert_uncaught (not_not.mpr (hbad.resolve_left hrd)) _
  | MV =>
      have hbad : rs1 x = 0 ∨ rs2 x = 0 := by simpa [refused] using h
      exact assert_then fun hrd => assert_uncaught (not_not.mpr (hbad.resolve_left hrd)) _
  | JR | JALR =>
      have hbad : rs1 x = 0 ∨ rs2 x ≠ 0 := by simpa [refused] using h
      exact assert_then fun hrs1 => assert_uncaught (hbad.resolve_left hrs1) _
  | _ => cases h

end Rv64c

/-! ## What an instruction should do -/

section Decoding

variable {μ : Type}

/-- No function stands in the first so many levels of the table. -/
def Table.plain : (levels : Nat) → List (Nat × Table μ) → Bool
  | 0, _ => true
  | level + 1, entries => entries.all fun
      | (_, .leaf _) => true
      | (_, .choose _) => false
      | (_, .dict entries) => plain level entries

theorem lookupMnemonic_isSome {x : Nat} {default : μ} {matcher : List (Nat → Nat)}
    {entries : List (Nat × Table μ)} (h : Table.plain matcher.length entries) :
    (lookupMnemonic x default matcher entries).isSome := by
  induction matcher generalizing entries with
  | nil => rfl
  | cons level levels ih =>
      unfold lookupMnemonic
      cases hentry : entries.lookup (level x) with
      | none => rfl
      | some table =>
          have hmem : (level x, table) ∈ entries := by
            obtain ⟨l₁, l₂, rfl, -⟩ := List.lookup_eq_some_iff.mp hentry
            exact List.mem_append_right _ List.mem_cons_self
          have hplain := List.all_eq_true.mp h _ hmem
          cases table with
          | leaf mnemonic => rfl
          | choose f => cases hplain
          | dict entries => exact ih hplain

/-- Every word with the low bits 0b11 has a mnemonic, if only `UNDEFINED`. -/
theorem Rv64i.mnemonicOf_isSome (x : Nat) : (mnemonicOf x).isSome := by
  refine lookupMnemonic_isSome ?_
  unfold getMatchers
  split
  next => decide
  next => decide

end Decoding

namespace Instruction

/-- The instruction's memory operand. -/
def operand (instruction : Instruction) (cpu : Cpu) : Option Access :=
  if instruction.value % 4 = 3 then
    (Rv64i.mnemonicOf instruction.value).bind (Rv64i.access instruction.value cpu)
  else (Rv64c.mnemonicOf instruction.value).bind (Rv64c.access instruction.value cpu)

/-- The trap that the instruction set asks for. A misaligned AMO raises the cause of a store,
and so does `AMOSWAP_W`, which is the only one listed. -/
def due (instruction : Instruction) (cpu : Cpu) : Option ArchitecturalTrap :=
  let x := instruction.value
  if x % 4 = 3 then
    if Rv64i.mnemonicOf x = some .AMOSWAP_W then Access.trap ⟨cpu.reg (Rv64i.rs1 x), 4, 6⟩
    else (Rv64i.mnemonicOf x).bind (Rv64i.trapOf x cpu)
  else if x = 0x9002 then some ⟨3, cpu.pc.toNat, false⟩
  else if (Rv64c.mnemonicOf x).any (Rv64c.reserved x) then some ⟨2, x, true⟩
  else (Rv64c.mnemonicOf x).bind (Rv64c.trapOf x cpu)

/-- The actor has no way to take the compressed instruction. -/
def escapes (instruction : Instruction) : Bool :=
  instruction.value % 4 ≠ 3 &&
    (Rv64c.mnemonicOf instruction.value).all (Rv64c.refused instruction.value)

/-- `AMOSWAP_W` on an address that is not aligned; its read raises the cause of a load. -/
def swapMisaligned (instruction : Instruction) (cpu : Cpu) : Prop :=
  instruction.value % 4 = 3 ∧ Rv64i.mnemonicOf instruction.value = some .AMOSWAP_W ∧
    Int.land (cpu.reg (Rv64i.rs1 instruction.value)) 3 ≠ 0

end Instruction

/-- `execute` returns, and the instruction has retired, or the trap that is due was delivered
and nothing else was done. -/
def Handled (instruction : Instruction) (hart : Hart Bus) : Prop :=
  ∃ hart', execute hart = .ok () hart' ∧
    (instruction.due hart.cpu).elim (act instruction hart = .ok () hart') fun trap =>
      (do setPc (← deliver trap.cause.toNat false trap.tval) : Call (Hart Bus) Unit) hart =
        .ok () hart'

/-! ## From the actors to `execute` -/

section Execute

variable {σ : Type} [Board σ] {instruction : Instruction} {hart hart' : Hart σ}
  {t : ArchitecturalTrap}

theorem execute_of_act (hi : hart.cpu.instruction = some instruction)
    (h : act instruction hart = .ok () hart') : execute hart = .ok () hart' := by
  unfold execute
  rw [hi]
  dsimp only
  rw [h]

theorem execute_of_trap (hi : hart.cpu.instruction = some instruction)
    (h : act instruction hart = .error (.trap t) hart') : execute hart = handle t hart' := by
  unfold execute
  rw [hi]
  dsimp only
  rw [h]

omit [Board σ] in
/-- Without the strict mode every trap is delivered. -/
theorem handle_lenient (lenient : hart.cpu.strictIllegal = false) :
    handle t hart =
      (do setPc (← deliver t.cause.toNat false t.tval) : Call (Hart σ) Unit) hart := by
  unfold handle
  rw [getCpu_bind_apply, if_neg fun h => ?_]
  rw [lenient] at h
  cases h.2

theorem act_rv64i {mnemonic : Rv64i.Mnemonic}
    (h : instruction.value % 4 = 3)
    (hm : Rv64i.mnemonicOf instruction.value = some mnemonic) :
    act instruction hart =
      (do setPc (← Rv64i.perform instruction.value mnemonic) : Call (Hart σ) Unit) hart := by
  have hopcode : Rv64i.opcode instruction.value % 4 = 3 := by
    change instruction.value / 2 ^ 0 % 2 ^ 7 % 4 = 3
    omega
  have hget : (Rv64i.getMnemonic instruction.value : Call (Hart σ) _) hart = .ok mnemonic hart := by
    rw [Rv64i.getMnemonic, bind_ok ((assert_eq_ok (u := ())).mpr ⟨hopcode, rfl⟩), hm]
    rfl
  rw [act, if_pos h]
  exact bind_ok hget _

theorem act_rv64c {mnemonic : Rv64c.Mnemonic}
    (h : instruction.value % 4 ≠ 3)
    (hm : Rv64c.mnemonicOf instruction.value = some mnemonic) :
    act instruction hart =
      (do setPc (← Rv64c.perform instruction.value mnemonic) : Call (Hart σ) Unit) hart := by
  have hget : (Rv64c.getMnemonic instruction.value : Call (Hart σ) _) hart = .ok mnemonic hart := by
    rw [Rv64c.getMnemonic, hm]
    rfl
  rw [act, if_neg h]
  exact bind_ok hget _

end Execute

section Handled

variable {instruction : Instruction} {hart hart' : Hart Bus} {t : ArchitecturalTrap}

theorem execute_of_uncaught (hi : hart.cpu.instruction = some instruction)
    (h : Rv64c.Uncaught (act instruction) hart) : Rv64c.Uncaught execute hart := by
  obtain ⟨e, hart', hact, huncaught⟩ := h
  refine ⟨e, hart', ?_, huncaught⟩
  unfold execute
  rw [hi]
  dsimp only
  rw [hact]
  cases e with
  | trap t => exact absurd rfl (huncaught t)
  | internal e => rfl
  | assertionError => rfl
  | indexError => rfl
  | keyError => rfl
  | attributeError => rfl

/-- Whatever the mode it goes to, the cause of a trap can be read there. -/
def cause (cpu : Cpu) : Int := cpu.csrs (if cpu.mode = 1 then CSR.SCAUSE else CSR.MCAUSE)

theorem cause_deliver {n : Nat} {tval : Int}
    (h : (do setPc (← deliver n false tval) : Call (Hart Bus) Unit) hart = .ok () hart') :
    cause hart'.cpu = n := by
  cases h
  change cause { (raiseTrap hart.cpu n false tval).2 with pc := _ } = n
  unfold raiseTrap
  dsimp only
  split
  next => rfl
  next => rfl

theorem handled_of_retired (hi : hart.cpu.instruction = some instruction)
    (hdue : instruction.due hart.cpu = none) (h : act instruction hart = .ok () hart') :
    Handled instruction hart := by
  refine ⟨hart', execute_of_act hi h, ?_⟩
  rw [hdue]
  exact h

theorem handled_of_trap (hi : hart.cpu.instruction = some instruction)
    (lenient : hart.cpu.strictIllegal = false) (hdue : instruction.due hart.cpu = some t)
    (h : act instruction hart = .error (.trap t) hart) : Handled instruction hart := by
  have hdeliver := (execute_of_trap hi h).trans (handle_lenient lenient)
  refine ⟨_, hdeliver.trans rfl, ?_⟩
  rw [hdue]
  rfl

theorem not_handled_of_uncaught (hi : hart.cpu.instruction = some instruction)
    (h : Rv64c.Uncaught (act instruction) hart) : ¬Handled instruction hart := by
  rintro ⟨hart', hexecute, -⟩
  obtain ⟨e, hart'', herror, -⟩ := execute_of_uncaught hi h
  rw [hexecute] at herror
  cases herror

/-- An instruction that traps with another cause than the one due is not handled. -/
theorem not_handled_of_cause {u : ArchitecturalTrap} (hi : hart.cpu.instruction = some instruction)
    (lenient : hart.cpu.strictIllegal = false) (h : act instruction hart = .error (.trap t) hart)
    (hdue : instruction.due hart.cpu = some u) (hne : t.cause.toNat ≠ u.cause.toNat) :
    ¬Handled instruction hart := by
  rintro ⟨hart', hexecute, hdelivered⟩
  rw [hdue] at hdelivered
  rw [execute_of_trap hi h, handle_lenient lenient] at hexecute
  have hcause := (cause_deliver hexecute).symm.trans (cause_deliver hdelivered)
  exact hne (Int.ofNat.inj hcause)

/-! ## Which instructions are handled -/

theorem due_rv64i {mnemonic : Rv64i.Mnemonic} (h : instruction.value % 4 = 3)
    (hm : Rv64i.mnemonicOf instruction.value = some mnemonic)
    (aligned : ¬instruction.swapMisaligned hart.cpu) :
    instruction.due hart.cpu = Rv64i.trapOf instruction.value hart.cpu mnemonic := by
  unfold Instruction.due
  dsimp only
  rw [if_pos h, hm]
  split
  next hswap =>
    cases hswap
    have haligned : ¬Int.land (hart.cpu.reg (Rv64i.rs1 instruction.value)) 3 ≠ 0 :=
      fun hmis => aligned ⟨h, hm, hmis⟩
    have hnone (cause : Nat) :
        Access.trap ⟨hart.cpu.reg (Rv64i.rs1 instruction.value), 4, cause⟩ = none :=
      if_neg haligned
    exact (hnone 6).trans (hnone 4).symm
  next => rfl

theorem due_rv64c {mnemonic : Rv64c.Mnemonic} (h : instruction.value % 4 ≠ 3)
    (hm : Rv64c.mnemonicOf instruction.value = some mnemonic)
    (accepted : Rv64c.refused instruction.value mnemonic = false) :
    instruction.due hart.cpu = Rv64c.trapOf instruction.value hart.cpu mnemonic := by
  have hebreak : instruction.value ≠ 0x9002 := by
    intro hvalue
    rw [hvalue] at hm
    cases hm
  have hreserved : Rv64c.reserved instruction.value mnemonic = false := by
    refine Bool.eq_false_iff.mpr fun hreserved => ?_
    rw [Rv64c.refused_of_reserved hreserved] at accepted
    cases accepted
  unfold Instruction.due
  dsimp only
  rw [if_neg h, if_neg hebreak, hm]
  rw [if_neg (by rw [Option.any_some, hreserved]; exact Bool.false_ne_true)]
  rfl

theorem handled_rv64i {mnemonic : Rv64i.Mnemonic} (hi : hart.cpu.instruction = some instruction)
    (lenient : hart.cpu.strictIllegal = false) (bare : Bare hart.cpu)
    (served : ∀ operand, Rv64i.access instruction.value hart.cpu mnemonic = some operand →
      Served hart operand)
    (h : instruction.value % 4 = 3) (hm : Rv64i.mnemonicOf instruction.value = some mnemonic)
    (aligned : ¬instruction.swapMisaligned hart.cpu) : Handled instruction hart := by
  have hdue := due_rv64i h hm aligned
  cases htrap : Rv64i.trapOf instruction.value hart.cpu mnemonic with
  | none =>
      have hsome := Option.isSome_iff_exists.mpr ⟨_, hi⟩
      obtain ⟨pc, hart', hperform⟩ := Rv64i.perform_retires hsome bare served htrap
      exact handled_of_retired hi (hdue.trans htrap) ((act_rv64i h hm).trans (bind_ok hperform _))
  | some t =>
      refine handled_of_trap hi lenient (hdue.trans htrap) ?_
      exact (act_rv64i h hm).trans (bind_error (Rv64i.perform_traps htrap) _)

theorem handled_rv64c {mnemonic : Rv64c.Mnemonic} (hi : hart.cpu.instruction = some instruction)
    (lenient : hart.cpu.strictIllegal = false) (bare : Bare hart.cpu)
    (served : ∀ operand, Rv64c.access instruction.value hart.cpu mnemonic = some operand →
      Served hart operand)
    (h : instruction.value % 4 ≠ 3) (hm : Rv64c.mnemonicOf instruction.value = some mnemonic)
    (accepted : Rv64c.refused instruction.value mnemonic = false) : Handled instruction hart := by
  have hdue := @due_rv64c instruction hart mnemonic h hm accepted
  cases htrap : Rv64c.trapOf instruction.value hart.cpu mnemonic with
  | none =>
      obtain ⟨pc, hart', hperform⟩ := Rv64c.perform_retires bare accepted served htrap
      exact handled_of_retired hi (hdue.trans htrap) ((act_rv64c h hm).trans (bind_ok hperform _))
  | some t =>
      refine handled_of_trap hi lenient (hdue.trans htrap) ?_
      exact (act_rv64c h hm).trans (bind_error (Rv64c.perform_traps accepted htrap) _)

/-- A misaligned swap is reported as a load. -/
theorem not_handled_swap (hi : hart.cpu.instruction = some instruction)
    (lenient : hart.cpu.strictIllegal = false) (h : instruction.swapMisaligned hart.cpu) :
    ¬Handled instruction hart := by
  obtain ⟨h3, hm, hmis⟩ := h
  have htrap : Rv64i.trapOf instruction.value hart.cpu .AMOSWAP_W =
      some ⟨4, hart.cpu.reg (Rv64i.rs1 instruction.value), false⟩ := if_pos hmis
  have hdue : instruction.due hart.cpu =
      some ⟨6, hart.cpu.reg (Rv64i.rs1 instruction.value), false⟩ := by
    unfold Instruction.due
    dsimp only
    rw [if_pos h3, if_pos hm]
    exact if_pos hmis
  have hact := (act_rv64i h3 hm).trans (bind_error (Rv64i.perform_traps htrap) _)
  exact not_handled_of_cause hi lenient hact hdue (show Int.toNat 4 ≠ Int.toNat 6 by decide)

theorem not_handled_escapes (hi : hart.cpu.instruction = some instruction)
    (h : instruction.escapes = true) : ¬Handled instruction hart := by
  obtain ⟨h3, hall⟩ := (Bool.and_eq_true _ _).mp h
  have hlow : instruction.value % 4 ≠ 3 := of_decide_eq_true h3
  refine not_handled_of_uncaught hi ?_
  cases hm : Rv64c.mnemonicOf instruction.value with
  | none =>
      refine ⟨.attributeError, hart, ?_, nofun⟩
      rw [act, if_neg hlow, Rv64c.actor, Rv64c.getMnemonic, hm]
      rfl
  | some mnemonic =>
      rw [hm] at hall
      obtain ⟨e, hart', hperform, huncaught⟩ := @Rv64c.perform_refuses _ _ hart hall
      exact ⟨e, hart', (act_rv64c hlow hm).trans (bind_error hperform _), huncaught⟩

/-- An instruction retires or delivers its trap exactly if it is none of the compressed ones
that the actor has no way to take, and no misaligned swap. -/
theorem handled_iff (hi : hart.cpu.instruction = some instruction)
    (lenient : hart.cpu.strictIllegal = false) (bare : Bare hart.cpu)
    (served : ∀ operand, instruction.operand hart.cpu = some operand → Served hart operand) :
    Handled instruction hart ↔
      instruction.escapes = false ∧ ¬instruction.swapMisaligned hart.cpu := by
  constructor
  · intro handled
    refine ⟨Bool.eq_false_iff.mpr fun h => not_handled_escapes hi h handled, fun h => ?_⟩
    exact not_handled_swap hi lenient h handled
  · rintro ⟨hescapes, aligned⟩
    unfold Instruction.operand at served
    by_cases h : instruction.value % 4 = 3
    · obtain ⟨mnemonic, hm⟩ := Option.isSome_iff_exists.mp
          (Rv64i.mnemonicOf_isSome instruction.value)
      rw [if_pos h, hm] at served
      exact handled_rv64i hi lenient bare served h hm aligned
    · rw [if_neg h] at served
      have hall : (Rv64c.mnemonicOf instruction.value).all (Rv64c.refused instruction.value) =
          false := by
        rw [Instruction.escapes, decide_eq_true h, Bool.true_and] at hescapes
        exact hescapes
      cases hm : Rv64c.mnemonicOf instruction.value with
      | none =>
          rw [hm] at hall
          cases hall
      | some mnemonic =>
          rw [hm] at hall served
          exact handled_rv64c hi lenient bare served h hm hall

end Handled

/-! ## A machine with one RAM -/

/-- A hart at the start of 64 bytes of RAM, about to execute the instruction. -/
def loaded (instruction : Instruction) : Hart Bus where
  cpu := { Cpu.new 0 with instruction := some instruction }
  board := finish (Bus.addDevice (List.replicate 64 0) (0, 64) Bus.new)

/-- `sw x2, 8(x0)`. -/
def sw : Instruction := .rv64i 0x00202423

theorem handled_iff_sw :
    (Bare (loaded sw).cpu ∧
      ∀ operand, sw.operand (loaded sw).cpu = some operand → Served (loaded sw) operand) ∧
    (Handled sw (loaded sw) ↔ sw.escapes = false ∧ ¬sw.swapMisaligned (loaded sw).cpu) := by
  have bare : Bare (loaded sw).cpu := rfl
  have served : ∀ operand, sw.operand (loaded sw).cpu = some operand →
      Served (loaded sw) operand := by
    intro operand hoperand aligned
    have haccess : sw.operand (loaded sw).cpu = some ⟨8, 4, 6⟩ := by rfl
    cases haccess.symm.trans hoperand
    exact ⟨⟨(0, 64), List.replicate 64 0, rfl, rfl, by decide⟩⟩
  exact ⟨⟨bare, served⟩, handled_iff rfl rfl bare served⟩

/-- `c.nop` leaves `execute` with an internal error. -/
theorem nop_escapes :
    ¬∀ (instruction : Instruction) (hart : Hart Bus), hart.cpu.instruction = some instruction →
      hart.cpu.strictIllegal = false → Bare hart.cpu →
        (∀ operand, instruction.operand hart.cpu = some operand → Served hart operand) →
          Handled instruction hart := by
  intro hall
  obtain ⟨hart', hexecute, -⟩ := hall (.rv64c 0x0001) (loaded (.rv64c 0x0001)) rfl rfl rfl nofun
  have hraises : execute (loaded (.rv64c 0x0001)) =
      .error (.internal .zeroImmediate) (loaded (.rv64c 0x0001)) := rfl
  rw [hraises] at hexecute
  cases hexecute

end Riscvm.Python
