import Riscvm.Lockstep.Computations

/-!
# Agreement on loads and stores

An access of the Python CPU that returns is aligned and inside the RAM, where the Rust hart
transfers the same bytes.
-/

namespace Riscvm.Lockstep

open Exec TwosComplement Rv64rs Python.Rv64i

section Conversions

theorem ofInt_signed {n : Nat} (v : Int) (pos : 0 < n) (le : n ≤ 64) :
    BitVec.ofInt 64 (Python.i n v) = Execute.sext64 (BitVec.ofInt 64 v) n := by
  rw [Python.i_eq_toInt _ pos, Execute.sext64_eq pos le, setWidth_ofInt _ le]
  rfl

theorem ofInt_unsigned {k n : Nat} (h : n < 2 ^ k) :
    BitVec.ofInt 64 (Python.u k ((n : Nat) : Int)) = id (BitVec.ofInt 64 ((n : Nat) : Int)) := by
  have hmod : Python.u k ((n : Nat) : Int) = ((n % 2 ^ k : Nat) : Int) := by
    rw [Python.u, Int.natCast_mod, Int.natCast_pow]
    rfl
  rw [hmod, Nat.mod_eq_of_lt h]
  rfl

end Conversions

section Memory

variable [Host] {w : U32} {hart hart' : Python.Hart Python.TimerBoard} {m : Machine}
  {mnemonic : Mnemonic} {n : U8}

theorem Running.read (run : Running w hart m) {address value : Int}
    (width : Rv64rs.Ram.Width n)
    (h : Python.read address (n.toNat : Int) hart = .ok value hart') :
    hart' = hart ∧
      Machine.read (BitVec.ofInt 64 address) n m = .ok (BitVec.ofInt 64 value) m ∧
      ∃ k < 256 ^ n.toNat, value = ((k : Nat) : Int) := by
  obtain ⟨rfl, hread, hbytes⟩ := run.readBus width (access_ok run.bare h)
  exact ⟨rfl, (bind_ok (Mmu.translate_bare (run.toAlike.bare run.bare)) _).trans hread, hbytes⟩

theorem Running.write (run : Running w hart m) {address : Int} {value : U64}
    (width : Rv64rs.Ram.Width n)
    (h : Python.write address (n.toNat : Int) (value.toNat : Int) hart = .ok () hart') :
    ∃ m', Machine.write (BitVec.ofInt 64 address) n value m = .ok () m' ∧
      Running w hart' m' := by
  obtain ⟨board, hboard, rfl⟩ := onBoard_ok (access_ok run.bare h)
  obtain ⟨bus, hwrite, rfl⟩ := Python.TimerBoard.onBus_ok hboard
  obtain ⟨ram, hbus, sameRam⟩ := run.ram.write width hwrite
  have htranslate : Mmu.translate (BitVec.ofInt 64 address) .W m = .ok _ m :=
    Mmu.translate_bare (run.toAlike.bare run.bare)
  refine ⟨{ m with bus := { m.bus with ram } }, (bind_ok htranslate _).trans (zoom_ok hbus),
    ⟨run.cpu, run.mtime, run.mtimecmp, sameRam⟩, run.instruction, run.low, run.bare⟩

/-- A branch of the actor that loads and converts. -/
theorem Running.loads (run : Running w hart m) (width : Rv64rs.Ram.Width n)
    (convert : Int → Int) {extend : U64 → U64}
    (hpython : perform w.toNat mnemonic hart = (do
      Python.rd (convert (← Python.read (hart.cpu.reg (rs1 w.toNat) + immI w.toNat)
        (n.toNat : Int)))
      return (hart.cpu.pc.toNat : Int) + 4 : Python.Call _ Int) hart)
    (hop : (Instruction.new w).opcode = 0x03)
    (hload : ∀ addr, Execute.load (Instruction.new w) addr =
      (do return extend (← Machine.read addr n)))
    (hconvert : ∀ k < 256 ^ n.toNat,
      BitVec.ofInt 64 (convert ((k : Nat) : Int)) = extend (BitVec.ofInt 64 ((k : Nat) : Int))) :
    Obeys w hart m mnemonic := by
  have haddress : BitVec.ofInt 64 (hart.cpu.reg (rs1 w.toNat) + immI w.toNat) =
      m.cpu.regs.read (Instruction.new w).rs1 + (Instruction.new w).immI := by
    rw [BitVec.ofInt_add, run.reg (rs1_eq w), ofInt_toNat, immI_eq, BitVec.ofInt_toInt]
  intro next hart' h
  rw [hpython] at h
  obtain ⟨value, hart₁, hread, hrest⟩ := bind_eq_ok.mp h
  obtain ⟨rfl, hread', k, hk, rfl⟩ := run.read width hread
  rw [haddress] at hread'
  have hrust := Execute.executeFrom_load (m.cpu.pc + 4) m hop
  rw [hload, bind_assoc, bind_ok hread'] at hrust
  obtain ⟨m', hm', same⟩ := run.result (hconvert k hk) run.next next hart' hrest
  exact ⟨m', hrust.trans hm', same⟩

theorem load_funct3 {instr : Instruction} {funct3 : BitVec 3} (addr : U64) :
    instr.funct3 = funct3 → Execute.load instr addr =
      match funct3 with
      | 0x0#3 => do return Execute.sext64 (← Machine.read addr 1) 8
      | 0x1#3 => do return Execute.sext64 (← Machine.read addr 2) 16
      | 0x2#3 => do return Execute.sext64 (← Machine.read addr 4) 32
      | 0x3#3 => Machine.read addr 8
      | 0x4#3 => Machine.read addr 1
      | 0x5#3 => Machine.read addr 2
      | 0x6#3 => Machine.read addr 4
      | _ => Execute.illegalInstruction instr := by
  rintro rfl
  rfl

theorem Running.load (run : Running w hart m) (hop : (Instruction.new w).opcode = 0x03)
    (hm : mnemonicOf w.toNat = some mnemonic) : Obeys w hart m mnemonic := by
  rw [load_mnemonic hop] at hm
  generalize hf3 : (Instruction.new w).funct3 = f3 at hm
  have hload (addr : U64) := load_funct3 addr hf3
  split at hm <;> cases hm
  · exact run.loads (n := 1) (by decide) (Python.i 8) rfl hop hload
      fun _ _ => ofInt_signed _ (by decide) (by decide)
  · exact run.loads (n := 2) (by decide) (Python.i 16) rfl hop hload
      fun _ _ => ofInt_signed _ (by decide) (by decide)
  · exact run.loads (n := 4) (by decide) (Python.i 32) rfl hop hload
      fun _ _ => ofInt_signed _ (by decide) (by decide)
  · refine run.loads (n := 8) (by decide) (Python.i 64) rfl hop
      (fun addr => (hload addr).trans (bind_pure _).symm) fun _ _ => ?_
    rw [Python.i_eq_toInt _ (by decide), BitVec.ofInt_toInt]
  · exact run.loads (n := 1) (by decide) (Python.u 8) rfl hop
      (fun addr => (hload addr).trans (bind_pure _).symm) fun _ hk => ofInt_unsigned hk
  · exact run.loads (n := 2) (by decide) (Python.u 16) rfl hop
      (fun addr => (hload addr).trans (bind_pure _).symm) fun _ hk => ofInt_unsigned hk
  · exact run.loads (n := 4) (by decide) (Python.u 32) rfl hop
      (fun addr => (hload addr).trans (bind_pure _).symm) fun _ hk => ofInt_unsigned hk
  · exact undefined_fails

/-- A branch of the actor that stores. -/
theorem Running.stores (run : Running w hart m) (width : Rv64rs.Ram.Width n)
    (hpython : perform w.toNat mnemonic hart = (do
      Python.write (hart.cpu.reg (rs1 w.toNat) + immS w.toNat) (n.toNat : Int)
        (hart.cpu.reg (rs2 w.toNat))
      return (hart.cpu.pc.toNat : Int) + 4 : Python.Call _ Int) hart)
    (hop : (Instruction.new w).opcode = 0x23)
    (hstore : ∀ addr value, Execute.store (Instruction.new w) addr value =
      Machine.write addr n value) : Obeys w hart m mnemonic := by
  have haddress : BitVec.ofInt 64 (hart.cpu.reg (rs1 w.toNat) + immS w.toNat) =
      m.cpu.regs.read (Instruction.new w).rs1 + (Instruction.new w).immS := by
    rw [BitVec.ofInt_add, run.reg (rs1_eq w), ofInt_toNat, immS_eq, BitVec.ofInt_toInt]
  intro next hart' h
  rw [hpython, run.reg (rs2_eq w)] at h
  obtain ⟨_, hart₁, hwrite, hrest⟩ := bind_eq_ok.mp h
  obtain ⟨m', hwrite', run'⟩ := run.write width hwrite
  rw [haddress] at hwrite'
  have hrust := Execute.executeFrom_store (m.cpu.pc + 4) m hop
  rw [hstore, bind_ok hwrite'] at hrust
  cases hrest
  refine ⟨m', hrust.trans ?_, run'.toAlike⟩
  rw [run.next]
  rfl

theorem store_funct3 {instr : Instruction} {funct3 : BitVec 3} (addr value : U64) :
    instr.funct3 = funct3 → Execute.store instr addr value =
      match funct3 with
      | 0x0#3 => Machine.write addr 1 value
      | 0x1#3 => Machine.write addr 2 value
      | 0x2#3 => Machine.write addr 4 value
      | 0x3#3 => Machine.write addr 8 value
      | _ => Execute.illegalInstruction instr := by
  rintro rfl
  rfl

theorem Running.store (run : Running w hart m) (hop : (Instruction.new w).opcode = 0x23)
    (hm : mnemonicOf w.toNat = some mnemonic) : Obeys w hart m mnemonic := by
  rw [store_mnemonic hop] at hm
  generalize hf3 : (Instruction.new w).funct3 = f3 at hm
  have hstore (addr value : U64) := store_funct3 addr value hf3
  split at hm <;> cases hm
  · exact run.stores (n := 1) (by decide) rfl hop hstore
  · exact run.stores (n := 2) (by decide) rfl hop hstore
  · exact run.stores (n := 4) (by decide) rfl hop hstore
  · exact run.stores (n := 8) (by decide) rfl hop hstore
  · exact undefined_fails

omit [Host] in
/-- A mnemonic without a case in the actor. -/
theorem fails_of_not_hasCase {y : Call Machine U64} (h : hasCase mnemonic = false) :
    Agrees Alike hart m (perform w.toNat mnemonic) y := by
  refine .fails fun _ _ hok => ?_
  rw [perform_of_not_hasCase _ h] at hok
  cases hok

theorem Running.amo (run : Running w hart m) (hop : (Instruction.new w).opcode = 0x2f)
    (hm : mnemonicOf w.toNat = some mnemonic) : Obeys w hart m mnemonic := by
  cases hcase : hasCase mnemonic with
  | false => exact fails_of_not_hasCase hcase
  | true =>
      have haccepts := (Decoders.implements_iff w).mp ⟨mnemonic, hm, hcase⟩
      have hfields : (Instruction.new w).funct3 = 0x2 ∧
          (Instruction.new w).funct7 >>> 2 = 0b00001 := by
        have hagree := Decoders.fields_agree (Instruction.new w).opcode
          (Instruction.new w).funct3 (Instruction.new w).funct7 (Instruction.new w).rs2
        rw [haccepts, hop] at hagree
        exact of_decide_eq_true (beq_iff_eq.mp hagree)
      have hatomic : (Instruction.new w).funct7.toNat / 2 ^ 2 = 1 := by
        rw [← Nat.shiftRight_eq_div_pow, ← BitVec.toNat_ushiftRight, hfields.2]
        rfl
      have hswap : mnemonicOf w.toNat = some .AMOSWAP_W := by
        refine mnemonic_of_selects (by decide) ?_
        rw [Decoders.matched, if_pos hop, hop, hfields.1, hatomic]
        rfl
      obtain rfl := Option.some.inj (hswap.symm.trans hm)
      have hpython : perform w.toNat .AMOSWAP_W hart = (do
          let old ← Python.read (hart.cpu.reg (rs1 w.toNat)) ((4 : U8).toNat : Int)
          Python.write (hart.cpu.reg (rs1 w.toNat)) ((4 : U8).toNat : Int)
            (hart.cpu.reg (rs2 w.toNat))
          Python.rd (Python.i 32 old)
          return (hart.cpu.pc.toNat : Int) + 4 : Python.Call _ Int) hart := rfl
      have hrust : Execute.executeFrom (m.cpu.pc + 4) (Instruction.new w) m = (do
          let old ← Machine.read (m.cpu.regs.read (Instruction.new w).rs1) 4
          Machine.write (m.cpu.regs.read (Instruction.new w).rs1) 4
            (m.cpu.regs.read (Instruction.new w).rs2)
          Machine.writeReg (Instruction.new w).rd (Execute.sext64 old 32)
          return m.cpu.pc + 4) m := by
        unfold Execute.executeFrom
        simp only [hop]
        rw [get_bind_apply, bind_ok (Machine.readReg_apply _ _),
          bind_ok (Machine.readReg_apply _ _)]
        exact congrFun (if_pos hfields) m
      intro next hart' h
      rw [hpython, run.reg (rs1_eq w), run.reg (rs2_eq w)] at h
      obtain ⟨old, hart₁, hread, hrest⟩ := bind_eq_ok.mp h
      obtain ⟨rfl, hread', -⟩ := run.read (by decide) hread
      obtain ⟨_, hart₂, hwrite, hlast⟩ := bind_eq_ok.mp hrest
      obtain ⟨m', hwrite', run'⟩ := run.write (by decide) hwrite
      rw [ofInt_toNat] at hread' hwrite'
      rw [bind_ok hread', bind_ok hwrite'] at hrust
      obtain ⟨m₃, hassign, same⟩ := run'.result
        (ofInt_signed old (by decide) (by decide)) run.next next hart' hlast
      exact ⟨m₃, hrust.trans hassign, same⟩

end Memory

end Riscvm.Lockstep
