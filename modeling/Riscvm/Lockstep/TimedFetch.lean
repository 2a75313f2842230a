import Riscvm.Lockstep.Alike

/-!
# Interrupts and fetch

Alike harts take the same timer interrupt, or none, and fetch the same word.
-/

namespace Riscvm.Lockstep

open Bits Exec TwosComplement Rv64rs

section Interrupts

variable {cpu : Python.Cpu} {cpu' : Cpu}

/-- The tests on a cause. -/
theorem SameCpu.candidate (same : SameCpu cpu cpu') (pendingEnabled cause : U64) :
    (Int.testBit pendingEnabled.toNat cause.toNat && !Python.blocked cpu cause.toNat) =
      decide (Trap.Candidate pendingEnabled (cpu'.csrs.get Csr.MSTATUS) cpu' cause) := by
  have hstatus := same.csrs.get (k := Python.CSR.MSTATUS) (r := Csr.MSTATUS) rfl
  have hsie : Python.MSTATUS_SIE = (Trap.MSTATUS_SIE.toNat : Int) := by decide
  have hmie : Python.MSTATUS_MIE = (Trap.MSTATUS_MIE.toNat : Int) := by decide
  have hs : (cpu.mode == 1) = decide (cpu'.mode = PRIV_S) := by
    rw [Bool.eq_iff_iff, beq_iff_eq, decide_eq_true_iff]
    exact same.mode_eq PRIV_S
  have hm : (cpu.mode == 3) = decide (cpu'.mode = PRIV_M) := by
    rw [Bool.eq_iff_iff, beq_iff_eq, decide_eq_true_iff]
    exact same.mode_eq PRIV_M
  have hopen : (!Python.blocked cpu cause.toNat) = true ↔
      (Trap.Delegated cpu' cause true → cpu'.mode = PRIV_S →
          cpu'.csrs.get Csr.MSTATUS &&& Trap.MSTATUS_SIE ≠ 0) ∧
        (¬Trap.Delegated cpu' cause true → cpu'.mode = PRIV_M →
          cpu'.csrs.get Csr.MSTATUS &&& Trap.MSTATUS_MIE ≠ 0) := by
    unfold Python.blocked
    rw [same.delegated rfl, hstatus, hsie, hmie, hasBits_word, hasBits_word, hs, hm]
    by_cases hd : Trap.Delegated cpu' cause true
    · simp [hd, imp_iff_not_or]
    · simp [hd, imp_iff_not_or]
  rw [Bool.eq_iff_iff, Bool.and_eq_true]
  exact (and_congr Iff.rfl hopen).trans decide_eq_true_iff.symm

/-- The interrupt that is taken. -/
theorem SameCpu.first (same : SameCpu cpu cpu') (pendingEnabled : U64) :
    (Python.PRIORITY.find? fun cause =>
        Int.testBit pendingEnabled.toNat cause && !Python.blocked cpu cause) =
      (Trap.firstCandidate pendingEnabled (cpu'.csrs.get Csr.MSTATUS) cpu' Trap.PRIORITY).map
        BitVec.toNat := by
  have hpriority : Python.PRIORITY = Trap.PRIORITY.map BitVec.toNat := by decide
  rw [hpriority, List.find?_map, Trap.firstCandidate]
  congr 1
  exact congrArg (List.find? · _) (funext fun cause => same.candidate pendingEnabled cause)

/-- The hart after an interrupt. -/
theorem interrupted_eq [Host] {cause pc : U64} {taken : Cpu} (small : cause.toNat < 64)
    (h : Trap.raiseTrap cause true 0 cpu' = .ok pc taken) :
    Trap.interrupted cpu' cause = { taken with pc } := by
  rw [Trap.raiseTrap_apply cpu' small] at h
  unfold Trap.interrupted
  by_cases hd : Trap.Delegated cpu' cause true
  · rw [if_pos hd] at h ⊢
    cases h
    rfl
  · rw [if_neg hd] at h ⊢
    cases h
    rfl

theorem SameCpu.interrupted [Host] (same : SameCpu cpu cpu') {cause : U64}
    (small : cause.toNat < 64) :
    SameCpu { (Python.raiseTrap cpu cause.toNat true 0).2 with
        pc := BitVec.ofInt 64 (Python.raiseTrap cpu cause.toNat true 0).1 }
      (Trap.interrupted cpu' cause) := by
  obtain ⟨pc, taken, htrap, hpc, htaken⟩ := same.raiseTrap rfl small true
    (show (0 : Int) = ((0 : U64).toNat : Int) from rfl)
  rw [interrupted_eq small htrap]
  have hword : BitVec.ofInt 64 (Python.raiseTrap cpu cause.toNat true 0).1 = pc := by
    rw [hpc, ofInt_toNat]
  exact ⟨htaken.registers, hword, htaken.mode, htaken.privilege, htaken.csrs, htaken.hartid,
    htaken.handles⟩

theorem raiseTrap_satp (cpu : Python.Cpu) (cause : Nat) (isInterrupt : Bool) (tval : Int) :
    (Python.raiseTrap cpu cause isInterrupt tval).2.csrs Python.CSR.SATP =
      cpu.csrs Python.CSR.SATP := by
  unfold Python.raiseTrap
  cases Python.delegated cpu cause isInterrupt with
  | false => rfl
  | true => rfl

end Interrupts

section Fetch

variable {hart hart' fetched : Python.Hart Python.TimerBoard} {m : Machine} {w : U32}

/-- `check_interrupt` of a hart whose timer is known. -/
theorem checkInterrupt_timer {limit : Int}
    (h : hart.board.clint.mtimecmp[hart.cpu.hartid]? = some limit) :
    Python.checkInterrupt hart =
      let mip := Python.drive (hart.cpu.csrs Python.CSR.MIP) Python.MIP_MTIP
        (decide (hart.board.clint.mtime ≥ limit))
      let cpu := hart.cpu.setCsr Python.CSR.MIP mip
      match Python.PRIORITY.find? fun cause =>
          Int.testBit (Int.land mip (cpu.csrs Python.CSR.MIE)) cause &&
            !Python.blocked cpu cause with
      | none => .ok false { hart with cpu }
      | some cause => .ok true { hart with cpu := { (Python.raiseTrap cpu cause true 0).2 with
          pc := BitVec.ofInt 64 (Python.raiseTrap cpu cause true 0).1 } } := by
  have hpending : Python.Clint.pending hart.cpu.hartid hart.board.clint =
      .ok (decide (hart.board.clint.mtime ≥ limit)) hart.board.clint := by
    rw [Python.Clint.pending, get_bind_apply, h]
    rfl
  have hline : Python.onBoard (Python.TimerBoard.onClint
      (Python.Clint.pending hart.cpu.hartid)) hart =
        .ok (decide (hart.board.clint.mtime ≥ limit)) hart := zoom_ok (zoom_ok hpending)
  have hrefresh : (Python.refresh (hart.cpu.csrs Python.CSR.MIP) Python.MIP_MTIP
      ((Python.Board.clint : Option (Python.ClintHandle Python.TimerBoard)).map
        (·.pending hart.cpu.hartid)) : Python.Call (Python.Hart Python.TimerBoard) Int) hart =
      .ok (Python.drive (hart.cpu.csrs Python.CSR.MIP) Python.MIP_MTIP
        (decide (hart.board.clint.mtime ≥ limit))) hart := bind_ok hline _
  rw [Python.checkInterrupt, Python.getCpu_bind_apply]
  dsimp only
  -- the board has no PLIC
  have hexternal (mip : Int) : (Python.refresh mip Python.MIP_SEIP
      ((Python.Board.plic : Option (Nat → Python.Call Python.TimerBoard Bool)).map
        (· (2 * hart.cpu.hartid + 1))) : Python.Call (Python.Hart Python.TimerBoard) Int) hart =
      .ok mip hart := rfl
  rw [bind_ok hrefresh, bind_ok (hexternal _)]
  generalize Python.drive _ _ _ = mip
  have hset : (Python.modifyCpu fun cpu => cpu.setCsr Python.CSR.MIP mip : Python.Call _ Unit)
      hart = .ok () { hart with cpu := hart.cpu.setCsr Python.CSR.MIP mip } := rfl
  rw [bind_ok hset, Python.getCpu_bind_apply]
  dsimp only
  generalize List.find? _ Python.PRIORITY = found
  cases found with
  | none => rfl
  | some cause => rfl

/-- The list of the timer is too short for the hart. -/
theorem checkInterrupt_unknown (h : hart.board.clint.mtimecmp[hart.cpu.hartid]? = none)
    (taken : Bool) (hart' : Python.Hart Python.TimerBoard) :
    Python.checkInterrupt hart ≠ .ok taken hart' := by
  have hpending : Python.Clint.pending hart.cpu.hartid hart.board.clint =
      .error .indexError hart.board.clint := by
    rw [Python.Clint.pending, get_bind_apply, h]
    rfl
  have hline : Python.onBoard (Python.TimerBoard.onClint
      (Python.Clint.pending hart.cpu.hartid)) hart = .error .indexError hart :=
    zoom_error (zoom_error hpending)
  have hrefresh : (Python.refresh (hart.cpu.csrs Python.CSR.MIP) Python.MIP_MTIP
      ((Python.Board.clint : Option (Python.ClintHandle Python.TimerBoard)).map
        (·.pending hart.cpu.hartid)) : Python.Call (Python.Hart Python.TimerBoard) Int) hart =
      .error .indexError hart := bind_error hline _
  intro hok
  rw [Python.checkInterrupt, Python.getCpu_bind_apply] at hok
  dsimp only at hok
  rw [bind_error hrefresh] at hok
  cases hok

/-- The timer line is sampled alike. -/
theorem Alike.sampled [Host] (same : Alike hart m) {limit : U64}
    (hlimit : m.bus.dev.clint.mtimecmp[m.cpu.hartid.toNat]? = some limit) :
    ∃ mip, Trap.sampleMip m = .ok mip m ∧
      Python.drive (hart.cpu.csrs Python.CSR.MIP) Python.MIP_MTIP
        (decide (hart.board.clint.mtime ≥ (limit.toNat : Int))) = (mip.toNat : Int) := by
  obtain ⟨hclint, -, hplic⟩ := same.cpu.handles
  obtain ⟨hknown, helem⟩ := List.getElem?_eq_some_iff.mp hlimit
  let due := decide (m.bus.dev.clint.mtime ≥ limit)
  let mip := if due then m.cpu.csrs.get Csr.MIP ||| Trap.MIP_MTIP
    else m.cpu.csrs.get Csr.MIP &&& ~~~Trap.MIP_MTIP
  refine ⟨mip, ?_, ?_⟩
  · have hpending : (m.bus.dev.clint.pending m.cpu.hartid.toNat : Call Machine Bool) =
        pure due := by
      rw [Clint.pending, index_of_lt hknown, pure_bind, helem]
    rw [Trap.sampleMip, get_bind_apply]
    simp only [hclint, hplic, if_true, hpending, pure_bind, Bool.false_eq_true, if_false]
    rfl
  · have hdue : decide (hart.board.clint.mtime ≥ (limit.toNat : Int)) = due := by
      rw [same.mtime]
      exact decide_eq_decide.mpr Int.ofNat_le
    have hold := same.cpu.csrs.get (k := Python.CSR.MIP) (r := Csr.MIP) rfl
    have hmtip : Python.MIP_MTIP = (Trap.MIP_MTIP.toNat : Int) := by decide
    rw [hold, hmtip, hdue, Python.drive, ldiff_word, lor_word]
    exact (apply_ite (fun v : U64 => (v.toNat : Int)) _ _ _).symm

/-- Alike harts take the same interrupt, if any, and translation stays off. -/
theorem Alike.checkInterrupt [Host] (same : Alike hart m) {taken : Bool}
    (h : Python.checkInterrupt hart = .ok taken hart') :
    ∃ taken' m', Trap.checkInterrupt m = .ok taken' m' ∧ Alike hart' m' ∧
      hart'.cpu.csrs Python.CSR.SATP = hart.cpu.csrs Python.CSR.SATP := by
  have hindex : hart.board.clint.mtimecmp[hart.cpu.hartid]? =
      (m.bus.dev.clint.mtimecmp[m.cpu.hartid.toNat]?).map fun t => (t.toNat : Int) := by
    rw [same.mtimecmp, same.cpu.hartid, List.getElem?_map]
  cases hlimit : m.bus.dev.clint.mtimecmp[m.cpu.hartid.toNat]? with
  | none =>
      rw [hlimit] at hindex
      exact absurd h (checkInterrupt_unknown hindex taken hart')
  | some limit =>
      rw [hlimit] at hindex
      obtain ⟨mip, hsample, hmip⟩ := same.sampled hlimit
      have hcpu : SameCpu (hart.cpu.setCsr Python.CSR.MIP (mip.toNat : Int))
          (Trap.withMip m.cpu mip) :=
        ⟨same.cpu.registers, same.cpu.pc, same.cpu.mode, same.cpu.privilege,
          same.cpu.csrs.insert (r := Csr.MIP) rfl rfl, same.cpu.hartid, same.cpu.handles⟩
      have hmie := hcpu.csrs.get (k := Python.CSR.MIE) (r := Csr.MIE) rfl
      have hfirst := hcpu.first (mip &&& (Trap.withMip m.cpu mip).csrs.get Csr.MIE)
      have hrust := Trap.checkInterrupt_apply hsample
      have hpython := (checkInterrupt_timer hindex).symm.trans h
      rw [hmip] at hpython
      dsimp only at hpython
      -- MIE and MSTATUS do not change with mip
      have hmie' : (Trap.withMip m.cpu mip).csrs.get Csr.MIE = m.cpu.csrs.get Csr.MIE := rfl
      have hmstatus : (Trap.withMip m.cpu mip).csrs.get Csr.MSTATUS = m.cpu.csrs.get Csr.MSTATUS :=
        rfl
      rw [hmie, land_word, hfirst, hmie', hmstatus] at hpython
      cases hfound : Trap.firstCandidate (mip &&& m.cpu.csrs.get Csr.MIE)
          (m.cpu.csrs.get Csr.MSTATUS) (Trap.withMip m.cpu mip) Trap.PRIORITY with
      | none =>
          rw [hfound] at hrust hpython
          cases hpython
          exact ⟨_, _, hrust, ⟨hcpu, same.mtime, same.mtimecmp, same.ram⟩, rfl⟩
      | some cause =>
          rw [hfound] at hrust hpython
          cases hpython
          have hsmall := Trap.priority_lt (Trap.firstCandidate_some hfound).1
          exact ⟨_, _, hrust, ⟨hcpu.interrupted hsmall, same.mtime, same.mtimecmp, same.ram⟩,
            raiseTrap_satp _ _ _ _⟩

/-- Alike harts, the Python one of which has fetched `w` with translation off. -/
structure Running (w : U32) (hart : Python.Hart Python.TimerBoard) (m : Machine) : Prop
    extends Alike hart m where
  instruction : hart.cpu.instruction = some (.rv64i w)
  low : w.toNat % 4 = 3
  bare : Python.Bare hart.cpu

/-- Translation is off on the other side, too. -/
theorem Alike.bare (same : Alike hart m) (bare : Python.Bare hart.cpu) :
    m.cpu.csrs.get Csr.SATP >>> 60 = Mmu.MODE_BARE := by
  have hsatp := same.cpu.csrs.get (k := Python.CSR.SATP) (r := Csr.SATP) rfl
  rw [Python.Bare, hsatp] at bare
  exact BitVec.eq_of_toNat_eq ((BitVec.toNat_ushiftRight _ _).trans (Int.ofNat.inj bare))

/-- The clocks advance alike. -/
theorem Alike.ticked (same : Alike hart m) :
    ∃ board, Python.tick hart = .ok () { hart with board } ∧
      Alike { hart with board } (Machine.ticked m) := by
  refine ⟨_, rfl, ?_⟩
  rw [Machine.ticked, if_pos same.cpu.handles.1]
  refine ⟨same.cpu, ?_, same.mtimecmp, same.ram.board_eq, same.ram.length, same.ram.bounded⟩
  change Python.u 64 (hart.board.clint.mtime + 1) = _
  rw [same.mtime, u_eq_toNat, BitVec.ofInt_add, ofInt_toNat]
  rfl

variable [Host]

/-- A word that RAM holds. -/
theorem Alike.readBus (same : Alike hart m) {address value : Int} {size : U8}
    (width : Rv64rs.Ram.Width size)
    (h : Python.onBoard (Python.Board.read address (size.toNat : Int)) hart = .ok value hart') :
    hart' = hart ∧
      Machine.onBus (Bus.read (BitVec.ofInt 64 address) size) m =
        .ok (BitVec.ofInt 64 value) m ∧ ∃ n < 256 ^ size.toNat, value = ((n : Nat) : Int) := by
  obtain ⟨board, hboard, rfl⟩ := onBoard_ok h
  obtain ⟨bus, hread, rfl⟩ := Python.TimerBoard.onBus_ok hboard
  obtain ⟨rfl, hbus, hbytes⟩ := same.ram.read width hread
  exact ⟨rfl, zoom_ok hbus, hbytes⟩

/-- Alike harts fetch the same uncompressed word. -/
theorem Alike.fetch (same : Alike hart m) (bare : Python.Bare hart.cpu)
    (h : Python.fetch hart = .ok () fetched)
    (hw : fetched.cpu.instruction = some (.rv64i w)) :
    ∃ m', Machine.fetch m = .ok (.full (.new w)) m' ∧ Running w fetched m' := by
  obtain ⟨board, htick, same₁⟩ := same.ticked
  rw [Python.fetch, bind_ok htick] at h
  obtain ⟨_, hart₁, hpoll, h⟩ := bind_eq_ok.mp h
  cases hpoll
  obtain ⟨taken, hart₂, hcheck, h⟩ := bind_eq_ok.mp h
  obtain ⟨taken', m₂, hcheck', same₂, hsatp⟩ := same₁.checkInterrupt hcheck
  have bare₂ : Python.Bare hart₂.cpu := by
    rw [Python.Bare, hsatp]
    exact bare
  rw [Python.getCpu_bind_apply, bind_ok (Python.translate_bare bare₂ _ _)] at h
  obtain ⟨data, hart₃, hread, hset⟩ := bind_eq_ok.mp h
  obtain ⟨rfl, hread', -⟩ := same₂.readBus (show Rv64rs.Ram.Width 4 by decide) hread
  cases hset
  obtain ⟨hlow, rfl⟩ : data % 4 = 3 ∧ w = BitVec.ofInt 32 data := by
    have hdata : Python.Instruction.ofData data = .rv64i w := Option.some.inj hw
    unfold Python.Instruction.ofData at hdata
    split at hdata
    next hlow => exact ⟨hlow, (Python.Instruction.rv64i.inj hdata).symm⟩
    next => cases hdata
  have hlow' : (BitVec.ofInt 32 data).toNat % 4 = 3 := by
    rw [BitVec.toNat_ofInt]
    omega
  refine ⟨m₂, ?_, ⟨⟨same₂.cpu.registers, same₂.cpu.pc, same₂.cpu.mode, same₂.cpu.privilege,
    same₂.cpu.csrs, same₂.cpu.hartid, same₂.cpu.handles⟩, same₂.mtime, same₂.mtimecmp,
    same₂.ram⟩, hw, hlow', bare₂⟩
  have hpolled : Machine.pollUart (Machine.ticked m) = .ok () (Machine.ticked m) := by
    rw [Machine.pollUart_apply, Machine.polled, Machine.ticked_cpu, same.cpu.handles.2.1]
    rfl
  rw [Machine.fetch, bind_ok (Machine.tickClint_apply m), bind_ok hpolled, bind_ok hcheck',
    Machine.fetchWord, get_bind_apply,
    bind_ok (Mmu.translate_bare (same₂.bare bare₂))]
  rw [same₂.cpu.pc, ofInt_toNat] at hread'
  rw [bind_ok hread', setWidth_ofInt _ (by decide)]
  have hmask : BitVec.ofInt 32 data &&& 0b11 = 0b11 := by
    apply BitVec.eq_of_toNat_eq
    change (BitVec.ofInt 32 data).toNat &&& (2 ^ 2 - 1) = 3
    rw [Nat.and_two_pow_sub_one_eq_mod]
    exact hlow'
  rw [run_ite, if_pos hmask]
  rfl

end Fetch

end Riscvm.Lockstep
