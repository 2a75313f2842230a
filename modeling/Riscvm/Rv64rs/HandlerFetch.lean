import Riscvm.Rv64rs.FetchBytes
import Riscvm.Rv64rs.Harts

/-!
# Fetching the M-mode handler

Translation is gated on `satp.MODE` only, so a trap into M-mode fetches its handler
through the page table of the interrupted program. The physical address of the first
instruction is the one that `satp` gives for `mtvec`, and where it gives none the fetch
fails.
-/

namespace Riscvm.Rv64rs

open Bits Exec Machine Mmu Trap

/-- `mtvec` with the low two bits cleared. -/
def handler (cpu : Cpu) : U64 := cpu.csrs.get Csr.MTVEC &&& ~~~0b11

/-- The instruction of a word, as `fetch` tells the two lengths apart. -/
def decodeWord (word : U32) : DecodedInstruction :=
  if word &&& 0b11 = 0b11 then .full (.new word) else .compressed (.new (word.setWidth 16))

variable [Host]

/-- `s` is about to fetch at `va` with `root` in `satp`, and `result` is what comes of it: the
instruction at the physical address of `va`, or the fault of the translation. -/
structure FetchesThrough (root va : U64) (s : Machine)
    (result : EStateM.Result Fault Machine DecodedInstruction) : Prop where
  pc : s.cpu.pc = va
  satp : s.cpu.csrs.get Csr.SATP = root
  bare : root >>> 60 = MODE_BARE → translate va .X s = .ok va s
  instruction : ∀ pa t, translate va .X s = .ok pa t → ∀ data bus,
    Bus.read pa 4 s.bus = .ok data bus → ∃ t, result = .ok (decodeWord (data.setWidth 32)) t
  fault : ∀ e t, translate va .X s = .error e t → result = .error e t

theorem fetchWord_through (s : Machine) :
    FetchesThrough (s.cpu.csrs.get Csr.SATP) s.cpu.pc s (fetchWord s) where
  pc := rfl
  satp := rfl
  bare h := translate_bare h
  instruction pa t ht data bus hread := by
    rw [← translate_bus ht] at hread
    rw [fetchWord, get_bind_apply, bind_ok ht, bind_ok (onBus_ok hread), run_ite, decodeWord]
    split
    · exact ⟨_, rfl⟩
    · exact ⟨_, rfl⟩
  fault e t ht := by
    rw [fetchWord, get_bind_apply, bind_error ht]

omit [Host] in
/-- An interrupt that ends in M-mode continues at the handler, under the same `satp`. -/
theorem interrupted_handler {cpu : Cpu} {mip cause : U64}
    (hm : (interrupted (withMip cpu mip) cause).mode = PRIV_M) :
    (interrupted (withMip cpu mip) cause).pc = handler cpu ∧
      (interrupted (withMip cpu mip) cause).csrs.get Csr.SATP = cpu.csrs.get Csr.SATP := by
  unfold interrupted at hm ⊢
  split at hm
  · exact absurd hm (by change PRIV_S ≠ PRIV_M; decide)
  · next hd =>
      rw [if_neg hd]
      refine ⟨?_, ?_⟩
      · change (withMip cpu mip).csrs.get Csr.MTVEC &&& _ = _
        rw [withMip, Csrs.get_insert_ne _ _ (by decide)]
        rfl
      · change (takenM (withMip cpu mip) _ 0).csrs.get Csr.SATP = _
        rw [takenM_get, withMip, Csrs.get_insert_ne _ _ (by decide)]
        rfl

theorem fetchesThrough_interrupt {m t : Machine} (taken : checkInterrupt m = .ok true t)
    (hm : t.cpu.mode = PRIV_M) :
    FetchesThrough (m.cpu.csrs.get Csr.SATP) (handler m.cpu) t (fetchWord t) := by
  obtain ⟨mip, s, hs, -⟩ := bind_eq_ok.mp taken
  obtain rfl := readOnly_sampleMip.state_eq hs
  rw [checkInterrupt_apply hs] at taken
  split at taken
  · next cause _ =>
      cases taken
      obtain ⟨hpc, hsatp⟩ := interrupted_handler hm
      rw [← hpc, ← hsatp]
      exact fetchWord_through { s with cpu := interrupted (withMip s.cpu mip) cause }
  · cases taken

/-- After an entry to M-mode no interrupt is taken before the handler is fetched. -/
theorem quiet_of_masked {m t : Machine} {b : Bool} (hm : m.cpu.mode = PRIV_M)
    (masked : m.cpu.csrs.get Csr.MSTATUS &&& MSTATUS_MIE = 0)
    (h : checkInterrupt m = .ok b t) :
    b = false ∧ ∃ mip, t = { m with cpu := withMip m.cpu mip } := by
  obtain ⟨mip, s, hs, -⟩ := bind_eq_ok.mp h
  obtain rfl := readOnly_sampleMip.state_eq hs
  rw [checkInterrupt_apply hs] at h
  split at h
  · next cause hcause =>
      obtain ⟨-, -, hmie⟩ := (firstCandidate_some hcause).2
      exact absurd masked (hmie (fun hd => hd.1 hm) hm)
  · cases h
    exact ⟨rfl, mip, rfl⟩

omit [Host] in
theorem enterM_masked (mstatus : U64) (mode : U8) (h : Privilege mode) :
    enterM mstatus mode &&& MSTATUS_MIE = 0 := by
  rw [MSTATUS_MIE, and_bit_eq_zero, BitVec.getLsbD_eq_getElem (by decide), getElem_enterM _ h]
  rfl

/-- An ECALL that ends in M-mode leaves the hart at the handler, interrupts masked. -/
theorem ecall_handler {m t : Machine} {instr : Instruction} (isEcall : instr.IsEcall)
    (below : m.cpu.mode = PRIV_U ∨ m.cpu.mode = PRIV_S)
    (run : Machine.execute instr m = .ok () t) (hm : t.cpu.mode = PRIV_M) :
    t.cpu.pc = handler m.cpu ∧ t.cpu.csrs.get Csr.SATP = m.cpu.csrs.get Csr.SATP ∧
      t.cpu.csrs.get Csr.MSTATUS &&& MSTATUS_MIE = 0 := by
  rw [execute_apply] at run
  obtain ⟨pc, u, hx, hcommit⟩ := bind_eq_ok.mp run
  cases hcommit
  rw [Execute.executeFrom_ecall isEcall] at hx
  obtain ⟨cpu, rfl, hr⟩ := Execute.onCpu_raiseTrap_ok hx
  obtain ⟨-, rfl⟩ | ⟨rfl, rfl⟩ := Execute.raiseTrap_ok hr
  · exact absurd hm (by change PRIV_S ≠ PRIV_M; decide)
  · refine ⟨rfl, ?_, ?_⟩
    · change (takenM m.cpu _ 0).csrs.get Csr.SATP = _
      rw [takenM_get]
      rfl
    · change (takenM m.cpu _ 0).csrs.get Csr.MSTATUS &&& MSTATUS_MIE = 0
      rw [takenM_get]
      exact enterM_masked _ _ (below.imp_right .inl)

theorem fetchesThrough_ecall {m t s : Machine} {instr : Instruction} {b : Bool}
    (isEcall : instr.IsEcall) (below : m.cpu.mode = PRIV_U ∨ m.cpu.mode = PRIV_S)
    (run : Machine.execute instr m = .ok () t) (hm : t.cpu.mode = PRIV_M)
    (before : beforeFetch t = .ok b s) :
    FetchesThrough (m.cpu.csrs.get Csr.SATP) (handler m.cpu) s (fetch t) := by
  obtain ⟨hpc, hsatp, hmasked⟩ := ecall_handler isEcall below run hm
  have hsame := sameControl_polled (ticked t)
  rw [ticked_cpu] at hsame
  have hcheck := before
  rw [beforeFetch, bind_ok (tickClint_apply t), bind_ok (pollUart_apply _)] at hcheck
  obtain ⟨rfl, mip, rfl⟩ := quiet_of_masked (hsame.mode.trans hm)
      (by rw [hsame.csrs, hmasked]) hcheck
  have hword := fetchWord_through
      { polled (ticked t) with cpu := withMip (polled (ticked t)).cpu mip }
  rw [fetch_of_quiet before, ← hpc, ← hsame.pc, ← hsatp, ← hsame.csrs]
  have hroot : (withMip (polled (ticked t)).cpu mip).csrs.get Csr.SATP =
      (polled (ticked t)).cpu.csrs.get Csr.SATP := Csrs.get_insert_ne _ _ (by decide)
  rw [← hroot]
  exact hword

omit [Host] in
/-- The machine with its hart in `mode`. -/
def inMode (mode : U8) (m : Machine) : Machine := { m with cpu := { m.cpu with mode } }

omit [Host] in
/-- What a call comes to, with the hart in `mode`. -/
def resultInMode {α : Type} (mode : U8) :
    EStateM.Result Fault Machine α → EStateM.Result Fault Machine α
  | .ok a m => .ok a (inMode mode m)
  | .error e m => .error e (inMode mode m)

omit [Host] in
theorem onBus_inMode {α : Type} (x : Call Bus α) (mode : U8) (m : Machine) :
    onBus x (inMode mode m) = resultInMode mode (onBus x m) := by
  have hbus : (inMode mode m).bus = m.bus := rfl
  unfold onBus zoom
  rw [hbus]
  cases x m.bus <;> rfl

/-- An address is translated alike in every mode. -/
theorem translate_inMode (va : U64) (access : Access) (mode : U8) (m : Machine) :
    translate va access (inMode mode m) = resultInMode mode (translate va access m) := by
  have hcsrs : (inMode mode m).cpu.csrs = m.cpu.csrs := rfl
  have htlb : (inMode mode m).cpu.tlb = m.cpu.tlb := rfl
  rw [Mmu.translate, get_bind_apply, get_bind_apply, hcsrs, run_ite, run_ite]
  split
  next => rfl
  next =>
    unfold Mmu.translatePaged
    rw [run_ite, run_ite]
    split
    next => rfl
    next =>
      rw [get_bind_apply, get_bind_apply, htlb]
      cases m.cpu.tlb.lookup (va >>> 12) with
      | some entry =>
          dsimp only
          rw [run_ite, run_ite]
          split <;> rfl
      | none =>
          dsimp only
          rw [bind_apply, bind_apply, onBus_inMode]
          cases onBus (Mmu.walk (m.cpu.csrs.get Csr.SATP) va access) m <;> rfl

/-- A hart in U-mode or S-mode that enters M-mode fetches its next instruction where `satp`
translates the handler to, as it would in the mode that it left: in every mode an address is
translated alike. -/
theorem handler_fetched_through_satp (m t : Machine)
    (below : m.cpu.mode = PRIV_U ∨ m.cpu.mode = PRIV_S) (hm : t.cpu.mode = PRIV_M) :
    (checkInterrupt m = .ok true t →
        FetchesThrough (m.cpu.csrs.get Csr.SATP) (handler m.cpu) t (fetchWord t)) ∧
      (∀ instr, instr.IsEcall → Machine.execute instr m = .ok () t →
        ∀ b s, beforeFetch t = .ok b s →
          FetchesThrough (m.cpu.csrs.get Csr.SATP) (handler m.cpu) s (fetch t)) ∧
      ∀ va access mode s,
        translate va access (inMode mode s) = resultInMode mode (translate va access s) :=
  ⟨fun taken => fetchesThrough_interrupt taken hm,
    fun _ isEcall run _ _ before => fetchesThrough_ecall isEcall below run hm before,
    translate_inMode⟩

section Unmapped

omit [Host]

/-- `ecall`. -/
def ECALL : Instruction := .new 0x00000073

/-- A hart in U-mode whose page table at address 0 is empty and whose handler at address 8
begins with a NOP. -/
def unmappedHandler : Machine :=
  { cpu := { Cpu.new 0 with
      mode := PRIV_U
      csrs := (Csrs.new.insert Csr.SATP (MODE_SV39 <<< 60)).insert Csr.MTVEC 8 }
    bus := { Bus.new .detached with
      ram := ⟨List.replicate 8 0 ++ [0x13, 0, 0, 0, 0, 0, 0, 0]⟩, ramRange := ⟨0, 16⟩ } }

/-- The same hart after its ECALL. -/
def unmappedEntered : Machine := finish (@Machine.execute .dev ECALL unmappedHandler)

theorem handler_fetched_unmappedHandler :
    (@checkInterrupt .dev unmappedHandler = .ok true unmappedEntered →
        @FetchesThrough .dev (unmappedHandler.cpu.csrs.get Csr.SATP) (handler unmappedHandler.cpu)
          unmappedEntered (@fetchWord .dev unmappedEntered)) ∧
      (∀ instr, instr.IsEcall → @Machine.execute .dev instr unmappedHandler =
        .ok () unmappedEntered →
        ∀ b s, @beforeFetch .dev unmappedEntered = .ok b s →
          @FetchesThrough .dev (unmappedHandler.cpu.csrs.get Csr.SATP)
            (handler unmappedHandler.cpu) s (@fetch .dev unmappedEntered)) ∧
      ∀ va access mode s, @translate .dev va access (inMode mode s) =
        resultInMode mode (@translate .dev va access s) :=
  @handler_fetched_through_satp .dev unmappedHandler unmappedEntered (.inl rfl) rfl

/-- The handler word is in RAM, and the fetch that follows the ECALL fails. -/
theorem unmapped_handler_not_fetched :
    @Machine.execute .dev ECALL unmappedHandler = .ok () unmappedEntered ∧
      unmappedEntered.cpu.mode = PRIV_M ∧ unmappedEntered.cpu.pc = handler unmappedHandler.cpu ∧
      (∃ bus, @Bus.read .dev (handler unmappedHandler.cpu) 4 unmappedEntered.bus = .ok 0x13 bus) ∧
      ¬∃ instr t, @fetch .dev unmappedEntered = .ok instr t := by
  let : Host := .dev
  have hfails : (match fetch unmappedEntered with
      | .ok _ _ => true
      | .error _ _ => false) = false := by decide
  refine ⟨rfl, rfl, by decide, ⟨unmappedEntered.bus, rfl⟩, ?_⟩
  rintro ⟨instr, t, hok⟩
  rw [hok] at hfails
  cases hfails

end Unmapped

end Riscvm.Rv64rs
