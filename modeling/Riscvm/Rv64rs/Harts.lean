import Riscvm.Foundation.Runs
import Riscvm.Rv64rs.Control
import Riscvm.Rv64rs.Emulator
import Riscvm.Rv64rs.Interrupts

/-!
# Runs of several harts

The harts share the bus and take turns in any order; a step that fails still leaves a
state. What every hart keeps is shown for one step and carried over whole runs here.
-/

namespace Riscvm.Rv64rs

open Exec Machine

namespace Trap

variable [Host]

/-- The control state of a hart after its interrupts were looked at: as it was, with the
sampled lines in `mip`, or at the vector of an interrupt. -/
inductive Sampled (cpu cpu' : Cpu) : Prop
  | kept (same : SameControl cpu cpu')
  | sampled (mip : U64) (same : SameControl (withMip cpu mip) cpu')
  | taken (mip cause : U64) (mem : cause ∈ PRIORITY)
      (same : SameControl (interrupted (withMip cpu mip) cause) cpu')

omit [Host] in
theorem SameControl.withMip {a b : Cpu} (h : SameControl a b) (mip : U64) :
    SameControl (withMip a mip) (withMip b mip) :=
  ⟨h.pc, congrArg (Csrs.insert · Csr.MIP mip) h.csrs, h.mode, h.hartid⟩

omit [Host] in
theorem SameControl.interrupted {a b : Cpu} (h : SameControl a b) (cause : U64) :
    SameControl (interrupted a cause) (interrupted b cause) := by
  have hdelegated : Delegated b cause true ↔ Delegated a cause true := by
    unfold Delegated delegation
    rw [h.mode, h.csrs]
  unfold Trap.interrupted
  by_cases hd : Delegated a cause true
  · rw [if_pos hd, if_pos (hdelegated.mpr hd)]
    refine ⟨?_, ?_, rfl, h.hartid⟩
    · simp only [h.csrs]
    · simp only [takenS, h.csrs, h.pc, h.mode]
  · rw [if_neg hd, if_neg fun hb => hd (hdelegated.mp hb)]
    refine ⟨?_, ?_, rfl, h.hartid⟩
    · simp only [h.csrs]
    · simp only [takenM, h.csrs, h.pc, h.mode]

omit [Host] in
theorem Sampled.of_same {a b c : Cpu} (h : SameControl a b) (h' : Sampled b c) : Sampled a c := by
  cases h' with
  | kept same => exact .kept (h.trans same)
  | sampled mip same => exact .sampled mip ((SameControl.withMip h mip).trans same)
  | taken mip cause mem same =>
      exact .taken mip cause mem ((SameControl.interrupted
        (SameControl.withMip h mip) cause).trans same)

omit [Host] in
theorem Sampled.then_same {a b c : Cpu} (h : Sampled a b) (h' : SameControl b c) :
    Sampled a c := by
  cases h with
  | kept same => exact .kept (same.trans h')
  | sampled mip same => exact .sampled mip (same.trans h')
  | taken mip cause mem same => exact .taken mip cause mem (same.trans h')

theorem keeps_checkInterrupt :
    Keeps (fun (m t : Machine) => Sampled m.cpu t.cpu) checkInterrupt := by
  intro m
  have hkeeps := readOnly_sampleMip m
  cases hs : sampleMip m with
  | error e t =>
      rw [hs] at hkeeps
      rw [checkInterrupt, bind_error hs, finish_error]
      rw [finish_error] at hkeeps
      rw [hkeeps]
      exact .kept (.refl _)
  | ok mip t =>
      rw [hs, finish_ok] at hkeeps
      rw [hkeeps] at hs
      rw [checkInterrupt_apply hs]
      split
      · next cause hcause =>
          exact .taken mip cause (firstCandidate_some hcause).1 (.refl _)
      · exact .sampled mip (.refl _)

end Trap

namespace Machine

variable [Host]

/-- `Cpu::execute` or `Cpu::execute_compressed`. -/
def executeDecoded : DecodedInstruction → Call Machine Unit
  | .full instr => execute instr
  | .compressed instr => executeCompressed instr

theorem step_eq : step = fetch >>= executeDecoded := rfl

omit [Host] in
theorem sameControl_polled (m : Machine) : SameControl m.cpu (polled m).cpu := by
  unfold polled
  split
  · split
    · exact ⟨rfl, rfl, rfl, rfl⟩
    · exact ⟨rfl, rfl, rfl, rfl⟩
  · exact .refl _

theorem keepsControl_fetchWord : KeepsControl fetchWord := by
  refine .get_bind fun m => .bind (.translate _ _) fun pa => .bind (.onBus _) fun word => ?_
  exact .ite (.pure _) (.pure _)

/-- Fetching changes the control state only by interrupts. -/
theorem keeps_fetch : Keeps (fun (m t : Machine) => Trap.Sampled m.cpu t.cpu) fetch := by
  intro m
  have hpolled := sameControl_polled (ticked m)
  rw [ticked_cpu] at hpolled
  have hsampled := Trap.keeps_checkInterrupt (polled (ticked m))
  rw [fetch, bind_ok (tickClint_apply m), bind_ok (pollUart_apply _), bind_apply]
  cases hc : Trap.checkInterrupt (polled (ticked m)) with
  | error e t =>
      rw [hc] at hsampled
      exact .of_same hpolled hsampled
  | ok b t =>
      rw [hc] at hsampled
      exact .of_same hpolled (hsampled.then_same (keepsControl_fetchWord t))

/-- What `fetch` returns is the decoding of some word. -/
theorem decoded_of_fetch {m t : Machine} {instr : DecodedInstruction}
    (h : fetch m = .ok instr t) :
    (∃ word, instr = .full (.new word)) ∨ ∃ word, instr = .compressed (.new word) := by
  have hword : Returns (fun _ instr _ => (∃ word, instr = .full (.new word)) ∨
      ∃ word, instr = .compressed (.new word)) fetchWord := by
    refine .bind_value fun m => .bind_value fun pa => .bind_value fun data => ?_
    exact .ite (fun _ => .pure fun _ => .inl ⟨_, rfl⟩) fun _ => .pure fun _ => .inr ⟨_, rfl⟩
  have hfetch : Returns (fun _ instr _ => (∃ word, instr = .full (.new word)) ∨
      ∃ word, instr = .compressed (.new word)) fetch :=
    .bind_value fun _ => .bind_value fun _ => .bind_value fun _ => hword
  exact hfetch m instr t h

omit [Host] in
/-- Committing the next pc that `x` returns, or keeping the state in which `x` fails. -/
theorem commit_good_iff {Good : Cpu → Prop} {Bad : Prop} {x : Call Machine U64} {m : Machine}
    (ok : ∀ pc t, x m = .ok pc t → (Good { t.cpu with pc } ↔ ¬Bad))
    (fault : ∀ e t, x m = .error e t → Good t.cpu)
    (bad : Bad → ∃ pc t, x m = .ok pc t) :
    Good (finish ((x >>= fun pc => modifyCpu fun cpu => { cpu with pc }) m)).cpu ↔ ¬Bad := by
  rw [bind_apply]
  cases hx : x m with
  | ok pc t => exact ok pc t hx
  | error e t =>
      refine ⟨fun _ hbad => ?_, fun _ => fault e t hx⟩
      obtain ⟨pc, t', hx'⟩ := bad hbad
      rw [hx] at hx'
      cases hx'

/-- If sampling interrupts keeps a hart good and exactly the bad instructions lead out of the
good states, then exactly the steps that fetch a bad instruction do. -/
theorem step_good_iff {Good : Cpu → Prop} {Bad : Cpu → DecodedInstruction → Prop}
    (sampled : ∀ cpu cpu', Trap.Sampled cpu cpu' → Good cpu → Good cpu')
    (decoded : ∀ (m : Machine) (instr : DecodedInstruction),
      ((∃ w, instr = .full (.new w)) ∨ ∃ w, instr = .compressed (.new w)) → Good m.cpu →
        (Good (finish (executeDecoded instr m)).cpu ↔ ¬Bad m.cpu instr))
    (m : Machine) (start : Good m.cpu) :
    Good (finish (step m)).cpu ↔ ¬∃ instr t, fetch m = .ok instr t ∧ Bad t.cpu instr := by
  have hgood := sampled _ _ (keeps_fetch m) start
  rw [step_eq, bind_apply]
  cases hf : fetch m with
  | error e t =>
      rw [hf] at hgood
      constructor
      · rintro - ⟨instr, t', hok, -⟩
        cases hok
      · intro _
        exact hgood
  | ok instr t =>
      rw [hf] at hgood
      refine (decoded t instr (decoded_of_fetch hf) hgood).trans ?_
      constructor
      · rintro hkeeps ⟨instr', t', hok, hbad⟩
        cases hok
        exact hkeeps hbad
      · intro hkeeps hbad
        exact hkeeps ⟨instr, t, rfl, hbad⟩

end Machine

namespace Xv6Emulator

variable [Host]

/-- One turn of hart `i`. -/
def stepHart (emu : Xv6Emulator) (i : Nat) : Xv6Emulator :=
  match emu.cpus[i]? with
  | some cpu =>
      let m := finish (Machine.step ⟨cpu, emu.bus⟩)
      ⟨m.bus, emu.cpus.set i m.cpu⟩
  | none => emu

/-- The machine that hart `i` forms with the bus satisfies `P`. -/
def OnHart (P : Machine → Prop) (emu : Xv6Emulator) (i : Nat) : Prop :=
  ∃ cpu, emu.cpus[i]? = some cpu ∧ P ⟨cpu, emu.bus⟩

/-- If exactly the bad steps lead out of the good states of a hart, then exactly the bad
turns lead out of the states in which all harts are good. -/
theorem stepHart_good_iff {Good : Cpu → Prop} {Bad : Machine → Prop}
    (hstep : ∀ m : Machine, Good m.cpu → (Good (finish (Machine.step m)).cpu ↔ ¬Bad m))
    (emu : Xv6Emulator) (i : Nat) (start : ∀ cpu ∈ emu.cpus, Good cpu) :
    (∀ cpu ∈ (emu.stepHart i).cpus, Good cpu) ↔ ¬OnHart Bad emu i := by
  unfold stepHart OnHart
  cases hcpu : emu.cpus[i]? with
  | none =>
      constructor
      · rintro - ⟨cpu, hsome, -⟩
        cases hsome
      · intro _
        exact start
  | some cpu =>
      obtain ⟨hi, hget⟩ := List.getElem?_eq_some_iff.mp hcpu
      have hgood := start cpu (hget ▸ List.getElem_mem hi)
      have hstep := hstep ⟨cpu, emu.bus⟩ hgood
      constructor
      · rintro hall ⟨cpu', hsome, hbad⟩
        cases hsome
        exact hstep.mp (hall _ (List.mem_set hi _)) hbad
      · intro hbad cpu' hmem
        obtain hmem | rfl := List.mem_or_eq_of_mem_set hmem
        · exact start cpu' hmem
        · exact hstep.mpr fun h => hbad ⟨cpu, rfl, h⟩

/-- All harts stay good through a schedule exactly as long as no turn of it is bad. -/
theorem run_good_iff {Good : Cpu → Prop} {Bad : Machine → Prop}
    (hstep : ∀ m : Machine, Good m.cpu → (Good (finish (Machine.step m)).cpu ↔ ¬Bad m))
    (emu : Xv6Emulator) (start : ∀ cpu ∈ emu.cpus, Good cpu) (schedule : List Nat) :
    (∀ done rest, schedule = done ++ rest → ∀ cpu ∈ (done.foldl stepHart emu).cpus, Good cpu) ↔
      ∀ done i rest, schedule = done ++ i :: rest → ¬OnHart Bad (done.foldl stepHart emu) i :=
  Runs.forall_good_iff (fun emu i start => stepHart_good_iff hstep emu i start) start schedule

end Xv6Emulator

end Riscvm.Rv64rs
