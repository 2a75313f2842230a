import Riscvm.Foundation.Turns
import Riscvm.Rv64rs.Harts

/-!
# The run loop

`Xv6Emulator::run` steps every hart once in each round and stops at the first step that fails. It
is the schedule of rounds: when it stops, no hart is more than one turn ahead of another.
-/

namespace Riscvm.Rv64rs

open Exec

namespace Xv6Emulator

variable [Host]

/-- `cpu.step(&mut self.bus)` of hart `i`. -/
def stepCpu (i : Nat) : Call Xv6Emulator Unit := do
  match (← get).cpus[i]? with
  | some cpu =>
      zoom (fun emu => Machine.mk cpu emu.bus) (fun m emu => ⟨m.bus, emu.cpus.set i m.cpu⟩)
        Machine.step
  | none => return ()

/-- The body of the loop of `run`: the harts in order, up to the first that fails. -/
def stepCpus : List Nat → Call Xv6Emulator Unit
  | [] => return ()
  | i :: rest => do
      stepCpu i
      stepCpus rest

/-- The first `fuel` iterations of the loop of `run`; it returns no other way than by the error of
a step. -/
def run : (fuel : Nat) → Call Xv6Emulator Unit
  | 0 => return ()
  | fuel + 1 => do
      stepCpus (List.range (← get).cpus.length)
      run fuel

section Turns

variable {emu emu' : Xv6Emulator} {i : Nat} {cpu : Cpu} {e : Fault}

theorem stepHart_none (hcpu : emu.cpus[i]? = none) : emu.stepHart i = emu := by
  unfold stepHart
  simp only [hcpu]

/-- A turn that succeeds. -/
theorem stepHart_ok (hcpu : emu.cpus[i]? = some cpu) {t : Machine}
    (hstep : Machine.step ⟨cpu, emu.bus⟩ = .ok () t) :
    emu.stepHart i = ⟨t.bus, emu.cpus.set i t.cpu⟩ := by
  unfold stepHart
  simp only [hcpu, hstep, finish_ok]

@[simp] theorem length_stepHart (emu : Xv6Emulator) (i : Nat) :
    (emu.stepHart i).cpus.length = emu.cpus.length := by
  unfold stepHart
  split
  · exact List.length_set
  · rfl

@[simp] theorem length_foldl_stepHart (emu : Xv6Emulator) (schedule : List Nat) :
    (schedule.foldl stepHart emu).cpus.length = emu.cpus.length := by
  induction schedule generalizing emu with
  | nil => rfl
  | cons i schedule ih => rw [List.foldl_cons, ih, length_stepHart]

/-- Hart `i` is there and its step returns `Ok`. -/
def Succeeds (emu : Xv6Emulator) (i : Nat) : Prop :=
  ∃ cpu t, emu.cpus[i]? = some cpu ∧ Machine.step ⟨cpu, emu.bus⟩ = .ok () t

/-- Hart `i` is there and its step ends in `e`. -/
def FailsWith (emu : Xv6Emulator) (i : Nat) (e : Fault) : Prop :=
  ∃ cpu t, emu.cpus[i]? = some cpu ∧ Machine.step ⟨cpu, emu.bus⟩ = .error e t

/-- Every turn of the schedule succeeds. -/
def AllSucceed (emu : Xv6Emulator) (schedule : List Nat) : Prop :=
  ∀ done i rest, schedule = done ++ i :: rest → Succeeds (done.foldl stepHart emu) i

/-- A hart that is there takes its turn, and the loop learns how it ended. -/
theorem stepCpu_cases (hi : i < emu.cpus.length) :
    (stepCpu i emu = .ok () (emu.stepHart i) ∧ Succeeds emu i) ∨
      ∃ e, stepCpu i emu = .error e (emu.stepHart i) ∧ FailsWith emu i e := by
  have hcpu : emu.cpus[i]? = some emu.cpus[i] := List.getElem?_eq_getElem hi
  have hzoom : stepCpu i emu = zoom (fun emu' => Machine.mk emu.cpus[i] emu'.bus)
      (fun m emu' => ⟨m.bus, emu'.cpus.set i m.cpu⟩) Machine.step emu := by
    rw [stepCpu, get_bind_apply]
    simp only [hcpu]
  have hstep : emu.stepHart i = ⟨(finish (Machine.step ⟨emu.cpus[i], emu.bus⟩)).bus,
      emu.cpus.set i (finish (Machine.step ⟨emu.cpus[i], emu.bus⟩)).cpu⟩ := by
    unfold stepHart
    simp only [hcpu]
  rw [hzoom, hstep]
  cases h : Machine.step ⟨emu.cpus[i], emu.bus⟩ with
  | ok u t => exact .inl ⟨zoom_ok h, _, t, hcpu, h⟩
  | error e t => exact .inr ⟨e, zoom_error h, _, t, hcpu, h⟩

theorem AllSucceed.nil : AllSucceed emu [] := by
  intro done i rest h
  exact absurd h.symm (by simp)

theorem AllSucceed.append {first second : List Nat} (h : AllSucceed emu first)
    (h' : AllSucceed (first.foldl stepHart emu) second) : AllSucceed emu (first ++ second) := by
  intro done i rest heq
  obtain ⟨middle, hdone, hsecond⟩ | ⟨middle, hfirst, hrest⟩ := List.append_eq_append_iff.mp heq
  · subst hdone
    rw [List.foldl_append]
    exact h' middle i rest hsecond
  · cases middle with
    | nil =>
        rw [List.append_nil] at hfirst
        subst hfirst
        exact h' [] i rest hrest.symm
    | cons j middle =>
        rw [List.cons_append, List.cons.injEq] at hrest
        obtain ⟨rfl, -⟩ := hrest
        exact h done i middle hfirst

theorem AllSucceed.singleton (h : Succeeds emu i) : AllSucceed emu [i] := by
  intro done j rest heq
  cases done with
  | nil =>
      cases heq
      exact h
  | cons k done => simp at heq

/-- A pass over some harts is their turns, up to the first that fails. -/
theorem stepCpus_cases {harts : List Nat} (hin : ∀ i ∈ harts, i < emu.cpus.length) :
    (stepCpus harts emu = .ok () (harts.foldl stepHart emu) ∧ AllSucceed emu harts) ∨
      ∃ done i rest e, harts = done ++ i :: rest ∧ AllSucceed emu done ∧
        FailsWith (done.foldl stepHart emu) i e ∧
        stepCpus harts emu = .error e ((done ++ [i]).foldl stepHart emu) := by
  induction harts generalizing emu with
  | nil => exact .inl ⟨rfl, .nil⟩
  | cons i harts ih =>
      rw [List.forall_mem_cons] at hin
      obtain ⟨hstep, hsucceeds⟩ | ⟨e, hstep, hfails⟩ := stepCpu_cases hin.1
      · have hrest := @ih (emu.stepHart i) (by rw [length_stepHart]; exact hin.2)
        have hcons : stepCpus (i :: harts) emu = stepCpus harts (emu.stepHart i) :=
          bind_ok hstep _
        rw [hcons]
        obtain ⟨hok, hall⟩ | ⟨done, j, rest, e, rfl, hdone, hfails, herror⟩ := hrest
        · exact .inl ⟨hok, (AllSucceed.singleton hsucceeds).append hall⟩
        · exact .inr ⟨i :: done, j, rest, e, rfl, (AllSucceed.singleton hsucceeds).append hdone,
            hfails, herror⟩
      · exact .inr ⟨[], i, harts, e, rfl, .nil, hfails, bind_error hstep _⟩

end Turns

open Turns

/-- One round of the loop. -/
theorem round_cases (emu : Xv6Emulator) :
    (stepCpus (List.range emu.cpus.length) emu =
        .ok () ((List.range emu.cpus.length).foldl stepHart emu) ∧
      AllSucceed emu (List.range emu.cpus.length)) ∨
    ∃ i < emu.cpus.length, ∃ e, stepCpus (List.range emu.cpus.length) emu =
        .error e ((List.range (i + 1)).foldl stepHart emu) ∧
      AllSucceed emu (List.range i) ∧ FailsWith ((List.range i).foldl stepHart emu) i e := by
  have hin : ∀ i ∈ List.range emu.cpus.length, i < emu.cpus.length :=
    fun i hi => List.mem_range.mp hi
  obtain hok | ⟨done, i, rest, e, hrange, hdone, hfails, herror⟩ := stepCpus_cases hin
  · exact .inl hok
  · obtain ⟨rfl, hi⟩ := range_eq_append hrange
    rw [← List.range_succ] at herror
    exact .inr ⟨i, hi, e, herror, hdone, hfails⟩

theorem run_cases (emu : Xv6Emulator) (fuel : Nat) :
    (run fuel emu = .ok () ((rounds emu.cpus.length fuel).foldl stepHart emu) ∧
      AllSucceed emu (rounds emu.cpus.length fuel)) ∨
    ∃ k < fuel, ∃ i < emu.cpus.length, ∃ e,
      run fuel emu =
        .error e ((rounds emu.cpus.length k ++ List.range (i + 1)).foldl stepHart emu) ∧
      AllSucceed emu (rounds emu.cpus.length k ++ List.range i) ∧
      FailsWith ((rounds emu.cpus.length k ++ List.range i).foldl stepHart emu) i e := by
  induction fuel generalizing emu with
  | zero => exact .inl ⟨rfl, .nil⟩
  | succ fuel ih =>
      rw [run, get_bind_apply]
      obtain ⟨hround, hall⟩ | ⟨i, hi, e, hround, hall, hfails⟩ := round_cases emu
      · rw [bind_ok hround]
        have hrest := ih ((List.range emu.cpus.length).foldl stepHart emu)
        rw [length_foldl_stepHart] at hrest
        obtain ⟨hok, hall'⟩ | ⟨k, hk, i, hi, e, herror, hall', hfails⟩ := hrest
        · refine .inl ⟨?_, ?_⟩
          · rw [hok, rounds_succ, List.foldl_append]
          · rw [rounds_succ]
            exact hall.append hall'
        · refine .inr ⟨k + 1, by omega, i, hi, e, ?_, ?_, ?_⟩
          · rw [herror, rounds_succ, List.append_assoc, ← List.foldl_append]
          · rw [rounds_succ, List.append_assoc]
            exact hall.append hall'
          · rw [rounds_succ, List.append_assoc, List.foldl_append]
            exact hfails
      · rw [bind_error hround]
        exact .inr ⟨0, by omega, i, hi, e, rfl, hall, hfails⟩

/-- The loop takes the turns of its rounds one after another. If all of them succeed, every hart
has taken as many as there were rounds; otherwise the loop stops at the first that fails, with the
error of that step, where the harts up to this one are one turn ahead of those behind it. -/
theorem run_is_round_robin (emu : Xv6Emulator) (fuel : Nat) :
    (∃ emu', run fuel emu = .ok () emu' ∧ AllSucceed emu (rounds emu.cpus.length fuel) ∧
      emu' = (rounds emu.cpus.length fuel).foldl stepHart emu ∧
      ∀ i < emu.cpus.length, (rounds emu.cpus.length fuel).count i = fuel) ∨
    ∃ k < fuel, ∃ i < emu.cpus.length, ∃ e emu', run fuel emu = .error e emu' ∧
      AllSucceed emu (rounds emu.cpus.length k ++ List.range i) ∧
      FailsWith ((rounds emu.cpus.length k ++ List.range i).foldl stepHart emu) i e ∧
      emu' = (rounds emu.cpus.length k ++ List.range (i + 1)).foldl stepHart emu ∧
      ∀ j < emu.cpus.length, (rounds emu.cpus.length k ++ List.range (i + 1)).count j =
        if j ≤ i then k + 1 else k := by
  obtain ⟨hok, hall⟩ | ⟨k, hk, i, hi, e, herror, hall, hfails⟩ := run_cases emu fuel
  · refine .inl ⟨_, hok, hall, rfl, fun i hi => ?_⟩
    rw [count_rounds, if_pos hi]
  · refine .inr ⟨k, hk, i, hi, e, _, herror, hall, hfails, rfl, fun j hj => ?_⟩
    rw [List.count_append, count_rounds, count_range, if_pos hj]
    split <;> split <;> omega

end Xv6Emulator

end Riscvm.Rv64rs
