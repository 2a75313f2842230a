import Riscvm.Rv64rs.AddressMap
import Riscvm.Python.RangeManger

/-!
# When the address maps are disjoint

Both range managers keep their ranges apart exactly as long as no range slips under its
upper neighbour into a lower one, and the xv6 machine has disjoint windows exactly when
no device begins inside its RAM or stack.
-/

namespace Riscvm

open Exec Rv64rs Xv6Emulator

theorem addressMaps_disjoint_iff [Host] :
    (∀ ranges : List Range,
      (∀ done rest, ranges = done ++ rest → (RangeManager.new.addAll done).Disjoint) ↔
        ∀ done range rest, ranges = done ++ range :: rest →
          ¬(RangeManager.new.addAll done).Slips range) ∧
    (∀ program address uartOutput uartInput diskImage ncpu emu bus,
      newSmp program address uartOutput uartInput diskImage ncpu = .ok emu bus →
        (emu.bus.windows.Pairwise Range.Apart ↔ ClearOfDevices program.length address)) ∧
    (∀ ranges : List (Int × Int),
      (∀ done rest, ranges = done ++ rest → (Python.RangeManger.new.addAll done).Disjoint) ↔
        ∀ done range rest, ranges = done ++ range :: rest →
          ¬(Python.RangeManger.new.addAll done).Slips range) :=
  ⟨RangeManager.addAll_disjoint_iff, fun _ _ _ _ _ _ _ _ h => windows_apart_iff h,
    Python.RangeManger.addAll_disjoint_iff⟩

section Boot

attribute [local instance] Host.dev

theorem reserves_overlap :
    RangeManager.new.Reserves (reservations 0x1000 0x5000000 (0x1000 + 0x5000000)) :=
  ⟨_, _, rfl, _, _, rfl, _, _, rfl, _, _, rfl, _, _, rfl, _, _, rfl, _, _, rfl, trivial⟩

/-- At the load address of xv6 all windows are disjoint. -/
theorem addressMaps_disjoint_kernel :
    ∃ emu bus, newSmp [0x13, 0, 0, 0] 0x80000000 none none none 1 = .ok emu bus ∧
      (emu.bus.windows.Pairwise Range.Apart ↔ ClearOfDevices 4 0x80000000) := by
  obtain ⟨emu, bus, h⟩ := boots_kernel
  have hiff := addressMaps_disjoint_iff.2.1 _ _ _ _ _ _ _ _ h
  rw [List.length_cons, List.length_cons, List.length_cons, List.length_singleton] at hiff
  exact ⟨emu, bus, h, hiff⟩

/-- Both managers accept `[5, 20)` between `[0, 10)` and `[100, 110)`, and a machine
loaded at `0x5000000` boots with its PLIC inside its stack. -/
theorem addressMaps_overlap :
    ¬(RangeManager.new.addAll [⟨0, 10⟩, ⟨100, 10⟩, ⟨5, 15⟩]).Disjoint ∧
    (∃ emu bus, newSmp [0x13, 0, 0, 0] 0x5000000 none none none 1 = .ok emu bus ∧
      ¬emu.bus.windows.Pairwise Range.Apart) ∧
    ¬(Python.RangeManger.new.addAll [(0, 10), (100, 10), (5, 15)]).Disjoint := by
  refine ⟨fun h => ?_, ?_, fun h => ?_⟩
  · have hheld : (RangeManager.new.addAll [⟨0, 10⟩, ⟨100, 10⟩, ⟨5, 15⟩]).held =
        [⟨0, 10⟩, ⟨5, 20⟩, ⟨100, 110⟩] := by decide
    have hseparate := h.separate
    rw [hheld, Layout.Separate] at hseparate
    revert hseparate
    decide
  · obtain ⟨emu, bus, h⟩ := boots_of_reserves 0x5000000 (by decide) reserves_overlap
    refine ⟨emu, bus, h, fun hapart => ?_⟩
    exact (windows_apart_iff h).mp hapart ⟨PLIC_BASE, PLIC_SIZE⟩ (by decide) (by decide)
  · have hheld : (Python.RangeManger.new.addAll [(0, 10), (100, 10), (5, 15)]).held =
        [⟨0, 10⟩, ⟨5, 20⟩, ⟨100, 110⟩] := by decide
    have hseparate := h.separate
    rw [hheld, Layout.Separate] at hseparate
    revert hseparate
    decide

end Boot

end Riscvm
