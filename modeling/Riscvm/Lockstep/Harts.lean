import Riscvm.Python.Bus
import Riscvm.Python.Escapes
import Riscvm.Rv64rs.TlbTransparency
import Riscvm.Rv64rs.Windows

/-!
# Two harts in step

`Same` relates a Python hart to a Rust hart with the same registers, pc and RAM. A Python access
that returns is one inside the RAM, where the Rust access returns the same value; `Agrees` is
what follows for two calls, with a rule for each construct of the actors.
-/

namespace Riscvm.Lockstep

open Bytes Exec TwosComplement Rv64rs

/-- One RAM, on both buses at the same place and with the same contents. -/
structure SameRam (board : Python.Bus) (bus : Bus) : Prop where
  board_eq : board = ⟨⟨[(bus.ramRange.start.toNat : Int)], [(bus.ramRange.size.toNat : Int)]⟩,
    [((bus.ramRange.start.toNat, bus.ramRange.size.toNat), bus.ram.data)]⟩
  length : bus.ram.data.length = bus.ramRange.size.toNat
  bounded : bus.ramRange.start.toNat + bus.ramRange.size.toNat < 2 ^ 64

/-- The bytes from `address` on lie in the RAM. -/
structure InRam (bus : Bus) (address size : Int) : Prop where
  start : (bus.ramRange.start.toNat : Int) ≤ address
  stop : address + size ≤ bus.ramRange.start.toNat + bus.ramRange.size.toNat

section Memory

variable {board board' : Python.Bus} {bus : Bus} {address : Int} {size : U8}

theorem SameRam.getDevice (same : SameRam board bus) {size : Int}
    {device : Python.Ram × (Int × Int)}
    (h : Python.Bus.getDevice address size board = .ok device board') :
    board' = board ∧ InRam bus address size ∧
      device = (bus.ram.data,
        ((bus.ramRange.start.toNat : Int), (bus.ramRange.size.toNat : Int))) := by
  obtain rfl := same.board_eq
  rw [Python.Bus.getDevice, bind_eq_ok] at h
  obtain ⟨range, board₁, hrange, h⟩ := h
  unfold Python.Bus.onRangeManger zoom at hrange
  dsimp only at hrange
  cases hget : Python.RangeManger.getRange address size
      ⟨[(bus.ramRange.start.toNat : Int)], [(bus.ramRange.size.toNat : Int)]⟩ with
  | error e m =>
      rw [hget] at hrange
      cases hrange
  | ok range' m =>
      rw [hget] at hrange
      cases hrange
      obtain ⟨rfl, rfl, hstart, hstop⟩ := Python.RangeManger.getRange_single hget
      rw [get_bind_apply] at h
      simp only [List.lookup_cons_self] at h
      cases h
      exact ⟨rfl, ⟨hstart, hstop⟩, rfl⟩

/-- An address in RAM is one of a word. -/
theorem InRam.toNat (same : SameRam board bus) {size : Int} (h : InRam bus address size)
    (pos : 0 < size) : ((BitVec.ofInt 64 address).toNat : Int) = address := by
  have hbounded := same.bounded
  obtain ⟨hstart, hstop⟩ := h
  rw [BitVec.toNat_ofInt]
  omega

theorem InRam.contains (same : SameRam board bus) (h : InRam bus address (size.toNat : Int))
    (pos : 0 < size.toNat) :
    bus.ramRange.Contains (BitVec.ofInt 64 address) (size.setWidth 64) := by
  have haddress := h.toNat same (Int.natCast_pos.mpr pos)
  obtain ⟨hstart, hstop⟩ := h
  have hsize : (size.setWidth 64 : U64).toNat = size.toNat :=
    BitVec.toNat_setWidth_of_le (by decide)
  refine ⟨BitVec.le_def.mpr (by omega), ?_⟩
  rw [hsize]
  omega

theorem InRam.offset [Host] (same : SameRam board bus) (h : InRam bus address (size.toNat : Int))
    (pos : 0 < size.toNat) :
    (BitVec.ofInt 64 address - bus.ramRange.start).toNat =
        (address - bus.ramRange.start.toNat).toNat ∧
      (sub (BitVec.ofInt 64 address) bus.ramRange.start : Call Bus U64) =
        pure (BitVec.ofInt 64 address - bus.ramRange.start) := by
  have haddress := h.toNat same (Int.natCast_pos.mpr pos)
  obtain ⟨hstart, hstop⟩ := h
  have hle : bus.ramRange.start.toNat ≤ (BitVec.ofInt 64 address).toNat := by omega
  refine ⟨?_, sub_of_le hle⟩
  rw [BitVec.toNat_sub_of_le (BitVec.le_def.mpr hle)]
  omega

theorem width_pos (width : Rv64rs.Ram.Width size) : 0 < size.toNat := by
  obtain rfl | rfl | rfl | rfl := width
  all_goals decide

theorem width_int (width : Rv64rs.Ram.Width size) :
    (size.toNat : Int) = 1 ∨ (size.toNat : Int) = 2 ∨ (size.toNat : Int) = 4 ∨
      (size.toNat : Int) = 8 := by
  obtain rfl | rfl | rfl | rfl := width
  all_goals decide

theorem SameRam.read [Host] (same : SameRam board bus) (width : Rv64rs.Ram.Width size) {value : Int}
    (h : Python.Bus.read address (size.toNat : Int) board = .ok value board') :
    board' = board ∧
      Bus.read (BitVec.ofInt 64 address) size bus = .ok (BitVec.ofInt 64 value) bus ∧
      ∃ n < 256 ^ size.toNat, value = ((n : Nat) : Int) := by
  rw [Python.Bus.read, bind_eq_ok] at h
  obtain ⟨⟨device, range⟩, board₁, hdevice, h⟩ := h
  obtain ⟨rfl, inRam, hfound⟩ := same.getDevice hdevice
  cases hfound
  have hram (a : Int) : Python.Ram.read a (size.toNat : Int) bus.ram.data () =
      .ok ((leNat (extract bus.ram.data a.toNat size.toNat) : Nat) : Int) () := by
    rw [Python.Ram.read, if_pos (width_int width)]
    rfl
  have hdone : Python.Bus.onDevice (Python.Ram.read (address - bus.ramRange.start.toNat)
      (size.toNat : Int) bus.ram.data) board₁ = .ok _ board₁ := zoom_ok (hram _)
  obtain ⟨rfl, rfl⟩ : _ = value ∧ board₁ = board' := EStateM.Result.ok.inj (hdone.symm.trans h)
  refine ⟨rfl, ?_⟩
  have hpos := width_pos width
  have hcontains := inRam.contains same hpos
  obtain ⟨hoffset, hsub⟩ := inRam.offset same hpos
  have hlength := same.length
  have hfits : (BitVec.ofInt 64 address - bus.ramRange.start).toNat + size.toNat ≤
      bus.ram.data.length := by
    obtain ⟨hstart, hstop⟩ := inRam
    omega
  refine ⟨?_, _, ?_, rfl⟩
  · rw [Bus.read, Bus.readAt, get_bind_apply]
    rw [Range.contains_apply same.bounded, pure_bind_apply, decide_eq_true hcontains, if_pos rfl,
      hsub, pure_bind_apply]
    refine (zoom_ok (Ram.read_ok width hfits)).trans ?_
    rw [hoffset, BitVec.ofInt_natCast]
  · have hbytes := leNat_lt (extract bus.ram.data (address - bus.ramRange.start.toNat).toNat
      size.toNat)
    rwa [length_extract (by omega)] at hbytes

theorem SameRam.write [Host] (same : SameRam board bus) (width : Rv64rs.Ram.Width size)
    {value : U64}
    (h : Python.Bus.write address (size.toNat : Int) (value.toNat : Int) board = .ok () board') :
    ∃ ram, Bus.write (BitVec.ofInt 64 address) size value bus = .ok () { bus with ram } ∧
      SameRam board' { bus with ram } := by
  rw [Python.Bus.write, bind_eq_ok] at h
  obtain ⟨⟨device, range⟩, board₁, hdevice, h⟩ := h
  obtain ⟨rfl, inRam, hfound⟩ := same.getDevice hdevice
  cases hfound
  have hram (a : Int) : Python.Ram.write a (size.toNat : Int) (value.toNat : Int) bus.ram.data () =
      .ok (splice bus.ram.data a.toNat (leBytes size.toNat value.toNat)) () := by
    rw [Python.Ram.write, if_pos (width_int width)]
    change EStateM.Result.ok (splice bus.ram.data a.toNat
      (leBytes size.toNat ((value.toNat : Int) % 256 ^ size.toNat).toNat)) () = _
    have hmod : ((value.toNat : Int) % 256 ^ size.toNat).toNat =
        value.toNat % 256 ^ size.toNat := by
      rw [← Int.toNat_natCast (value.toNat % 256 ^ size.toNat), Int.natCast_mod, Int.natCast_pow]
      rfl
    rw [hmod, leBytes_mod]
  have hdone : Python.Bus.onDevice (Python.Ram.write (address - bus.ramRange.start.toNat)
      (size.toNat : Int) (value.toNat : Int) bus.ram.data) board₁ = .ok _ board₁ := zoom_ok (hram _)
  have hwritten := (bind_ok hdone _).symm.trans h
  cases hwritten
  have hpos := width_pos width
  have hcontains := inRam.contains same hpos
  obtain ⟨hoffset, hsub⟩ := inRam.offset same hpos
  have hlength := same.length
  have hfits : (BitVec.ofInt 64 address - bus.ramRange.start).toNat + size.toNat ≤
      bus.ram.data.length := by
    obtain ⟨hstart, hstop⟩ := inRam
    omega
  refine ⟨⟨splice bus.ram.data (address - bus.ramRange.start.toNat).toNat
    (leBytes size.toNat value.toNat)⟩, ?_, ?_, ?_, same.bounded⟩
  · rw [Bus.write, Bus.writeWith, get_bind_apply]
    rw [Range.contains_apply same.bounded, pure_bind_apply, decide_eq_true hcontains, if_pos rfl,
      hsub, pure_bind_apply]
    refine (zoom_ok (Ram.write_ok width hfits value)).trans ?_
    rw [hoffset]
  · obtain rfl := same.board_eq
    simp
  · rw [length_splice, hlength]
    rw [leBytes_length, ← hoffset]
    exact hfits

/-- The number that a word is. -/
def number (word : U64) : Int := word.toNat

theorem toNat_iff {w k : Nat} {b : BitVec w} (hk : k < 2 ^ w) :
    ((b.toNat : Nat) : Int) = (k : Int) ↔ b = BitVec.ofNat w k := by
  rw [Int.natCast_inj]
  refine ⟨fun h => BitVec.eq_of_toNat_eq ?_, fun h => ?_⟩
  · rw [BitVec.toNat_ofNat, Nat.mod_eq_of_lt hk, h]
  · rw [h, BitVec.toNat_ofNat, Nat.mod_eq_of_lt hk]

theorem width_of_size {size : U8}
    (h : (size.toNat : Int) = 1 ∨ (size.toNat : Int) = 2 ∨ (size.toNat : Int) = 4 ∨
      (size.toNat : Int) = 8) : Ram.Width size :=
  h.imp (toNat_iff (k := 1) (by decide)).mp <| .imp (toNat_iff (k := 2) (by decide)).mp <|
    .imp (toNat_iff (k := 4) (by decide)).mp (toNat_iff (k := 8) (by decide)).mp

/-- An access that succeeds is of one of the widths that the RAM knows. -/
theorem width_of_read {address value : Int} 
    (h : Python.Bus.read address size.toNat board = .ok value board') : Ram.Width size := by
  rw [Python.Bus.read, bind_eq_ok] at h
  obtain ⟨⟨ram, range⟩, _, _, h⟩ := h
  refine width_of_size (Classical.by_contradiction fun hsize => ?_)
  dsimp only at h
  rw [Python.Ram.read.eq_def, if_neg hsize] at h
  cases h

theorem width_of_write {address value : Int} {size : U8} {u : Unit} {board board' : Python.Bus}
    (h : Python.Bus.write address size.toNat value board = .ok u board') : Ram.Width size := by
  rw [Python.Bus.write, bind_eq_ok] at h
  obtain ⟨⟨ram, range⟩, _, _, h⟩ := h
  refine width_of_size (Classical.by_contradiction fun hsize => ?_)
  obtain ⟨_, _, h, _⟩ := bind_eq_ok.mp h
  rw [Python.Ram.write.eq_def, if_neg hsize] at h
  cases h

end Memory

section Agreement

variable {σ : Type} {S : Python.Hart σ → Machine → Prop} {hart : Python.Hart σ} {m : Machine}

/-- Where the Python call returns, the Rust call returns the same word, and leaves the harts in
the relation `S`. -/
def Agrees (S : Python.Hart σ → Machine → Prop) (hart : Python.Hart σ) (m : Machine)
    (x : Python.Call (Python.Hart σ) Int) (y : Call Machine U64) : Prop :=
  ∀ value hart', x hart = .ok value hart' →
    ∃ m', y m = .ok (BitVec.ofInt 64 value) m' ∧ S hart' m'

namespace Agrees

variable {x : Python.Call (Python.Hart σ) Int} {y : Call Machine U64}

theorem fails (h : ∀ value hart', x hart ≠ .ok value hart') : Agrees S hart m x y :=
  fun value hart' hx => absurd hx (h value hart')

theorem assert {p : Prop} [Decidable p] {f : Unit → Python.Call (Python.Hart σ) Int}
    (rest : p → Agrees S hart m (f ()) y) : Agrees S hart m (Python.assert p >>= f) y := by
  intro value hart' h
  obtain ⟨u, hart₁, hassert, hrest⟩ := bind_eq_ok.mp h
  obtain ⟨hp, rfl⟩ := Python.assert_eq_ok.mp hassert
  exact rest hp value hart' hrest

/-- Only the results at the two harts count. -/
theorem congr {x' : Python.Call (Python.Hart σ) Int} {y' : Call Machine U64}
    (hx : x hart = x' hart) (hy : y m = y' m) (h : Agrees S hart m x' y') :
    Agrees S hart m x y := by
  intro value hart' hvalue
  rw [hx] at hvalue
  rw [hy]
  exact h value hart' hvalue

theorem nonzero {v : Int} {f : Int → Python.Call (Python.Hart σ) Int}
    (rest : v ≠ 0 → Agrees S hart m (f v) y) :
    Agrees S hart m (Python.Rv64c.nonzero v >>= f) y := by
  intro value hart' h
  obtain ⟨u, hart₁, hnonzero, h⟩ := bind_eq_ok.mp h
  unfold Python.Rv64c.nonzero at hnonzero
  rw [run_ite] at hnonzero
  split at hnonzero
  next hv =>
    cases hnonzero
    exact rest hv value hart' h
  next => cases hnonzero

theorem getCpu {f : Python.Cpu → Python.Call (Python.Hart σ) Int}
    (rest : Agrees S hart m (f hart.cpu) y) : Agrees S hart m (Python.getCpu >>= f) y := rest

theorem readReg {i : BitVec 5} {f : U64 → Call Machine U64}
    (rest : Agrees S hart m x (f (m.cpu.regs.read i))) :
    Agrees S hart m x (Machine.readReg i >>= f) := rest

theorem jump (same : S hart m) {target : Int} {word : U64}
    (h : BitVec.ofInt 64 target = word) : Agrees S hart m (pure target) (pure word) := by
  subst h
  rintro value hart' ⟨⟩
  exact ⟨m, rfl, same⟩

end Agrees

end Agreement

section Access

variable {hart hart' : Python.Hart Python.Bus} {m : Machine}

/-- The two harts have the same registers, pc and RAM, and translation is off on both. -/
structure Same (hart : Python.Hart Python.Bus) (m : Machine) : Prop where
  registers : ∀ i : BitVec 5, hart.cpu.reg i.toNat = ((m.cpu.regs.read i).toNat : Int)
  pc : hart.cpu.pc = m.cpu.pc
  ram : SameRam hart.board m.bus
  bare : Python.Bare hart.cpu
  bare' : m.cpu.csrs.get Csr.SATP >>> 60 = Mmu.MODE_BARE

/-- The Python hart with the registers, pc and RAM of `m`. -/
def toPython (m : Machine) : Python.Hart Python.Bus where
  cpu := { Python.Cpu.new 0 with
    registers := fun i => m.cpu.regs.read (BitVec.ofNat 5 i)
    pc := m.cpu.pc }
  board := ⟨⟨[(m.bus.ramRange.start.toNat : Int)], [(m.bus.ramRange.size.toNat : Int)]⟩,
    [((m.bus.ramRange.start.toNat, m.bus.ramRange.size.toNat), m.bus.ram.data)]⟩

/-- A register as a word. -/
theorem Same.reg_eq (same : Same hart m) (i : BitVec 5) :
    BitVec.ofInt 64 (hart.cpu.reg i.toNat) = m.cpu.regs.read i := by
  rw [same.registers, ofInt_toNat]

/-- The registers are the same after the same value is assigned. -/
theorem assign_registers {cpu : Python.Cpu} {regs : Registers}
    (same : ∀ i : BitVec 5, cpu.reg i.toNat = ((regs.read i).toNat : Int)) (k : BitVec 5)
    {value : Int} {word : U64} (hvalue : BitVec.ofInt 64 value = word) (i : BitVec 5) :
    Python.Cpu.reg { cpu with registers := Python.Cpu.setReg cpu.registers k.toNat value } i.toNat =
      (((regs.write k word).read i).toNat : Int) := by
  subst hvalue
  rw [Python.Cpu.reg_setReg, Registers.read_write, same]
  by_cases hwritten : i = k ∧ k ≠ 0
  · obtain ⟨rfl, hne⟩ := hwritten
    rw [if_pos ⟨rfl, fun h => hne (BitVec.eq_of_toNat_eq h)⟩, if_pos ⟨rfl, hne⟩]
  · have hother : ¬(i.toNat = k.toNat ∧ k.toNat ≠ 0) := by
      rintro ⟨heq, hne⟩
      exact hwritten ⟨BitVec.eq_of_toNat_eq heq, fun h => hne (congrArg BitVec.toNat h)⟩
    rw [if_neg hother, if_neg hwritten]

theorem Same.assign (same : Same hart m) {k : Nat} {i : BitVec 5} (hk : k = i.toNat) {value : Int}
    {word : U64} (hvalue : BitVec.ofInt 64 value = word) :
    Same { hart with cpu := { hart.cpu with
        registers := Python.Cpu.setReg hart.cpu.registers k value } }
      { m with cpu := { m.cpu with regs := m.cpu.regs.write i word } } := by
  subst hk
  exact ⟨assign_registers same.registers i hvalue, same.pc, same.ram, same.bare, same.bare'⟩

variable [Host]

omit [Host] in
theorem access_ok {σ : Type} [Python.Board σ] {hart hart' : Python.Hart σ} {address size : Int}
    {cause : Nat} {kind : String} {α : Type} {f : Int → Python.Call (Python.Hart σ) α}
    (bare : Python.Bare hart.cpu) {a : α}
    (h : (do
      Python.checkAlignment address size cause
      f (← Python.translate address kind)) hart = .ok a hart') : f address hart = .ok a hart' := by
  rw [bind_eq_ok] at h
  obtain ⟨_, hart₁, haligned, h⟩ := h
  have hsame : hart₁ = hart := by
    unfold Python.checkAlignment at haligned
    rw [run_ite] at haligned
    split at haligned
    next => cases haligned
    next =>
      cases haligned
      rfl
  rwa [hsame, bind_ok (Python.translate_bare bare _ _)] at h

omit [Host] in
theorem onBoard_ok {σ : Type} {hart hart' : Python.Hart σ} {α : Type} {x : Python.Call σ α} {a : α}
    (h : Python.onBoard x hart = .ok a hart') :
    ∃ board, x hart.board = .ok a board ∧ hart' = { hart with board } := by
  unfold Python.onBoard zoom at h
  cases hx : x hart.board with
  | ok b board =>
      rw [hx] at h
      cases h
      exact ⟨board, rfl, rfl⟩
  | error e board =>
      rw [hx] at h
      cases h

theorem Same.read (same : Same hart m) {address value : Int} {size : U8}
    (width : Rv64rs.Ram.Width size)
    (h : Python.read address (size.toNat : Int) hart = .ok value hart') :
    hart' = hart ∧
      Machine.read (BitVec.ofInt 64 address) size m = .ok (BitVec.ofInt 64 value) m := by
  obtain ⟨board, hread, rfl⟩ := onBoard_ok (access_ok same.bare h)
  obtain ⟨rfl, hbus, -⟩ := same.ram.read width hread
  exact ⟨rfl, (bind_ok (Mmu.translate_bare same.bare') _).trans (zoom_ok hbus)⟩

theorem Same.write (same : Same hart m) {address : Int} {size : U8} {value : U64}
    (width : Rv64rs.Ram.Width size)
    (h : Python.write address (size.toNat : Int) (value.toNat : Int) hart = .ok () hart') :
    ∃ m', Machine.write (BitVec.ofInt 64 address) size value m = .ok () m' ∧ Same hart' m' := by
  obtain ⟨board, hwrite, rfl⟩ := onBoard_ok (access_ok same.bare h)
  obtain ⟨ram, hbus, sameRam⟩ := same.ram.write width hwrite
  refine ⟨{ m with bus := { m.bus with ram } }, ?_, ?_⟩
  · exact (bind_ok (Mmu.translate_bare same.bare') _).trans (zoom_ok hbus)
  · exact ⟨same.registers, same.pc, sameRam, same.bare, same.bare'⟩

omit [Host] in
theorem toPython_reg (m : Machine) (i : BitVec 5) :
    (toPython m).cpu.reg i.toNat = ((m.cpu.regs.read i).toNat : Int) := by
  rw [Python.Cpu.reg]
  by_cases hi : i.toNat = 0
  · obtain rfl : i = 0 := BitVec.eq_of_toNat_eq hi
    rw [if_pos hi, Registers.read_zero]
    rfl
  · rw [if_neg hi]
    change (((m.cpu.regs.read (BitVec.ofNat 5 i.toNat)).toNat : Nat) : Int) = _
    rw [BitVec.ofNat_toNat, BitVec.setWidth_eq]

omit [Host] in
/-- Every hart with translation off has a counterpart in Python. -/
theorem same_toPython (bare : m.cpu.csrs.get Csr.SATP >>> 60 = Mmu.MODE_BARE)
    (length : m.bus.ram.data.length = m.bus.ramRange.size.toNat)
    (bounded : m.bus.ramRange.start.toNat + m.bus.ramRange.size.toNat < 2 ^ 64) :
    Same (toPython m) m where
  registers := toPython_reg m
  pc := rfl
  ram := ⟨rfl, length, bounded⟩
  bare := rfl
  bare' := bare

namespace Agrees

omit [Host] in
theorem assign (same : Same hart m) {k : Nat} {i : BitVec 5} (hk : k = i.toNat) {value next : Int}
    {word next' : U64} (hvalue : BitVec.ofInt 64 value = word)
    (hnext : BitVec.ofInt 64 next = next') :
    Agrees Same hart m (do Python.assign k value; return next)
      (do Machine.writeReg i word; return next') := by
  subst hnext
  rintro v hart' ⟨⟩
  exact ⟨_, rfl, same.assign hk hvalue⟩

theorem load (same : Same hart m) {address : Int} {address' : U64} {size : Int} {size' : U8}
    (haddress : BitVec.ofInt 64 address = address') (hsize : size = size'.toNat)
    (width : Rv64rs.Ram.Width size') {f : Int → Python.Call (Python.Hart Python.Bus) Int}
    {g : U64 → Call Machine U64} (rest : ∀ v, Agrees Same hart m (f v) (g (BitVec.ofInt 64 v))) :
    Agrees Same hart m (Python.read address size >>= f) (Machine.read address' size' >>= g) := by
  subst haddress hsize
  intro value hart' h
  obtain ⟨v, hart₁, hread, hrest⟩ := bind_eq_ok.mp h
  obtain ⟨rfl, hread'⟩ := same.read width hread
  rw [bind_ok hread']
  exact rest v value hart' hrest

theorem store (same : Same hart m) {address value next : Int} {address' value' next' : U64}
    {size : Int} {size' : U8} (haddress : BitVec.ofInt 64 address = address')
    (hsize : size = size'.toNat) (width : Rv64rs.Ram.Width size')
    (hvalue : value = (value'.toNat : Int)) (hnext : BitVec.ofInt 64 next = next') :
    Agrees Same hart m (do Python.write address size value; return next)
      (do Machine.write address' size' value'; return next') := by
  subst haddress hsize hvalue hnext
  intro v hart' h
  obtain ⟨_, hart₁, hwrite, h⟩ := bind_eq_ok.mp h
  cases h
  obtain ⟨m', hwrite', same'⟩ := same.write width hwrite
  rw [bind_ok hwrite']
  exact ⟨m', rfl, same'⟩

end Agrees

end Access

end Riscvm.Lockstep
