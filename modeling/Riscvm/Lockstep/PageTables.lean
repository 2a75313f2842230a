import Riscvm.Lockstep.Alike
import Riscvm.Python.Escapes

/-!
# The same page tables

Two harts with the same RAM and the same `satp` translate every address alike: the walk of the
Python emulator, which has no TLB, finds the page that the Rust walk finds. The TLB does not show
as long as its entries are what memory still says.
-/

namespace Riscvm.Lockstep

open Bits Exec Memo TwosComplement Rv64rs

/-- There is RAM on the bus, and nothing else. -/
def RamOnly (bus : Bus) : Prop := ∀ w, w ≠ .ram → bus.range w = .none

section Entries

variable [Host] {board board' : Python.Bus} {bus : Bus}

/-- A device that answers is the RAM. -/
theorem RamOnly.contains (only : RamOnly bus) (same : SameRam board bus) {a pte : U64}
    (h : Mmu.readPte bus a = some pte) : bus.ramRange.Contains a 8 := by
  have bounded (w : Window) : (bus.range w).start.toNat + (bus.range w).size.toNat < 2 ^ 64 := by
    rcases eq_or_ne w .ram with rfl | hw
    · exact same.bounded
    · rw [only w hw]
      decide
  rw [Mmu.readPte, Bus.read, Bus.readAt_eq bounded] at h
  cases hw : bus.locate a ((Mmu.PTE_SIZE.setWidth 8).setWidth 64) with
  | none =>
      rw [hw] at h
      cases h
  | some w =>
      have hcontains := Bus.contains_of_locate hw
      rcases eq_or_ne w .ram with rfl | hne
      · exact hcontains
      · rw [only w hne] at hcontains
        exact absurd hcontains.2 (by simp [Range.none, Mmu.PTE_SIZE])

omit [Host] in
/-- A range manager that holds one range finds what lies in it. -/
theorem getRange_within {start length address size : Int} (hstart : 0 ≤ start) (hsize : 0 < size)
    (hlow : start ≤ address) (hhigh : address + size ≤ start + length) :
    Python.RangeManger.getRange address size ⟨[start], [length]⟩ =
      .ok (start, length) ⟨[start], [length]⟩ := by
  have hposition : Python.RangeManger.bisectRight [start] address = 1 := by
    simp [Python.RangeManger.bisectRight, hlow]
  rw [Python.RangeManger.getRange, if_neg (by omega), if_neg (by omega), get_bind_apply]
  dsimp only
  rw [hposition, if_neg (by decide)]
  change (Python.assert (start ≤ address) >>= fun _ => if address + size ≤ start + length then
    pure (start, length) else Python.error _ : Python.Call Python.RangeManger (Int × Int)) _ = _
  have hassert : Python.assert (start ≤ address) (⟨[start], [length]⟩ : Python.RangeManger) =
      .ok () _ := Python.assert_eq_ok.mpr ⟨hlow, rfl⟩
  rw [bind_ok hassert, if_pos hhigh]
  rfl

omit [Host] in
/-- An entry in RAM can be read on the Python side. -/
theorem read_of_contains (same : SameRam board bus) {a : U64} (h : bus.ramRange.Contains a 8) :
    ∃ value, Python.Bus.read a.toNat 8 board = .ok value board := by
  obtain ⟨hstart, hstop⟩ := h
  have hstart : bus.ramRange.start.toNat ≤ a.toNat := BitVec.le_def.mp hstart
  have height : (8 : U64).toNat = 8 := rfl
  have hlength := same.length
  have hrange : Python.RangeManger.getRange a.toNat 8
      ⟨[(bus.ramRange.start.toNat : Int)], [(bus.ramRange.size.toNat : Int)]⟩ = .ok _ _ :=
    getRange_within (by omega) (by decide) (by omega) (by omega)
  have covers : board.Covers a.toNat 8 := by
    rw [same.board_eq]
    exact ⟨⟨_, _, hrange, List.lookup_cons_self, by dsimp only; omega⟩⟩
  exact Python.Bus.read_covers covers (.inr (.inr (.inr rfl)))

/-- Both sides have the same page table entries. -/
theorem pte_iff (only : RamOnly bus) (same : SameRam board bus) (a : U64) {value : Int} :
    Python.Bus.read a.toNat 8 board = .ok value board' ↔
      board' = board ∧ ∃ pte, Mmu.readPte bus a = some pte ∧ value = (pte.toNat : Int) := by
  have forward {value : Int} {board' : Python.Bus}
      (h : Python.Bus.read a.toNat 8 board = .ok value board') :
      board' = board ∧ ∃ pte, Mmu.readPte bus a = some pte ∧ value = (pte.toNat : Int) := by
    obtain ⟨rfl, hword, n, hn, rfl⟩ := same.read (.inr (.inr (.inr rfl))) h
    rw [ofInt_toNat, BitVec.ofInt_natCast] at hword
    refine ⟨rfl, BitVec.ofNat 64 n, (Mmu.read_pte_eq_ok.mp hword).1, ?_⟩
    exact congrArg Int.ofNat (Nat.mod_eq_of_lt (show n < 2 ^ 64 from hn)).symm
  refine ⟨forward, ?_⟩
  rintro ⟨rfl, pte, hpte, rfl⟩
  obtain ⟨value, hvalue⟩ := read_of_contains same (only.contains same hpte)
  obtain ⟨-, pte', hpte', rfl⟩ := forward hvalue
  obtain rfl : pte' = pte := Option.some_inj.mp (hpte'.symm.trans hpte)
  exact hvalue

end Entries

section Walk

/-- The index fields of an address. -/
theorem vpn_word (va : U64) {level : Nat} (h : level < 3) :
    Python.vpn va.toNat level = ((Mmu.vpn va level).toNat : Int) := by
  match level, h with
  | 0, _ => rfl
  | 1, _ => rfl
  | 2, _ => rfl

/-- The address of the entry at `level` of the table at `a`. -/
theorem pteAddr_word (va : U64) {level : Nat} (h : level < 3) {a : U64} (ha : a.toNat < 2 ^ 56) :
    (a.toNat : Int) + Python.vpn va.toNat level * 8 =
      ((a + Mmu.vpn va level * Mmu.PTE_SIZE).toNat : Int) := by
  have hvpn := Mmu.vpn_lt va level
  have hsize : Mmu.PTE_SIZE.toNat = 8 := rfl
  rw [vpn_word va h, BitVec.toNat_add, BitVec.toNat_mul, hsize]
  omega

/-- The table that a frame number points to. -/
theorem table_word (x : U64) :
    Int.land x.toNat Python.PPN_MASK * (0x1000 : Int) =
      (((x &&& Mmu.PPN_MASK) * Mmu.PAGESIZE).toNat : Int) := by
  have hlt := Mmu.ppn_lt x
  have hsize : Mmu.PAGESIZE.toNat = 0x1000 := rfl
  have hland : Int.land x.toNat Python.PPN_MASK = ((x &&& Mmu.PPN_MASK).toNat : Int) :=
    land_word x Mmu.PPN_MASK
  rw [hland, BitVec.toNat_mul, hsize]
  omega

theorem valid_iff (pte : U64) : Int.land pte.toNat 1 = 0 ↔ pte &&& Mmu.PTE_V = 0 := by
  have hland : Int.land pte.toNat 1 = ((pte &&& Mmu.PTE_V).toNat : Int) := land_word pte Mmu.PTE_V
  rw [hland, natCast_eq_zero]

theorem hasBits_leaf (pte : U64) : Python.hasBits pte.toNat (Python.PTE_R + Python.PTE_X) =
    decide (pte &&& (Mmu.PTE_R ||| Mmu.PTE_X) ≠ 0) :=
  hasBits_word pte (Mmu.PTE_R ||| Mmu.PTE_X)

theorem hasBits_write (pte : U64) :
    Python.hasBits pte.toNat Python.PTE_W = decide (pte &&& Mmu.PTE_W ≠ 0) :=
  hasBits_word pte Mmu.PTE_W

variable [Host] {board board' : Python.Bus} {bus : Bus}

/-- The two walks end at the same leaf, or both without one. -/
theorem walk_iff (only : RamOnly bus) (same : SameRam board bus) (va : U64) {levels : Nat}
    (hlevels : levels ≤ 3) {a : U64} (ha : a.toNat < 2 ^ 56) {leaf : Int × Nat} :
    Python.walk va.toNat a.toNat levels board = .ok leaf board' ↔
      board' = board ∧ ∃ pte, (Mmu.walkQuery va levels a).run (Mmu.readPte bus) =
        some (leaf.2, pte) ∧ leaf.1 = (pte.toNat : Int) := by
  induction levels generalizing a with
  | zero => simp [Python.walk, Mmu.walkQuery, Query.run]
  | succ level ih =>
      rw [Python.walk, pteAddr_word va (by omega) ha, Mmu.walkQuery, Query.run]
      cases hpte : Mmu.readPte bus (a + Mmu.vpn va level * Mmu.PTE_SIZE) with
      | none =>
          rw [bind_eq_ok]
          constructor
          · rintro ⟨value, board₁, hread, -⟩
            obtain ⟨-, pte, hsome, -⟩ := (pte_iff only same _).mp hread
            cases hpte.symm.trans hsome
          · rintro ⟨-, pte, hrun, -⟩
            cases hrun
      | some pte =>
          have hread : Python.Board.read _ 8 board = .ok _ board :=
            (pte_iff only same _).mpr ⟨rfl, pte, hpte, rfl⟩
          rw [bind_ok hread]
          dsimp only
          rw [hasBits_leaf, hasBits_write]
          -- the same four cases on both sides: invalid, leaf, reserved, pointer
          by_cases hvalid : pte &&& Mmu.PTE_V = 0
          · rw [if_pos ((valid_iff pte).mpr hvalid), if_pos hvalid]
            simp [Query.run]
          rw [if_neg fun h => hvalid ((valid_iff pte).mp h), if_neg hvalid]
          by_cases hleaf : pte &&& (Mmu.PTE_R ||| Mmu.PTE_X) ≠ 0
          · rw [decide_eq_true hleaf, if_pos rfl, if_pos hleaf]
            simp [Query.run, Prod.ext_iff, eq_comm, and_comm]
          rw [decide_eq_false hleaf, if_neg Bool.false_ne_true, if_neg hleaf]
          by_cases hwrite : pte &&& Mmu.PTE_W ≠ 0
          · rw [decide_eq_true hwrite, if_pos rfl, if_pos hwrite]
            simp [Query.run]
          have htable : Int.land ((pte.toNat : Int) >>> 10) Python.PPN_MASK * (0x1000 : Int) =
              ((((pte >>> 10) &&& Mmu.PPN_MASK) * Mmu.PAGESIZE).toNat : Int) :=
            table_word (pte >>> 10)
          rw [decide_eq_false hwrite, if_neg Bool.false_ne_true, if_neg hwrite, htable]
          exact ih (by omega) (Mmu.table_lt _)

end Walk

section Page

/-- The letter of an access. -/
def letter : Access → String
  | .R => "r"
  | .W => "w"
  | .X => "x"

theorem hasBits_required (pte : U64) (access : Access) :
    Python.hasBits pte.toNat (Python.requiredBit (letter access)) =
      decide (pte &&& Mmu.required access ≠ 0) := by
  cases access with
  | R => exact hasBits_word pte Mmu.PTE_R
  | W => exact hasBits_word pte Mmu.PTE_W
  | X => exact hasBits_word pte Mmu.PTE_X

theorem lowMask_word {level : Nat} (h : level < 3) :
    (2 ^ (9 * level) - 1 : Int) = ((bit (9 * level) - 1 : U64).toNat : Int) := by
  match level, h with
  | 0, _ => rfl
  | 1, _ => rfl
  | 2, _ => rfl

/-- An index field in its place. -/
theorem field_word (va : U64) {l : Nat} (h : l < 3) :
    Python.vpn va.toNat l * 2 ^ (9 * l) = ((Mmu.vpn va l <<< (9 * l)).toNat : Int) := by
  have hvpn := Mmu.vpn_lt va l
  have hpow : 2 ^ (9 * l) ≤ 2 ^ 18 := Nat.pow_le_pow_right (by decide) (by omega)
  have hlt : (Mmu.vpn va l).toNat * 2 ^ (9 * l) < 2 ^ 64 :=
    Nat.lt_of_le_of_lt (Nat.mul_le_mul (Nat.le_of_lt hvpn) hpow) (by decide)
  rw [vpn_word va h, BitVec.toNat_shiftLeft, Nat.shiftLeft_eq, Nat.mod_eq_of_lt hlt,
    Int.natCast_mul, Int.natCast_pow]
  rfl

/-- The low fields of a superpage's frame. -/
theorem fields_word (va : U64) {ls : List Nat} (h : ∀ l ∈ ls, l < 3) (low : U64) :
    ls.foldl (fun low l => Int.lor low (Python.vpn va.toNat l * 2 ^ (9 * l))) (low.toNat : Int) =
      ((ls.foldl (fun low l => low ||| (Mmu.vpn va l <<< (9 * l))) low).toNat : Int) := by
  induction ls generalizing low with
  | nil => rfl
  | cons l ls ih =>
      rw [List.forall_mem_cons] at h
      rw [List.foldl_cons, List.foldl_cons, field_word va h.1, lor_word]
      exact ih h.2 _

theorem fields_lt (va : U64) {ls : List Nat} (h : ∀ l ∈ ls, l < 3) {low : U64}
    (hlow : low.toNat < 2 ^ 44) :
    (ls.foldl (fun low l => low ||| (Mmu.vpn va l <<< (9 * l))) low).toNat < 2 ^ 44 := by
  induction ls generalizing low with
  | nil => exact hlow
  | cons l ls ih =>
      rw [List.forall_mem_cons] at h
      rw [List.foldl_cons]
      refine ih h.2 ?_
      have hvpn := Mmu.vpn_lt va l
      have hpow : 2 ^ (9 * l) ≤ 2 ^ 18 := Nat.pow_le_pow_right (by decide) (by omega)
      have hlt : (Mmu.vpn va l).toNat * 2 ^ (9 * l) < 2 ^ 44 :=
        Nat.lt_of_le_of_lt (Nat.mul_le_mul (Nat.le_of_lt hvpn) hpow) (by decide)
      rw [BitVec.toNat_or]
      refine Nat.or_lt_two_pow hlow ?_
      rw [BitVec.toNat_shiftLeft, Nat.shiftLeft_eq]
      exact Nat.lt_of_le_of_lt (Nat.mod_le _ _) hlt

/-- The address in the page with number `ppn`. -/
theorem address_word (va : U64) {ppn : U64} (h : ppn.toNat < 2 ^ 44) :
    Int.lor (ppn.toNat * 2 ^ 12) (Int.land va.toNat 0xfff) =
      (((ppn <<< 12) ||| (va &&& 0xfff)).toNat : Int) := by
  have hshift : (ppn.toNat : Int) * (2 : Int) ^ 12 = ((ppn <<< 12).toNat : Int) := by
    rw [BitVec.toNat_shiftLeft, Nat.shiftLeft_eq, Nat.mod_eq_of_lt (by omega), Int.natCast_mul]
    rfl
  have hland : Int.land va.toNat 0xfff = ((va &&& 0xfff).toNat : Int) := land_word va 0xfff
  rw [hshift, hland, lor_word]

variable {σ : Type}

/-- What `translate` does with the leaf. -/
def leafAddress (va : Int) (access : String) (pte : Int) (level : Nat) :
    Python.Call (Python.Hart σ) Int := do
  if !Python.hasBits pte (Python.requiredBit access) then
    Python.error (.permission access va pte)
  else
    let ppn := Int.land (pte >>> 10) Python.PPN_MASK
    let lowMask : Int := 2 ^ (9 * level) - 1
    let vaLow := (List.range level).foldl
      (fun low l => Int.lor low (Python.vpn va l * 2 ^ (9 * l))) 0
    if 0 < level ∧ Int.land ppn lowMask ≠ 0 then Python.error (.misalignedSuperpage va)
    else
      let ppn := if 0 < level then Int.lor (Int.ldiff ppn lowMask) vaLow else ppn
      return Int.lor (ppn * 2 ^ 12) (Int.land va 0xfff)

theorem translate_eq [Python.Board σ] (va : Int) (access : String) {hart : Python.Hart σ}
    (hmode : hart.cpu.csrs Python.CSR.SATP >>> 60 = 8) :
    Python.translate va access hart = (do
      let (pte, level) ← Python.onBoard
        (Python.walk va (Int.land (hart.cpu.csrs Python.CSR.SATP) Python.PPN_MASK * 0x1000) 3)
      leafAddress va access pte level) hart := by
  rw [Python.translate, Python.getCpu_bind_apply]
  dsimp only
  rw [hmode, if_neg (by decide), if_neg (by decide)]
  rfl

/-- The leaf gives both sides the same page, or neither. -/
theorem leafAddress_eq (va pte : U64) (access : Access) {level : Nat} (h : level < 3)
    {hart hart' : Python.Hart σ} {pa : Int} :
    leafAddress va.toNat (letter access) pte.toNat level hart = .ok pa hart' ↔
      hart' = hart ∧ pte &&& Mmu.required access ≠ 0 ∧
        ∃ page, Mmu.pageOf (Mmu.vpn va) level pte = some page ∧
          pa = (((page.1 <<< 12) ||| (va &&& 0xfff)).toNat : Int) := by
  rw [leafAddress, hasBits_required]
  by_cases hallowed : pte &&& Mmu.required access = 0
  · rw [decide_eq_false (not_not_intro hallowed), if_pos (show (!false) = true from rfl)]
    refine ⟨fun h => ?_, fun h => absurd hallowed h.2.1⟩
    cases h
  rw [decide_eq_true hallowed, if_neg (show ¬(!true) = true by decide), Mmu.pageOf]
  have hppn : Int.land ((pte.toNat : Int) >>> 10) Python.PPN_MASK =
      (((pte >>> 10) &&& Mmu.PPN_MASK).toNat : Int) := land_word (pte >>> 10) Mmu.PPN_MASK
  have hfields : ∀ l ∈ List.range level, l < 3 :=
    fun l hl => Nat.lt_trans (List.mem_range.mp hl) h
  have hlow := fields_word va hfields 0
  have hlt := @fields_lt va _ hfields 0 (by decide)
  have hframe := Mmu.ppn_lt (pte >>> 10)
  have hmask := lowMask_word h
  have hzero : ((0 : U64).toNat : Int) = 0 := rfl
  rw [hzero] at hlow
  dsimp only
  rw [hppn, hlow, hmask]
  generalize hw : (List.range level).foldl
    (fun low l => low ||| (Mmu.vpn va l <<< (9 * l))) 0 = low at hlt ⊢
  generalize (pte >>> 10) &&& Mmu.PPN_MASK = ppn at hframe ⊢
  generalize (bit (9 * level) - 1 : U64) = mask
  rcases Nat.eq_zero_or_pos level with hl | hl
  · -- a page of 4 KiB
    rw [if_neg (by omega), if_neg (by omega), if_neg (by omega), address_word va hframe]
    constructor
    · rintro ⟨⟩
      exact ⟨rfl, hallowed, _, rfl, rfl⟩
    · rintro ⟨rfl, -, _, ⟨⟩, rfl⟩
      rfl
  · rw [land_word, if_pos hl, if_pos hl]
    by_cases hm : ppn &&& mask = 0
    · have hsuper : ((ppn &&& ~~~mask) ||| low).toNat < 2 ^ 44 := by
        rw [BitVec.toNat_or, BitVec.toNat_and]
        exact Nat.or_lt_two_pow (Nat.lt_of_le_of_lt Nat.and_le_left hframe) hlt
      rw [if_neg (by simp [hm]), if_neg (not_not_intro hm), ldiff_word, lor_word,
        address_word va hsuper]
      constructor
      · rintro ⟨⟩
        exact ⟨rfl, hallowed, _, rfl, rfl⟩
      · rintro ⟨rfl, -, _, ⟨⟩, rfl⟩
        rfl
    · rw [if_pos ⟨hl, fun h => hm ((natCast_eq_zero _).mp h)⟩, if_pos hm]
      refine ⟨fun h => ?_, fun h => ?_⟩
      · cases h
      · obtain ⟨-, -, page, hpage, -⟩ := h
        cases hpage

end Page

section Translation

variable [Host] {hart hart' : Python.Hart Python.Bus} {m : Machine}

/-- The same RAM, and nothing else on the bus, and the same root of the page tables. -/
structure SamePages (hart : Python.Hart Python.Bus) (m : Machine) : Prop where
  ram : SameRam hart.board m.bus
  only : RamOnly m.bus
  satp : hart.cpu.csrs Python.CSR.SATP = ((m.cpu.csrs.get Csr.SATP).toNat : Int)

omit [Host] in
theorem onBoard_eq_ok {α : Type} {x : Python.Call Python.Bus α} {a : α} :
    Python.onBoard x hart = .ok a hart' ↔
      ∃ board, x hart.board = .ok a board ∧ hart' = { hart with board } := by
  rw [Python.onBoard, zoom]
  cases hx : x hart.board with
  | ok b board =>
      constructor
      · rintro ⟨⟩
        exact ⟨board, rfl, rfl⟩
      · rintro ⟨_, ⟨⟩, rfl⟩
        rfl
  | error e board =>
      constructor
      · rintro ⟨⟩
      · rintro ⟨_, ⟨⟩, -⟩

/-- Where the uncached walk of the Rust hart ends. -/
theorem uncached_iff {va w : U64} {access : Access}
    (hmode : m.cpu.csrs.get Csr.SATP >>> 60 = Mmu.MODE_SV39) :
    outcome (Mmu.translateUncached va access m) = .ok w ↔
      ∃ leaf, (Mmu.walkQuery va Mmu.LEVELS
          ((m.cpu.csrs.get Csr.SATP &&& Mmu.PPN_MASK) * Mmu.PAGESIZE)).run (Mmu.readPte m.bus) =
          some leaf ∧
        leaf.2 &&& Mmu.required access ≠ 0 ∧
        ∃ page, Mmu.pageOf (Mmu.vpn va) leaf.1 leaf.2 = some page ∧
          w = (page.1 <<< 12) ||| (va &&& 0xfff) := by
  rw [Mmu.translateUncached_sv39 hmode]
  constructor
  · intro h
    cases hwalk : Mmu.walk (m.cpu.csrs.get Csr.SATP) va access m.bus with
    | error e bus =>
        rw [hwalk] at h
        cases e with
        | err e => cases h
        | panic cause => cases h
    | ok page bus =>
        rw [hwalk] at h
        obtain rfl := Outcome.ok.inj h
        obtain ⟨hpage, -⟩ := Mmu.page_of_walk hwalk
        rw [Mmu.run_pageQuery, Option.bind_eq_some_iff] at hpage
        obtain ⟨leaf, hleaf, hpage⟩ := hpage
        refine ⟨leaf, hleaf, fun hdenied => ?_, page, hpage, rfl⟩
        have hdone := Mmu.walk_of_page (Mmu.page_of_walk hwalk).1 access
        rw [if_pos (by rw [Mmu.perm_and_required hpage, hdenied])] at hdone
        obtain ⟨e, hfail⟩ := hdone
        cases hwalk.symm.trans hfail
  · rintro ⟨leaf, hleaf, hallowed, page, hpage, rfl⟩
    have hquery : (Mmu.pageQuery (m.cpu.csrs.get Csr.SATP) (va >>> 12)).run
        (Mmu.readPte m.bus) = some page := by
      rw [Mmu.run_pageQuery, hleaf]
      exact hpage
    have hdone := Mmu.walk_of_page hquery access
    rw [if_neg (by rwa [Mmu.perm_and_required hpage])] at hdone
    rw [hdone]
    rfl

omit [Host] in
theorem walkQuery_level {va a : U64} {store : U64 → Option U64} {levels : Nat} {leaf : Nat × U64}
    (h : (Mmu.walkQuery va levels a).run store = some leaf) : leaf.1 < levels := by
  induction levels generalizing a with
  | zero => cases h
  | succ level ih =>
      rw [Mmu.walkQuery, Query.run] at h
      cases hpte : store (a + Mmu.vpn va level * Mmu.PTE_SIZE) with
      | none =>
          rw [hpte] at h
          cases h
      | some pte =>
          rw [hpte] at h
          dsimp only at h
          split at h
          · cases h
          split at h
          · cases h
            exact Nat.lt_succ_self level
          split at h
          · cases h
          exact Nat.lt_succ_of_lt (ih h)

/-- Python translates an address exactly where the walk of the Rust hart does, to the same one. -/
theorem translate_iff (same : SamePages hart m) (va : U64) (access : Access) {pa : Int} :
    Python.translate va.toNat (letter access) hart = .ok pa hart' ↔
      hart' = hart ∧ ∃ w, outcome (Mmu.translateUncached va access m) = .ok w ∧
        pa = (w.toNat : Int) := by
  have hmode : hart.cpu.csrs Python.CSR.SATP >>> 60 =
      ((m.cpu.csrs.get Csr.SATP >>> 60).toNat : Int) := by
    rw [same.satp]
    rfl
  by_cases hbare : m.cpu.csrs.get Csr.SATP >>> 60 = Mmu.MODE_BARE
  · have bare : Python.Bare hart.cpu := by
      rw [Python.Bare, hmode, hbare]
      rfl
    rw [Python.translate_bare bare, Mmu.translateUncached_bare hbare]
    constructor
    · rintro ⟨⟩
      exact ⟨rfl, va, rfl, rfl⟩
    · rintro ⟨rfl, _, ⟨⟩, rfl⟩
      rfl
  by_cases hsv39 : m.cpu.csrs.get Csr.SATP >>> 60 = Mmu.MODE_SV39
  · have hpython : hart.cpu.csrs Python.CSR.SATP >>> 60 = 8 := by
      rw [hmode, hsv39]
      rfl
    rw [translate_eq _ _ hpython, bind_eq_ok, same.satp, table_word]
    constructor
    · rintro ⟨⟨pte, level⟩, hart₁, hwalk, hleaf⟩
      obtain ⟨board, hboard, rfl⟩ := onBoard_eq_ok.mp hwalk
      obtain ⟨rfl, word, hrun, hword⟩ :=
        (walk_iff same.only same.ram va (Nat.le_refl 3) (Mmu.table_lt _)).mp hboard
      dsimp only at hrun hword hleaf
      subst hword
      obtain ⟨rfl, hallowed, page, hpage, rfl⟩ :=
        (leafAddress_eq va word access (walkQuery_level hrun)).mp hleaf
      exact ⟨rfl, _, (uncached_iff hsv39).mpr ⟨_, hrun, hallowed, page, hpage, rfl⟩, rfl⟩
    · rintro ⟨rfl, w, hrust, rfl⟩
      obtain ⟨⟨level, word⟩, hrun, hallowed, page, hpage, rfl⟩ := (uncached_iff hsv39).mp hrust
      refine ⟨(word.toNat, level), hart', onBoard_eq_ok.mpr ⟨hart'.board, ?_, rfl⟩, ?_⟩
      · exact (walk_iff same.only same.ram va (Nat.le_refl 3) (Mmu.table_lt _)).mpr
          ⟨rfl, word, hrun, rfl⟩
      · exact (leafAddress_eq va word access (walkQuery_level hrun)).mpr
          ⟨rfl, hallowed, page, hpage, rfl⟩
  · have hpython : hart.cpu.csrs Python.CSR.SATP >>> 60 ≠ 0 := by
      rw [hmode]
      exact fun h => hbare ((natCast_eq_zero _).mp h)
    have hpython' : hart.cpu.csrs Python.CSR.SATP >>> 60 ≠ 8 := by
      rw [hmode]
      exact fun h => hsv39 (BitVec.eq_of_toNat_eq (Int.ofNat.inj h))
    rw [Python.translate, Python.getCpu_bind_apply]
    dsimp only
    rw [if_neg hpython, if_pos hpython']
    constructor
    · rintro ⟨⟩
    · rintro ⟨-, w, hrust, -⟩
      rw [Mmu.translateUncached, get_bind_apply, if_neg hbare, if_pos hsv39] at hrust
      cases hrust

end Translation

end Riscvm.Lockstep
