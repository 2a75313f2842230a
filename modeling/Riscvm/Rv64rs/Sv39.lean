import Riscvm.Rv64rs.Pages
import Riscvm.Rv64rs.Served

/-!
# Sv39 as a relation

The page tables under `satp` send a virtual address along a path of pointers to a leaf. The
walk of the source finds exactly these leaves, and what `translate` returns is the leaf's frame
with the low bits of the address.
-/

namespace Riscvm.Rv64rs

open Bits Exec Memo Machine

namespace Mmu

/-- V is set and R, W and X are clear: the entry points to the next table. -/
def Pointer (pte : U64) : Prop :=
  pte.getLsbD 0 = true ∧ pte.getLsbD 1 = false ∧ pte.getLsbD 2 = false ∧ pte.getLsbD 3 = false

/-- W without R, an encoding that the architecture reserves. -/
def ReservedEncoding (pte : U64) : Prop := pte.getLsbD 1 = false ∧ pte.getLsbD 2 = true

/-- What ends the loop of the source: V with R or X. -/
def EndsWalk (pte : U64) : Prop :=
  pte.getLsbD 0 = true ∧ (pte.getLsbD 1 = true ∨ pte.getLsbD 3 = true)

/-- A valid leaf. -/
def Leaf (pte : U64) : Prop := EndsWalk pte ∧ ¬ReservedEncoding pte

/-- The permission bit for `access` is set. -/
def Grants (pte : U64) : Access → Prop
  | .R => pte.getLsbD 1 = true
  | .W => pte.getLsbD 2 = true
  | .X => pte.getLsbD 3 = true

instance (pte : U64) : (access : Access) → Decidable (Grants pte access)
  | .R => inferInstanceAs (Decidable (pte.getLsbD 1 = true))
  | .W => inferInstanceAs (Decidable (pte.getLsbD 2 = true))
  | .X => inferInstanceAs (Decidable (pte.getLsbD 3 = true))

/-- The physical page number of an entry. -/
def pteFrame (pte : U64) : Nat := pte.toNat / 2 ^ 10 % 2 ^ 44

/-- The table with the given page number. -/
def tableAt (frame : Nat) : U64 := BitVec.ofNat 64 (frame * 4096)

/-- The table that `satp` names. -/
def rootTable (satp : U64) : U64 := tableAt (satp.toNat % 2 ^ 44)

/-- The place of the entry for `va` in the table at `a`. -/
def entryAddress (va : U64) (level : Nat) (a : U64) : U64 := a + vpn va level * 8

/-- With `remaining` levels to go from the table at `a`, the walk for `va` reads the entry `pte`
at level `l`: every entry above it is a pointer. -/
inductive OnWalk (store : U64 → Option U64) (va : U64) :
    (remaining : Nat) → (a : U64) → (l : Nat) → (pte : U64) → Prop
  | entry {level : Nat} {a pte : U64} (word : store (entryAddress va level a) = some pte) :
      OnWalk store va (level + 1) a level pte
  | pointer {level l : Nat} {a pte pte' : U64}
      (word : store (entryAddress va level a) = some pte) (pointer : Pointer pte)
      (rest : OnWalk store va level (tableAt (pteFrame pte)) l pte') :
      OnWalk store va (level + 1) a l pte'

theorem Pointer.not_endsWalk {pte : U64} (h : Pointer pte) : ¬EndsWalk pte := by
  obtain ⟨-, hr, -, hx⟩ := h
  rintro ⟨-, h | h⟩
  · exact Bool.false_ne_true (hr.symm.trans h)
  · exact Bool.false_ne_true (hx.symm.trans h)

theorem OnWalk.lt {store : U64 → Option U64} {va a pte : U64} {remaining l : Nat}
    (h : OnWalk store va remaining a l pte) : l < remaining := by
  induction h with
  | entry word => exact Nat.lt_succ_self _
  | pointer word pointer rest ih => exact Nat.lt_succ_of_lt ih

/-- The walk reads at most one entry on each level. -/
theorem OnWalk.unique {store : U64 → Option U64} {va a pte pte' : U64} {remaining l : Nat}
    (h : OnWalk store va remaining a l pte) (h' : OnWalk store va remaining a l pte') :
    pte = pte' := by
  induction h with
  | entry word =>
      cases h' with
      | entry word' => exact Option.some.inj (word.symm.trans word')
      | pointer word' pointer' rest' => exact absurd rest'.lt (Nat.lt_irrefl _)
  | pointer word pointer rest ih =>
      cases h' with
      | entry word' => exact absurd rest.lt (Nat.lt_irrefl _)
      | pointer word' pointer' rest' =>
          obtain rfl := Option.some.inj (word.symm.trans word')
          exact ih rest'

theorem frame_eq (x : U64) : (x &&& PPN_MASK).toNat = x.toNat % 2 ^ 44 := by
  rw [BitVec.toNat_and]
  exact Nat.and_two_pow_sub_one_eq_mod x.toNat 44

theorem table_eq (x : U64) : (x &&& PPN_MASK) * PAGESIZE = tableAt (x.toNat % 2 ^ 44) := by
  apply BitVec.eq_of_toNat_eq
  rw [BitVec.toNat_mul, frame_eq, tableAt, BitVec.toNat_ofNat]
  rfl

theorem pteFrame_eq (pte : U64) : ((pte >>> 10) &&& PPN_MASK).toNat = pteFrame pte := by
  rw [frame_eq, BitVec.toNat_ushiftRight, Nat.shiftRight_eq_div_pow]
  rfl

theorem nextTable_eq (pte : U64) :
    ((pte >>> 10) &&& PPN_MASK) * PAGESIZE = tableAt (pteFrame pte) := by
  rw [table_eq, ← pteFrame_eq, frame_eq]

/-- The walk below an entry that has been read. -/
theorem OnWalk.iff_of_word {store : U64 → Option U64} {va a entry pte : U64} {level l : Nat}
    (word : store (entryAddress va level a) = some entry) :
    OnWalk store va (level + 1) a l pte ↔ l = level ∧ pte = entry ∨
      Pointer entry ∧ OnWalk store va level (tableAt (pteFrame entry)) l pte := by
  constructor
  · rintro (⟨word'⟩ | ⟨word', pointer, rest⟩)
    · exact .inl ⟨rfl, Option.some.inj (word'.symm.trans word)⟩
    · obtain rfl := Option.some.inj (word'.symm.trans word)
      exact .inr ⟨pointer, rest⟩
  · rintro (⟨rfl, rfl⟩ | ⟨pointer, rest⟩)
    · exact .entry word
    · exact .pointer word pointer rest

theorem OnWalk.exists_word {store : U64 → Option U64} {va a pte : U64} {level l : Nat}
    (h : OnWalk store va (level + 1) a l pte) :
    ∃ entry, store (entryAddress va level a) = some entry := by
  cases h with
  | entry word => exact ⟨_, word⟩
  | pointer word => exact ⟨_, word⟩

/-- The loop of the source ends at exactly the entries on the walk that end it. -/
theorem run_walkQuery_iff {store : U64 → Option U64} {va : U64} {remaining : Nat} {a : U64}
    {l : Nat} {pte : U64} : (walkQuery va remaining a).run store = some (l, pte) ↔
      OnWalk store va remaining a l pte ∧ EndsWalk pte := by
  induction remaining generalizing a with
  | zero =>
      constructor
      · intro h
        cases h
      · rintro ⟨onWalk, -⟩
        cases onWalk
  | succ level ih =>
      rw [walkQuery, Query.run]
      cases hword : store (a + vpn va level * PTE_SIZE) with
      | none =>
          constructor
          · intro h
            cases h
          · rintro ⟨onWalk, -⟩
            obtain ⟨entry, word⟩ := onWalk.exists_word
            cases hword.symm.trans word
      | some entry =>
          dsimp only
          rw [OnWalk.iff_of_word hword]
          -- the flags that the source tests
          have hvalid : entry &&& PTE_V = 0 ↔ entry.getLsbD 0 = false := and_bit_eq_zero
          have hends : entry &&& (PTE_R ||| PTE_X) ≠ 0 ↔
              entry.getLsbD 1 = true ∨ entry.getLsbD 3 = true := and_two_bits_ne_zero
          have hwrite : entry &&& PTE_W ≠ 0 ↔ entry.getLsbD 2 = true := and_bit_ne_zero
          by_cases hv : entry &&& PTE_V = 0
          · have hnot : ¬entry.getLsbD 0 = true := by
              rw [hvalid.mp hv]
              exact Bool.false_ne_true
            rw [if_pos hv]
            constructor
            · intro h
              cases h
            · rintro ⟨⟨rfl, rfl⟩ | ⟨pointer, -⟩, ends⟩
              · exact absurd ends.1 hnot
              · exact absurd pointer.1 hnot
          rw [if_neg hv]
          have hv : entry.getLsbD 0 = true := (Bool.not_eq_false _).mp (mt hvalid.mpr hv)
          by_cases hleaf : entry &&& (PTE_R ||| PTE_X) ≠ 0
          · have ends : EndsWalk entry := ⟨hv, hends.mp hleaf⟩
            rw [if_pos hleaf]
            constructor
            · intro h
              cases h
              exact ⟨.inl ⟨rfl, rfl⟩, ends⟩
            · rintro ⟨⟨rfl, rfl⟩ | ⟨pointer, -⟩, -⟩
              · rfl
              · exact absurd ends pointer.not_endsWalk
          rw [if_neg hleaf]
          have hnot : ¬EndsWalk entry := fun ends => hleaf (hends.mpr ends.2)
          by_cases hw : entry &&& PTE_W ≠ 0
          · rw [if_pos hw]
            constructor
            · intro h
              cases h
            · rintro ⟨⟨rfl, rfl⟩ | ⟨pointer, -⟩, ends⟩
              · exact absurd ends hnot
              · exact absurd (pointer.2.2.1.symm.trans (hwrite.mp hw)) Bool.false_ne_true
          · obtain ⟨hr, hx⟩ : entry.getLsbD 1 = false ∧ entry.getLsbD 3 = false := by
              simpa only [not_or, Bool.not_eq_true] using mt hends.mpr hleaf
            have hpointer : Pointer entry :=
              ⟨hv, hr, (Bool.not_eq_true _).mp (mt hwrite.mpr hw), hx⟩
            rw [if_neg hw, nextTable_eq, ih]
            refine and_congr_left fun ends => ⟨fun rest => .inr ⟨hpointer, rest⟩, ?_⟩
            rintro (⟨rfl, rfl⟩ | ⟨-, rest⟩)
            · exact absurd ends hnot
            · exact rest

theorem vpn_toNat (va : U64) {level : Nat} (h : level < 3) :
    (vpn va level).toNat = va.toNat / 2 ^ (12 + 9 * level) % 512 := by
  have hfield (n : Nat) : ((va >>> n) &&& (0x1ff : U64)).toNat = va.toNat / 2 ^ n % 512 := by
    rw [BitVec.toNat_and, BitVec.toNat_ushiftRight, Nat.shiftRight_eq_div_pow]
    exact Nat.and_two_pow_sub_one_eq_mod _ 9
  obtain rfl | rfl | rfl : level = 0 ∨ level = 1 ∨ level = 2 := by omega
  · exact hfield 12
  · exact hfield 21
  · exact hfield 30

/-- The low fields of a frame as the source takes them from the address. -/
theorem low_fields (va : U64) {level : Nat} (h : level < 3) :
    ((List.range level).foldl (fun low l => low ||| (vpn va l <<< (9 * l))) (0 : U64)).toNat =
      va.toNat / 4096 % 2 ^ (9 * level) := by
  have h0 := vpn_toNat va (show 0 < 3 by decide)
  have h1 := vpn_toNat va (show 1 < 3 by decide)
  have hzero : (0 : U64) ||| vpn va 0 = vpn va 0 := BitVec.zero_or
  obtain rfl | rfl | rfl : level = 0 ∨ level = 1 ∨ level = 2 := by omega
  · exact (Nat.mod_one _).symm
  · change ((0 : U64) ||| (vpn va 0 <<< 0)).toNat = _
    rw [BitVec.shiftLeft_zero, hzero, h0]
    rfl
  · change (((0 : U64) ||| (vpn va 0 <<< 0)) ||| (vpn va 1 <<< 9)).toNat = _
    have hhigh : (vpn va 1 <<< 9).toNat = (vpn va 1).toNat * 512 := by
      rw [BitVec.toNat_shiftLeft, Nat.shiftLeft_eq]
      omega
    rw [BitVec.shiftLeft_zero, hzero, BitVec.or_comm,
      toNat_or_of_low (n := 9) (by rw [hhigh]; omega) (by rw [h0]; omega), hhigh, h0, h1]
    omega

theorem and_lowMask (x : U64) {level : Nat} (h : level < 3) :
    (x &&& (bit (9 * level) - 1)).toNat = x.toNat % 2 ^ (9 * level) := by
  rw [BitVec.toNat_and]
  obtain rfl | rfl | rfl : level = 0 ∨ level = 1 ∨ level = 2 := by omega
  · exact Nat.and_two_pow_sub_one_eq_mod _ 0
  · exact Nat.and_two_pow_sub_one_eq_mod _ 9
  · exact Nat.and_two_pow_sub_one_eq_mod _ 18

/-- A leaf whose frame is not aligned gives no page. -/
theorem pageOf_misaligned (va : U64) {level : Nat} (h : level < 3) {pte : U64}
    (misaligned : pteFrame pte % 2 ^ (9 * level) ≠ 0) : pageOf (vpn va) level pte = none := by
  have hpos : 0 < level := by
    refine Nat.pos_of_ne_zero fun hzero => misaligned ?_
    rw [hzero]
    exact Nat.mod_one _
  have hlow : (pte >>> 10) &&& PPN_MASK &&& (bit (9 * level) - 1) ≠ 0 := by
    intro hzero
    have := and_lowMask ((pte >>> 10) &&& PPN_MASK) h
    rw [hzero, pteFrame_eq] at this
    exact misaligned this.symm
  unfold pageOf
  simp only [if_pos hpos, if_pos hlow]

/-- An aligned leaf gives the frame whose low fields come from the address. -/
theorem pageOf_aligned (va : U64) {level : Nat} (h : level < 3) {pte : U64}
    (aligned : pteFrame pte % 2 ^ (9 * level) = 0) :
    ∃ ppn : U64, pageOf (vpn va) level pte = some (ppn, pte &&& (PTE_R ||| PTE_W ||| PTE_X)) ∧
      ppn.toNat = pteFrame pte + va.toNat / 4096 % 2 ^ (9 * level) := by
  by_cases hpos : 0 < level
  · have hlow : (pte >>> 10) &&& PPN_MASK &&& (bit (9 * level) - 1) = 0 := by
      apply BitVec.eq_of_toNat_eq
      rw [and_lowMask _ h, pteFrame_eq, aligned]
      rfl
    have hframe := and_or_and_not ((pte >>> 10) &&& PPN_MASK) (bit (9 * level) - 1)
    rw [hlow] at hframe
    have hframe : (pte >>> 10) &&& PPN_MASK &&& ~~~(bit (9 * level) - 1) =
        (pte >>> 10) &&& PPN_MASK :=
      BitVec.zero_or.symm.trans hframe
    unfold pageOf
    simp only [if_pos hpos, if_neg (not_not_intro hlow), hframe]
    refine ⟨_, rfl, ?_⟩
    have hfields := low_fields va h
    rw [toNat_or_of_low (n := 9 * level) (by rw [pteFrame_eq, aligned])
      (by rw [hfields]; exact Nat.mod_lt _ (Nat.two_pow_pos _)), hfields, pteFrame_eq]
  · obtain rfl : level = 0 := by omega
    unfold pageOf
    refine ⟨_, rfl, ?_⟩
    rw [pteFrame_eq, Nat.mul_zero, Nat.pow_zero, Nat.mod_one, Nat.add_zero]

variable [Host] {m : Machine} {va : U64} {access : Access}

theorem readOnly_walkLoop (va : U64) (remaining : Nat) (a : U64) :
    ReadOnly (walkLoop va remaining a) := by
  induction remaining generalizing a with
  | zero => exact readOnly_error _
  | succ level ih =>
      refine .bind (readOnly_mul _ _) fun _ => .bind (readOnly_add _ _) fun _ => ?_
      refine .bind (Bus.readOnly_read _ (by decide)) fun pte => ?_
      refine .ite (readOnly_error _) (.ite (.pure _) (.ite (readOnly_error _) ?_))
      exact .bind (readOnly_mul _ _) fun _ => ih _

omit [Host] in
theorem readOnly_leafPpn {σ : Type} (va : U64) (access : Access) (level : Nat) (pte : U64) :
    ReadOnly (leafPpn va access level pte : Call σ U64) := by
  rw [leafPpn_eq]
  refine .ite (readOnly_error _) ?_
  split
  · exact .pure _
  · exact readOnly_error _

theorem readOnly_walk (satp va : U64) (access : Access) : ReadOnly (walk satp va access) :=
  .bind (readOnly_mul _ _) fun _ => .bind (readOnly_walkLoop _ _ _) fun _ =>
    .bind (readOnly_leafPpn _ _ _ _) fun _ => .pure _

theorem not_panics_walkLoop {bus : Bus} (served : bus.Served) (va : U64) (remaining : Nat) {a : U64}
    (ha : a.toNat < 2 ^ 56) : ¬Panics (walkLoop va remaining a bus) := by
  induction remaining generalizing a with
  | zero => exact not_panics_of_raises (raises_error _) bus
  | succ level ih =>
      rw [walkLoop, ← bind_assoc, pteAddr_apply va level ha, pure_bind]
      refine not_panics_bind (Bus.not_panics_read served (by decide)) fun pte t hread => ?_
      obtain rfl := (Bus.readOnly_read _ (by decide)).state_eq hread
      rw [run_ite, run_ite, run_ite, mul_pagesize, pure_bind]
      split
      · exact not_panics_of_raises (raises_error _) _
      split
      · exact not_panics_ok _ _
      split
      · exact not_panics_of_raises (raises_error _) _
      · exact ih (table_lt _)

theorem not_panics_walk {bus : Bus} (served : bus.Served) (satp va : U64) (access : Access) :
    ¬Panics (walk satp va access bus) := by
  rw [walk_apply]
  refine not_panics_bind (not_panics_walkLoop served va _ (table_lt _)) fun leaf t _ => ?_
  have hleaf : Raises IsErr (leafPpn va access leaf.1 leaf.2 : Call Bus U64) := by
    rw [leafPpn_eq]
    refine .ite (raises_error _) ?_
    split
    · exact .pure _
    · exact raises_error _
  exact not_panics_of_raises (hleaf.bind fun _ => .pure _) t

/-- The page tables have an entry for `va` at level `l` that the source takes as a leaf, aligned
and with the permission bit for `access`. -/
structure Finds (m : Machine) (va : U64) (access : Access) (l : Nat) (pte : U64) : Prop where
  onWalk : OnWalk (readPte m.bus) va LEVELS (rootTable (m.cpu.csrs.get Csr.SATP)) l pte
  ends : EndsWalk pte
  grants : Grants pte access
  aligned : pteFrame pte % 2 ^ (9 * l) = 0

/-- The address that an entry at level `l` gives `va`: its frame, with the offset from `va`. -/
def target (va pte : U64) (l : Nat) : Nat := pteFrame pte * 4096 + va.toNat % 2 ^ (12 + 9 * l)

/-- What the TLB holds is what the page tables say. -/
def Coherent (m : Machine) : Prop :=
  ∀ vpn page, m.cpu.tlb.lookup vpn = some page →
    (pageQuery (m.cpu.csrs.get Csr.SATP) vpn).run (readPte m.bus) = some page

omit [Host] in
theorem grants_iff (pte : U64) (access : Access) :
    ¬pte &&& required access = 0 ↔ Grants pte access := by
  cases access
  all_goals exact and_bit_ne_zero

omit [Host] in
theorem target_eq {ppn pte : U64} {l : Nat} (h : l < 3)
    (frame : ppn.toNat = pteFrame pte + va.toNat / 4096 % 2 ^ (9 * l)) :
    ((ppn <<< 12) ||| (va &&& (0xfff : U64))).toNat = target va pte l := by
  have hpte : pteFrame pte < 2 ^ 44 := Nat.mod_lt _ (by decide)
  have hlow : va.toNat / 4096 % 2 ^ (9 * l) < 2 ^ 27 :=
    (Nat.mod_lt _ (Nat.two_pow_pos _)).trans_le (Nat.pow_le_pow_right (by decide) (by omega))
  have hsplit := Nat.mod_mul (x := va.toNat) (a := 4096) (b := 2 ^ (9 * l))
  rw [show 4096 * 2 ^ (9 * l) = 2 ^ (12 + 9 * l) from (Nat.pow_add 2 12 (9 * l)).symm] at hsplit
  rw [target, frame_or_offset, hsplit, Nat.mod_eq_of_lt (by omega), frame]
  omega

/-- The page of `va`, if it has one that may be accessed. -/
def PageFor (m : Machine) (va : U64) (access : Access) (ppn perm : U64) : Prop :=
  (pageQuery (m.cpu.csrs.get Csr.SATP) (va >>> 12)).run (readPte m.bus) = some (ppn, perm) ∧
    ¬perm &&& required access = 0

theorem finds_of_page {ppn perm : U64} (page : PageFor m va access ppn perm) :
    ∃ l pte, Finds m va access l pte ∧
      ((ppn <<< 12) ||| (va &&& (0xfff : U64))).toNat = target va pte l := by
  obtain ⟨page, granted⟩ := page
  rw [run_pageQuery, Option.bind_eq_some_iff] at page
  obtain ⟨⟨l, pte⟩, hquery, hpage⟩ := page
  obtain ⟨onWalk, ends⟩ := run_walkQuery_iff.mp hquery
  rw [table_eq] at onWalk
  rw [perm_and_required hpage, grants_iff] at granted
  have hl := onWalk.lt
  have haligned : pteFrame pte % 2 ^ (9 * l) = 0 := by
    refine Decidable.byContradiction fun misaligned => ?_
    cases (pageOf_misaligned va hl misaligned).symm.trans hpage
  obtain ⟨frame, hframe, hvalue⟩ := pageOf_aligned va hl haligned
  cases hframe.symm.trans hpage
  exact ⟨l, pte, ⟨onWalk, ends, granted, haligned⟩, target_eq hl hvalue⟩

theorem page_of_finds {l : Nat} {pte : U64} (finds : Finds m va access l pte) :
    ∃ ppn perm, PageFor m va access ppn perm ∧
      ((ppn <<< 12) ||| (va &&& (0xfff : U64))).toNat = target va pte l := by
  have hl := finds.onWalk.lt
  obtain ⟨frame, hframe, hvalue⟩ := pageOf_aligned va hl finds.aligned
  refine ⟨frame, pte &&& (PTE_R ||| PTE_W ||| PTE_X), ⟨?_, ?_⟩, target_eq hl hvalue⟩
  · have hwalk := finds.onWalk
    rw [rootTable, ← table_eq] at hwalk
    rw [run_pageQuery, run_walkQuery_iff.mpr ⟨hwalk, finds.ends⟩]
    exact hframe
  · rw [perm_and_required hframe]
    exact (grants_iff pte access).mpr finds.grants

/-- With a coherent TLB, the page decides what a translation does. -/
theorem Coherent.translate_page (coherent : Coherent m)
    (sv39 : m.cpu.csrs.get Csr.SATP >>> 60 = MODE_SV39) {ppn perm : U64}
    (page : PageFor m va access ppn perm) :
    Reaches m va access ((ppn <<< 12) ||| (va &&& (0xfff : U64))) := by
  obtain ⟨page, granted⟩ := page
  cases hlookup : m.cpu.tlb.lookup (va >>> 12) with
  | some cached =>
      cases (coherent _ _ hlookup).symm.trans page
      refine ⟨m, ?_⟩
      rw [translate_hit sv39 hlookup, if_neg granted]
  | none =>
      have hwalk := walk_of_page page access
      rw [if_neg granted] at hwalk
      exact ⟨_, translate_fill sv39 hlookup hwalk⟩

theorem Coherent.translate_no_page (coherent : Coherent m) (served : m.bus.Served)
    (sv39 : m.cpu.csrs.get Csr.SATP >>> 60 = MODE_SV39)
    (none : ∀ ppn perm, ¬PageFor m va access ppn perm) :
    ∃ e, translate va access m = .error (.err e) m := by
  cases hlookup : m.cpu.tlb.lookup (va >>> 12) with
  | some cached =>
      obtain ⟨ppn, perm⟩ := cached
      have hpage := coherent _ _ hlookup
      have hdenied : perm &&& required access = 0 :=
        Decidable.byContradiction fun granted => none ppn perm ⟨hpage, granted⟩
      rw [translate_hit sv39 hlookup, if_pos hdenied]
      exact ⟨_, rfl⟩
  | none =>
      rw [translate_miss sv39 hlookup]
      cases hwalk : walk (m.cpu.csrs.get Csr.SATP) va access m.bus with
      | ok page bus =>
          obtain ⟨ppn, perm⟩ := page
          obtain ⟨hpage, rfl⟩ := page_of_walk hwalk
          have hfails := walk_of_page hpage access
          have hdenied := Decidable.byContradiction fun granted => none ppn perm ⟨hpage, granted⟩
          rw [if_pos hdenied] at hfails
          obtain ⟨e, hfails⟩ := hfails
          cases hwalk.symm.trans hfails
      | error e bus =>
          obtain rfl : bus = m.bus := by
            have hsame := readOnly_walk (m.cpu.csrs.get Csr.SATP) va access m.bus
            rwa [hwalk] at hsame
          cases e with
          | err e => exact ⟨e, rfl⟩
          | panic cause => exact absurd ⟨cause, _, hwalk⟩ (not_panics_walk served _ va access)

/-- With a coherent TLB, an address reaches what the page tables find for it. -/
theorem Coherent.reaches_iff (coherent : Coherent m) (served : m.bus.Served)
    (sv39 : m.cpu.csrs.get Csr.SATP >>> 60 = MODE_SV39) (pa : U64) :
    Reaches m va access pa ↔ ∃ l pte, Finds m va access l pte ∧ pa.toNat = target va pte l := by
  constructor
  · rintro ⟨t, ht⟩
    by_cases hpage : ∃ ppn perm, PageFor m va access ppn perm
    · obtain ⟨ppn, perm, page⟩ := hpage
      rw [Reaches.unique ⟨t, ht⟩ (coherent.translate_page sv39 page)]
      exact finds_of_page page
    · obtain ⟨e, he⟩ := coherent.translate_no_page served sv39
        fun ppn perm page => hpage ⟨ppn, perm, page⟩
      cases ht.symm.trans he
  · rintro ⟨l, pte, finds, htarget⟩
    obtain ⟨ppn, perm, page, heq⟩ := page_of_finds finds
    rw [BitVec.eq_of_toNat_eq (htarget.trans heq.symm)]
    exact coherent.translate_page sv39 page

/-- With a coherent TLB, an address for which the page tables find nothing is an `Err`, and
nothing changes. -/
theorem Coherent.translate_err (coherent : Coherent m) (served : m.bus.Served)
    (sv39 : m.cpu.csrs.get Csr.SATP >>> 60 = MODE_SV39) (none : ∀ l pte, ¬Finds m va access l pte) :
    ∃ e, translate va access m = .error (.err e) m := by
  refine coherent.translate_no_page served sv39 fun ppn perm page => ?_
  obtain ⟨l, pte, finds, -⟩ := finds_of_page page
  exact none l pte finds

theorem coherent_of_empty (empty : ∀ vpn, m.cpu.tlb.lookup vpn = none) : Coherent m := by
  intro vpn page h
  cases (empty vpn).symm.trans h

/-- The page tables send `va` to `pa`: the walk reads a valid leaf at level `l` that grants the
access and is aligned, below pointers only. -/
def Maps (m : Machine) (va : U64) (access : Access) (pa : U64) : Prop :=
  ∃ l pte, OnWalk (readPte m.bus) va LEVELS (rootTable (m.cpu.csrs.get Csr.SATP)) l pte ∧ Leaf pte ∧
    Grants pte access ∧ pteFrame pte % 2 ^ (9 * l) = 0 ∧
    pa.toNat = pteFrame pte * 4096 + va.toNat % 2 ^ (12 + 9 * l)

/-- Translation with an empty TLB is exact: an address translates to where the tables send it,
and one that they send nowhere is an `Err` that changes nothing. The bits of the address above
the three indices play no part. -/
theorem translate_exact (m : Machine) (va : U64) (access : Access) (served : m.bus.Served)
    (sv39 : m.cpu.csrs.get Csr.SATP >>> 60 = MODE_SV39) (empty : ∀ vpn, m.cpu.tlb.lookup vpn = none)
    (unreserved : ∀ l pte, OnWalk (readPte m.bus) va LEVELS
      (rootTable (m.cpu.csrs.get Csr.SATP)) l pte →
      ¬ReservedEncoding pte) :
    (∀ pa, Reaches m va access pa ↔ Maps m va access pa) ∧
      ((∀ pa, ¬Maps m va access pa) → ∃ e, translate va access m = .error (.err e) m) := by
  have coherent := coherent_of_empty empty
  refine ⟨fun pa => ?_, fun none => ?_⟩
  · rw [coherent.reaches_iff served sv39]
    constructor
    · rintro ⟨l, pte, finds, htarget⟩
      exact ⟨l, pte, finds.onWalk, ⟨finds.ends, unreserved l pte finds.onWalk⟩, finds.grants,
        finds.aligned, htarget⟩
    · rintro ⟨l, pte, onWalk, leaf, grants, aligned, htarget⟩
      exact ⟨l, pte, ⟨onWalk, leaf.1, grants, aligned⟩, htarget⟩
  · refine coherent.translate_err served sv39 fun l pte finds => ?_
    obtain ⟨ppn, perm, -, htarget⟩ := page_of_finds finds
    exact none _ ⟨l, pte, finds.onWalk, ⟨finds.ends, unreserved l pte finds.onWalk⟩, finds.grants,
      finds.aligned, htarget⟩

omit [Host] in
theorem served_gigapage : Traced.gigapage.bus.Served := by
  refine ⟨⟨fun w => ?_, fun w ram h => ?_⟩, fun w hsize => ?_, ?_, ?_⟩
  · cases w <;> decide
  · cases w <;> cases h <;> rfl
  · cases w with
    | ram | stack | bootloader => rfl
    | clint | uart | plic | virtio => exact absurd rfl hsize
  · unfold Clint.Fits
    decide
  · unfold Plic.Registered
    decide

omit [Host] in
/-- The walk for an address in the first gigabyte reads the gigapage only. -/
theorem onWalk_gigapage {va : U64} {l : Nat} {pte : U64} (first : vpn va 2 = 0)
    (h : OnWalk (@readPte .dev Traced.gigapage.bus) va LEVELS
      (rootTable (Traced.gigapage.cpu.csrs.get Csr.SATP)) l pte) : l = 2 ∧ pte = 3 := by
  have hroot : entryAddress va 2 (rootTable (Traced.gigapage.cpu.csrs.get Csr.SATP)) = 0 := by
    rw [entryAddress, first]
    rfl
  have hword : @readPte .dev Traced.gigapage.bus 0 = some 3 := by decide
  obtain ⟨word⟩ | ⟨word, pointer⟩ := h
  · rw [hroot, hword] at word
    exact ⟨rfl, (Option.some.inj word).symm⟩
  · rw [hroot, hword] at word
    obtain rfl := Option.some.inj word
    exact absurd pointer.2.1 (by decide)

omit [Host] in
/-- A read of the gigapage reaches the same address; a write to it is an `Err`. -/
theorem translate_exact_gigapage :
    @Reaches .dev Traced.gigapage 0x12345 .R 0x12345 ∧
      ∃ e, @translate .dev 0x12345 .W Traced.gigapage = .error (.err e) Traced.gigapage := by
  let : Host := .dev
  have hunreserved (l : Nat) (pte : U64) (h : OnWalk (readPte Traced.gigapage.bus) 0x12345 LEVELS
      (rootTable (Traced.gigapage.cpu.csrs.get Csr.SATP)) l pte) : ¬ReservedEncoding pte := by
    obtain ⟨-, rfl⟩ := onWalk_gigapage (by decide) h
    exact fun reserved => absurd reserved.1 (by decide)
  have hexact (access : Access) := translate_exact Traced.gigapage 0x12345 access served_gigapage
    (by decide) (fun _ => rfl) hunreserved
  constructor
  · refine ((hexact .R).1 _).mpr ⟨2, 3, .entry (by decide), ⟨⟨by decide, .inl (by decide)⟩, ?_⟩,
      by decide, by decide, by decide⟩
    exact fun reserved => absurd reserved.1 (by decide)
  · refine (hexact .W).2 ?_
    rintro pa ⟨l, pte, h, -, grants, -⟩
    obtain ⟨-, rfl⟩ := onWalk_gigapage (by decide) h
    exact absurd grants (by decide)

end Mmu

end Riscvm.Rv64rs
