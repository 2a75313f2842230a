import Riscvm.Rv64rs.Mmu
import Riscvm.Foundation.Memo

/-!
# The page walk as a query of memory

`walkLoop` reads page table entries and nothing else, so it is a `Query` whose
answers are the words the bus returns. `pageQuery` is the query for a whole page:
what the walk contributes to every access of every address in it, with the
permission check left to the access. It is what the TLB stores.
-/

namespace Riscvm.Rv64rs

open Bits Exec Memo Machine

namespace Mmu

variable [Host]

/-- The page table entry at `a`, if the bus has one there. -/
def readPte (bus : Bus) (a : U64) : Option U64 :=
  match Bus.read a (PTE_SIZE.setWidth 8) bus with
  | .ok pte _ => some pte
  | .error _ _ => none

omit [Host] in
/-- The loop of `translate_paged`, with its reads left open. -/
def walkQuery (va : U64) : (remaining : Nat) → (a : U64) →
    Query U64 (Option U64) (Option (Nat × U64))
  | 0, _ => .done none
  | level + 1, a => .ask (a + vpn va level * PTE_SIZE) fun
      | none => .done none
      | some pte =>
          if pte &&& PTE_V = 0 then .done none
          else if pte &&& (PTE_R ||| PTE_X) ≠ 0 then .done (some (level, pte))
          else if pte &&& PTE_W ≠ 0 then .done none
          else walkQuery va level (((pte >>> 10) &&& PPN_MASK) * PAGESIZE)

omit [Host] in
theorem vpn_lt (va : U64) (level : Nat) : (vpn va level).toNat < 512 := by
  have h : ∀ x : U64, (x &&& 0x1ff).toNat < 512 := by
    intro x
    rw [BitVec.toNat_and]
    exact Nat.lt_of_le_of_lt Nat.and_le_right (by decide)
  match level with
  | 0 => exact h _
  | 1 => exact h _
  | _ + 2 => exact h _

omit [Host] in
theorem ppn_lt (x : U64) : (x &&& PPN_MASK).toNat < 2 ^ 44 := by
  rw [BitVec.toNat_and]
  exact Nat.lt_of_le_of_lt Nat.and_le_right (by decide)

theorem mul_pagesize {σ : Type} (x : U64) :
    (mul (x &&& PPN_MASK) PAGESIZE : Call σ U64) = pure ((x &&& PPN_MASK) * PAGESIZE) := by
  have := ppn_lt x
  exact mul_of_lt (by simp only [PAGESIZE, BitVec.reduceToNat]; omega)

omit [Host] in
/-- A page table lies well below the end of the address space. -/
theorem table_lt (x : U64) : ((x &&& PPN_MASK) * PAGESIZE).toNat < 2 ^ 56 := by
  have := ppn_lt x
  rw [BitVec.toNat_mul, PAGESIZE]
  simp only [BitVec.reduceToNat]
  omega

theorem pteAddr_apply {σ : Type} (va : U64) (level : Nat) {a : U64} (ha : a.toNat < 2 ^ 56) :
    (do add a (← mul (vpn va level) PTE_SIZE) : Call σ U64) =
      pure (a + vpn va level * PTE_SIZE) := by
  have hv := vpn_lt va level
  have hm : (vpn va level * PTE_SIZE).toNat = (vpn va level).toNat * 8 := by
    rw [BitVec.toNat_mul, PTE_SIZE]
    simp only [BitVec.reduceToNat]
    omega
  rw [mul_of_lt (by simp only [PTE_SIZE, BitVec.reduceToNat]; omega), pure_bind,
    add_of_lt (by rw [hm]; omega)]

theorem read_pte_eq_ok {bus t : Bus} {a pte : U64} :
    Bus.read a (PTE_SIZE.setWidth 8) bus = .ok pte t ↔ readPte bus a = some pte ∧ t = bus := by
  have hro := Bus.readOnly_read a (by decide : PTE_SIZE.setWidth 8 ≠ 1)
  unfold readPte
  constructor
  · intro h
    have hb := hro bus
    rw [h, finish_ok] at hb
    rw [h]
    exact ⟨rfl, hb⟩
  · rintro ⟨h, rfl⟩
    cases hr : Bus.read a (PTE_SIZE.setWidth 8) t with
    | ok v u =>
        rw [hr] at h
        cases h
        have hb := hro t
        rw [hr, finish_ok] at hb
        rw [hb]
    | error e u =>
        rw [hr] at h
        cases h

/-- The loop returns what the query returns, level by level. -/
theorem walkLoop_eq_ok (va : U64) (bus t : Bus) (leaf : Nat × U64) :
    ∀ remaining a, a.toNat < 2 ^ 56 →
      (walkLoop va remaining a bus = .ok leaf t ↔
        (walkQuery va remaining a).run (readPte bus) = some leaf ∧ t = bus) := by
  intro remaining
  induction remaining with
  | zero =>
      intro a _
      simp [walkLoop, walkQuery, Query.run]
  | succ level ih =>
      intro a ha
      have hstep : walkLoop va (level + 1) a = (do
          let pte ← Bus.read (a + vpn va level * PTE_SIZE) (PTE_SIZE.setWidth 8)
          if pte &&& PTE_V = 0 then
            error (.invalidPte va level pte (a + vpn va level * PTE_SIZE))
          else if pte &&& (PTE_R ||| PTE_X) ≠ 0 then return (level, pte)
          else if pte &&& PTE_W ≠ 0 then error (.reservedPte va)
          else walkLoop va level (((pte >>> 10) &&& PPN_MASK) * PAGESIZE)) := by
        rw [walkLoop, ← bind_assoc, pteAddr_apply va level ha, pure_bind]
        simp only [mul_pagesize, pure_bind]
      rw [hstep, walkQuery, Query.run]
      cases hpte : readPte bus (a + vpn va level * PTE_SIZE) with
      | none => simp [bind_eq_ok, read_pte_eq_ok, hpte, Query.run]
      | some pte =>
          rw [bind_ok (read_pte_eq_ok.mpr ⟨hpte, rfl⟩)]
          dsimp only
          -- the same four cases as in the source: invalid, leaf, reserved, pointer
          by_cases hv : pte &&& PTE_V = 0
          · simp only [if_pos hv]
            simp [Query.run]
          rw [if_neg hv, if_neg hv]
          by_cases hleaf : pte &&& (PTE_R ||| PTE_X) ≠ 0
          · rw [if_pos hleaf, if_pos hleaf]
            simp [Query.run, eq_comm]
          rw [if_neg hleaf, if_neg hleaf]
          by_cases hw : pte &&& PTE_W ≠ 0
          · rw [if_pos hw, if_pos hw]
            simp [Query.run]
          rw [if_neg hw, if_neg hw]
          exact ih _ (table_lt _)

omit [Host] in
/-- Only the three index fields of an address matter to the query. -/
theorem walkQuery_congr {va va' : U64} (h : vpn va = vpn va') :
    ∀ remaining a, walkQuery va remaining a = walkQuery va' remaining a := by
  intro remaining
  induction remaining with
  | zero => intro a; rfl
  | succ level ih =>
      intro a
      rw [walkQuery, walkQuery, h]
      congr 1
      funext pte
      cases pte with
      | none => rfl
      | some pte => simp only [ih]

omit [Host] in
/-- The page frame that the leaf `pte` gives an address with index fields `fields`,
with the leaf's permission bits. -/
def pageOf (fields : Nat → U64) (level : Nat) (pte : U64) : Option (U64 × U64) :=
  let ppn := (pte >>> 10) &&& PPN_MASK
  let perm := pte &&& (PTE_R ||| PTE_W ||| PTE_X)
  if 0 < level then
    let lowMask : U64 := bit (9 * level) - 1
    if ppn &&& lowMask ≠ 0 then none
    else
      let vaLow := (List.range level).foldl (fun low l => low ||| (fields l <<< (9 * l))) 0
      some ((ppn &&& ~~~lowMask) ||| vaLow, perm)
  else some (ppn, perm)

omit [Host] in
/-- What the page tables under `satp` say about the page with number `vpnFull`. -/
def pageQuery (satp vpnFull : U64) : Query U64 (Option U64) (Option (U64 × U64)) :=
  (walkQuery (vpnFull <<< 12) LEVELS ((satp &&& PPN_MASK) * PAGESIZE)).map fun leaf =>
    leaf.bind fun (level, pte) => pageOf (vpn (vpnFull <<< 12)) level pte

omit [Host] in
/-- Every address has the index fields of its page. -/
theorem vpn_page (va : U64) : vpn ((va >>> 12) <<< 12) = vpn va := by
  have h : ∀ n, 12 ≤ n → ((va >>> 12) <<< 12) >>> n = va >>> n := by
    intro n hn
    apply BitVec.eq_of_getElem_eq
    intro i hi
    grind
  funext level
  match level with
  | 0 => simp only [vpn, h 12 (by decide)]
  | 1 => simp only [vpn, h 21 (by decide)]
  | _ + 2 => simp only [vpn, h 30 (by decide)]

omit [Host] in
theorem required_le (access : Access) :
    (PTE_R ||| PTE_W ||| PTE_X) &&& required access = required access := by
  cases access <;> decide

omit [Host] in
theorem leafPpn_eq {σ : Type} (va : U64) (access : Access) (level : Nat) (pte : U64) :
    (leafPpn va access level pte : Call σ U64) =
      if pte &&& required access = 0 then error (.permission va pte)
      else match pageOf (vpn va) level pte with
        | some (ppn, _) => pure ppn
        | none => error (.misalignedSuperpage va) := by
  unfold leafPpn pageOf
  by_cases hl : 0 < level
  · simp only [if_pos hl]
    by_cases hm : (pte >>> 10) &&& PPN_MASK &&& (bit (9 * level) - 1) ≠ 0
    · simp only [if_pos hm]
    · simp only [if_neg hm]
  · simp only [if_neg hl]

omit [Host] in
theorem perm_of_pageOf {fields : Nat → U64} {level : Nat} {pte ppn perm : U64}
    (h : pageOf fields level pte = some (ppn, perm)) :
    perm = pte &&& (PTE_R ||| PTE_W ||| PTE_X) := by
  unfold pageOf at h
  grind

omit [Host] in
/-- The page keeps every permission bit that an access may need. -/
theorem perm_and_required {fields : Nat → U64} {level : Nat} {pte ppn perm : U64}
    (h : pageOf fields level pte = some (ppn, perm)) (access : Access) :
    perm &&& required access = pte &&& required access := by
  rw [perm_of_pageOf h, BitVec.and_assoc, required_le]

theorem walk_apply (satp va : U64) (access : Access) (bus : Bus) :
    walk satp va access bus = (do
      let (level, pte) ← walkLoop va LEVELS ((satp &&& PPN_MASK) * PAGESIZE)
      let ppn ← leafPpn va access level pte
      return (ppn, pte &&& (PTE_R ||| PTE_W ||| PTE_X)) : Call Bus (U64 × U64)) bus := by
  unfold walk
  rw [mul_pagesize, pure_bind]

omit [Host] in
theorem run_pageQuery (satp va : U64) (store : U64 → Option U64) :
    (pageQuery satp (va >>> 12)).run store =
      ((walkQuery va LEVELS ((satp &&& PPN_MASK) * PAGESIZE)).run store).bind
        fun (level, pte) => pageOf (vpn va) level pte := by
  rw [pageQuery, Query.run_map, walkQuery_congr (vpn_page va), vpn_page]

/-- A walk that succeeds found the page and the permission. -/
theorem page_of_walk {satp va ppn perm : U64} {access : Access} {bus t : Bus}
    (h : walk satp va access bus = .ok (ppn, perm) t) :
    (pageQuery satp (va >>> 12)).run (readPte bus) = some (ppn, perm) ∧ t = bus := by
  rw [walk_apply, bind_eq_ok] at h
  obtain ⟨⟨level, pte⟩, u, hloop, h⟩ := h
  rw [walkLoop_eq_ok _ _ _ _ _ _ (table_lt _)] at hloop
  obtain ⟨hquery, rfl⟩ := hloop
  rw [run_pageQuery, hquery]
  dsimp only [Option.bind_some] at h ⊢
  rw [leafPpn_eq] at h
  by_cases hp : pte &&& required access = 0
  · rw [if_pos hp] at h
    cases h
  rw [if_neg hp] at h
  cases hpage : pageOf (vpn va) level pte with
  | none =>
      rw [hpage] at h
      cases h
  | some page =>
      obtain ⟨ppn', perm'⟩ := page
      rw [hpage] at h
      cases h
      exact ⟨by rw [perm_of_pageOf hpage], rfl⟩

/-- Where there is a page, only the permission decides how the walk ends. -/
theorem walk_of_page {satp va ppn perm : U64} {bus : Bus}
    (h : (pageQuery satp (va >>> 12)).run (readPte bus) = some (ppn, perm)) (access : Access) :
    if perm &&& required access = 0 then ∃ e, walk satp va access bus = .error (.err e) bus
    else walk satp va access bus = .ok (ppn, perm) bus := by
  rw [run_pageQuery, Option.bind_eq_some_iff] at h
  obtain ⟨⟨level, pte⟩, hquery, hpage⟩ := h
  have hloop := (walkLoop_eq_ok va bus bus _ _ _ (table_lt _)).mpr ⟨hquery, rfl⟩
  dsimp only at hpage
  rw [walk_apply, bind_ok hloop, perm_and_required hpage]
  dsimp only
  rw [leafPpn_eq]
  by_cases hp : pte &&& required access = 0
  · rw [if_pos hp, if_pos hp]
    exact ⟨_, rfl⟩
  · rw [if_neg hp, if_neg hp, hpage,
      perm_of_pageOf hpage]
    rfl

end Mmu

end Riscvm.Rv64rs
