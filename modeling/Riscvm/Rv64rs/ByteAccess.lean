import Riscvm.Rv64rs.Pages
import Riscvm.Rv64rs.Step
import Riscvm.Rv64rs.Windows

/-!
# Accesses byte by byte

`Cpu::read`, `Cpu::write` and `Cpu::fetch` translate the address of the first byte and
hand the whole access to the bus. Here each byte is followed on its own: the address
`va + i` reaches some physical address, and that address has a cell. The two views agree
as long as the access stays in its page.
-/

namespace Riscvm.Rv64rs

open Bytes Exec Machine Mmu

namespace Bus

/-- The access is served by memory, not by a device. -/
def InMemory (bus : Bus) (address n : U64) : Prop :=
  ∃ w ram, bus.locate address n = some w ∧ bus.memory w = some ram

/-- The cells of an access follow one another. -/
theorem eq_of_cell_eq_accessCell {bus : Bus} {address n q : U64} {i : Nat}
    (hw : bus.locate address n ≠ none) (h : bus.cell q = bus.accessCell address n i) :
    q.toNat = address.toNat + i := by
  obtain ⟨w, hw⟩ := Option.ne_none_iff_exists'.mp hw
  have hin := contains_of_locate hw
  cases hq : bus.locate q 1 with
  | none =>
      rw [cell, accessCell, accessCell, hq, hw] at h
      cases h
  | some v =>
      rw [cell, accessCell, accessCell, hq, hw, Option.map_some, Option.map_some] at h
      have hq' := contains_of_locate hq
      obtain ⟨rfl, hoff⟩ := Prod.mk.inj (Option.some.inj h)
      rw [offset_toNat hin, offset_toNat hq'] at hoff
      have := BitVec.le_def.mp hin.1
      have := BitVec.le_def.mp hq'.1
      omega

end Bus

namespace Machine

variable [Host]

/-- Byte `i` of what is read comes from where `va + i` leads. A device register is not made
of bytes, so there only the place counts. -/
def ReadsOwnBytes (m : Machine) (va : U64) (size : U8) (v : U64) : Prop :=
  ∀ pa, Reaches m va .R pa → ∀ i < size.toNat, ∃ q,
    Reaches m (va + BitVec.ofNat 64 i) .R q ∧
      (m.bus.InMemory pa (size.setWidth 64) → m.bus.byteAt q = some (byteOf v i)) ∧
      (¬m.bus.InMemory pa (size.setWidth 64) →
        m.bus.cell q = m.bus.accessCell pa (size.setWidth 64) i)

/-- Byte `i` of what is written is found where `va + i` leads, and memory holds what it held
everywhere else. -/
def WritesOwnBytes (m t : Machine) (va : U64) (size : U8) (v : U64) : Prop :=
  ∀ pa, Reaches m va .W pa →
    (∀ i < size.toNat, ∃ q, Reaches m (va + BitVec.ofNat 64 i) .W q ∧
      (m.bus.InMemory pa (size.setWidth 64) →
        (m.bus.cell q).bind t.bus.contents = some (byteOf v i)) ∧
      (¬m.bus.InMemory pa (size.setWidth 64) →
        m.bus.cell q = m.bus.accessCell pa (size.setWidth 64) i)) ∧
    (m.bus.InMemory pa (size.setWidth 64) →
      ∀ c, (∀ i < size.toNat, ∀ q, Reaches m (va + BitVec.ofNat 64 i) .W q →
        m.bus.cell q ≠ some c) → t.bus.contents c = m.bus.contents c)

/-- Where `va + i` leads, the access finds its byte `i`: in the same cell, or in another cell
of memory with the same content. -/
def ReadAligned (m : Machine) (va : U64) (size : U8) : Prop :=
  ∀ pa, Reaches m va .R pa → ∀ i < size.toNat, ∃ q,
    Reaches m (va + BitVec.ofNat 64 i) .R q ∧
      (m.bus.cell q = m.bus.accessCell pa (size.setWidth 64) i ∨
        ∃ b, m.bus.byteAt q = some b ∧
          (m.bus.accessCell pa (size.setWidth 64) i).bind m.bus.contents = some b)

/-- Where `va + i` leads, the access puts its byte `i`: in the same cell, or in another cell
of memory while both hold the byte already. -/
def WriteAligned (m : Machine) (va : U64) (size : U8) (v : U64) : Prop :=
  ∀ pa, Reaches m va .W pa → ∀ i < size.toNat, ∃ q,
    Reaches m (va + BitVec.ofNat 64 i) .W q ∧
      (m.bus.cell q = m.bus.accessCell pa (size.setWidth 64) i ∨
        m.bus.byteAt q = some (byteOf v i) ∧
          (m.bus.accessCell pa (size.setWidth 64) i).bind m.bus.contents = some (byteOf v i))

section Aligned

variable {m t : Machine} {va pa v : U64} {size : U8} {u : Unit}

theorem read_eq_ok (h : read va size m = .ok v t) (hpa : Reaches m va .R pa) :
    Bus.readAt false pa size m.bus = .ok v t.bus := by
  obtain ⟨pa', m', htranslate, hread⟩ := bind_eq_ok.mp h
  obtain rfl := hpa.unique ⟨m', htranslate⟩
  rw [onBus, zoom, translate_bus htranslate] at hread
  cases hbus : Bus.read pa size m.bus with
  | ok w b =>
      rw [hbus] at hread
      cases hread
      exact hbus
  | error e b =>
      rw [hbus] at hread
      cases hread

theorem write_eq_ok (h : write va size v m = .ok u t) (hpa : Reaches m va .W pa) :
    Bus.writeWith VirtIOBlk.write pa size v m.bus = .ok u t.bus := by
  obtain ⟨pa', m', htranslate, hwrite⟩ := bind_eq_ok.mp h
  obtain rfl := hpa.unique ⟨m', htranslate⟩
  rw [onBus, zoom, translate_bus htranslate] at hwrite
  cases hbus : Bus.write pa size v m.bus with
  | ok w b =>
      rw [hbus] at hwrite
      cases hwrite
      exact hbus
  | error e b =>
      rw [hbus] at hwrite
      cases hwrite

omit [Host] in
/-- Only cells of memory have contents. -/
theorem inMemory_of_contents {n : U64} {i : Nat} {b : U8}
    (h : (m.bus.accessCell pa n i).bind m.bus.contents = some b) : m.bus.InMemory pa n := by
  cases hw : m.bus.locate pa n with
  | none =>
      rw [Bus.accessCell, hw] at h
      cases h
  | some w =>
      rw [Bus.accessCell, hw, Option.map_some, Option.bind_some, Bus.contents] at h
      obtain ⟨ram, hm, -⟩ := Option.bind_eq_some_iff.mp h
      exact ⟨w, ram, hw, hm⟩

theorem read_bytes_iff (wf : m.bus.Wf) (width : Ram.Width size) (h : read va size m = .ok v t) :
    ReadsOwnBytes m va size v ↔ ReadAligned m va size := by
  have hcontents {pa : U64} (hpa : Reaches m va .R pa)
      (hmem : m.bus.InMemory pa (size.setWidth 64)) {i : Nat} (hi : i < size.toNat) :
      (m.bus.accessCell pa (size.setWidth 64) i).bind m.bus.contents = some (byteOf v i) := by
    obtain ⟨w, ram, hw, hm⟩ := hmem
    rw [Bus.accessCell_of_locate hw, Option.bind_some]
    exact Bus.contents_of_read wf width hw hm (read_eq_ok h hpa) hi
  constructor
  · intro hown pa hpa i hi
    obtain ⟨q, hq, hmemory, hdevice⟩ := hown pa hpa i hi
    refine ⟨q, hq, ?_⟩
    by_cases hmem : m.bus.InMemory pa (size.setWidth 64)
    · exact .inr ⟨_, hmemory hmem, hcontents hpa hmem hi⟩
    · exact .inl (hdevice hmem)
  · intro haligned pa hpa i hi
    obtain ⟨q, hq, hplace⟩ := haligned pa hpa i hi
    refine ⟨q, hq, fun hmem => ?_, fun hdevice => ?_⟩
    · obtain hcell | ⟨b, hbyte, hcell⟩ := hplace
      · rw [Bus.byteAt, hcell]
        exact hcontents hpa hmem hi
      · rw [hcontents hpa hmem hi] at hcell
        rw [hbyte, hcell]
    · obtain hcell | ⟨b, -, hcell⟩ := hplace
      · exact hcell
      · exact absurd (inMemory_of_contents hcell) hdevice

/-- Bytes of one access lead to different places. -/
theorem index_eq_of_cell {i j : Nat} {n q : U64} (hpa : Reaches m va .W pa)
    (hw : m.bus.locate pa n ≠ none) (hq : Reaches m (va + BitVec.ofNat 64 i) .W q) (hi : i < 8)
    (hj : j < 8) (h : m.bus.cell q = m.bus.accessCell pa n j) : i = j := by
  have hcell := Bus.eq_of_cell_eq_accessCell hw h
  have hlow := hpa.mod
  have hlow' := hq.mod
  rw [BitVec.toNat_add, BitVec.toNat_ofNat] at hlow'
  omega

omit [Host] in
theorem lt_eight (width : Ram.Width size) {i : Nat} (hi : i < size.toNat) : i < 8 := by
  have : size.toNat ≤ 8 := by rcases width with rfl | rfl | rfl | rfl <;> decide
  omega

/-- After a write to memory, the cells of the access hold its bytes. -/
theorem contents_written (wf : m.bus.Wf) (width : Ram.Width size)
    (hmem : m.bus.InMemory pa (size.setWidth 64)) {i : Nat} (hi : i < size.toNat)
    (h : Bus.writeWith VirtIOBlk.write pa size v m.bus = .ok u t.bus) :
    (m.bus.accessCell pa (size.setWidth 64) i).bind t.bus.contents = some (byteOf v i) := by
  obtain ⟨w, ram, hw, hm⟩ := hmem
  rw [Bus.accessCell_of_locate hw, Option.bind_some, Bus.contents_of_write wf width hw hm h,
    if_pos ⟨rfl, by omega, by omega⟩, Nat.add_sub_cancel_left]

/-- After a write to memory, the other cells hold what they held. -/
theorem contents_kept (wf : m.bus.Wf) (width : Ram.Width size)
    (hmem : m.bus.InMemory pa (size.setWidth 64))
    (h : Bus.writeWith VirtIOBlk.write pa size v m.bus = .ok u t.bus) {c : Window × Nat}
    (hc : ∀ i < size.toNat, m.bus.accessCell pa (size.setWidth 64) i ≠ some c) :
    t.bus.contents c = m.bus.contents c := by
  obtain ⟨w, ram, hw, hm⟩ := hmem
  rw [Bus.contents_of_write wf width hw hm h, if_neg]
  rintro ⟨hcw, hlow, hhigh⟩
  apply hc (c.2 - (m.bus.offset w pa).toNat) (by omega)
  rw [Bus.accessCell_of_locate hw, Nat.add_sub_cancel' hlow, ← hcw]

theorem index_eq_of_memory (width : Ram.Width size) {q : U64} {i j : Nat} (hpa : Reaches m va .W pa)
    (hmem : m.bus.InMemory pa (size.setWidth 64)) (hq : Reaches m (va + BitVec.ofNat 64 i) .W q)
    (hi : i < size.toNat) (hj : j < size.toNat)
    (hcell : m.bus.cell q = m.bus.accessCell pa (size.setWidth 64) j) : i = j := by
  obtain ⟨w, ram, hw, hm⟩ := hmem
  exact index_eq_of_cell hpa (by rw [hw]; exact Option.some_ne_none w) hq (lt_eight width hi)
    (lt_eight width hj) hcell

/-- A byte that is found elsewhere was there before the write, and in its own cell, too. -/
theorem WritesOwnBytes.writeAligned (own : WritesOwnBytes m t va size v) (wf : m.bus.Wf)
    (width : Ram.Width size) (h : write va size v m = .ok u t) : WriteAligned m va size v := by
  intro pa hpa i hi
  have hwrite := write_eq_ok h hpa
  obtain ⟨hwritten, hkept⟩ := own pa hpa
  obtain ⟨q, hq, hmemory, hdevice⟩ := hwritten i hi
  refine ⟨q, hq, ?_⟩
  by_cases hmem : m.bus.InMemory pa (size.setWidth 64)
  · by_cases hcell : m.bus.cell q = m.bus.accessCell pa (size.setWidth 64) i
    · exact .inl hcell
    -- two different cells hold the byte afterwards, and neither has changed
    refine .inr ⟨?_, ?_⟩
    · obtain ⟨c, hc, hafter⟩ := Option.bind_eq_some_iff.mp (hmemory hmem)
      rw [Bus.byteAt, hc, Option.bind_some, ← hafter]
      refine (contents_kept wf width hmem hwrite ?_).symm
      intro j hj hjc
      have hij := index_eq_of_memory width hpa hmem hq hi hj (hc.trans hjc.symm)
      exact hcell (by rw [hc, hij, hjc])
    · have hafter := contents_written wf width hmem hi hwrite
      obtain ⟨c, hc, hafter⟩ := Option.bind_eq_some_iff.mp hafter
      rw [hc, Option.bind_some, ← hafter]
      refine (hkept hmem c ?_).symm
      intro j hj q' hq' hqc
      obtain rfl := index_eq_of_memory width hpa hmem hq' hj hi (hqc.trans hc.symm)
      exact hcell (by rw [hq.unique hq', hqc, hc])
  · exact .inl (hdevice hmem)

/-- Byte `i` is found where `va + i` leads. -/
theorem WriteAligned.written (aligned : WriteAligned m va size v) (wf : m.bus.Wf)
    (width : Ram.Width size) (h : write va size v m = .ok u t) (hpa : Reaches m va .W pa) {i : Nat}
    (hi : i < size.toNat) : ∃ q, Reaches m (va + BitVec.ofNat 64 i) .W q ∧
      (m.bus.InMemory pa (size.setWidth 64) →
        (m.bus.cell q).bind t.bus.contents = some (byteOf v i)) ∧
      (¬m.bus.InMemory pa (size.setWidth 64) →
        m.bus.cell q = m.bus.accessCell pa (size.setWidth 64) i) := by
  have hwrite := write_eq_ok h hpa
  obtain ⟨q, hq, hplace⟩ := aligned pa hpa i hi
  refine ⟨q, hq, fun hmem => ?_, fun hdevice => ?_⟩
  · obtain hcell | ⟨hbyte, -⟩ := hplace
    · rw [hcell]
      exact contents_written wf width hmem hi hwrite
    · obtain ⟨c, hc, hbefore⟩ := Option.bind_eq_some_iff.mp hbyte
      by_cases hhit : ∃ j < size.toNat, m.bus.accessCell pa (size.setWidth 64) j = some c
      · obtain ⟨j, hj, hjc⟩ := hhit
        obtain rfl := index_eq_of_memory width hpa hmem hq hi hj (hc.trans hjc.symm)
        rw [hc, ← hjc]
        exact contents_written wf width hmem hi hwrite
      · rw [hc, Option.bind_some, ← hbefore]
        exact contents_kept wf width hmem hwrite fun j hj hjc => hhit ⟨j, hj, hjc⟩
  · obtain hcell | ⟨-, hcell⟩ := hplace
    · exact hcell
    · exact absurd (inMemory_of_contents hcell) hdevice

/-- Memory keeps what no byte of the access leads to. -/
theorem WriteAligned.kept (aligned : WriteAligned m va size v) (wf : m.bus.Wf)
    (width : Ram.Width size) (h : write va size v m = .ok u t) (hpa : Reaches m va .W pa)
    (hmem : m.bus.InMemory pa (size.setWidth 64)) {c : Window × Nat}
    (hc : ∀ i < size.toNat, ∀ q, Reaches m (va + BitVec.ofNat 64 i) .W q →
      m.bus.cell q ≠ some c) : t.bus.contents c = m.bus.contents c := by
  have hwrite := write_eq_ok h hpa
  by_cases hhit : ∃ i < size.toNat, m.bus.accessCell pa (size.setWidth 64) i = some c
  · obtain ⟨i, hi, hic⟩ := hhit
    obtain ⟨q, hq, hplace⟩ := aligned pa hpa i hi
    have hafter := contents_written wf width hmem hi hwrite
    rw [hic, Option.bind_some] at hafter
    obtain hcell | ⟨-, hcell⟩ := hplace
    · exact absurd (hcell.trans hic) (hc i hi q hq)
    · rw [hic, Option.bind_some] at hcell
      rw [hafter, hcell]
  · exact contents_kept wf width hmem hwrite fun i hi hic => hhit ⟨i, hi, hic⟩

theorem write_bytes_iff (wf : m.bus.Wf) (width : Ram.Width size)
    (h : write va size v m = .ok u t) :
    WritesOwnBytes m t va size v ↔ WriteAligned m va size v := by
  constructor
  · intro own
    exact own.writeAligned wf width h
  · intro aligned pa hpa
    exact ⟨fun i hi => aligned.written wf width h hpa hi,
      fun hmem c hc => aligned.kept wf width h hpa hmem hc⟩

end Aligned

/-- An access that stays in its page is aligned where no other window gets in its way. -/
theorem reaches_own_cell {m : Machine} {va pa : U64} {size : U8} {access : Access}
    (hpa : Reaches m va access pa) (hpage : va.toNat % 4096 + size.toNat ≤ 4096)
    (alone : ∀ i < size.toNat, m.bus.cell (pa + BitVec.ofNat 64 i) =
      m.bus.accessCell pa (size.setWidth 64) i) :
    ∀ i < size.toNat, ∃ q, Reaches m (va + BitVec.ofNat 64 i) access q ∧
      m.bus.cell q = m.bus.accessCell pa (size.setWidth 64) i :=
  fun i hi => ⟨_, hpa.within_page (by omega), alone i hi⟩

/-- Reads and writes act on the bytes that `va`, `va + 1`, … lead to exactly when they are
aligned with them. -/
theorem accesses_own_bytes_iff {m : Machine} (wf : m.bus.Wf) (va : U64) {size : U8}
    (width : size = 2 ∨ size = 4 ∨ size = 8) :
    (∀ v t, read va size m = .ok v t →
      (ReadsOwnBytes m va size v ↔ ReadAligned m va size)) ∧
    ∀ v t, write va size v m = .ok () t →
      (WritesOwnBytes m t va size v ↔ WriteAligned m va size v) :=
  ⟨fun _ _ h => read_bytes_iff wf (.inr width) h, fun _ _ h => write_bytes_iff wf (.inr width) h⟩

omit [Host] in
/-- The first gigabyte is mapped to itself and the next one is not mapped; there is memory on
both sides of the boundary. -/
def lastGigapage : Machine :=
  { cpu := { Cpu.new 0 with csrs := Csrs.new.insert Csr.SATP 0x8000000000000000 }
    bus := { Bus.new .detached with
      ram := ⟨[0, 0, 0, 0, 1, 2, 3, 4]⟩, ramRange := ⟨0x3ffffffc, 8⟩
      stack := ⟨[0xf, 0, 0, 0, 0, 0, 0, 0] ++ List.replicate 8 0⟩, stackRange := ⟨0, 16⟩ } }

omit [Host] in
theorem wf_lastGigapage : lastGigapage.bus.Wf := by
  constructor
  · intro w
    cases w <;> decide
  · intro w ram h
    cases w <;> cases h <;> rfl

omit [Host] in
theorem not_reaches_lastGigapage (q : U64) :
    ¬@Reaches .dev lastGigapage 0x40000000 .R q := by
  let : Host := .dev
  rintro ⟨t, ht⟩
  have hfault : outcome (translate 0x40000000 .R lastGigapage) = .err := by decide
  rw [ht] at hfault
  cases hfault

omit [Host] in
theorem read_lastGigapage :
    ∃ t, @read .dev 0x3ffffffc 8 lastGigapage = .ok 0x0403020100000000 t := by
  let : Host := .dev
  have hvalue : outcome (read 0x3ffffffc 8 lastGigapage) = .ok 0x0403020100000000 := by decide
  cases hread : read 0x3ffffffc 8 lastGigapage with
  | ok v t =>
      rw [hread] at hvalue
      cases hvalue
      exact ⟨t, rfl⟩
  | error e t =>
      rw [hread] at hvalue
      cases e <;> cases hvalue

omit [Host] in
/-- The upper half of the doubleword lies in a page that is not mapped, and it is read. -/
theorem read_past_page_end :
    lastGigapage.bus.Wf ∧
      (∃ t, @read .dev 0x3ffffffc 8 lastGigapage = .ok 0x0403020100000000 t) ∧
      (∀ q, ¬@Reaches .dev lastGigapage (0x3ffffffc + BitVec.ofNat 64 4) .R q) ∧
      ¬@ReadsOwnBytes .dev lastGigapage 0x3ffffffc 8 0x0403020100000000 := by
  let : Host := .dev
  refine ⟨wf_lastGigapage, read_lastGigapage, not_reaches_lastGigapage, fun hown => ?_⟩
  obtain ⟨t, hread⟩ := read_lastGigapage
  obtain ⟨pa, m', hpa, -⟩ := bind_eq_ok.mp hread
  obtain ⟨q, hq, -⟩ := hown pa ⟨m', hpa⟩ 4 (by decide)
  exact not_reaches_lastGigapage q hq

omit [Host] in
theorem accesses_own_bytes_lastGigapage :
    ∃ t, @read .dev 0x3ffffffc 8 lastGigapage = .ok 0x0403020100000000 t ∧
      (@ReadsOwnBytes .dev lastGigapage 0x3ffffffc 8 0x0403020100000000 ↔
        @ReadAligned .dev lastGigapage 0x3ffffffc 8) := by
  let : Host := .dev
  obtain ⟨t, hread⟩ := read_lastGigapage
  exact ⟨t, hread, (accesses_own_bytes_iff wf_lastGigapage _ (.inr (.inr rfl))).1 _ _ hread⟩

end Machine

end Riscvm.Rv64rs
