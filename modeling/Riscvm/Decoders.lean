import Riscvm.Python.Rv64i
import Riscvm.Rv64rs.Faults

/-!
# Which words the decoders accept

Python looks a word up in a table of nested dictionaries, Rust in a nest of match arms. Both look
at the opcode, `funct3`, `funct7` and `rs2` only, so that the words they accept are compared field
by field.
-/

namespace Riscvm

namespace Python

section Lookup

variable {μ : Type}

/-- A dictionary of at most `depth + 1` levels of mnemonics. -/
def plain : (depth : Nat) → List (Nat × Table μ) → Bool
  | 0, entries => entries.all fun entry =>
      match entry.2 with
      | .leaf _ => true
      | .choose _ | .dict _ => false
  | depth + 1, entries => entries.all fun entry =>
      match entry.2 with
      | .leaf _ => true
      | .choose _ => false
      | .dict below => plain depth below

/-- The same for an entry. -/
def plainBelow (depth : Nat) : Table μ → Bool
  | .leaf _ => true
  | .choose _ => false
  | .dict below => plain depth below

/-- The fields select a mnemonic that is `good`. -/
def selects (good : μ → Bool) : (fields : List Nat) → List (Nat × Table μ) → Bool
  | [], _ => false
  | field :: fields, entries =>
      match entries.lookup field with
      | some (.leaf mnemonic) => good mnemonic
      | some (.dict below) => selects good fields below
      | some (.choose _) | none => false

theorem mem_of_lookup {α : Type} {entries : List (Nat × α)} {field : Nat} {entry : α}
    (h : entries.lookup field = some entry) : (field, entry) ∈ entries := by
  obtain ⟨l, r, rfl, -⟩ := List.lookup_eq_some_iff.mp h
  simp

theorem plain_lookup {depth : Nat} {entries below : List (Nat × Table μ)} {field : Nat}
    (h : plain depth entries = true) (hlookup : entries.lookup field = some (.dict below)) :
    ∃ d, depth = d + 1 ∧ plain d below = true := by
  have hmem := mem_of_lookup hlookup
  cases depth with
  | zero => exact absurd (List.all_eq_true.mp h _ hmem) Bool.false_ne_true
  | succ d => exact ⟨d, rfl, List.all_eq_true.mp h _ hmem⟩

theorem not_choose_of_plain {depth : Nat} {entries : List (Nat × Table μ)} {field : Nat}
    {f : Nat → Option μ} (h : plain depth entries = true) :
    entries.lookup field ≠ some (.choose f) := by
  intro hlookup
  have hmem := mem_of_lookup hlookup
  cases depth with
  | zero => exact absurd (List.all_eq_true.mp h _ hmem) Bool.false_ne_true
  | succ d => exact absurd (List.all_eq_true.mp h _ hmem) Bool.false_ne_true

/-- Looking a word up is looking its fields up. -/
theorem lookupMnemonic_selects {good : μ → Bool} {default : μ} (bad : good default = false)
    (x : Nat) (matcher : List (Nat → Nat)) {depth : Nat} {entries : List (Nat × Table μ)}
    (h : plain depth entries = true) :
    (lookupMnemonic x default matcher entries).any good =
      selects good (matcher.map fun field => field x) entries := by
  induction matcher generalizing depth entries with
  | nil => exact bad
  | cons field matcher ih =>
      rw [lookupMnemonic, List.map_cons, selects]
      cases hlookup : entries.lookup (field x) with
      | none => exact bad
      | some entry =>
          cases entry with
          | leaf mnemonic => rfl
          | choose f => exact absurd hlookup (not_choose_of_plain h)
          | dict below =>
              obtain ⟨d, rfl, hbelow⟩ := plain_lookup h hlookup
              exact ih hbelow

/-- A dictionary does not look at more fields than it has levels. -/
theorem selects_take {good : μ → Bool} (fields : List Nat) {depth : Nat}
    {entries : List (Nat × Table μ)} (h : plain depth entries = true) :
    selects good fields entries = selects good (fields.take (depth + 1)) entries := by
  induction fields generalizing depth entries with
  | nil => rfl
  | cons field fields ih =>
      rw [List.take_succ_cons, selects, selects]
      cases hlookup : entries.lookup field with
      | none => rfl
      | some entry =>
          cases entry with
          | leaf mnemonic => rfl
          | choose f => rfl
          | dict below =>
              obtain ⟨d, rfl, hbelow⟩ := plain_lookup h hlookup
              exact ih hbelow

end Lookup

namespace Rv64i

/-- The mnemonics that the actor has a case for; what is left over is an illegal instruction. -/
def hasCase : Mnemonic → Bool
  | .LB | .LH | .LW | .LD | .LBU | .LHU | .LWU | .XORI | .ADDI | .SLLI | .SLTI | .SLTIU | .SRLI
  | .SRAI | .BGE | .BLT | .BEQ | .JALR | .ADD | .SLT | .SLTU | .SUB | .ADDW | .SUBW | .BNE
  | .BLTU | .BGEU | .AUIPC | .LUI | .CSRRS | .CSRRW | .CSRRC | .CSRRWI | .CSRRSI | .CSRRCI
  | .MUL | .MULH | .MULHSU | .MULHU | .DIV | .DIVU | .REM | .REMU | .MULW | .DIVW | .DIVUW
  | .REMW | .REMUW | .JAL | .SD | .SW | .SH | .SB | .XOR | .AND | .ANDI | .OR | .ORI | .SLLIW
  | .SRLIW | .SRAIW | .ADDIW | .MRET | .SRET | .WFI | .ECALL | .AMOSWAP_W | .FENCE | .FENCE_I
  | .SLL | .SRL | .SRA | .SLLW | .SRLW | .SRAW | .SFENCE_VMA | .EBREAK => true
  | _ => false

/-- The rest of the mnemonics fall through. -/
theorem perform_of_not_hasCase {σ : Type} [Board σ] (x : Nat) {mnemonic : Mnemonic}
    (h : hasCase mnemonic = false) (hart : Hart σ) :
    perform x mnemonic hart = (raise ⟨2, x, true⟩ : Call (Hart σ) Int) hart := by
  cases mnemonic
  all_goals first
    | exact absurd h (by decide)
    | rfl

/-- The decoder maps the word to a mnemonic that the actor has a case for. -/
def Implements (x : Nat) : Prop :=
  ∃ mnemonic, mnemonicOf x = some mnemonic ∧ hasCase mnemonic = true

end Rv64i

end Python

section Fields

open Rv64rs

variable (w : U32)

theorem toNat_field (k n : Nat) :
    ((w >>> k).setWidth n).toNat = Python.sectionOf w.toNat k n := by
  rw [BitVec.toNat_setWidth, BitVec.toNat_ushiftRight, Nat.shiftRight_eq_div_pow]
  rfl

theorem opcode_eq : Python.Rv64i.opcode w.toNat = (Instruction.new w).opcode.toNat := by
  change w.toNat / 2 ^ 0 % 2 ^ 7 = (w.setWidth 7).toNat
  rw [BitVec.toNat_setWidth, Nat.pow_zero, Nat.div_one]

theorem funct3_eq : Python.Rv64i.funct3 w.toNat = (Instruction.new w).funct3.toNat :=
  (toNat_field w _ _).symm

theorem funct7_eq : Python.Rv64i.funct7 w.toNat = (Instruction.new w).funct7.toNat :=
  (toNat_field w _ _).symm

theorem rs2_eq : Python.Rv64i.rs2 w.toNat = (Instruction.new w).rs2.toNat :=
  (toNat_field w _ _).symm

end Fields

namespace Decoders

open Rv64rs

/-- The fields that Python looks up. -/
def matched (opcode : BitVec 7) (funct3 : BitVec 3) (funct7 : BitVec 7) (rs2 : BitVec 5) :
    List Nat :=
  if opcode = 0x2f then [opcode.toNat, funct3.toNat, funct7.toNat / 2 ^ 2]
  else [opcode.toNat, funct3.toNat, funct7.toNat, rs2.toNat]

/-- The fields that Python accepts. -/
def pythonAccepts (opcode : BitVec 7) (funct3 : BitVec 3) (funct7 : BitVec 7) (rs2 : BitVec 5) :
    Bool :=
  Python.selects Python.Rv64i.hasCase (matched opcode funct3 funct7 rs2) Python.Rv64i.MNEMONICS

/-- The fields that Rust accepts. -/
def rustAccepts (opcode : BitVec 7) (funct3 : BitVec 3) (funct7 : BitVec 7) (rs2 : BitVec 5) :
    Bool :=
  match opcode with
  | 0x03#7 => funct3 ≠ 7
  | 0x23#7 => funct3 < 4
  | 0x37#7 | 0x17#7 | 0x6f#7 | 0x67#7 | 0x13#7 | 0x0f#7 => true
  | 0x63#7 => funct3 ≠ 2 ∧ funct3 ≠ 3
  | 0x1b#7 => funct3 = 0 ∨ funct3 = 1 ∨ funct3 = 5
  | 0x33#7 => (Execute.op funct3 funct7 0 0).isSome
  | 0x3b#7 => (Execute.op32 funct3 funct7 0 0).isSome
  | 0x73#7 => funct3 ≠ 4 ∧ (funct3 = 0 → funct7 = 0 ∧ rs2 = 0 ∨ funct7 = 8 ∧ (rs2 = 2 ∨ rs2 = 5) ∨
      funct7 = 9 ∨ funct7 = 0x18)
  | 0x2f#7 => funct3 = 2 ∧ funct7 >>> 2 = 1
  | _ => false

/-- The fields about which the decoders differ: Rust disregards `funct3` of JALR and of the
fences and part of `funct7` in the shifts by an immediate and in SLLW, and does not know the words
with the `funct3`, `funct7` and `rs2` of EBREAK. -/
def disputed (opcode : BitVec 7) (funct3 : BitVec 3) (funct7 : BitVec 7) (rs2 : BitVec 5) : Bool :=
  match opcode with
  | 0x67#7 => funct3 ≠ 0
  | 0x0f#7 => funct3 ≠ 0 ∧ funct3 ≠ 1
  | 0x13#7 => funct3 = 1 ∧ funct7 ∉ [0x00, 0x01] ∨ funct3 = 5 ∧ funct7 ∉ [0x00, 0x01, 0x20, 0x21]
  | 0x1b#7 => funct3 = 1 ∧ funct7 ≠ 0 ∨ funct3 = 5 ∧ funct7 ∉ [0x00, 0x20]
  | 0x3b#7 => funct3 = 1 ∧ funct7 ≠ 0
  | 0x73#7 => funct3 = 0 ∧ funct7 = 0 ∧ rs2 = 1
  | _ => false

/-- The opcodes with a dictionary of two levels. -/
def deep : List (BitVec 7) := [0x13, 0x1b, 0x2f, 0x33, 0x3b]

/-- The opcodes with a dictionary of one level at most. -/
def shallow : List (BitVec 7) := [0x03, 0x0f, 0x17, 0x23, 0x37, 0x63, 0x67, 0x6f]

theorem privileged_fields : ∀ (funct7 : BitVec 7) (rs2 : BitVec 5),
    (rustAccepts 0x73 0 funct7 rs2 == pythonAccepts 0x73 0 funct7 rs2) =
      !disputed 0x73 0 funct7 rs2 := by
  decide +kernel

theorem funct3_cases : ∀ funct3 : BitVec 3, funct3 = 0 ∨ funct3 = 1 ∨ funct3 = 2 ∨ funct3 = 3 ∨
    funct3 = 4 ∨ funct3 = 5 ∨ funct3 = 6 ∨ funct3 = 7 := by decide

/-- The CSR instructions have no further fields. -/
theorem csr_fields {funct3 : BitVec 3} (h : funct3 ≠ 0) (funct7 : BitVec 7) (rs2 : BitVec 5) :
    (rustAccepts 0x73 funct3 funct7 rs2 == pythonAccepts 0x73 funct3 funct7 rs2) =
      !disputed 0x73 funct3 funct7 rs2 := by
  obtain rfl | rfl | rfl | rfl | rfl | rfl | rfl | rfl := funct3_cases funct3
  · exact absurd rfl h
  all_goals rfl

theorem deep_fields : ∀ opcode ∈ deep, ∀ (funct3 : BitVec 3) (funct7 : BitVec 7),
    (rustAccepts opcode funct3 funct7 0 == pythonAccepts opcode funct3 funct7 0) =
      !disputed opcode funct3 funct7 0 := by
  decide +kernel

theorem shallow_fields : ∀ opcode ∈ shallow, ∀ funct3 : BitVec 3,
    (rustAccepts opcode funct3 0 0 == pythonAccepts opcode funct3 0 0) =
      !disputed opcode funct3 0 0 := by
  decide +kernel

/-- Below the opcodes other than `keys` only so many fields are looked up as there are levels. -/
theorem pythonAccepts_levels {keys : List (BitVec 7)} {depth : Nat}
    (hlevels : Python.Rv64i.MNEMONICS.all (fun entry =>
      (keys.any fun key => key.toNat == entry.1) || Python.plainBelow depth entry.2) = true)
    {opcode : BitVec 7} (h : opcode ∉ keys) (hamo : opcode ≠ 0x2f) {funct3 : BitVec 3}
    {funct7 funct7' : BitVec 7} {rs2 rs2' : BitVec 5}
    (hfields : [funct3.toNat, funct7.toNat, rs2.toNat].take (depth + 1) =
      [funct3.toNat, funct7'.toNat, rs2'.toNat].take (depth + 1)) :
    pythonAccepts opcode funct3 funct7 rs2 = pythonAccepts opcode funct3 funct7' rs2' := by
  unfold pythonAccepts matched
  rw [if_neg hamo, if_neg hamo, Python.selects, Python.selects]
  cases hlookup : Python.Rv64i.MNEMONICS.lookup opcode.toNat with
  | none => rfl
  | some entry =>
      have hentry := List.all_eq_true.mp hlevels _ (Python.mem_of_lookup hlookup)
      have hplain : Python.plainBelow depth entry = true := by
        refine (Bool.or_eq_true_iff.mp hentry).resolve_left fun hkey => ?_
        obtain ⟨key, hmem, heq⟩ := List.any_eq_true.mp hkey
        obtain rfl : key = opcode := BitVec.eq_of_toNat_eq (beq_iff_eq.mp heq)
        exact h hmem
      cases entry with
      | leaf mnemonic => rfl
      | choose f => rfl
      | dict below =>
          dsimp only
          rw [Python.selects_take _ hplain, hfields]
          exact (Python.selects_take _ hplain).symm

theorem deep_agree {opcode : BitVec 7} (h : opcode ∈ deep) (funct3 : BitVec 3)
    (funct7 : BitVec 7) (rs2 : BitVec 5) :
    (rustAccepts opcode funct3 funct7 rs2 == pythonAccepts opcode funct3 funct7 rs2) =
      !disputed opcode funct3 funct7 rs2 := by
  have hpython : pythonAccepts opcode funct3 funct7 rs2 = pythonAccepts opcode funct3 funct7 0 := by
    by_cases hamo : opcode = 0x2f
    · rw [hamo]
      rfl
    · have hkeys : opcode ∉ ([0x73] : List (BitVec 7)) := by
        intro hkey
        rw [List.mem_singleton.mp hkey] at h
        exact absurd h (by decide)
      exact @pythonAccepts_levels _ 1 (by decide) _ hkeys hamo _ _ _ _ _ rfl
  have hrust : rustAccepts opcode funct3 funct7 rs2 = rustAccepts opcode funct3 funct7 0 ∧
      disputed opcode funct3 funct7 rs2 = disputed opcode funct3 funct7 0 := by
    simp only [deep, List.mem_cons, List.not_mem_nil, or_false] at h
    obtain rfl | rfl | rfl | rfl | rfl := h
    all_goals exact ⟨rfl, rfl⟩
  rw [hpython, hrust.1, hrust.2]
  exact deep_fields opcode h funct3 funct7

theorem shallow_agree {opcode : BitVec 7} (h : opcode ∈ shallow) (funct3 : BitVec 3)
    (funct7 : BitVec 7) (rs2 : BitVec 5) :
    (rustAccepts opcode funct3 funct7 rs2 == pythonAccepts opcode funct3 funct7 rs2) =
      !disputed opcode funct3 funct7 rs2 := by
  have hpython : pythonAccepts opcode funct3 funct7 rs2 = pythonAccepts opcode funct3 0 0 := by
    have hkeys : ∀ opcode ∈ shallow, opcode ∉ 0x73#7 :: deep ∧ opcode ≠ 0x2f := by decide
    obtain ⟨hkey, hamo⟩ := hkeys opcode h
    exact @pythonAccepts_levels _ 0 (by decide) _ hkey hamo _ _ _ _ _ rfl
  have hrust : rustAccepts opcode funct3 funct7 rs2 = rustAccepts opcode funct3 0 0 ∧
      disputed opcode funct3 funct7 rs2 = disputed opcode funct3 0 0 := by
    simp only [shallow, List.mem_cons, List.not_mem_nil, or_false] at h
    obtain rfl | rfl | rfl | rfl | rfl | rfl | rfl | rfl := h
    all_goals exact ⟨rfl, rfl⟩
  rw [hpython, hrust.1, hrust.2]
  exact shallow_fields opcode h funct3

/-- No decoder knows another opcode. -/
theorem unknown_opcode {opcode : BitVec 7} (h : opcode ∉ 0x73#7 :: deep ++ shallow)
    (funct3 : BitVec 3) (funct7 : BitVec 7) (rs2 : BitVec 5) :
    rustAccepts opcode funct3 funct7 rs2 = false ∧
      pythonAccepts opcode funct3 funct7 rs2 = false ∧
        disputed opcode funct3 funct7 rs2 = false := by
  have hkeys : Python.Rv64i.MNEMONICS.all (fun entry =>
      (0x73#7 :: deep ++ shallow).any fun known => known.toNat == entry.1) = true := by decide
  have hlookup : Python.Rv64i.MNEMONICS.lookup opcode.toNat = none := by
    refine List.lookup_eq_none_iff.mpr fun entry hentry => ?_
    rw [bne_iff_ne]
    intro hkey
    obtain ⟨known, hknown, heq⟩ := List.any_eq_true.mp (List.all_eq_true.mp hkeys entry hentry)
    obtain rfl : opcode = known := BitVec.eq_of_toNat_eq (hkey.trans (beq_iff_eq.mp heq).symm)
    exact h hknown
  refine ⟨?_, ?_, ?_⟩
  · unfold rustAccepts
    split
    all_goals first
      | rfl
      | exact absurd (by decide) h
  · unfold pythonAccepts matched
    split
    · rw [Python.selects, hlookup]
    · rw [Python.selects, hlookup]
  · unfold disputed
    split
    all_goals first
      | rfl
      | exact absurd (by decide) h

/-- What is disputed is too much for Python under SYSTEM and too much for Rust elsewhere. -/
theorem rustAccepts_of_disputed {opcode : BitVec 7} {funct3 : BitVec 3} {funct7 : BitVec 7}
    {rs2 : BitVec 5} (h : disputed opcode funct3 funct7 rs2 = true) :
    rustAccepts opcode funct3 funct7 rs2 = decide (opcode ≠ 0x73) := by
  unfold disputed at h
  split at h
  · rfl
  · rfl
  · rfl
  · obtain ⟨rfl, -⟩ | ⟨rfl, -⟩ := of_decide_eq_true h
    · rfl
    · rfl
  · obtain ⟨rfl, -⟩ := of_decide_eq_true h
    rfl
  · obtain ⟨rfl, rfl, rfl⟩ := of_decide_eq_true h
    rfl
  · cases h

/-- The decoders accept the same fields but for the disputed ones. -/
theorem fields_agree (opcode : BitVec 7) (funct3 : BitVec 3) (funct7 : BitVec 7)
    (rs2 : BitVec 5) :
    (rustAccepts opcode funct3 funct7 rs2 == pythonAccepts opcode funct3 funct7 rs2) =
      !disputed opcode funct3 funct7 rs2 := by
  by_cases hsystem : opcode = 0x73
  · subst hsystem
    by_cases h3 : funct3 = 0
    · subst h3
      exact privileged_fields funct7 rs2
    · exact csr_fields h3 funct7 rs2
  by_cases hdeep : opcode ∈ deep
  · exact deep_agree hdeep funct3 funct7 rs2
  by_cases hshallow : opcode ∈ shallow
  · exact shallow_agree hshallow funct3 funct7 rs2
  have hunknown : opcode ∉ 0x73#7 :: deep ++ shallow := by
    rw [List.cons_append, List.mem_cons, List.mem_append]
    exact fun h => h.elim hsystem fun h => h.elim hdeep hshallow
  obtain ⟨hrust, hpython, hdisputed⟩ := unknown_opcode hunknown funct3 funct7 rs2
  rw [hrust, hpython, hdisputed]
  rfl

/-- The matchers read the fields of the word. -/
theorem matchers_eq (w : U32) :
    (Python.Rv64i.getMatchers w.toNat).map (fun field => field w.toNat) =
      matched (Instruction.new w).opcode (Instruction.new w).funct3 (Instruction.new w).funct7
        (Instruction.new w).rs2 := by
  have hamo : Python.Rv64i.opcode w.toNat = 0x2f ↔ (Instruction.new w).opcode = 0x2f := by
    rw [opcode_eq]
    exact ⟨fun h => BitVec.eq_of_toNat_eq h, fun h => by rw [h]; rfl⟩
  unfold Python.Rv64i.getMatchers matched
  by_cases h : (Instruction.new w).opcode = 0x2f
  · rw [if_pos (hamo.mpr h), if_pos h, ← opcode_eq, ← funct3_eq, ← funct7_eq]
    rfl
  · rw [if_neg (fun hop => h (hamo.mp hop)), if_neg h, ← opcode_eq, ← funct3_eq, ← funct7_eq,
      ← rs2_eq]
    rfl

/-- Python implements exactly the words whose fields it accepts. -/
theorem implements_iff (w : U32) :
    Python.Rv64i.Implements w.toNat ↔ pythonAccepts (Instruction.new w).opcode
      (Instruction.new w).funct3 (Instruction.new w).funct7 (Instruction.new w).rs2 = true := by
  have hplain : Python.plain 3 Python.Rv64i.MNEMONICS = true := by decide
  have hundefined : Python.Rv64i.hasCase .UNDEFINED = false := rfl
  have hselects := Python.lookupMnemonic_selects hundefined w.toNat
    (Python.Rv64i.getMatchers w.toNat) hplain
  rw [matchers_eq] at hselects
  rw [pythonAccepts, ← hselects, Option.any_eq_true]
  rfl

section Rust

open Exec Machine

/-- The run ends in the error for a word that is not implemented. -/
def Refuses {α : Type} (r : EStateM.Result Fault Machine α) : Prop :=
  ∃ e t, r = .error e t ∧ IsIllegal e

/-- `accepted` says whether the word is implemented, whatever the state of the machine is. -/
def Decides {α : Type} (accepted : Bool) (x : Call Machine α) : Prop :=
  ∀ m, Refuses (x m) ↔ accepted = false

namespace Decides

variable {α β : Type} {accepted : Bool} {x : Call Machine α}

theorem legal (h : Legal x) : Decides true x := by
  refine fun m => ⟨?_, fun hfalse => absurd hfalse.symm Bool.false_ne_true⟩
  rintro ⟨e, t, hx, he⟩
  exact absurd he (h m e t hx)

theorem illegal (instr : Instruction) :
    Decides false (Execute.illegalInstruction instr : Call Machine α) :=
  fun m => ⟨fun _ => rfl, fun _ => ⟨_, m, rfl, _, _, _, rfl⟩⟩

theorem bind {f : α → Call Machine β} (first : Decides accepted x) (rest : ∀ a, Legal (f a)) :
    Decides accepted (x >>= f) := by
  intro m
  rw [← first m]
  constructor
  · rintro ⟨e, t, h, he⟩
    obtain hx | ⟨a, s, -, hf⟩ := bind_eq_error.mp h
    · exact ⟨e, t, hx, he⟩
    · exact absurd he (rest a s e t hf)
  · rintro ⟨e, t, hx, he⟩
    exact ⟨e, t, bind_error hx f, he⟩

theorem get_bind {f : Machine → Call Machine β} (rest : ∀ m, Decides accepted (f m)) :
    Decides accepted (get >>= f) := fun m => rest m m

theorem readReg_bind {i : BitVec 5} {f : U64 → Call Machine β}
    (rest : ∀ value, Decides accepted (f value)) : Decides accepted (readReg i >>= f) :=
  fun m => rest (m.cpu.regs.read i) m

/-- A result where the source has a case for the word. -/
theorem ofOption {γ : Type} {out : Option γ} (instr : Instruction)
    (implemented : ∀ value, out = some value → Legal x)
    (unknown : out = none → x = Execute.illegalInstruction instr) : Decides out.isSome x := by
  cases h : out with
  | some value => exact .legal (implemented value h)
  | none =>
      rw [unknown h]
      exact .illegal instr

end Decides

variable [Host]

theorem decides_load (instr : Instruction) (addr : U64) :
    Decides (instr.funct3 ≠ 7) (Execute.load instr addr) := by
  have hread (size : U8) : Legal (Machine.read addr size) := Machine.legal_read _ _
  obtain h | h | h | h | h | h | h | h := funct3_cases instr.funct3
  all_goals
    rw [h]
    unfold Execute.load
    simp only [h]
  · exact .legal (.bind (hread 1) fun _ => .pure _)
  · exact .legal (.bind (hread 2) fun _ => .pure _)
  · exact .legal (.bind (hread 4) fun _ => .pure _)
  · exact .legal (hread 8)
  · exact .legal (hread 1)
  · exact .legal (hread 2)
  · exact .legal (hread 4)
  · exact .illegal instr

theorem decides_store (instr : Instruction) (addr value : U64) :
    Decides (instr.funct3 < 4) (Execute.store instr addr value) := by
  have hwrite (size : U8) : Legal (Machine.write addr size value) := Machine.legal_write _ _ _
  obtain h | h | h | h | h | h | h | h := funct3_cases instr.funct3
  all_goals
    rw [h]
    unfold Execute.store
    simp only [h]
  · exact .legal (hwrite 1)
  · exact .legal (hwrite 2)
  · exact .legal (hwrite 4)
  · exact .legal (hwrite 8)
  all_goals exact .illegal instr

omit [Host] in
theorem isSome_branchTaken (funct3 : BitVec 3) (a b : U64) :
    (Execute.branchTaken funct3 a b).isSome = decide (funct3 ≠ 2 ∧ funct3 ≠ 3) := by
  obtain rfl | rfl | rfl | rfl | rfl | rfl | rfl | rfl := funct3_cases funct3
  all_goals rfl

omit [Host] in
theorem isSome_opImm32 (instr : Instruction) (a : U32) : (Execute.opImm32 instr a).isSome =
    decide (instr.funct3 = 0 ∨ instr.funct3 = 1 ∨ instr.funct3 = 5) := by
  unfold Execute.opImm32
  obtain h | h | h | h | h | h | h | h := funct3_cases instr.funct3
  all_goals
    simp only [h]
    rfl

omit [Host] in
theorem isSome_op (funct3 : BitVec 3) (funct7 : BitVec 7) (a b : U64) :
    (Execute.op funct3 funct7 a b).isSome = (Execute.op funct3 funct7 0 0).isSome := by
  unfold Execute.op
  split
  all_goals simp only [Option.isSome_some]

omit [Host] in
theorem isSome_op32 (funct3 : BitVec 3) (funct7 : BitVec 7) (a b : U32) :
    (Execute.op32 funct3 funct7 a b).isSome = (Execute.op32 funct3 funct7 0 0).isSome := by
  unfold Execute.op32
  split
  all_goals simp only [Option.isSome_some]

theorem decides_privileged {instr : Instruction} (h : instr.funct3 = 0#3) (next : U64) :
    Decides (rustAccepts 0x73 0 instr.funct7 instr.rs2) (Execute.executeSystem instr next) := by
  unfold Execute.executeSystem
  simp only [h]
  refine .readReg_bind fun rs1Value => ?_
  split
  next h7 h2 =>
    rw [h7, h2]
    exact .legal (.bind .get fun m => .zoom (Trap.legal_raiseTrap _ _ _))
  next h7 h2 =>
    rw [h7, h2]
    exact .legal (.bind .get fun m => .bind (.modify _) fun _ => .bind .get fun _ => .pure _)
  next h7 h2 =>
    rw [h7, h2]
    exact .legal (.pure _)
  next h7 =>
    rw [h7]
    exact .legal (.bind (.modify _) fun _ => .pure _)
  next h7 =>
    rw [h7]
    exact .legal (.bind .get fun m => .bind (.modify _) fun _ => .bind .get fun _ => .pure _)
  next hfence hmret hecall hsret hwfi =>
    have hrejects : rustAccepts 0x73 0 instr.funct7 instr.rs2 = false := by
      refine decide_eq_false ?_
      rintro ⟨-, himp⟩
      obtain ⟨h7, h2⟩ | ⟨h7, h2 | h2⟩ | h7 | h7 := himp rfl
      · exact hecall h7 h2
      · exact hsret h7 h2
      · exact hwfi h7 h2
      · exact hfence h7
      · exact hmret h7
    rw [hrejects]
    exact .illegal instr

/-- The words of SYSTEM. -/
theorem decides_executeSystem (instr : Instruction) (next : U64) :
    Decides (rustAccepts 0x73 instr.funct3 instr.funct7 instr.rs2)
      (Execute.executeSystem instr next) := by
  have hcsr (update : (old : U64) → U64) :
      Legal (do Execute.csrAccess instr update; return next) :=
    .bind (.bind .get fun _ => .bind (.modify _) fun _ => .modify _) fun _ => .pure _
  obtain h | h | h | h | h | h | h | h := funct3_cases instr.funct3
  · rw [h]
    exact decides_privileged h next
  all_goals
    unfold Execute.executeSystem
    simp only [h]
    refine .readReg_bind fun rs1Value => ?_
  · exact .legal (hcsr _)
  · exact .legal (hcsr _)
  · exact .legal (hcsr _)
  · exact .illegal instr
  · exact .legal (hcsr _)
  · exact .legal (hcsr _)
  · exact .legal (hcsr _)

theorem decides_executeFrom (instr : Instruction) (next : U64) :
    Decides (rustAccepts instr.opcode instr.funct3 instr.funct7 instr.rs2)
      (Execute.executeFrom next instr) := by
  have hwrite (i : BitVec 5) (value next : U64) :
      Legal (do writeReg i value; return next : Call Machine U64) :=
    .bind (.modify _) fun _ => .pure _
  unfold Execute.executeFrom
  refine .get_bind fun m => .readReg_bind fun rs1 => .readReg_bind fun rs2 => ?_
  dsimp only
  split
  next h =>
    rw [h]
    exact .bind (decides_load instr _) fun value => hwrite _ value next
  next h =>
    rw [h]
    exact .bind (decides_store instr _ _) fun _ => .pure _
  next h =>
    rw [h]
    exact .legal (hwrite _ _ _)
  next h =>
    rw [h]
    exact .legal (hwrite _ _ _)
  next h =>
    rw [h]
    exact .legal (hwrite _ _ _)
  next h =>
    rw [h]
    exact .legal (hwrite _ _ _)
  next h =>
    rw [h]
    change Decides (decide (instr.funct3 ≠ 2 ∧ instr.funct3 ≠ 3)) _
    rw [← isSome_branchTaken _ rs1 rs2]
    refine .ofOption instr (fun taken htaken => ?_) fun hnone => ?_
    · rw [htaken]
      exact .pure _
    · rw [hnone]
  next h =>
    rw [h]
    exact .legal (hwrite _ _ _)
  next h =>
    rw [h]
    change Decides (decide (instr.funct3 = 0 ∨ instr.funct3 = 1 ∨ instr.funct3 = 5)) _
    rw [← isSome_opImm32 instr (rs1.setWidth 32)]
    refine .ofOption instr (fun out hout => ?_) fun hnone => ?_
    · rw [hout]
      exact hwrite _ _ _
    · rw [hnone]
  next h =>
    rw [h]
    change Decides (Execute.op instr.funct3 instr.funct7 0 0).isSome _
    rw [← isSome_op _ _ rs1 rs2]
    refine .ofOption instr (fun out hout => ?_) fun hnone => ?_
    · rw [hout]
      exact hwrite _ _ _
    · rw [hnone]
  next h =>
    rw [h]
    change Decides (Execute.op32 instr.funct3 instr.funct7 0 0).isSome _
    rw [← isSome_op32 _ _ (rs1.setWidth 32) (rs2.setWidth 32)]
    refine .ofOption instr (fun out hout => ?_) fun hnone => ?_
    · rw [hout]
      exact hwrite _ _ _
    · rw [hnone]
  next h =>
    rw [h]
    exact .legal (.pure _)
  next h =>
    rw [h]
    exact decides_executeSystem instr next
  next h =>
    rw [h]
    change Decides (decide (instr.funct3 = 2 ∧ instr.funct7 >>> 2 = 1)) _
    by_cases hswap : instr.funct3 = 0x2 ∧ instr.funct7 >>> 2 = 0b00001
    · rw [if_pos hswap, decide_eq_true hswap]
      refine .legal (.bind (Machine.legal_read _ _) fun _ => ?_)
      exact .bind (Machine.legal_write _ _ _) fun _ => hwrite _ _ _
    · rw [if_neg hswap, decide_eq_false hswap]
      exact .illegal instr
  next h0 h1 h2 h3 h4 h5 h6 h7 h8 h9 h10 h11 h12 h13 =>
    have hrejects : rustAccepts instr.opcode instr.funct3 instr.funct7 instr.rs2 = false := by
      unfold rustAccepts
      split
      all_goals first
        | rfl
        | contradiction
    rw [hrejects]
    exact .illegal instr

end Rust

/-- Rust runs into the word as into one that is not implemented. -/
def Rejects [Host] (w : U32) (m : Machine) : Prop := Refuses (Machine.execute (.new w) m)

/-- The decoders differ about the fields of the word. -/
def Disputed (w : U32) : Prop :=
  let instr := Instruction.new w
  disputed instr.opcode instr.funct3 instr.funct7 instr.rs2 = true

instance (w : U32) : Decidable (Disputed w) := inferInstanceAs (Decidable (_ = true))

/-- Rust rejects exactly the words whose fields it does not accept, on every machine. -/
theorem rejects_iff [Host] (w : U32) (m : Machine) :
    Rejects w m ↔ rustAccepts (Instruction.new w).opcode (Instruction.new w).funct3
      (Instruction.new w).funct7 (Instruction.new w).rs2 = false := by
  have hexecute : Decides _ (Execute.execute (.new w)) :=
    .get_bind fun m => decides_executeFrom (.new w) (m.cpu.pc + 4)
  exact (hexecute.bind fun _ => .modify _) m

/-- Rust implements the same words as Python but for the disputed ones. -/
theorem accept_alike_iff [Host] (w : U32) (m : Machine) :
    (¬Rejects w m ↔ Python.Rv64i.Implements w.toNat) ↔ ¬Disputed w := by
  have hagree := fields_agree (Instruction.new w).opcode (Instruction.new w).funct3
    (Instruction.new w).funct7 (Instruction.new w).rs2
  rw [rejects_iff, implements_iff, Bool.not_eq_false, ← Bool.eq_iff_iff, ← beq_iff_eq, hagree,
    Bool.not_eq_true', ← Bool.not_eq_true]
  rfl

/-- A JALR with a reserved `funct3` runs on Rust and is unknown to Python. -/
theorem reserved_jalr : ∃ (w : U32) (m : Machine), w.setWidth 2 = 0b11#2 ∧ w ≠ 0x00100073 ∧
    ¬(¬@Rejects .dev w m ↔ Python.Rv64i.Implements w.toNat) := by
  refine ⟨0x00001067, ⟨Cpu.new 0, .new .detached⟩, by decide, by decide, ?_⟩
  rw [@rejects_iff .dev, implements_iff]
  decide

end Decoders

end Riscvm
