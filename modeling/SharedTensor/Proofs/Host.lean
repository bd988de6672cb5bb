import Mathlib.Algebra.Group.Nat.Defs
import Mathlib.Tactic.SplitIfs
import SharedTensor.Store.Create

/-!
# Fresh memory

A fresh block lies at a multiple of its alignment, below the limit of all addresses and not at the
null address (`Store.freshBlock_spec`), and its bytes are zero (`Store.fresh_of_freshBlock`). It is
charged to the pool with all of them (`HostAllocator.pool_eq_of_allocate`), and a block is refused for
its layout or for want of room (`HostAllocator.allocate_eq_error`).
-/

namespace SharedTensor

/-! ## Alignment -/

theorem dvd_roundUp (n alignment : Nat) : alignment ∣ roundUp n alignment :=
  Nat.dvd_mul_left _ _

theorem le_roundUp (n : Nat) {alignment : Nat} (pos : 0 < alignment) : n ≤ roundUp n alignment := by
  have quotient := Nat.div_add_mod (n + alignment - 1) alignment
  have rest := Nat.mod_lt (n + alignment - 1) pos
  rw [roundUp, Nat.mul_comm]
  omega

theorem isPowerOfTwo_iff {n : Nat} : isPowerOfTwo n ↔ n.isPowerOfTwo := by
  rw [isPowerOfTwo, decide_eq_true_iff, Nat.one_shiftLeft]
  constructor
  · exact fun power => ⟨_, power.symm⟩
  · rintro ⟨k, rfl⟩
    rw [Nat.log2_two_pow]

theorem dvd_of_isPowerOfTwo {m n : Nat} (hm : m.isPowerOfTwo) (hn : n.isPowerOfTwo) (le : m ≤ n) :
    m ∣ n := by
  obtain ⟨i, rfl⟩ := hm
  obtain ⟨j, rfl⟩ := hn
  exact Nat.pow_dvd_pow 2 ((Nat.pow_le_pow_iff_right (by decide)).1 le)

/-- The larger one of two powers of two is a power of two and a multiple of both. -/
theorem isPowerOfTwo_max {m n : Nat} (hm : m.isPowerOfTwo) (hn : n.isPowerOfTwo) :
    (max m n).isPowerOfTwo ∧ m ∣ max m n ∧ n ∣ max m n := by
  rcases Nat.le_total m n with le | le
  · rw [Nat.max_eq_right le]
    exact ⟨hn, dvd_of_isPowerOfTwo hm hn le, Nat.dvd_refl n⟩
  · rw [Nat.max_eq_left le]
    exact ⟨hm, Nat.dvd_refl m, dvd_of_isPowerOfTwo hn hm le⟩

namespace Device

theorem isPowerOfTwo_alignment (device : Device) : device.alignment.isPowerOfTwo := by
  unfold alignment
  split
  · exact ⟨6, rfl⟩
  · exact ⟨8, rfl⟩

/-- Every device likes at least the alignment of a cache line. -/
theorem line_dvd_alignment (device : Device) : 64 ∣ device.alignment := by
  unfold alignment
  split <;> decide

/-- Whatever larger power of two is asked for, memory is aligned to a cache line. -/
theorem line_dvd_max_alignment (device : Device) {alignment : Nat} (h : isPowerOfTwo alignment) :
    64 ∣ max alignment device.alignment :=
  Nat.dvd_trans device.line_dvd_alignment
    (isPowerOfTwo_max (isPowerOfTwo_iff.1 h) device.isPowerOfTwo_alignment).2.2

end Device

namespace Host

variable {h h' : Host} {size alignment : Nat} {b : Block}

theorem place_eq_some (placed : h.place size alignment = some (b, h')) :
    b = ⟨roundUp h.frontier alignment, size⟩ ∧ b.start + size ≤ addressLimit ∧
      h' = { h with frontier := b.start + max size 1 } := by
  unfold place at placed
  simp only [Option.ite_none_right_eq_some, Option.some.injEq, Prod.mk.injEq] at placed
  obtain ⟨bound, rfl, rfl⟩ := placed
  exact ⟨rfl, bound, rfl⟩

theorem frontier_pos_of_place (placed : h.place size alignment = some (b, h')) :
    0 < h'.frontier := by
  obtain ⟨-, -, rfl⟩ := place_eq_some placed
  have : 1 ≤ max size 1 := Nat.le_max_right _ _
  change 0 < b.start + max size 1
  omega

end Host

namespace HostAllocator

variable {a : HostAllocator} {h h' : Host} {size : Nat} {b : Block} {f : Fault}

/-- Nothing is handed out for no bytes. Other blocks are placed, cleared and charged to the pool. -/
theorem allocate_cases (ok : a.allocate h size = .ok (b, h')) :
    size = 0 ∧ b = .none ∧ h' = h ∨
      0 < size ∧ ∃ placed, h.place size a.alignment = some (b, placed) ∧
        h' = { placed with
          memory := placed.memory.clear b.start size
          pool := placed.pool.charge size } := by
  unfold allocate at ok
  split at ok
  · next zero =>
    cases ok
    exact .inl ⟨zero, rfl, rfl⟩
  · next pos =>
    split at ok
    · cases ok
    · split at ok
      · cases ok
      · next b' placed found =>
        cases ok
        exact .inr ⟨Nat.pos_of_ne_zero pos, placed, found, rfl⟩

/-- Nothing is handed out for no bytes; other blocks come from the frontier on. -/
theorem allocate_eq_ok (ok : a.allocate h size = .ok (b, h')) :
    b.size = size ∧
      (size = 0 ∧ b = .none ∧ h' = h ∨
        0 < size ∧ b.start = roundUp h.frontier a.alignment ∧ b.start + size ≤ addressLimit ∧
          0 < h'.frontier) := by
  rcases allocate_cases ok with ⟨rfl, rfl, rfl⟩ | ⟨pos, placed, found, rfl⟩
  · exact ⟨rfl, .inl ⟨rfl, rfl, rfl⟩⟩
  · have frontier := Host.frontier_pos_of_place found
    obtain ⟨rfl, bound, -⟩ := Host.place_eq_some found
    exact ⟨rfl, .inr ⟨pos, rfl, bound, frontier⟩⟩

/-- A buffer is charged to the pool with all its bytes; one without bytes is no charge. -/
theorem pool_eq_of_allocate (ok : a.allocate h size = .ok (b, h')) :
    h'.pool = if size = 0 then h.pool else h.pool.charge size := by
  rcases allocate_cases ok with ⟨zero, -, rfl⟩ | ⟨pos, placed, found, rfl⟩
  · exact (if_pos zero).symm
  · obtain ⟨-, -, rfl⟩ := Host.place_eq_some found
    exact (if_neg (Nat.ne_of_gt pos)).symm

/-- A block is handed out with all its bytes zero. -/
theorem byte_of_allocate (ok : a.allocate h size = .ok (b, h')) {address : Nat}
    (start : b.start ≤ address) (stop : address < b.start + b.size) :
    h'.memory.byte address = 0 := by
  rcases allocate_cases ok with ⟨-, rfl, -⟩ | ⟨-, placed, found, rfl⟩
  · cases stop
  · obtain ⟨rfl, -, -⟩ := Host.place_eq_some found
    exact if_pos ⟨start, stop⟩

/-- What lies outside of a block that is handed out stays as it is. -/
theorem byte_of_outside (ok : a.allocate h size = .ok (b, h')) {address : Nat}
    (outside : address < b.start ∨ b.start + b.size ≤ address) :
    h'.memory.byte address = h.memory.byte address := by
  rcases allocate_cases ok with ⟨-, -, rfl⟩ | ⟨-, placed, found, rfl⟩
  · rfl
  · obtain ⟨rfl, -, rfl⟩ := Host.place_eq_some found
    refine if_neg fun inside => ?_
    rcases outside with before | behind
    · exact absurd inside.1 (Nat.not_le.2 before)
    · exact absurd inside.2 (Nat.not_lt.2 behind)

/-- A buffer is refused for its layout or by the system, and only if it has bytes. -/
theorem allocate_eq_error :
    a.allocate h size = .error f ↔
      0 < size ∧
        (1 <<< 63 < size + a.alignment ∧ f = .invalidBlock ∨
          size + a.alignment ≤ 1 <<< 63 ∧ h.place size a.alignment = none ∧
            f = .outOfMemory size 0 "host tensor allocation") := by
  unfold allocate
  split_ifs with zero layout
  · simp only [zero, Nat.lt_irrefl, false_and]
  · have pos := Nat.pos_of_ne_zero zero
    simp only [Except.error.injEq, pos, layout, true_and, Nat.not_le.2 layout, false_and, or_false,
      eq_comm]
  · have pos := Nat.pos_of_ne_zero zero
    have fits := Nat.not_lt.1 layout
    cases h.place size a.alignment with
    | none =>
      simp only [Except.error.injEq, pos, layout, true_and, fits, false_and, false_or, eq_comm]
    | some found => simp only [reduceCtorEq, layout, false_and, and_false, or_false]

theorem make_eq_ok {device : Device} {alignment : Nat} (ok : make device alignment = .ok a) :
    device.isHostAccessible ∧ isPowerOfTwo alignment ∧
      a.alignment = max alignment device.alignment := by
  unfold make at ok
  split at ok
  · cases ok
  · next reach =>
    split at ok
    · cases ok
    · next power =>
      cases ok
      exact ⟨by simpa using reach, by simpa using power, rfl⟩

end HostAllocator

/-- What is known of a block that has just been handed out: where it lies, and that it is zero in
memory. -/
structure Block.Fresh (b : Block) (m : Memory) : Prop where
  aligned : 64 ∣ b.start
  bound : b.start + b.size ≤ addressLimit
  start : 0 < b.size → 0 < b.start
  zero : ∀ address, b.start ≤ address → address < b.start + b.size → m.byte address = 0

/-- The start of a block is an address. -/
theorem Pointer.toNat_toStart {b : Block} (bound : b.start + b.size ≤ addressLimit) :
    (Pointer.toStart b).address.toNat = b.start := by
  have small : addressLimit < UInt64.size := by decide
  rw [toStart, UInt64.toNat_ofNat_of_lt']
  omega

theorem Pointer.isNull_toStart_iff {b : Block} (bound : b.start + b.size ≤ addressLimit) :
    (Pointer.toStart b).isNull ↔ b.start = 0 := by
  rw [isNull, decide_eq_true_iff, ← UInt64.toNat_inj, toNat_toStart bound]
  rfl

namespace Store

variable {s : Store} {c : Config} {d : Descriptor} {block : Block} {host : Host}

/-- A fresh block is handed out by an allocator for the device, once its size has been found. -/
theorem freshBlock_eq_ok_iff :
    s.freshBlock c d = .ok (block, host) ↔
      d.bufferSize = .ok block.size ∧ ∃ a,
        HostAllocator.make d.device c.storage.hostAlignment.toNat = .ok a ∧
          a.allocate s.host block.size = .ok (block, host) := by
  constructor
  · intro ok
    unfold freshBlock at ok
    split at ok
    · cases ok
    · next size sized =>
      split at ok
      · cases ok
      · next a made =>
        obtain ⟨rfl, -⟩ := HostAllocator.allocate_eq_ok ok
        exact ⟨sized, a, made, ok⟩
  · rintro ⟨sized, a, made, ok⟩
    rw [freshBlock, sized]
    simp only [made, ok]

/-- **A fresh block** is of the size that the descriptor asks for. Unless it is empty, it lies at a
multiple of the alignment of the device, below the limit of addresses. -/
theorem freshBlock_spec (ok : s.freshBlock c d = .ok (block, host)) :
    d.bufferSize = .ok block.size ∧
      (block.size = 0 ∧ block = .none ∧ host = s.host ∨
        0 < block.size ∧
          (∃ alignment, isPowerOfTwo alignment ∧
            block.start = roundUp s.host.frontier (max alignment d.device.alignment)) ∧
          block.start + block.size ≤ addressLimit ∧ 0 < host.frontier) := by
  obtain ⟨sized, a, made, allocated⟩ := freshBlock_eq_ok_iff.1 ok
  obtain ⟨-, power, alignment⟩ := HostAllocator.make_eq_ok made
  obtain ⟨-, empty | ⟨pos, start, bound, frontier⟩⟩ := HostAllocator.allocate_eq_ok allocated
  · exact ⟨sized, .inl empty⟩
  · exact ⟨sized, .inr ⟨pos, ⟨_, power, alignment ▸ start⟩, bound, frontier⟩⟩

theorem frontier_pos_of_freshBlock (ok : s.freshBlock c d = .ok (block, host))
    (pos : 0 < s.host.frontier) : 0 < host.frontier := by
  rcases (freshBlock_spec ok).2 with ⟨-, -, rfl⟩ | ⟨-, -, -, frontier⟩
  · exact pos
  · exact frontier

/-- Memory is only handed out for a device in reach of the host. -/
theorem isHostAccessible_of_freshBlock (ok : s.freshBlock c d = .ok (block, host)) :
    d.device.isHostAccessible := by
  obtain ⟨-, a, made, -⟩ := freshBlock_eq_ok_iff.1 ok
  exact (HostAllocator.make_eq_ok made).1

/-- **A fresh block is aligned to a cache line, below the limit of addresses and zero.** Unless it
is empty, it does not lie at the null address. -/
theorem fresh_of_freshBlock (ok : s.freshBlock c d = .ok (block, host))
    (pos : 0 < s.host.frontier) : block.Fresh host.memory where
  aligned := by
    rcases (freshBlock_spec ok).2 with ⟨-, rfl, -⟩ | ⟨-, ⟨alignment, power, start⟩, -⟩
    · exact Nat.dvd_zero _
    · exact start ▸ Nat.dvd_trans (d.device.line_dvd_max_alignment power) (dvd_roundUp _ _)
  bound := by
    rcases (freshBlock_spec ok).2 with ⟨-, rfl, -⟩ | ⟨-, -, bound, -⟩
    · exact Nat.zero_le _
    · exact bound
  start filled := by
    rcases (freshBlock_spec ok).2 with ⟨empty, -⟩ | ⟨-, ⟨alignment, power, start⟩, -⟩
    · exact absurd empty (Nat.ne_of_gt filled)
    · -- the block does not begin before the frontier
      have wide : 0 < max alignment d.device.alignment :=
        Nat.lt_of_lt_of_le (Nat.pos_of_isPowerOfTwo (isPowerOfTwo_iff.1 power))
          (Nat.le_max_left _ _)
      exact start ▸ Nat.lt_of_lt_of_le pos (le_roundUp _ wide)
  zero address start stop := by
    obtain ⟨-, a, -, allocated⟩ := freshBlock_eq_ok_iff.1 ok
    exact HostAllocator.byte_of_allocate allocated start stop

end Store

end SharedTensor
