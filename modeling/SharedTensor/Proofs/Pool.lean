import Mathlib.Algebra.BigOperators.Group.Multiset.Basic
import Mathlib.Order.Bounds.Basic
import SharedTensor.Host.Holdings
import SharedTensor.Proofs.Host
import SharedTensor.Proofs.Slots

/-!
# The account of a pool

Whoever holds memory of a pool took it as a guard over so many bytes or as a buffer of an allocator,
and may let go of it at any time (`Tenant.Move`). What the system does with its memory meanwhile is
its own affair, so it may grant or refuse any buffer. A move takes something, gives something back,
or does neither (`Settled.turn_step`), which keeps the account: the bytes in use are those of what
is held, and the peak is raised where they pass it (`Settled.step`, `Settled.peak_step`). So after
any moves the bytes in use are the total of what is held, and the peak is the most there ever were
(`accounts_run`).

Clients that hold memory under names make such moves (`Holdings.exists_run_eq`).
-/

namespace SharedTensor

/-! ## Charges -/

/-- No bytes are no charge. -/
theorem Pool.charge_zero {p : Pool} (h : p.allocated ≤ p.peak) : p.charge 0 = p := by
  rw [charge, Nat.add_zero, Nat.max_eq_left h]

/-! ## Tenants -/

/-- Host memory, and all that is held of it. -/
structure Tenant where
  host : Host := {}
  held : Multiset Holding := 0

namespace Tenant

/-- What can happen to the memory of a pool. -/
inductive Move
  /-- Bytes are taken into use. -/
  | reserve (size : Nat)
  /-- A buffer is asked for. -/
  | allocate (allocator : HostAllocator) (size : Nat)
  /-- Something held is let go of. -/
  | free (holding : Holding)
  /-- The system changes what is in memory and how much of it has been handed out. -/
  | system (memory : Memory) (frontier : Nat)

/-- One move. A request that is refused, and letting go of what is not held, come to nothing. -/
def step (t : Tenant) : Move → Tenant
  | .reserve size =>
    { host := { t.host with pool := t.host.pool.charge size }, held := .guard size ::ₘ t.held }
  | .allocate allocator size =>
    match allocator.allocate t.host size with
    | .error _ => t
    | .ok (b, host) => { host, held := .buffer b ::ₘ t.held }
  | .free holding =>
    if holding ∈ t.held then
      { host := Holdings.letGo t.host (some holding), held := t.held.erase holding }
    else t
  | .system memory frontier => { t with host := { t.host with memory, frontier } }

/-- One move after the other. -/
def run (t : Tenant) (moves : List Move) : Tenant :=
  moves.foldl step t

/-- A fresh pool over the given memory, of which nothing is held. -/
def opened (memory : Memory) (frontier : Nat) : Tenant := { host := { memory, frontier } }

/-- The bytes of all guards and all buffers that are held. -/
def inUse (t : Tenant) : Nat :=
  (t.held.map Holding.size).sum

variable {t : Tenant} {holding : Holding}

theorem run_concat (t : Tenant) (moves : List Move) (m : Move) :
    t.run (moves ++ [m]) = (t.run moves).step m := by
  rw [run, List.foldl_append]
  rfl

theorem inUse_cons (host : Host) (holding : Holding) (held : Multiset Holding) :
    inUse ⟨host, holding ::ₘ held⟩ = holding.size + inUse ⟨host, held⟩ := by
  rw [inUse, Multiset.map_cons, Multiset.sum_cons]
  rfl

theorem inUse_erase (host : Host) (held : holding ∈ t.held) :
    inUse ⟨host, t.held.erase holding⟩ + holding.size = t.inUse := by
  rw [Nat.add_comm, ← inUse_cons, Multiset.cons_erase held]
  rfl

/-! ## One move -/

/-- The account of the pool is that of what is held. -/
structure Settled (t : Tenant) : Prop where
  allocated : t.host.pool.allocated = t.inUse
  le_peak : t.host.pool.allocated ≤ t.host.pool.peak

theorem settled_opened (memory : Memory) (frontier : Nat) : Settled (opened memory frontier) :=
  ⟨rfl, le_rfl⟩

/-- What is held can be given back: the pool has that many bytes in use. -/
theorem Settled.size_le (h : Settled t) (held : holding ∈ t.held) :
    holding.size ≤ t.host.pool.allocated := by
  rw [h.allocated, ← inUse_erase t.host held]
  exact Nat.le_add_left _ _

theorem pool_letGo (host : Host) (holding : Holding) :
    (Holdings.letGo host (some holding)).pool = host.pool.refund holding.size := by
  cases holding <;> rfl

/-- What a settled tenant is granted is charged, whether it has bytes or not. -/
theorem Settled.pool_allocate (h : Settled t) {a : HostAllocator} {size : Nat} {b : Block}
    {host : Host} (ok : a.allocate t.host size = .ok (b, host)) :
    host.pool = t.host.pool.charge (Holding.buffer b).size := by
  rw [HostAllocator.pool_eq_of_allocate ok, Holding.size, (HostAllocator.allocate_eq_ok ok).1]
  split_ifs with zero
  · rw [zero, Pool.charge_zero h.le_peak]
  · rfl

/-- What a move comes to: something is taken and charged, something is given back, or neither. -/
inductive Turn (t : Tenant) : Tenant → Prop
  | takes {host : Host} {new : Holding} (charged : host.pool = t.host.pool.charge new.size) :
    Turn t ⟨host, new ::ₘ t.held⟩
  | frees {holding : Holding} (held : holding ∈ t.held) :
    Turn t ⟨Holdings.letGo t.host (some holding), t.held.erase holding⟩
  | keeps {host : Host} (same : host.pool = t.host.pool) : Turn t ⟨host, t.held⟩

theorem Settled.turn_step (h : Settled t) (m : Move) : Turn t (t.step m) := by
  cases m with
  | reserve size => exact .takes rfl
  | allocate a size =>
    rw [Tenant.step]
    split
    · exact .keeps rfl
    · next ok => exact .takes (h.pool_allocate ok)
  | free holding =>
    rw [Tenant.step]
    split
    · next held => exact .frees held
    · exact .keeps rfl
  | system memory frontier => exact .keeps rfl

theorem Turn.settled {t' : Tenant} (turn : Turn t t') (h : Settled t) : Settled t' := by
  cases turn with
  | takes charged =>
    constructor
    · rw [inUse_cons, charged, Pool.charge, h.allocated, Nat.add_comm]
      rfl
    · rw [charged]
      exact Nat.le_max_right _ _
  | @frees holding held =>
    have rest := inUse_erase (Holdings.letGo t.host (some holding)) held
    constructor
    · rw [pool_letGo, Pool.refund, h.allocated, ← rest, Nat.add_sub_cancel]
    · rw [pool_letGo]
      exact (Nat.sub_le _ _).trans h.le_peak
  | keeps same =>
    constructor
    · rw [same]
      exact h.allocated
    · rw [same]
      exact h.le_peak

theorem Turn.peak_eq {t' : Tenant} (turn : Turn t t') (h : Settled t) :
    t'.host.pool.peak = max t'.host.pool.allocated t.host.pool.peak := by
  cases turn with
  | takes charged =>
    rw [charged]
    exact Nat.max_comm _ _
  | frees held =>
    rw [pool_letGo]
    exact (Nat.max_eq_right ((Nat.sub_le _ _).trans h.le_peak)).symm
  | keeps same =>
    rw [same]
    exact (Nat.max_eq_right h.le_peak).symm

/-- **A move keeps the account.** -/
theorem Settled.step (h : Settled t) (m : Move) : Settled (t.step m) :=
  (h.turn_step m).settled h

/-- **A move raises the peak to the bytes in use if these pass it**, and else leaves it. -/
theorem Settled.peak_step (h : Settled t) (m : Move) :
    (t.step m).host.pool.peak = max (t.step m).host.pool.allocated t.host.pool.peak :=
  (h.turn_step m).peak_eq h

/-- A buffer that has no bytes, no layout or no room is no charge. -/
theorem pool_step_of_idle {a : HostAllocator} {size : Nat}
    (idle : size = 0 ∨ 1 <<< 63 < size + a.alignment ∨ t.host.place size a.alignment = none) :
    (t.step (.allocate a size)).host.pool = t.host.pool := by
  rcases Nat.eq_zero_or_pos size with rfl | pos
  · rfl
  · have refused : ∃ f, a.allocate t.host size = .error f := by
      simp only [HostAllocator.allocate_eq_error]
      rcases Nat.lt_or_ge (1 <<< 63) (size + a.alignment) with layout | fits
      · exact ⟨_, pos, .inl ⟨layout, rfl⟩⟩
      · have room := (idle.resolve_left pos.ne').resolve_left (Nat.not_lt.2 fits)
        exact ⟨_, pos, .inr ⟨fits, room, rfl⟩⟩
    obtain ⟨f, refused⟩ := refused
    rw [Tenant.step, refused]

/-! ## All moves -/

theorem Settled.run (h : Settled t) (moves : List Move) : Settled (t.run moves) := by
  induction moves using List.reverseRecOn with
  | nil => exact h
  | append_singleton moves m ih => exact run_concat t moves m ▸ ih.step m

/-- The numbers of bytes in use before the first move and after every move. -/
def levels (t : Tenant) (moves : List Move) : Set Nat :=
  {n | ∃ before, before <+: moves ∧ (t.run before).host.pool.allocated = n}

theorem levels_nil (t : Tenant) : t.levels [] = {t.host.pool.allocated} := by
  ext n
  simp only [levels, Set.mem_ofPred_eq, List.prefix_nil, exists_eq_left, Set.mem_singleton_iff,
    eq_comm]
  rfl

theorem levels_concat (t : Tenant) (moves : List Move) (m : Move) :
    t.levels (moves ++ [m]) =
      insert (t.run (moves ++ [m])).host.pool.allocated (t.levels moves) := by
  ext n
  simp only [levels, Set.mem_ofPred_eq, List.prefix_concat_iff, or_and_right, exists_or,
    exists_eq_left, Set.mem_insert_iff, eq_comm]

/-- The peak is the most bytes there ever were in use. -/
theorem isGreatest_peak (memory : Memory) (frontier : Nat) (moves : List Move) :
    IsGreatest ((opened memory frontier).levels moves)
      ((opened memory frontier).run moves).host.pool.peak := by
  induction moves using List.reverseRecOn with
  | nil =>
    rw [levels_nil]
    exact isGreatest_singleton
  | append_singleton moves m ih =>
    have settled := (settled_opened memory frontier).run moves
    rw [levels_concat, run_concat, settled.peak_step m]
    exact ih.insert _

/-- **The account of a pool.** After any moves the bytes in use are those of the guards and buffers
that are held, and the peak is the most there ever were. Nothing held is larger than what is in use,
so giving it back never runs below zero. Requests for no bytes, and those for buffers that have no
layout or that the system has no room for, leave the account as it is. As long as all that is held
comes to a machine word, so do both numbers. -/
theorem accounts_run (memory : Memory) (frontier : Nat) (moves : List Move)
    (fits : ∀ before, before <+: moves → ((opened memory frontier).run before).inUse < wordCount) :
    let t := (opened memory frontier).run moves
    t.host.pool.allocated = t.inUse ∧
      IsGreatest ((opened memory frontier).levels moves) t.host.pool.peak ∧
      (t.host.pool.allocated < wordCount ∧ t.host.pool.peak < wordCount) ∧
      (∀ holding ∈ t.held, holding.size ≤ t.host.pool.allocated) ∧
      (t.step (.reserve 0)).host.pool = t.host.pool ∧
      ∀ a size, size = 0 ∨ 1 <<< 63 < size + a.alignment ∨ t.host.place size a.alignment = none →
        (t.step (.allocate a size)).host.pool = t.host.pool := by
  have settled := (settled_opened memory frontier).run moves
  have greatest := isGreatest_peak memory frontier moves
  refine ⟨settled.allocated, greatest, ⟨?_, ?_⟩, fun _ => settled.size_le,
    Pool.charge_zero settled.le_peak, fun _ _ => pool_step_of_idle⟩
  · rw [settled.allocated]
    exact fits moves (List.prefix_refl moves)
  · obtain ⟨before, isPrefix, level⟩ := greatest.1
    rw [← level, ((settled_opened memory frontier).run before).allocated]
    exact fits before isPrefix

/-- A guard and a buffer, two refused buffers, and the guard let go of. -/
theorem accounts_run_refused :
    let moves : List Move := [.reserve 100, .allocate ⟨64⟩ 28, .allocate ⟨64⟩ (1 <<< 63),
      .system .zero addressLimit, .allocate ⟨64⟩ 8, .free (.guard 100)]
    let t := (opened .zero 64).run moves
    (∀ before, before <+: moves → ((opened .zero 64).run before).inUse < wordCount) ∧
      t.host.pool.allocated = 28 ∧ t.host.pool.peak = 128 ∧
      t.held = {.buffer ⟨64, 28⟩} := by
  intro moves t
  have fits : ∀ before, before <+: moves →
      ((opened .zero 64).run before).inUse < wordCount := by
    simp only [← List.mem_inits]
    decide +kernel
  have account := accounts_run .zero 64 moves fits
  have held : t.held = {.buffer ⟨64, 28⟩} := by decide +kernel
  have allocated : t.host.pool.allocated = 28 := by
    rw [account.1, inUse, held]
    rfl
  exact ⟨fits, allocated, by decide +kernel, held⟩

end Tenant

/-! ## Holding under names -/

namespace Holdings

variable {s : Holdings}

/-- What is held, without the names. -/
def tenant (s : Holdings) : Tenant := ⟨s.host, s.held.values⟩

/-- One step after the other. -/
def run (s : Holdings) (steps : List Step) : Holdings :=
  steps.foldl (fun s m => (s.step m).2) s

/-- To take something under a name is to take it and then to let go of what was there. -/
theorem tenant_take (sorted : s.held.Sorted) (host : Host) (name : String) (new : Holding) :
    (s.take host name new).tenant =
      Tenant.run ⟨host, new ::ₘ s.held.values⟩ ((s.held.get? name).toList.map .free) := by
  cases found : s.held.get? name with
  | none =>
    simp only [tenant, take, found, letGo, Slots.coe_values_set_of_none found]
    rfl
  | some old =>
    have values : old ::ₘ ((s.held.set name new).values : Multiset Holding) =
        new ::ₘ s.held.values := Slots.cons_values_set sorted found
    have mem : old ∈ new ::ₘ (s.held.values : Multiset Holding) :=
      values ▸ Multiset.mem_cons_self _ _
    have rest : ((s.held.set name new).values : Multiset Holding) =
        (new ::ₘ (s.held.values : Multiset Holding)).erase old := by
      rw [← values, Multiset.erase_cons_head]
    change Tenant.mk _ _ = Tenant.step _ (.free old)
    rw [Tenant.step, if_pos mem, take, found, rest]

/-- A step comes to moves. -/
theorem exists_moves (sorted : s.held.Sorted) (m : Step) :
    (s.step m).2.held.Sorted ∧ ∃ moves, (s.step m).2.tenant = s.tenant.run moves := by
  cases m with
  | reserve name size =>
    exact ⟨sorted.set name _, .reserve size :: (s.held.get? name).toList.map .free,
      tenant_take sorted _ _ _⟩
  | allocate a name size =>
    rw [step]
    split
    · exact ⟨sorted, [], rfl⟩
    · next b host ok =>
      refine ⟨sorted.set name _, .allocate a size :: (s.held.get? name).toList.map .free, ?_⟩
      rw [tenant_take sorted, Tenant.run, Tenant.run, List.foldl_cons, Tenant.step, tenant, ok]
  | free name =>
    rw [step]
    split
    · exact ⟨sorted, [], rfl⟩
    · next old found =>
      refine ⟨sorted.erase name, [.free old], ?_⟩
      have mem := Slots.mem_values_of_get? sorted found
      change Tenant.mk _ _ = Tenant.step _ (.free old)
      rw [Tenant.step, tenant, if_pos mem, Slots.coe_values_erase sorted found]

/-- **Holding under names is holding.** All steps together come to moves of a tenant, so that what
is true of these is true of clients that hold memory under names. -/
theorem exists_run_eq (sorted : s.held.Sorted) (steps : List Step) :
    ∃ moves, (s.run steps).tenant = s.tenant.run moves := by
  induction steps generalizing s with
  | nil => exact ⟨[], rfl⟩
  | cons m steps ih =>
    obtain ⟨kept, first, hfirst⟩ := exists_moves sorted m
    obtain ⟨rest, hrest⟩ := ih kept
    refine ⟨first ++ rest, ?_⟩
    rw [run, List.foldl_cons, ← run, hrest, hfirst, Tenant.run, Tenant.run, Tenant.run,
      List.foldl_append]

end Holdings

end SharedTensor
