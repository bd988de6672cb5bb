import SharedTensor.Disk

/-!
# What a file keeps

What has been written to a path is read from it (`read_write`), and is still read as long as nobody
changes the file or a folder on the way to it (`KeepsAlong`, `read_of_keepsAlong`), whatever happens to
the rest of the disk and to the times of modification. A walk goes through folders only, so it goes the
same way on two disks that have these folders in common (`walk_of_folders`). Nothing depends on the
present time (`find_of_nodes`).
-/

namespace SharedTensor.Disk

variable {d later : Disk} {place goal : Place} {path : String} {names : List String}

/-- What a place holds. -/
def content? (d : Disk) (place : Place) : Option Content :=
  (d.node? place).map (·.content)

/-- The places that a walk comes to: where it begins, and where each of its steps leads. -/
def way (d : Disk) (place : Place) : List String → List Place
  | [] => [place]
  | s :: r =>
    place :: match d.step place s with
      | .ok next => d.way next r
      | .error _ => []

/-- Everything on the way along a path, and at its end, holds on a later disk what it held. -/
def KeepsAlong (d later : Disk) (path : String) : Prop :=
  ∀ place ∈ d.way [] (steps path), later.content? place = d.content? place

/-! ## Walks -/

theorem content?_of_step {s : String} (h : d.step place s = .ok goal) :
    d.content? place = some .folder := by
  unfold step at h
  unfold content?
  split at h
  · cases h
  · next hn => rw [hn]; rfl
  · cases h

/-- A step depends on the place where it begins only in so far as that is a folder. -/
theorem step_of_folder {s : String} (h : d.step place s = .ok goal)
    (folder : later.content? place = some .folder) : later.step place s = .ok goal := by
  obtain ⟨⟨content, time⟩, hnode, rfl⟩ := Option.map_eq_some_iff.1 folder
  obtain ⟨⟨content', time'⟩, hnode', heq⟩ := Option.map_eq_some_iff.1 (content?_of_step h)
  obtain rfl : content' = .folder := heq
  unfold step at h ⊢
  rw [hnode'] at h
  rw [hnode]
  exact h

theorem mem_way_self : place ∈ d.way place names := by
  cases names <;> exact List.mem_cons_self

theorem mem_way_of_walk (h : d.walk place names = .ok goal) : goal ∈ d.way place names := by
  induction names generalizing place with
  | nil =>
    obtain rfl : place = goal := Except.ok.inj h
    exact mem_way_self
  | cons s r ih =>
    unfold walk at h
    cases hs : d.step place s with
    | error e => rw [hs] at h; cases h
    | ok next =>
      rw [hs] at h
      rw [way, hs]
      exact List.mem_cons_of_mem _ (ih h)

/-- A walk is the same on a disk where the folders on its way are folders too. -/
theorem walk_of_folders (h : d.walk place names = .ok goal)
    (folders : ∀ p ∈ d.way place names, d.content? p = some .folder →
      later.content? p = some .folder) : later.walk place names = .ok goal := by
  induction names generalizing place with
  | nil => exact h
  | cons s r ih =>
    unfold walk at h
    cases hs : d.step place s with
    | error e => rw [hs] at h; cases h
    | ok next =>
      rw [hs] at h
      rw [way, hs] at folders
      have start := folders place List.mem_cons_self (content?_of_step hs)
      rw [walk, step_of_folder hs start]
      exact ih h fun p hp => folders p (List.mem_cons_of_mem _ hp)

theorem walk_of_follow (h : d.follow path names = .ok goal) : d.walk [] names = .ok goal := by
  unfold follow at h
  split at h
  · cases h
  · split at h
    · cases h
    · exact h

theorem follow_of_walk (h : d.follow path names = .ok goal) (walk : later.walk [] names = .ok goal) :
    later.follow path names = .ok goal := by
  unfold follow at h ⊢
  split at h
  · cases h
  · next zero =>
    split at h
    · cases h
    · next short => rw [if_neg zero, if_neg short, walk]

/-- What stands at a path does not depend on the clock. -/
theorem find_of_nodes (same : later.nodes = d.nodes) (path : String) :
    later.find path = d.find path := by
  have node (p : Place) : later.node? p = d.node? p := by
    cases p <;> simp [node?, same]
  have walk (names : List String) (p : Place) : later.walk p names = d.walk p names := by
    induction names generalizing p with
    | nil => rfl
    | cons s r ih => simp only [Disk.walk, step, node, ih]
  simp only [find, follow, walk, node]

theorem modified?_of_nodes (same : later.nodes = d.nodes) (path : String) :
    later.modified? path = d.modified? path := by
  rw [modified?, find_of_nodes same, modified?]

/-! ## Reading -/

theorem read_eq_ok_iff {text : String} :
    d.read path = .ok text ↔ ∃ place, d.follow path (steps path) = .ok place ∧
      d.content? place = some (.text text) := by
  unfold read find content?
  cases d.follow path (steps path) with
  | error e => simp
  | ok place =>
    cases hn : d.node? place with
    | none => simp [hn]
    | some n =>
      obtain ⟨content, time⟩ := n
      cases content <;> simp [hn]

/-- A text is still read if everything along its path is kept. -/
theorem read_of_keepsAlong {text : String} (keeps : KeepsAlong d later path)
    (h : d.read path = .ok text) : later.read path = .ok text := by
  obtain ⟨place, found, content⟩ := read_eq_ok_iff.1 h
  have walked := walk_of_follow found
  refine read_eq_ok_iff.2 ⟨place, follow_of_walk found ?_, ?_⟩
  · exact walk_of_folders walked fun p hp folder => (keeps p hp).trans folder
  · exact (keeps place (mem_way_of_walk walked)).trans content

/-! ## Writing -/

/-- A path for writing leads to a place below the root that is no folder. -/
theorem fileAt_eq_ok (h : d.fileAt path = .ok place) :
    d.follow path (steps path) = .ok place ∧ d.content? place ≠ some .folder := by
  unfold fileAt at h
  split at h
  · split at h <;> cases h
  · split at h
    · cases h
    · next found =>
      split at h
      · cases h
      · next other =>
        obtain rfl := Except.ok.inj h
        refine ⟨found, fun folder => ?_⟩
        obtain ⟨⟨content, time⟩, hnode, rfl⟩ := Option.map_eq_some_iff.1 folder
        exact other time hnode

/-- What is put at a place below the root is the content there, and no other content changes. -/
theorem content?_put (d : Disk) (below : place ≠ []) (n : Node) (p : Place) :
    (d.put place n).content? p = if p = place then some n.content else d.content? p := by
  unfold content?
  rw [node?_put d below]
  split <;> rfl

/-- What is put off the way along a path, or is the content that stands there, changes nothing along
it. -/
theorem keepsAlong_put {n : Node} (below : place ≠ [])
    (same : place ∈ d.way [] (steps path) → d.content? place = some n.content) :
    d.KeepsAlong (d.put place n) path := by
  intro p hp
  rw [content?_put d below]
  split
  · next here =>
    subst here
    exact (same hp).symm
  · rfl

theorem write_eq_error_iff {text : String} {e : FileFault} :
    d.write path text = .error e ↔ d.fileAt path = .error e := by
  unfold write writeAt
  cases d.fileAt path <;> simp

theorem write_eq_ok_iff {text : String} : d.write path text = .ok later ↔
    ∃ place, d.fileAt path = .ok place ∧ later = d.put place ⟨.text text, d.clock⟩ := by
  unfold write writeAt
  cases d.fileAt path <;> simp [eq_comm]

/-- What has been written to a path is read from it. -/
theorem read_write {text : String} (h : d.write path text = .ok later) :
    later.read path = .ok text := by
  obtain ⟨place, named, rfl⟩ := write_eq_ok_iff.1 h
  obtain ⟨found, noFolder⟩ := fileAt_eq_ok named
  have below : place ≠ [] := by
    rintro rfl
    exact noFolder rfl
  have content := content?_put d below ⟨.text text, d.clock⟩
  refine read_eq_ok_iff.2 ⟨place, follow_of_walk found ?_, by rw [content, if_pos rfl]⟩
  refine walk_of_folders (walk_of_follow found) fun p _ folder => ?_
  have other : p ≠ place := by
    rintro rfl
    exact noFolder folder
  rw [content, if_neg other, folder]

end SharedTensor.Disk
