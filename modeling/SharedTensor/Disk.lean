/-!
# Files

Files and folders by path, as far as reading and writing configurations can tell them apart: what
they hold, and when they were last modified. A path is walked from the root, step by step, and each
step starts from a folder (`Disk.walk`); an empty step and a dot stay where they are, so that a
slash after the name of a file leads nowhere. What is put at a place is what stands there, and
nothing else changes (`node?_put`). Time is counted by a clock that belongs to the disk.
-/

namespace SharedTensor

/-- Why a file cannot be read or written. -/
inductive FileFault
  | missing
  | isFolder
  /-- A step starts from a file. -/
  | notFolder
  | nameTooLong
  /-- The path holds a zero character. -/
  | zeroInPath
  | notText
  deriving DecidableEq, Inhabited

/-- The system's wording of a fault. -/
def FileFault.message : FileFault → String
  | missing => "No such file or directory (os error 2)"
  | isFolder => "Is a directory (os error 21)"
  | notFolder => "Not a directory (os error 20)"
  | nameTooLong => "File name too long (os error 36)"
  | zeroInPath => "file name contained an unexpected NUL byte"
  | notText => "stream did not contain valid UTF-8"

/-- What stands at a path. -/
inductive Content
  | text (text : String)
  /-- Bytes that are not the encoding of a text. -/
  | binary (bytes : List UInt8)
  | folder
  deriving DecidableEq, Inhabited

/-- The content of a file with the given bytes. -/
def Content.ofBytes (bytes : List UInt8) : Content :=
  match String.fromUTF8? ⟨bytes.toArray⟩ with
  | some s => .text s
  | none => .binary bytes

/-- A file or folder, and the time of its last modification. -/
structure Node where
  content : Content
  modified : Nat
  deriving DecidableEq, Inhabited

/-- The way from the root to a file or folder: the names that are met on it. -/
abbrev Place := List String

/-- All files and folders but the root, each with the way to it, and the present time. -/
structure Disk where
  nodes : List (Place × Node) := []
  clock : Nat := 0
  deriving Inhabited

namespace Disk

/-! ## Places -/

/-- What stands at a place. The root is a folder. -/
def node? (d : Disk) : Place → Option Node
  | [] => some ⟨.folder, 0⟩
  | place => d.nodes.lookup place

/-- The disk with the given node at a place. -/
def put (d : Disk) (place : Place) (n : Node) : Disk :=
  { d with nodes := (place, n) :: d.nodes.filter fun e => e.1 ≠ place }

/-! ## Paths -/

/-- The number of bytes that a name may have. -/
def nameLimit : Nat := 255

/-- The number of bytes that a path with the zero at its end may have. -/
def pathLimit : Nat := 4096

/-- The steps of a path: what stands between its slashes. -/
def steps (path : String) : List String :=
  path.splitOn "/"

/-- The steps up to the last name, without the slashes after it. -/
def namedSteps (path : String) : List String :=
  ((steps path).reverse.dropWhile fun s => s.isEmpty).reverse

/-- Does a slash stand at the end of the path? -/
def endsWithSlash (path : String) : Bool :=
  (steps path).getLast?.any fun s => s.isEmpty

/-- The place to which a step leads, which must start from a folder. An empty step and a dot stay in
the folder, and two dots go back to the folder that holds it. -/
def step (d : Disk) (place : Place) (s : String) : Except FileFault Place :=
  match d.node? place with
  | none => .error .missing
  | some ⟨.folder, _⟩ =>
    if s.isEmpty || s = "." then .ok place
    else if s = ".." then .ok place.dropLast
    else if nameLimit < s.utf8ByteSize then .error .nameTooLong
    else .ok (place ++ [s])
  | some _ => .error .notFolder

/-- The place to which steps lead. There need not be anything. -/
def walk (d : Disk) (place : Place) : List String → Except FileFault Place
  | [] => .ok place
  | s :: r =>
    match d.step place s with
    | .error e => .error e
    | .ok place => d.walk place r

/-- Walks some of the steps of a path, if the system takes the path at all. -/
def follow (d : Disk) (path : String) (steps : List String) : Except FileFault Place :=
  if path.toList.any fun c => c.toNat = 0 then .error .zeroInPath
  else if pathLimit ≤ path.utf8ByteSize then .error .nameTooLong
  else d.walk [] steps

/-- What stands at a path, and at which place. -/
def find (d : Disk) (path : String) : Except FileFault (Place × Node) :=
  match d.follow path (steps path) with
  | .error e => .error e
  | .ok place =>
    match d.node? place with
    | none => .error .missing
    | some n => .ok (place, n)

/-- The place of the file that a path names for writing. There need not be a file yet, but a path
that ends with a slash names none. -/
def fileAt (d : Disk) (path : String) : Except FileFault Place :=
  if endsWithSlash path then
    match d.follow path ((namedSteps path).dropLast ++ [""]) with
    | .error e => .error e
    | .ok _ => .error .isFolder
  else
    match d.follow path (steps path) with
    | .error e => .error e
    | .ok place =>
      match d.node? place with
      | some ⟨.folder, _⟩ => .error .isFolder
      | _ => .ok place

/-! ## Operations -/

/-- When the file at a path was last modified. -/
def modified? (d : Disk) (path : String) : Option Nat :=
  (d.find path).toOption.map (·.2.modified)

/-- The text of the file at a path. -/
def read (d : Disk) (path : String) : Except FileFault String :=
  match d.find path with
  | .error e => .error e
  | .ok (_, ⟨.folder, _⟩) => .error .isFolder
  | .ok (_, ⟨.binary _, _⟩) => .error .notText
  | .ok (_, ⟨.text s, _⟩) => .ok s

/-- Writes a file, which is then as new as `modified` says. -/
def writeAt (d : Disk) (path : String) (content : Content) (modified : Nat) :
    Except FileFault Disk :=
  match d.fileAt path with
  | .error e => .error e
  | .ok place => .ok (d.put place ⟨content, modified⟩)

/-- Writes a text into a file at the present time. -/
def write (d : Disk) (path text : String) : Except FileFault Disk :=
  d.writeAt path (.text text) d.clock

/-- Makes a folder where there is nothing yet. -/
def makeFolder (d : Disk) (path : String) : Disk :=
  match d.follow path (namedSteps path) with
  | .error _ => d
  | .ok place => if (d.node? place).isNone then d.put place ⟨.folder, d.clock⟩ else d

/-- Removes what stands at a path, with all that is under it. -/
def remove (d : Disk) (path : String) : Disk :=
  match d.find path with
  | .error _ => d
  | .ok (place, _) =>
    { d with nodes := d.nodes.filter fun e => !place.isPrefixOf e.1 }

/-- A disk whose root holds one folder. -/
def withFolder (name : String) : Disk :=
  { nodes := [([name], ⟨.folder, 0⟩)] }

theorem lookup_filter_ne {place other : Place} (h : other ≠ place) (nodes : List (Place × Node)) :
    (nodes.filter fun e => e.1 ≠ place).lookup other = nodes.lookup other := by
  induction nodes with
  | nil => rfl
  | cons e rest ih =>
    obtain ⟨p, n⟩ := e
    by_cases hp : p = place
    · have ho : (other == p) = false := by simp [hp, h]
      rw [List.filter_cons_of_neg (by simp [hp]), ih, List.lookup_cons, ho]
    · rw [List.filter_cons_of_pos (by simp [hp]), List.lookup_cons, List.lookup_cons, ih]

/-- What is put at a place is what stands there; other places are as before. -/
theorem node?_put (d : Disk) {place : Place} (h : place ≠ []) (n : Node) (other : Place) :
    (d.put place n).node? other = if other = place then some n else d.node? other := by
  cases other with
  | nil => rw [if_neg (Ne.symm h)]; rfl
  | cons s r =>
    by_cases ho : s :: r = place
    · simp [node?, put, ho]
    · have hb : (s :: r == place) = false := by simpa using ho
      rw [if_neg ho]
      show ((place, n) :: d.nodes.filter fun e => e.1 ≠ place).lookup (s :: r) = _
      rw [List.lookup_cons, hb]
      exact lookup_filter_ne ho d.nodes

end Disk

end SharedTensor
