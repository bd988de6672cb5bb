import SharedTensor.Fault

/-!
# Configuration

The settings that steer allocation, export and checks. A configuration is valid if the alignment of
host buffers is a power of two.
-/

namespace SharedTensor

/-- Is the number a power of two? -/
def isPowerOfTwo (n : Nat) : Bool :=
  1 <<< n.log2 = n

structure StorageConfig where
  /-- The least alignment of host buffers, in bytes. -/
  hostAlignment : UInt64 := 64
  deriving DecidableEq, Inhabited

structure InteropConfig where
  /-- Leave the strides of row-major tensors out of exported records. -/
  omitCompactStrides : Bool := true
  deriving DecidableEq, Inhabited

structure SafetyConfig where
  /-- Refuse views that reach outside the buffer of their source. -/
  checkViewExtent : Bool := false
  /-- Refuse null data for tensors with elements. -/
  checkNullData : Bool := true
  deriving DecidableEq, Inhabited

structure DevelopmentConfig where
  verboseLogging : Bool := false
  deriving DecidableEq, Inhabited

/-- All settings, by section. -/
structure Config where
  storage : StorageConfig := {}
  interop : InteropConfig := {}
  safety : SafetyConfig := {}
  development : DevelopmentConfig := {}
  deriving DecidableEq, Inhabited

namespace Config

/-- Is the alignment of host buffers a power of two? -/
def validate (c : Config) : Except Fault Unit :=
  if isPowerOfTwo c.storage.hostAlignment.toNat then .ok ()
  else .error (.hostAlignmentNotPowerOfTwo c.storage.hostAlignment.toNat)

/-- New values for some of the settings. -/
structure Change where
  hostAlignment : Option UInt64 := none
  omitCompactStrides : Option Bool := none
  checkViewExtent : Option Bool := none
  checkNullData : Option Bool := none
  verboseLogging : Option Bool := none
  deriving DecidableEq, Inhabited

/-- The configuration with the new values of a change and the old values of all other settings. -/
def change (c : Config) (new : Change) : Config where
  storage := { hostAlignment := new.hostAlignment.getD c.storage.hostAlignment }
  interop := { omitCompactStrides := new.omitCompactStrides.getD c.interop.omitCompactStrides }
  safety := {
    checkViewExtent := new.checkViewExtent.getD c.safety.checkViewExtent
    checkNullData := new.checkNullData.getD c.safety.checkNullData }
  development := { verboseLogging := new.verboseLogging.getD c.development.verboseLogging }

/-- The configuration that results from changing the default settings step by step. -/
def build (changes : List Change) : Except Fault Config :=
  let c := changes.foldl change {}
  match c.validate with
  | .ok () => .ok c
  | .error f => .error f

end Config

end SharedTensor
