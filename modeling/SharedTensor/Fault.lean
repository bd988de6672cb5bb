import SharedTensor.Address
import SharedTensor.Device
import SharedTensor.ElementType
import SharedTensor.Fault.Context
import SharedTensor.Text.Listing

/-!
# Faults

Why an operation was refused. A fault names its cause; the kind, the wording and the code that a
caller sees are functions of the cause. Context can be attached to a fault, and shows in the
wording of those kinds that speak about what a caller handed in.
-/

namespace SharedTensor

/-- The families that faults fall into. -/
inductive FaultKind
  | arityMismatch
  | invalidShape
  | doubleRelease
  | nullStorage
  | deviceError
  | memoryError
  | invalidInput
  | invalidState
  | invalidData
  | unsupportedOperation
  | configurationError
  | serializationError
  | fileError
  | internalError
  deriving DecidableEq, Inhabited

/-- What a program that handles faults may distinguish. -/
inductive FaultCode
  | arityMismatch
  | invalidShape
  | doubleRelease
  | nullStorage
  | deviceUnsupported
  | outOfMemory
  | invalidOperation
  | malformedRecord
  | configInvalid
  | serializationFailed
  | internalError
  deriving DecidableEq, Inhabited

namespace FaultKind

/-- The words that open a message of this kind. -/
def heading : FaultKind → String
  | arityMismatch => "Arity mismatch"
  | invalidShape => "Invalid shape"
  | doubleRelease => "Double release"
  | nullStorage => "Null storage"
  | deviceError => "Device error"
  | memoryError => "Memory error"
  | invalidInput => "Invalid input"
  | invalidState => "Invalid state"
  | invalidData => "Invalid data"
  | unsupportedOperation => "Unsupported operation"
  | configurationError => "Configuration error"
  | serializationError => "Serialization error"
  | fileError => "IO error"
  | internalError => "Internal error"

/-- The code of every fault of this kind. -/
def code : FaultKind → FaultCode
  | arityMismatch => .arityMismatch
  | invalidShape => .invalidShape
  | doubleRelease => .doubleRelease
  | nullStorage => .nullStorage
  | deviceError => .deviceUnsupported
  | memoryError => .outOfMemory
  | invalidInput => .invalidOperation
  | invalidState => .invalidOperation
  | unsupportedOperation => .invalidOperation
  | invalidData => .malformedRecord
  | configurationError => .configInvalid
  | serializationError => .serializationFailed
  | fileError => .serializationFailed
  | internalError => .internalError

/-- Does the wording of this kind take up the context of the operation? -/
def takesContext (k : FaultKind) : Bool :=
  k ∈ [.invalidShape, .invalidData, .invalidInput, .deviceError]

end FaultKind

/-- May a caller go on after a fault with this code? -/
def FaultCode.isRecoverable (c : FaultCode) : Bool :=
  c ∈ [.outOfMemory, .deviceUnsupported, .configInvalid]

/-- What a storage does when its last reference is gone, as far as callers are told. -/
inductive ReleaseKind
  | owned
  | unowned
  | view
  | foreign
  | external
  deriving DecidableEq, Inhabited

/-- How a release kind is shown. -/
def ReleaseKind.name : ReleaseKind → String
  | owned => "Owned"
  | unowned => "Unowned"
  | view => "View"
  | foreign => "Foreign"
  | external => "External"

/-- Why an operation was refused. -/
inductive Fault
  /-- Shape and strides differ in length. -/
  | arityMismatch (shape strides : Nat)
  /-- A dimension is negative. -/
  | negativeDimension (shape : List Int64)
  /-- The number of elements is no machine word. -/
  | countOverflow (shape : List Int64)
  /-- The offsets of the elements leave the signed words. -/
  | spanOverflow (shape strides : List Int64)
  /-- Some element lies before the start of the buffer. -/
  | beforeStart (strides : List Int64) (elements : Nat)
  /-- The number of bytes is no machine word. -/
  | byteExtentOverflow (shape : List Int64)
  /-- The number of bytes is no machine word once the byte offset is added. -/
  | byteOffsetOverflow
  /-- Some element lies where there are no addresses. -/
  | outsideAddressSpace (shape strides : List Int64)
  /-- Some element lies outside the buffer; both ranges are told from the start of a block. -/
  | outsideBuffer (shape strides : List Int64) (reached buffer : Extent) (block : Block)
  /-- The elements handed over do not fill the shape. -/
  | lengthMismatch (given : Nat) (shape : List Int64)
  /-- The rank does not fit into an interchange record. -/
  | rankTooLarge (rank : Nat)
  /-- A shape was expected and another one given. -/
  | shapeMismatch (expected got : String) (suggestion : Option String)
  /-- The operation needs a storage and the handle has none. -/
  | emptyHandle (operation : String)
  /-- The code of a device kind is unknown. -/
  | unknownDeviceCode (code : Int32)
  /-- Something is wrong with a device. -/
  | deviceRefused (device message : String)
  /-- The device's memory is out of reach of the host. -/
  | notHostAccessible (operation : String) (device : Device)
  /-- No block of memory can have this size and alignment. -/
  | invalidBlock
  /-- The memory at hand does not suffice. -/
  | outOfMemory (required available : Nat) (purpose : String)
  /-- The text names no element type. -/
  | unknownElementType (text : String)
  /-- The text is no type string of an array. -/
  | malformedTypeString (text : String)
  /-- The type string asks for the byte order of another machine. -/
  | foreignByteOrder (text : String)
  /-- The type string names a kind that tensors cannot have. -/
  | unsupportedTypeString (text : String)
  /-- The type string asks for elements that are too wide. -/
  | elementTooWide (text : String)
  /-- Elements were asked for under another type than their own. -/
  | wrongElementType (operation : String) (requested actual : ElementType)
  /-- A tensor with elements was to be assembled over a null pointer. -/
  | nullData (shape : List Int64)
  /-- No deleter has this name. -/
  | unknownDeleter (name : String)
  /-- The storage has other references besides the handle at hand. -/
  | shared (references : Nat)
  /-- The storage already knows what to do on release. -/
  | notAdoptable (kind : ReleaseKind)
  /-- The tensor has elements and its data pointer is null. -/
  | noData (operation : String)
  /-- The code of an element kind is unknown. -/
  | unknownElementCode (code : UInt8)
  /-- The element type of a record has no lanes. -/
  | noLanes
  /-- The rank of a record is negative. -/
  | negativeRank (rank : Int32)
  /-- A record of positive rank has no shape. -/
  | noShape (rank : Nat)
  /-- There is no record. -/
  | noRecord
  /-- A record with elements has a null data pointer. -/
  | nullRecordData (shape : List Int64)
  /-- The elements do not start at a multiple of their alignment. -/
  | misaligned (place : Option Int) (type : ElementType)
  /-- The elements are not laid out one after the other in row-major order. -/
  | notCompact (strides : List Int64)
  /-- An allocator was asked for an alignment that is no power of two. -/
  | alignmentNotPowerOfTwo (alignment : Nat)
  /-- A configuration holds an alignment that is no power of two. -/
  | hostAlignmentNotPowerOfTwo (alignment : Nat)
  /-- A configuration file cannot be read. -/
  | unreadableFile (path reason : String)
  /-- A configuration file does not hold a configuration. -/
  | unparsableFile (path reason : String)
  /-- A fault whose wording is given. -/
  | stated (kind : FaultKind) (message : String)
  /-- A fault that arose in a known context. -/
  | inContext (fault : Fault) (context : OperationContext)
  deriving DecidableEq, Inhabited

namespace Fault

/-- The family that a fault falls into. -/
def kind : Fault → FaultKind
  | arityMismatch .. => .arityMismatch
  | negativeDimension .. | countOverflow .. | spanOverflow .. | beforeStart ..
  | byteExtentOverflow .. | byteOffsetOverflow | outsideAddressSpace .. | outsideBuffer ..
  | lengthMismatch .. | rankTooLarge .. | shapeMismatch .. => .invalidShape
  | emptyHandle .. => .nullStorage
  | unknownDeviceCode .. | deviceRefused .. | notHostAccessible .. => .deviceError
  | invalidBlock | outOfMemory .. => .memoryError
  | unknownElementType .. | malformedTypeString .. | elementTooWide .. | wrongElementType ..
  | nullData .. | unknownDeleter .. => .invalidInput
  | shared .. | notAdoptable .. | noData .. => .invalidState
  | unknownElementCode .. | noLanes | negativeRank .. | noShape .. | noRecord
  | nullRecordData .. | misaligned .. => .invalidData
  | foreignByteOrder .. | unsupportedTypeString .. | notCompact .. => .unsupportedOperation
  | alignmentNotPowerOfTwo .. | hostAlignmentNotPowerOfTwo .. | unreadableFile ..
  | unparsableFile .. => .configurationError
  | stated k _ => k
  | inContext f _ => f.kind

/-- What a message says after its heading. -/
def detail : Fault → String
  | arityMismatch shape strides =>
    "shape has " ++ toString shape ++ " dimensions but strides has " ++ toString strides
  | negativeDimension shape =>
    "Expected non-negative dimensions, got " ++ Text.listing shape
  | countOverflow shape => "Element count of " ++ Text.listing shape ++ " overflows"
  | spanOverflow shape strides =>
    "Extent of " ++ Text.listing shape ++ " / " ++ Text.listing strides ++ " overflows"
  | beforeStart strides elements =>
    "Strides " ++ Text.listing strides ++ " reach " ++ toString elements ++
      " elements before the buffer start"
  | byteExtentOverflow shape => "Byte extent of " ++ Text.listing shape ++ " overflows"
  | byteOffsetOverflow => "Byte offset overflows the allocation size"
  | outsideAddressSpace shape strides =>
    "Layout " ++ Text.listing shape ++ " / " ++ Text.listing strides ++
      " reaches outside the address space"
  | outsideBuffer shape strides reached buffer block =>
    "Layout " ++ Text.listing shape ++ " / " ++ Text.listing strides ++ " reaches bytes " ++
      reached.showIn block ++ ", outside its buffer " ++ buffer.showIn block
  | lengthMismatch given shape =>
    "Expected " ++ toString given ++ " elements, got shape " ++ Text.listing shape ++
      ". Suggestion: The slice length must equal the product of the dimensions"
  | rankTooLarge rank => "Rank " ++ toString rank ++ " exceeds DLPack limits"
  | shapeMismatch expected got suggestion =>
    "Expected " ++ expected ++ ", got " ++ got ++
      (match suggestion with | none => "" | some s => ". Suggestion: " ++ s)
  | emptyHandle operation => "'" ++ operation ++ "' called on an empty tensor handle"
  | unknownDeviceCode code => "Unknown DLPack device type " ++ toString code.toInt
  | deviceRefused device message => "Device '" ++ device ++ "': " ++ message
  | notHostAccessible operation device =>
    "Device '" ++ device.text ++ "': '" ++ operation ++ "' needs host-accessible memory"
  | invalidBlock => "Invalid layout: invalid parameters to Layout::from_size_align"
  | outOfMemory required available purpose =>
    "Insufficient memory: required " ++ toString required ++ " bytes, available " ++
      toString available ++ " bytes. Context: " ++ purpose
  | unknownElementType text => "Unknown dtype '" ++ text ++ "'"
  | malformedTypeString text => "Malformed array typestr '" ++ text ++ "'"
  | foreignByteOrder text => "Non-native byte order in typestr '" ++ text ++ "'"
  | unsupportedTypeString text => "Unsupported array typestr '" ++ text ++ "'"
  | elementTooWide text => "Element too wide in typestr '" ++ text ++ "'"
  | wrongElementType operation requested actual =>
    "'" ++ operation ++ "' requested " ++ requested.name ++ " from a " ++ actual.name ++ " tensor"
  | nullData shape => "Null data pointer for non-empty tensor " ++ Text.listing shape
  | unknownDeleter name => "No external deleter registered as '" ++ name ++ "'"
  | shared references => "Storage is shared by " ++ toString references ++ " references"
  | notAdoptable kind =>
    "Storage already has " ++ kind.name ++
      " release behaviour; only caller-owned memory can be adopted"
  | noData operation => "'" ++ operation ++ "' on a non-empty tensor without data"
  | unknownElementCode code => "Unknown DLPack type code " ++ toString code.toNat
  | noLanes => "DLPack dtype with zero lanes"
  | negativeRank rank => "Negative ndim " ++ toString rank.toInt
  | noShape rank => "Null shape for a rank-" ++ toString rank ++ " record"
  | noRecord => "Null DLManagedTensor pointer"
  | nullRecordData shape => "Null data pointer for non-empty record " ++ Text.listing shape
  | misaligned place type =>
    "Data pointer " ++ showPlace place ++ " is not aligned for " ++ type.name
  | notCompact strides =>
    "as_slice needs a compact layout, got strides " ++ Text.listing strides ++ "; use to_vec"
  | alignmentNotPowerOfTwo alignment =>
    "Alignment " ++ toString alignment ++ " is not a power of two"
  | hostAlignmentNotPowerOfTwo alignment =>
    "storage.host_alignment must be a power of two, got " ++ toString alignment
  | unreadableFile path reason =>
    "Failed to read config file " ++ Text.quoted path ++ ": " ++ reason
  | unparsableFile path reason =>
    "Failed to parse config file " ++ Text.quoted path ++ ": " ++ reason
  | stated _ message => message
  | inContext fault context =>
    if fault.kind.takesContext then fault.detail ++ "\nContext: " ++ context.message
    else fault.detail

/-- The message of a fault: the heading of its kind and what is wrong. -/
def message (f : Fault) : String :=
  f.kind.heading ++ ": " ++ f.detail

/-- The code of a fault. -/
def code (f : Fault) : FaultCode :=
  f.kind.code

/-- May a caller go on after the fault? -/
def isRecoverable (f : Fault) : Bool :=
  f.code.isRecoverable

/-- The number of dimensions and strides that disagree, if that is the fault. -/
def arities? : Fault → Option (Nat × Nat)
  | arityMismatch shape strides => some (shape, strides)
  | inContext f _ => f.arities?
  | _ => none

/-- The message of a fault for the person in front of the program: what went wrong and, for some
kinds, a paragraph on what to do about it. -/
def advice (f : Fault) : String :=
  match f.kind with
  | .arityMismatch =>
    match f.arities? with
    | some (shape, strides) =>
      "Arity Mismatch: shape has " ++ toString shape ++ " dimensions but " ++ toString strides ++
        " strides were given.\n\nEvery dimension needs exactly one stride. " ++
        "Omit the strides entirely to get a row-major layout."
    | none => f.message
  | .invalidShape =>
    "Shape Error: " ++ f.detail ++ "\n\nDimensions must be non-negative and the strides must " ++
      "keep every element inside the buffer."
  | .nullStorage =>
    "Null Storage: " ++ f.detail ++ "\n\nThis handle was default-constructed and has no buffer " ++
      "attached. Create it with an allocation, a view, or an import."
  | .deviceError =>
    "Device Error: " ++ f.detail ++ "\n\nOnly host-accessible memory can be allocated or read " ++
      "directly. Import device buffers through DLPack instead."
  | .invalidData =>
    "Invalid Data: " ++ f.detail ++ "\n\nThe interchange record handed over by the producer is " ++
      "malformed. Its deleter has already been called."
  | .invalidState =>
    "Invalid State: " ++ f.detail ++ "\n\nThe operation could not be performed because the " ++
      "storage is shared or already owns its buffer."
  | _ => f.message

end Fault

end SharedTensor
