import SharedTensor.Text.Decimal

/-!
# Devices

Where a tensor's buffer lives: a kind of device, numbered as in the interchange format, and an
index among the devices of that kind.
-/

namespace SharedTensor

/-- The kinds of device that a buffer can live on. -/
inductive DeviceKind
  | cpu
  | cuda
  | cudaHost
  | openCl
  | vulkan
  | metal
  | vpi
  | rocm
  | rocmHost
  | extDev
  | cudaManaged
  | oneApi
  | webGpu
  | hexagon
  deriving DecidableEq, Inhabited

namespace DeviceKind

/-- The kinds in the order of their codes. -/
def all : List DeviceKind :=
  [.cpu, .cuda, .cudaHost, .openCl, .vulkan, .metal, .vpi, .rocm, .rocmHost, .extDev, .cudaManaged,
    .oneApi, .webGpu, .hexagon]

/-- The code of a kind in an interchange record. The codes 5 and 6 are not in use. -/
def code : DeviceKind → Int32
  | cpu => 1
  | cuda => 2
  | cudaHost => 3
  | openCl => 4
  | vulkan => 7
  | metal => 8
  | vpi => 9
  | rocm => 10
  | rocmHost => 11
  | extDev => 12
  | cudaManaged => 13
  | oneApi => 14
  | webGpu => 15
  | hexagon => 16

/-- The kind with the given code. -/
def ofCode? (code : Int32) : Option DeviceKind :=
  all.find? fun k => k.code = code

/-- The name of a kind in the text form of a device. -/
def name : DeviceKind → String
  | cpu => "cpu"
  | cuda => "cuda"
  | cudaHost => "cuda_host"
  | openCl => "opencl"
  | vulkan => "vulkan"
  | metal => "metal"
  | vpi => "vpi"
  | rocm => "rocm"
  | rocmHost => "rocm_host"
  | extDev => "ext_dev"
  | cudaManaged => "cuda_managed"
  | oneApi => "oneapi"
  | webGpu => "webgpu"
  | hexagon => "hexagon"

/-- The kind with the given name. -/
def ofName? (name : List Char) : Option DeviceKind :=
  all.find? fun k => k.name.toList = name

/-- The tag of a kind in a serialised descriptor. -/
def tag : DeviceKind → String
  | cpu => "Cpu"
  | cuda => "Cuda"
  | cudaHost => "CudaHost"
  | openCl => "OpenCl"
  | vulkan => "Vulkan"
  | metal => "Metal"
  | vpi => "Vpi"
  | rocm => "Rocm"
  | rocmHost => "RocmHost"
  | extDev => "ExtDev"
  | cudaManaged => "CudaManaged"
  | oneApi => "OneApi"
  | webGpu => "WebGpu"
  | hexagon => "Hexagon"

/-- The kind with the given tag. -/
def ofTag? (tag : String) : Option DeviceKind :=
  all.find? fun k => k.tag = tag

theorem mem_all (k : DeviceKind) : k ∈ all := by
  cases k <;> decide

theorem ofCode?_code (k : DeviceKind) : ofCode? k.code = some k := by
  cases k <;> decide

theorem ofName?_name (k : DeviceKind) : ofName? k.name.toList = some k := by
  cases k <;> decide

theorem ofTag?_tag (k : DeviceKind) : ofTag? k.tag = some k := by
  cases k <;> decide

end DeviceKind

/-- A device: a kind and an index among the devices of that kind. -/
structure Device where
  kind : DeviceKind
  index : Int32
  deriving DecidableEq

namespace Device

/-- The host's own processor. -/
def cpu : Device := ⟨.cpu, 0⟩

/-- Tensors live on the host unless told otherwise. -/
instance : Inhabited Device := ⟨cpu⟩

/-- The accelerator with the given index. -/
def cuda (index : Int32) : Device := ⟨.cuda, index⟩

/-- Does the device compute on a graphics processor? -/
def isGpu (d : Device) : Bool :=
  d.kind ∈ [.cuda, .rocm, .metal, .vulkan, .openCl, .oneApi, .webGpu]

/-- May the host follow pointers into the device's memory? -/
def isHostAccessible (d : Device) : Bool :=
  d.kind ∈ [.cpu, .cudaHost, .rocmHost, .cudaManaged]

/-- The alignment that suits the device: a cache line for host memory, more elsewhere. -/
def alignment (d : Device) : Nat :=
  if d.kind ∈ [.cpu, .cudaHost, .rocmHost] then 64 else 256

/-- The characters of a device's text form: the name of its kind, a colon and the index; the
first processor is just `cpu`. -/
def textChars (d : Device) : List Char :=
  if d = cpu then d.kind.name.toList
  else d.kind.name.toList ++ ':' :: Decimal.ofInt d.index.toInt

/-- The text form of a device, such as `cpu` or `cuda:1`. -/
def text (d : Device) : String :=
  String.ofList d.textChars

end Device

end SharedTensor
