import Moocbt.Data.Json
import Moocbt.Data.SeqFile
import Moocbt.Driver.Tracer

/-! The file `/proc/moocbt-info`: `proc_seq_file.c`. -/

namespace Moocbt.Driver

open Cow (CowManager Errno)
open Json (bytes decimal quoted)

/-- `MOOCBT_VERSION`. -/
def moocbtVersion : String := "0.13.1"

/-- An entry of the lists that `genconfig.sh` writes: the name of a test or of a symbol, and
whether it is there. -/
structure BuildFlag where
  name : String
  present : Bool
  plain : name.toList.all Json.isPlain = true

/-- What `moocbt_proc_ibt_show` finds. -/
structure IbtStatus where
  cpuBuildSupport : Bool
  cpuRuntimeSupport : Bool
  kernelBuildSupport : Bool
  kernelRuntimeSupport : Bool
  driverSupportForceOn : Bool
  driverSupportForceOff : Bool
  netIbtSupportEnabled : Bool

/-- What the file shows but for the devices, and the texts of the paths. -/
structure ProcInfo where
  features : List BuildFlag
  symbols : List BuildFlag
  ibtStatus : IbtStatus
  cowPath : Nat → List UInt8
  bdevPath : Nat → List UInt8

/-- An error code as the kernel has it, without its sign. -/
def errnoCode : Errno → Nat
  | .enomem => 12
  | .einval => 22
  | .eio => 5
  | .efbig => 27
  | .enoent => 2
  | .eopnotsupp => 95
  | .other code => code

/-- `"\t\t\"%s\": %s"`. -/
def flagShow (name : String) (present : Bool) : List UInt8 :=
  bytes "\t\t\"" ++ bytes name ++ bytes "\": " ++ bytes (if present then "true" else "false")

/-- `FEATURE`, `SYMBOL` and `STATUS`, one after the other. -/
def flagsShow : List (String × Bool) → List UInt8
  | [] => []
  | first :: rest =>
      flagShow first.1 first.2 ++ rest.flatMap fun flag => bytes ",\n" ++ flagShow flag.1 flag.2

def BuildFlag.toPair (flag : BuildFlag) : String × Bool := (flag.name, flag.present)

def IbtStatus.flags (status : IbtStatus) : List (String × Bool) :=
  [("cpu_build_support", status.cpuBuildSupport),
    ("cpu_runtime_support", status.cpuRuntimeSupport),
    ("kernel_build_support", status.kernelBuildSupport),
    ("kernel_runtime_support", status.kernelRuntimeSupport),
    ("driver_support_force_on", status.driverSupportForceOn),
    ("driver_support_force_off", status.driverSupportForceOff),
    ("net_ibt_support_enabled", status.netIbtSupportEnabled)]

/-- An object of flags, a member of the outermost one. -/
def sectionShow (name : String) (flags : List (String × Bool)) : List UInt8 :=
  bytes "\t\"" ++ bytes name ++ bytes "\": \x7b\n" ++ flagsShow flags ++ bytes "\n\t\x7d,\n"

def moocbtProcIbtShow (status : IbtStatus) : List UInt8 := sectionShow "ibt_status" status.flags

/-- `%02x`. -/
def hexByte (byte : Nat) : List Char := [(byte / 16).digitChar, (byte % 16).digitChar]

/-- The bytes of a uuid, in the order of `cow->uuid`. -/
def uuidShow (uuid : BitVec 128) : List Char :=
  (List.range 16).flatMap fun i => hexByte ((uuid >>> (8 * i)).toNat % 256)

/-- `%s`; a null pointer shows too. -/
def pathShow (text : Nat → List UInt8) (path : Option Nat) : List UInt8 :=
  match path with
  | none => bytes "(null)"
  | some path => text path

/-- The bits of `sd_state`. -/
def SnapDevice.sdState (device : SnapDevice) : Nat :=
  (if device.snapshot then 1 else 0) + (if device.active then 2 else 0) +
    (if device.unverified then 4 else 0)

/-- The fields that are read from the COW manager. -/
def cowShow (cm : CowManager) : List (String × List UInt8) :=
  [("cow_size_current", decimal cm.fileSize), ("seq_id", decimal cm.seqid),
    ("uuid", quoted ((uuidShow cm.uuid).flatMap String.utf8EncodeChar))] ++
  if 0 < cm.version then
    [("version", decimal cm.version), ("nr_changed_blocks", decimal cm.nrChangedBlocks)]
  else []

def trackedShow (kernel : Kernel) (device : SnapDevice) : Option (List (String × List UInt8)) := do
  let cow ← match device.sdCow with
    | none => some []
    | some cow => (kernel.cows cow).map fun object => cowShow object.cm
  some (("fallocate", decimal (device.sdFallocSize * megabyte % word64)) :: cow)

/-- The fields that only a verified device has. -/
def verifiedShow (kernel : Kernel) (device : SnapDevice) : Option (List (String × List UInt8)) :=
  if device.unverified then some [] else trackedShow kernel device

def errorShow (device : SnapDevice) : List (String × List UInt8) :=
  match device.sdFailCode with
  | none => []
  | some error =>
      if errnoCode error = 0 then [] else [("error", bytes "-" ++ decimal (errnoCode error))]

/-- The fields that every device has. -/
def commonShow (machine : Machine) (info : ProcInfo) (device : SnapDevice) :
    List (String × List UInt8) :=
  [("minor", decimal device.sdMinor),
    ("cow_file", quoted (pathShow info.cowPath device.sdCowPath)),
    ("block_device", quoted (pathShow info.bdevPath device.sdBdevPath)),
    ("max_cache", decimal (machine.cacheSize device.sdCacheSize))]

/-- The fields of a device but for the last one. -/
def deviceFields (machine : Machine) (info : ProcInfo) (kernel : Kernel) (device : SnapDevice) :
    Option (List (String × List UInt8)) :=
  (verifiedShow kernel device).map fun verified =>
    commonShow machine info device ++ verified ++ errorShow device

/-- A field in a line of its own. -/
def fieldShow (name : String) (value : List UInt8) : List UInt8 :=
  bytes "\t\t\t\"" ++ bytes name ++ bytes "\": " ++ value

/-- An entry of the list of devices. -/
def entryShow (fields : List (String × List UInt8)) (device : SnapDevice) : List UInt8 :=
  bytes "\t\t\x7b\n" ++ (fields.flatMap fun field => fieldShow field.1 field.2 ++ bytes ",\n") ++
    fieldShow "state" (decimal device.sdState) ++ bytes "\n" ++ bytes "\t\t\x7d"

def headerShow (info : ProcInfo) : List UInt8 :=
  bytes "\x7b\n" ++ bytes "\t\"version\": \"" ++ bytes moocbtVersion ++ bytes "\",\n" ++
    sectionShow "build_features" (info.features.map BuildFlag.toPair) ++
    sectionShow "build_symbols" (info.symbols.map BuildFlag.toPair) ++
    moocbtProcIbtShow info.ibtStatus ++ bytes "\t\"devices\": [\n"

def footerShow : List UInt8 := bytes "\n\t]\n" ++ bytes "\x7d\n"

/-- What the iterator points to: `SEQ_START_TOKEN` or a slot. -/
inductive SeqEntry where
  | startToken
  | slot (minor : Nat)
  deriving DecidableEq, Repr

def moocbtProcGetIdx (kernel : Kernel) (pos : Nat) : Option SeqEntry :=
  if kernel.highestMinor < pos then none else some (.slot pos)

def moocbtProcStart (kernel : Kernel) (pos : Nat) : Option SeqEntry :=
  if pos = 0 then some .startToken else moocbtProcGetIdx kernel (pos - 1)

/-- The next entry does not depend on the one before. -/
def moocbtProcNext (kernel : Kernel) (_ : SeqEntry) (pos : Nat) : Option SeqEntry × Nat :=
  (moocbtProcGetIdx kernel pos, pos + 1)

/-- Nothing where memory is read that was freed. -/
def moocbtProcShow (machine : Machine) (info : ProcInfo) (kernel : Kernel) :
    SeqEntry → Option (List UInt8)
  | .startToken =>
      some (headerShow info ++
        if kernel.highestMinor < kernel.lowestMinor then footerShow else [])
  | .slot minor =>
      match kernel.snapDevices minor with
      | none => some []
      | some dev => do
          let device ← kernel.devices dev
          let fields ← deviceFields machine info kernel device
          some ((if device.sdMinor ≠ kernel.lowestMinor then bytes ",\n" else []) ++
            entryShow fields device ++
            if device.sdMinor = kernel.highestMinor then footerShow else [])

/-- `moocbt_seq_proc_ops`, while nothing changes. -/
def Kernel.procOps (machine : Machine) (info : ProcInfo) (kernel : Kernel) :
    SeqFile.Ops SeqEntry where
  start := moocbtProcStart kernel
  next := moocbtProcNext kernel
  print := moocbtProcShow machine info kernel

end Moocbt.Driver
