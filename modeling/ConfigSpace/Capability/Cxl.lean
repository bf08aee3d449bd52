import ConfigSpace.Payload

/-!
# Compute Express Link

Structures of the consortium of that name, each with an identifier of its own.
The registers of one of them are decoded, those that describe a device; the
others are known by name.
-/

namespace ConfigSpace

namespace Cxl

/-! ## Registers of a device -/

/-- CXL Capability register. -/
structure Capability where
  (cacheCapable ioCapable memCapable memHwinitMode : Bool)
  hdmCount : Nat
  (cacheWritebackAndInvalidateCapable cxlResetCapable : Bool)
  cxlResetTimeout : Nat
  (cxlResetMemClrCapable multipleLogicalDevice viralCapable : Bool)
  pmInitCompletionReportingCapable : Bool
  deriving DecidableEq, Repr

/-- The register with the value `w`. -/
def Capability.ofWord (w : Nat) : Capability where
  cacheCapable := flag w 0
  ioCapable := flag w 1
  memCapable := flag w 2
  memHwinitMode := flag w 3
  hdmCount := field w 4 2
  cacheWritebackAndInvalidateCapable := flag w 6
  cxlResetCapable := flag w 7
  cxlResetTimeout := field w 8 3
  cxlResetMemClrCapable := flag w 11
  multipleLogicalDevice := flag w 13
  viralCapable := flag w 14
  pmInitCompletionReportingCapable := flag w 15

instance : Describe Capability :=
  ⟨fun r => .record
    [("cache_capable", describe r.cacheCapable), ("io_capable", describe r.ioCapable),
     ("mem_capable", describe r.memCapable), ("mem_hwinit_mode", describe r.memHwinitMode),
     ("hdm_count", describe r.hdmCount),
     ("cache_writeback_and_invalidate_capable", describe r.cacheWritebackAndInvalidateCapable),
     ("cxl_reset_capable", describe r.cxlResetCapable),
     ("cxl_reset_timeout", describe r.cxlResetTimeout),
     ("cxl_reset_mem_clr_capable", describe r.cxlResetMemClrCapable),
     ("multiple_logical_device", describe r.multipleLogicalDevice),
     ("viral_capable", describe r.viralCapable),
     ("pm_init_completion_reporting_capable", describe r.pmInitCompletionReportingCapable)] []⟩

/-- CXL Control register. -/
structure Control where
  (cacheEnable ioEnable memEnable : Bool)
  (cacheSfCoverage cacheSfGranularity : Int)
  (cacheCleanEviction viralEnable : Bool)
  deriving DecidableEq, Repr

/-- The register with the value `w`. -/
def Control.ofWord (w : Nat) : Control where
  cacheEnable := flag w 0
  ioEnable := flag w 1
  memEnable := flag w 2
  cacheSfCoverage := field w 3 5
  cacheSfGranularity := field w 8 3
  cacheCleanEviction := flag w 11
  viralEnable := flag w 14

/-- The number of bytes that the snoop filter covers; none if there is no filter. -/
def Control.snoopFilterBytes (r : Control) : Except Undefined Nat :=
  if r.cacheSfCoverage = 0 then .ok 0 else Code.powerOfTwo (r.cacheSfCoverage + 15)

instance : Describe Control :=
  ⟨fun r => .record
    [("cache_enable", describe r.cacheEnable), ("io_enable", describe r.ioEnable),
     ("mem_enable", describe r.memEnable), ("cache_sf_coverage", describe r.cacheSfCoverage),
     ("cache_sf_granularity", describe r.cacheSfGranularity),
     ("cache_clean_eviction", describe r.cacheCleanEviction),
     ("viral_enable", describe r.viralEnable)]
    [("snoop_filter_bytes", describe r.snoopFilterBytes)]⟩

/-- CXL Status register. -/
structure Status where
  viralStatus : Bool
  deriving DecidableEq, Repr

/-- The register with the value `w`. -/
def Status.ofWord (w : Nat) : Status where
  viralStatus := flag w 14

instance : Describe Status :=
  ⟨fun r => .record
    [("viral_status", describe r.viralStatus)] []⟩

/-- CXL Control2 register. -/
structure Control2 where
  (disableCaching initiateCacheWriteBackAndInvalidation initiateCxlReset : Bool)
  cxlResetMemClrEnable : Bool
  deriving DecidableEq, Repr

/-- The register with the value `w`. -/
def Control2.ofWord (w : Nat) : Control2 where
  disableCaching := flag w 0
  initiateCacheWriteBackAndInvalidation := flag w 1
  initiateCxlReset := flag w 2
  cxlResetMemClrEnable := flag w 3

instance : Describe Control2 :=
  ⟨fun r => .record
    [("disable_caching", describe r.disableCaching),
     ("initiate_cache_write_back_and_invalidation",
      describe r.initiateCacheWriteBackAndInvalidation),
     ("initiate_cxl_reset", describe r.initiateCxlReset),
     ("cxl_reset_mem_clr_enable", describe r.cxlResetMemClrEnable)] []⟩

/-- CXL Status2 register. -/
structure Status2 where
  (cacheInvalid cxlResetComplete cxlResetError powerManagementInitializationComplete : Bool)
  deriving DecidableEq, Repr

/-- The register with the value `w`. -/
def Status2.ofWord (w : Nat) : Status2 where
  cacheInvalid := flag w 0
  cxlResetComplete := flag w 1
  cxlResetError := flag w 2
  powerManagementInitializationComplete := flag w 15

instance : Describe Status2 :=
  ⟨fun r => .record
    [("cache_invalid", describe r.cacheInvalid),
     ("cxl_reset_complete", describe r.cxlResetComplete),
     ("cxl_reset_error", describe r.cxlResetError),
     ("power_management_initialization_complete",
      describe r.powerManagementInitializationComplete)] []⟩

/-- CXL Capability2 register. -/
structure Capability2 where
  (cacheSizeUnit cacheSize : Nat)
  deriving DecidableEq, Repr

/-- The register with the value `w`. -/
def Capability2.ofWord (w : Nat) : Capability2 where
  cacheSizeUnit := field w 0 4
  cacheSize := field w 8 8

instance : Describe Capability2 :=
  ⟨fun r => .record
    [("cache_size_unit", describe r.cacheSizeUnit), ("cache_size", describe r.cacheSize)] []⟩

/-! ## Memory ranges -/

/-- The address or size whose upper word is `high` and whose lower word is `low`; of
the lower word only the upper four bits belong to it. -/
def rangeValue (high low : Nat) : Nat :=
  high <<< 32 ||| field low 28 4 <<< 28

/-- Size and attributes of a memory range. -/
structure RangeSize where
  (memoryInfoValid memoryActive : Bool)
  (mediaType memoryClass desiredInterleave memoryActiveTimeout memorySize : Nat)
  deriving DecidableEq, Repr

/-- The registers with the values `high` and `low`. -/
def RangeSize.ofWords (high low : Nat) : RangeSize where
  memoryInfoValid := flag low 0
  memoryActive := flag low 1
  mediaType := field low 2 3
  memoryClass := field low 5 3
  desiredInterleave := field low 8 5
  memoryActiveTimeout := field low 13 3
  memorySize := rangeValue high low

instance : Describe RangeSize :=
  ⟨fun r => .record
    [("memory_info_valid", describe r.memoryInfoValid),
     ("memory_active", describe r.memoryActive), ("media_type", describe r.mediaType),
     ("memory_class", describe r.memoryClass),
     ("desired_interleave", describe r.desiredInterleave),
     ("memory_active_timeout", describe r.memoryActiveTimeout),
     ("memory_size", describe r.memorySize)] []⟩

/-! ## The device -/

/-- The registers of a device. -/
structure Device where
  cxlCapability : Capability
  cxlControl : Control
  cxlStatus : Status
  cxlControl2 : Control2
  cxlStatus2 : Status2
  configLock : Bool
  cxlCapability2 : Capability2
  range1Size : RangeSize
  range1Base : Nat
  range2Size : RangeSize
  range2Base : Nat
  deriving DecidableEq, Repr

/-- Reads the registers of a device.  Each range has four words, the upper half of
a value before the lower one. -/
def Device.decode (payload : Bytes) : Except Fault Device :=
  payload.require "PCIe DVSEC for CXL Device" 46 fun p => .ok {
    cxlCapability := .ofWord (p.u16 0)
    cxlControl := .ofWord (p.u16 2)
    cxlStatus := .ofWord (p.u16 4)
    cxlControl2 := .ofWord (p.u16 6)
    cxlStatus2 := .ofWord (p.u16 8)
    configLock := flag (p.u16 10) 0
    cxlCapability2 := .ofWord (p.u16 12)
    range1Size := .ofWords (p.u32 14) (p.u32 18)
    range1Base := rangeValue (p.u32 22) (p.u32 26)
    range2Size := .ofWords (p.u32 30) (p.u32 34)
    range2Base := rangeValue (p.u32 38) (p.u32 42) }

instance : Describe Device :=
  ⟨fun r => .record
    [("cxl_capability", describe r.cxlCapability), ("cxl_control", describe r.cxlControl),
     ("cxl_status", describe r.cxlStatus), ("cxl_control2", describe r.cxlControl2),
     ("cxl_status2", describe r.cxlStatus2), ("config_lock", describe r.configLock),
     ("cxl_capability2", describe r.cxlCapability2), ("range_1_size", describe r.range1Size),
     ("range_1_base", describe r.range1Base), ("range_2_size", describe r.range2Size),
     ("range_2_base", describe r.range2Base)] []⟩

/-- The name of the structure with an identifier. -/
def structureName (id : Int) : String :=
  match id with
  | 0x00 => "pcie_dvsec_for_cxl_device"
  | 0x02 => "non_cxl_function_map"
  | 0x03 => "cxl_extensions_for_ports"
  | 0x04 => "gpf_for_cxl_ports"
  | 0x05 => "gpf_for_cxl_devices"
  | 0x07 => "pcie_dvsec_for_flex_bus_port"
  | 0x08 => "register_locator"
  | 0x09 => "mld"
  | 0x0A => "pcie_dvsec_for_test_capability"
  | _ => "undefined"

end Cxl

/-- A structure of Compute Express Link. -/
structure Cxl where
  dvsecId : Int
  device : Option Cxl.Device
  deriving DecidableEq, Repr

namespace Cxl

/-- The name of the structure. -/
def name (c : Cxl) : String :=
  structureName c.dvsecId

/-- The identifier of the structure that describes a device. -/
def deviceId : Int := 0

/-- Reads the structure with an identifier. -/
def decode (payload : Bytes) (dvsecId : Int) : Except Fault Cxl :=
  if dvsecId = deviceId then (Device.decode payload).map fun device => { dvsecId, device }
  else .ok { dvsecId, device := none }

end Cxl

instance : Describe Cxl :=
  ⟨fun r => .record
    [("structure", describe r.name), ("dvsec_id", describe r.dvsecId),
     ("device", describe r.device)] []⟩

end ConfigSpace
