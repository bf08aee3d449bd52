import ConfigSpace.Bits
import ConfigSpace.Bits.Laws
import ConfigSpace.Bits.Layout
import ConfigSpace.Body
import ConfigSpace.Bytes
import ConfigSpace.Bytes.Laws
import ConfigSpace.Capability.AccessControl
import ConfigSpace.Capability.AddressSpaceId
import ConfigSpace.Capability.AddressTranslation
import ConfigSpace.Capability.AdvancedFeatures
import ConfigSpace.Capability.BridgeSubsystem
import ConfigSpace.Capability.Cxl
import ConfigSpace.Capability.DebugPort
import ConfigSpace.Capability.DesignatedVendor
import ConfigSpace.Capability.ErrorReporting
import ConfigSpace.Capability.HyperTransport
import ConfigSpace.Capability.LatencyTolerance
import ConfigSpace.Capability.Msi
import ConfigSpace.Capability.MsiX
import ConfigSpace.Capability.PageRequest
import ConfigSpace.Capability.PciExpress
import ConfigSpace.Capability.PmSubstates
import ConfigSpace.Capability.PortContainment
import ConfigSpace.Capability.PowerBudgeting
import ConfigSpace.Capability.PowerManagement
import ConfigSpace.Capability.ResizableBar
import ConfigSpace.Capability.RoutingId
import ConfigSpace.Capability.Sata
import ConfigSpace.Capability.SecondaryPciExpress
import ConfigSpace.Capability.SerialNumber
import ConfigSpace.Capability.SlotIdentification
import ConfigSpace.Capability.TimeMeasurement
import ConfigSpace.Capability.TphRequester
import ConfigSpace.Capability.VendorExtended
import ConfigSpace.Capability.VendorSpecific
import ConfigSpace.Capability.Virtio
import ConfigSpace.Capability.VirtualChannel
import ConfigSpace.Capability.VitalProductData
import ConfigSpace.Cursor
import ConfigSpace.Decoding
import ConfigSpace.Description
import ConfigSpace.Dispatcher
import ConfigSpace.Encoding
import ConfigSpace.Error
import ConfigSpace.Header
import ConfigSpace.Identifier
import ConfigSpace.Listing
import ConfigSpace.Log
import ConfigSpace.Options
import ConfigSpace.Payload
import ConfigSpace.Proofs.BarSizes
import ConfigSpace.Proofs.CountedTables
import ConfigSpace.Proofs.CursorLaws
import ConfigSpace.Proofs.CxlDevice
import ConfigSpace.Proofs.DeclaredLength
import ConfigSpace.Proofs.DecodeErrors
import ConfigSpace.Proofs.Demands
import ConfigSpace.Proofs.DerivedValues
import ConfigSpace.Proofs.DeviceIdentity
import ConfigSpace.Proofs.DispatchChains
import ConfigSpace.Proofs.EgressControl
import ConfigSpace.Proofs.ErrorSections
import ConfigSpace.Proofs.EventTrace
import ConfigSpace.Proofs.ExtendedWalk
import ConfigSpace.Proofs.FailFast
import ConfigSpace.Proofs.FixedFormats
import ConfigSpace.Proofs.Frame
import ConfigSpace.Proofs.GrowingPayload
import ConfigSpace.Proofs.HeadersRead
import ConfigSpace.Proofs.InterruptLayouts
import ConfigSpace.Proofs.Isolation
import ConfigSpace.Proofs.KeptBits
import ConfigSpace.Proofs.KeptVerbatim
import ConfigSpace.Proofs.LazyRuns
import ConfigSpace.Proofs.LegacyWalk
import ConfigSpace.Proofs.LinkInterfaces
import ConfigSpace.Proofs.Orbit
import ConfigSpace.Proofs.Packing
import ConfigSpace.Proofs.PayloadSpans
import ConfigSpace.Proofs.PciExpressRegisters
import ConfigSpace.Proofs.Reading
import ConfigSpace.Proofs.RegisterBlocks
import ConfigSpace.Proofs.RegisterFields
import ConfigSpace.Proofs.Requests
import ConfigSpace.Proofs.RootOffsets
import ConfigSpace.Proofs.RunInvariant
import ConfigSpace.Proofs.SessionInvariant
import ConfigSpace.Proofs.SlotSet
import ConfigSpace.Proofs.StrictWalk
import ConfigSpace.Proofs.Truncation
import ConfigSpace.Proofs.VendorDispatch
import ConfigSpace.Proofs.WholeDump
import ConfigSpace.Proofs.Writing
import ConfigSpace.Proofs.WrittenList
import ConfigSpace.Sequence
import ConfigSpace.Session
import ConfigSpace.Text.Hex
import ConfigSpace.Text.Hex.Laws
import ConfigSpace.Text.Switch
import ConfigSpace.Walk
import ConfigSpace.Walk.Record
import ConfigSpace.Walk.Run
import ConfigSpace.Walk.Visited
