import Csyn.Lib.Automaton
import Csyn.Lib.ByteMemory
import Csyn.Lib.Counter
import Csyn.Lib.Countdown
import Csyn.Lib.Delimited
import Csyn.Lib.Fallible
import Csyn.Lib.LittleEndian
import Csyn.Lib.Throttle
import Csyn.Lib.Window
import Csyn.Lib.FlatBuffer
import Csyn.Lib.LatestValue
import Csyn.Lib.Wildcard
import Csyn.Lib.Spans
import Csyn.Lib.Tally
import Csyn.Lib.Scan
import Csyn.Topic
import Csyn.Registry
import Csyn.RegistryInit
import Csyn.TopicLookup
import Csyn.StoreSteps
import Csyn.StoreSequential
import Csyn.StoreInvariant
import Csyn.StoreHistory
import Csyn.TornSamples
import Csyn.CopyFailures
import Csyn.Poller
import Csyn.PollerInvariant
import Csyn.AtMostOnce
import Csyn.Codec
import Csyn.MocapFrames
import Csyn.InboundBridge
import Csyn.WholeSamples
import Csyn.OutboundPipeline
import Csyn.FinalUpdate
import Csyn.Contract
import Csyn.ZenohInput
import Csyn.ContractChecked
import Csyn.HandedOn
import Csyn.MocapArbitration
import Csyn.ZenohSession
import Csyn.NativeUdp
import Csyn.InboundDirection
import Csyn.WholeStructs
import Csyn.UdpFrames
import Csyn.UdpAddressing
import Csyn.Bridge
import Csyn.BridgeSteps
import Csyn.BridgeRefinement
import Csyn.BridgePublishers
import Csyn.BridgeProvenance
import Csyn.BridgeDirections
import Csyn.ZenohPut
import Csyn.CommandReplies
import Csyn.TransportSizes
import Csyn.FinitePoses
import Csyn.Vehicle
import Csyn.MocapSource
import Csyn.HostTypes
import Csyn.ContractWarning
import Csyn.ContractThrottles
import Csyn.ValueEncoding
import Csyn.KeyExpressions
import Csyn.McapPayload
import Csyn.McapFlatBuffer
import Csyn.Bag
import Csyn.BagFidelity
import Csyn.BagFailures
import Csyn.BagRecord
import Csyn.Graph
import Csyn.GraphSnapshot
import Csyn.GraphBuild
import Csyn.GraphIntegrity
import Csyn.GraphRates
import Csyn.AdminEntities
import Csyn.AdminDeclarations
import Csyn.AdminRoles
import Csyn.ShellWatch
import Csyn.WatchCommands
import Csyn.WatchRates
import Csyn.Link
import Csyn.LinkCarriers
import Csyn.BagProfile
import Csyn.BagPlay
import Csyn.BagReplay
import Csyn.RecordReplay
import Csyn.VehicleRestore
import Csyn.TransportThreads
import Csyn.ThreadRefinement
import Csyn.Boards
import Csyn.TopicCommands
import Csyn.TopicListening
import Csyn.GraphServer
import Csyn.GraphHistory
import Csyn.WatchSamples
import Csyn.TopicPub
import Csyn.BagInfo
import Csyn.BridgeMessages
import Csyn.VehicleHistory
