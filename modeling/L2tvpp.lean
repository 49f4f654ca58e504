import L2tvpp.Lib.Bytes
import L2tvpp.Lib.OnesComplement
import L2tvpp.Lib.Pool
import L2tvpp.Lib.Dict
import L2tvpp.Lib.Run
import L2tvpp.Lib.Prog
import L2tvpp.Lib.Pattern
import L2tvpp.Lib.FindAll
import L2tvpp.Lib.Text
import L2tvpp.Lib.Words
import L2tvpp.Lib.Scan
import L2tvpp.Lib.Json
import L2tvpp.Lib.JsonRoundTrip
import L2tvpp.Lib.Queues
import L2tvpp.Lib.RoundRobin
import L2tvpp.Plugin.State
import L2tvpp.Plugin.Store
import L2tvpp.Plugin.Encap
import L2tvpp.Plugin.Route
import L2tvpp.Plugin.Calls
import L2tvpp.Plugin.Consistency
import L2tvpp.Plugin.Tables
import L2tvpp.Plugin.Cli
import L2tvpp.Plugin.RefCount
import L2tvpp.Plugin.Fixup
import L2tvpp.Plugin.EncapAccounting
import L2tvpp.Plugin.Stacking
import L2tvpp.Node.Buffer
import L2tvpp.Node.Header
import L2tvpp.Node.Input
import L2tvpp.Node.FlowHandoff
import L2tvpp.Node.EncapFastpath
import L2tvpp.Node.Decap
import L2tvpp.Node.FlowWalk
import L2tvpp.Node.FlowAffinity
import L2tvpp.Node.RoundTrip
import L2tvpp.Node.Checksum
import L2tvpp.Node.FastPath
import L2tvpp.Node.FastAdmission
import L2tvpp.Node.Padding
import L2tvpp.Node.HandoffControl
import L2tvpp.Node.FlowFrame
import L2tvpp.Node.Fragments
import L2tvpp.Node.QueueDepth
import L2tvpp.Node.InputFrame
import L2tvpp.Node.EncapCache
import L2tvpp.Node.Workers
import L2tvpp.Node.RxAccounting
import L2tvpp.Node.Delivery
import L2tvpp.Node.Encapsulation
import L2tvpp.Node.FlowOrder
import L2tvpp.Node.Spray
import L2tvpp.Node.Switches
import L2tvpp.Node.SwitchBoard
import L2tvpp.Syncd.Api
import L2tvpp.Syncd.Daemon
import L2tvpp.Syncd.Mirror
import L2tvpp.Syncd.Steps
import L2tvpp.Syncd.Reconcile
import L2tvpp.Syncd.SubscriberCache
import L2tvpp.Syncd.Parameters
import L2tvpp.Syncd.Restart
import L2tvpp.Syncd.Recovery
import L2tvpp.Syncd.Interfaces
import L2tvpp.Syncd.Adopt
import L2tvpp.Syncd.Adoption
import L2tvpp.Syncd.Raising
import L2tvpp.Syncd.BadSession
import L2tvpp.Syncd.Resume
import L2tvpp.Syncd.Interrupted
import L2tvpp.Syncd.Healing
import L2tvpp.Syncd.StateFile
import L2tvpp.Syncd.Effects
import L2tvpp.Syncd.Subscribers
import L2tvpp.Syncd.Downstream
import L2tvpp.Syncd.Loop
import L2tvpp.Syncd.Resync
import L2tvpp.Syncd.KernelText
import L2tvpp.Syncd.InterfaceLines
import L2tvpp.Syncd.KernelRoundTrip
import L2tvpp.Syncd.PppRoutes
import L2tvpp.Xdp.Steer
import L2tvpp.Xdp.CpuList
import L2tvpp.Xdp.Loader
import L2tvpp.Xdp.SteeredFrames
