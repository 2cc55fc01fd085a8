import TeaVpn2.Lib.Chain
import TeaVpn2.Lib.Prog
import TeaVpn2.Lib.Ledger
import TeaVpn2.Lib.Schedule
import TeaVpn2.Lib.Settings
import TeaVpn2.Lib.Shell
import TeaVpn2.Lib.Strip
import TeaVpn2.Lib.Lines
import TeaVpn2.Model.Bytes
import TeaVpn2.Model.Packet
import TeaVpn2.Model.Auth
import TeaVpn2.Model.Config
import TeaVpn2.Model.Allocator
import TeaVpn2.Model.Strtrim
import TeaVpn2.Model.Inih
import TeaVpn2.Model.Stack
import TeaVpn2.Model.State
import TeaVpn2.Model.Session
import TeaVpn2.Program.Ops
import TeaVpn2.Program.Server
import TeaVpn2.Program.System
import TeaVpn2.Program.EventLoop
import TeaVpn2.Program.Client
import TeaVpn2.Program.ClientLoop
import TeaVpn2.Program.ClientTimer
import TeaVpn2.Program.Iface
import TeaVpn2.Program.Workers
import TeaVpn2.Program.Entry
import TeaVpn2.Program.Startup
import TeaVpn2.Program.Files
import TeaVpn2.Program.Teardown
import TeaVpn2.Program.Vpn
import TeaVpn2.Analysis.SessionMap
import TeaVpn2.Analysis.SessionTable
import TeaVpn2.Analysis.MapRefinement
import TeaVpn2.Analysis.SessionProtocol
import TeaVpn2.Analysis.HandlerOps
import TeaVpn2.Analysis.SlotConservation
import TeaVpn2.Analysis.Buckets
import TeaVpn2.Analysis.ReplyLanguage
import TeaVpn2.Analysis.LifeCycle
import TeaVpn2.Analysis.Isolation
import TeaVpn2.Analysis.FreeSlots
import TeaVpn2.Analysis.TunInjection
import TeaVpn2.Analysis.Survival
import TeaVpn2.Analysis.Dispatch
import TeaVpn2.Analysis.RouteMap
import TeaVpn2.Analysis.Unicast
import TeaVpn2.Analysis.Races
import TeaVpn2.Analysis.Leftover
import TeaVpn2.Analysis.UserFiles
import TeaVpn2.Analysis.Handshake
import TeaVpn2.Analysis.ControlPackets
import TeaVpn2.Analysis.Tunnel
import TeaVpn2.Analysis.EndpointView
import TeaVpn2.Analysis.ClientPhases
import TeaVpn2.Analysis.Network
import TeaVpn2.Analysis.Reconnect
import TeaVpn2.Analysis.Retries
import TeaVpn2.Analysis.ServerSends
import TeaVpn2.Analysis.ClientSends
import TeaVpn2.Analysis.Vpn
import TeaVpn2.Analysis.ShellQuoting
import TeaVpn2.Analysis.Netmask
import TeaVpn2.Analysis.IfaceTrace
import TeaVpn2.Analysis.IfaceBuffers
import TeaVpn2.Analysis.IfaceUndo
import TeaVpn2.Analysis.ShellCommands
import TeaVpn2.Analysis.Broadcast
import TeaVpn2.Analysis.Emergency
import TeaVpn2.Analysis.WorkerLoops
import TeaVpn2.Analysis.Teardown
import TeaVpn2.Analysis.SilentServer
import TeaVpn2.Analysis.Activity
import TeaVpn2.Analysis.Reaper
import TeaVpn2.Analysis.Sweeps
import TeaVpn2.Analysis.Silence
import TeaVpn2.Analysis.Members
import TeaVpn2.Analysis.StackRefinement
import TeaVpn2.Analysis.Allocator
import TeaVpn2.Analysis.Descriptors
import TeaVpn2.Analysis.Config
import TeaVpn2.Analysis.NumericSettings
import TeaVpn2.Analysis.Trimming
import TeaVpn2.Analysis.IniFormat
import TeaVpn2.Analysis.IniRoundTrip
import TeaVpn2.Analysis.SavedFiles
