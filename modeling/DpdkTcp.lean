import DpdkTcp.Lib.Serial
import DpdkTcp.Lib.RefCount
import DpdkTcp.Lib.Run
import DpdkTcp.Lib.Slice
import DpdkTcp.Lib.Cells
import DpdkTcp.Lib.Homes
import DpdkTcp.Lib.Intervals
import DpdkTcp.Lib.Fusion
import DpdkTcp.Lib.Places
import DpdkTcp.Lib.Lanes
import DpdkTcp.Lib.Medium
import DpdkTcp.Lib.Pace
import DpdkTcp.Model.Seq
import DpdkTcp.Model.Wire
import DpdkTcp.Model.RxPool
import DpdkTcp.Model.Reassembly
import DpdkTcp.Model.Loss
import DpdkTcp.Model.TimerWheel
import DpdkTcp.Model.Conn
import DpdkTcp.Model.Input
import DpdkTcp.Model.Events
import DpdkTcp.Model.Output
import DpdkTcp.Model.Transmit
import DpdkTcp.Model.Engine
import DpdkTcp.Model.Host
import DpdkTcp.Model.PublicTimer
import DpdkTcp.Model.Poll
import DpdkTcp.Model.Ip
import DpdkTcp.Input.Stages
import DpdkTcp.Input.Known
import DpdkTcp.Input.Accept
import DpdkTcp.Input.Opened
import DpdkTcp.Input.Reject
import DpdkTcp.Receive.Append
import DpdkTcp.Receive.Reorder
import DpdkTcp.Receive.Overlap
import DpdkTcp.Receive.Deliver
import DpdkTcp.Receive.Stream
import DpdkTcp.Receive.Integrity
import DpdkTcp.Receive.Grow
import DpdkTcp.Receive.Conserve
import DpdkTcp.Receive.Paws
import DpdkTcp.Lifecycle.Dispatch
import DpdkTcp.Send.Window
import DpdkTcp.Send.Transmit
import DpdkTcp.Send.Failure
import DpdkTcp.Send.Kept
import DpdkTcp.Send.Segment
import DpdkTcp.Send.Stash
import DpdkTcp.Send.Step
import DpdkTcp.Send.Acked
import DpdkTcp.Window.Edits
import DpdkTcp.Window.Advert
import DpdkTcp.Lifecycle.Clamped
import DpdkTcp.Window.Honour
import DpdkTcp.Window.Edge
import DpdkTcp.Window.Spread
import DpdkTcp.Window.Unread
import DpdkTcp.Route.Tuples
import DpdkTcp.Route.Frames
import DpdkTcp.Lifecycle.Machine
import DpdkTcp.Lifecycle.Live
import DpdkTcp.Lifecycle.FinAck
import DpdkTcp.Lifecycle.Tell
import DpdkTcp.Lifecycle.Story
import DpdkTcp.Lifecycle.Chapters
import DpdkTcp.Lifecycle.Order
import DpdkTcp.Send.Slack
import DpdkTcp.Send.Refs
import DpdkTcp.Send.Balance
import DpdkTcp.Pool.Windows
import DpdkTcp.Pool.Held
import DpdkTcp.Pool.Rebook
import DpdkTcp.Pool.Conserve
import DpdkTcp.Pool.References
import DpdkTcp.Handshake.Options
import DpdkTcp.Model.Link
import DpdkTcp.Model.Arp
import DpdkTcp.Model.Icmp
import DpdkTcp.Model.Node
import DpdkTcp.Model.Server
import DpdkTcp.Window.Tidy
import DpdkTcp.Route.Shape
import DpdkTcp.Lifecycle.Final
import DpdkTcp.Wakeup.Latch
import DpdkTcp.Wakeup.Refusal
import DpdkTcp.Wakeup.Notice
import DpdkTcp.Wakeup.Wake
import DpdkTcp.Timers.Wheel
import DpdkTcp.Timers.Steps
import DpdkTcp.Timers.Turns
import DpdkTcp.Timers.Owned
import DpdkTcp.Timers.Runs
import DpdkTcp.Timers.Punctual
import DpdkTcp.Timers.Custody
import DpdkTcp.Lifecycle.Audience
import DpdkTcp.Lifecycle.Handles
import DpdkTcp.Closing.PeerFin
import DpdkTcp.Handshake.Stray
import DpdkTcp.Reorder.Drain
import DpdkTcp.Reorder.Insert
import DpdkTcp.Send.Reselect
import DpdkTcp.Send.Marks
import DpdkTcp.Send.LeftEdge
import DpdkTcp.Send.Cut
import DpdkTcp.Send.Contract
import DpdkTcp.Send.Mss
import DpdkTcp.Closing.BlackHole
import DpdkTcp.Lifecycle.Deeds
import DpdkTcp.Lifecycle.Carry
import DpdkTcp.Sack.Scoreboard
import DpdkTcp.Sack.Credit
import DpdkTcp.Closing.TimeWait
import DpdkTcp.Lib.Tickets
import DpdkTcp.Timers.ProbeTimer
import DpdkTcp.Timers.Probes
import DpdkTcp.Timers.Spared
import DpdkTcp.Timers.Running
import DpdkTcp.Send.Timeout
import DpdkTcp.Timers.Watched
import DpdkTcp.Send.Flight
import DpdkTcp.Send.Coverage
import DpdkTcp.Send.Exposed
import DpdkTcp.Server.Handshake
import DpdkTcp.Server.Waiting
import DpdkTcp.Server.Beside
import DpdkTcp.Server.SynAck
import DpdkTcp.Server.Slots
import DpdkTcp.Server.Listen
import DpdkTcp.Codec.Encode
import DpdkTcp.Codec.Decode
import DpdkTcp.Codec.RoundTrip
import DpdkTcp.Model.OptionScan
import DpdkTcp.Codec.Grammar
import DpdkTcp.Lib.OnesComplement
import DpdkTcp.Model.Checksum
import DpdkTcp.Wire.Checksum
import DpdkTcp.Wire.Verify
import DpdkTcp.Wire.Layout
import DpdkTcp.Wire.Offload
import DpdkTcp.Wire.FrameTrip
import DpdkTcp.Neighbour.Packets
import DpdkTcp.Neighbour.Refusal
import DpdkTcp.Neighbour.Lan
import DpdkTcp.Neighbour.Pace
import DpdkTcp.Neighbour.PathMtu
import DpdkTcp.Send.Rack
import DpdkTcp.Route.Table
import DpdkTcp.Receive.Readable
import DpdkTcp.Lib.Smoothing
import DpdkTcp.Model.Config
import DpdkTcp.Send.Rto
import DpdkTcp.Model.FaultInjector
import DpdkTcp.Pool.Faults
import DpdkTcp.Sack.Blocks
import DpdkTcp.Sack.Emitted
import DpdkTcp.Server.Scale
import DpdkTcp.Server.Peers
import DpdkTcp.Timers.Offsets
import DpdkTcp.Closing.Flags
import DpdkTcp.Send.Handed
import DpdkTcp.Send.Sequence
import DpdkTcp.Send.Overtake
import DpdkTcp.Model.Driver
import DpdkTcp.Send.Flow
import DpdkTcp.Send.Calm
import DpdkTcp.Send.Faithful
import DpdkTcp.Send.NewData
import DpdkTcp.Send.Integrity
import DpdkTcp.Send.Framing
import DpdkTcp.Path.Arrival
import DpdkTcp.Path.Inbox
import DpdkTcp.Path.Network
import DpdkTcp.Send.Recover
import DpdkTcp.Model.Iss
import DpdkTcp.Path.Reopen
