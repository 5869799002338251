import Wisp.Lib.Transition
import Wisp.Lib.Epoch
import Wisp.Lib.Latest
import Wisp.Lib.Doorbell
import Wisp.Lib.Window
import Wisp.Lib.Descriptors
import Wisp.Lib.Line
import Wisp.Lib.Truncation
import Wisp.Lib.Fair
import Wisp.Lib.Custody
import Wisp.Lib.Channel
import Wisp.Protocol.Wire
import Wisp.Protocol.Codec
import Wisp.Shm.Ring
import Wisp.Shm.Display
import Wisp.Shm.Sample
import Wisp.Shm.Dmabuf
import Wisp.Session.Table
import Wisp.Session.Queue
import Wisp.Session.Position
import Wisp.Control.Plane
import Wisp.Control.Deadline
import Wisp.Control.Event
import Wisp.Control.Arbiter
import Wisp.Control.Arbitration
import Wisp.Control.Refinement
import Wisp.Control.Handlers
import Wisp.Control.Simulation
import Wisp.Control.Coherence
import Wisp.Control.History
import Wisp.Control.Observed
import Wisp.Control.Progress
import Wisp.Control.Fifo
import Wisp.Control.Isolation
import Wisp.Control.Accounting
import Wisp.Control.Promise
import Wisp.Control.Request
import Wisp.Control.Revocation
import Wisp.Control.Steady
import Wisp.Control.Unheard
import Wisp.Control.Vigil
import Wisp.Control.Connect
import Wisp.Socket.Framing
import Wisp.Socket.Link
import Wisp.Socket.Resync
import Wisp.Socket.Receive
import Wisp.Socket.Duplex
import Wisp.Admin.Plane
import Wisp.Admin.Rendezvous
import Wisp.Client.Context
import Wisp.Client.Grip
import Wisp.Client.Converse
import Wisp.Client.Connect
import Wisp.DataPlane.Loop
import Wisp.DataPlane.Signal
import Wisp.DataPlane.Tally
import Wisp.DataPlane.Sink
import Wisp.DataPlane.Image
import Wisp.DataPlane.Memory
import Wisp.Client.Gbm
import Wisp.Client.Holdings
import Wisp.Control.Modes
import Wisp.Control.Harvest
import Wisp.Control.Sockets
import Wisp.Control.Ownership
import Wisp.Control.PollLoop
import Wisp.Control.Serial
import Wisp.System.Process
import Wisp.System.Verdict
import Wisp.System.Connection
import Wisp.System.World
import Wisp.System.Stamp
import Wisp.System.Step
import Wisp.System.Grants
import Wisp.System.Served
import Wisp.System.Turn
import Wisp.System.Due
import Wisp.System.Agreement
import Wisp.System.Answer
import Wisp.System.Publish
import Wisp.System.Claim
import Wisp.System.Screen
import Wisp.System.Server
import Wisp.System.Threads
import Wisp.System.Conduct
import Wisp.System.Joined
import Wisp.System.Serial
import Wisp.System.Shutdown
import Wisp.System.Startup
import Wisp.System.Frames
import Wisp.Shm.Lock
