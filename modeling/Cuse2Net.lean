import Cuse2Net.Lib.Bytes
import Cuse2Net.Lib.Layout
import Cuse2Net.Lib.ByteStream
import Cuse2Net.Lib.Transition
import Cuse2Net.IoctlFfi.Number
import Cuse2Net.Proto.Basic
import Cuse2Net.Proto.Io
import Cuse2Net.Proto.Ioctl
import Cuse2Net.Proto.IoctlRelay
import Cuse2Net.Proto.Request
import Cuse2Net.Proto.Response
import Cuse2Net.Realdev.Ioctl
import Cuse2Net.Realdev.IoctlBuffer
import Cuse2Net.Lib.FifoService
import Cuse2Net.Realdev.ReadQueue
import Cuse2Net.Realdev.ReadFifo
import Cuse2Net.Realdev.ReadInterrupt
import Cuse2Net.Lib.RwLock
import Cuse2Net.Realdev.PollWorker
import Cuse2Net.Realdev.Session
import Cuse2Net.Realdev.ReadProgress
import Cuse2Net.Virtdev.Device
import Cuse2Net.Virtdev.RequestTable
import Cuse2Net.Virtdev.Registry
import Cuse2Net.Virtdev.RegistryServed
import Cuse2Net.Proto.RequestGrammar
import Cuse2Net.Virtdev.ResponseFraming
import Cuse2Net.Lib.BitMask
import Cuse2Net.Lib.OneShot
import Cuse2Net.Realdev.PollNotify
import Cuse2Net.Relay.Limits
import Cuse2Net.Realdev.PollLock
import Cuse2Net.Lib.Ledger
import Cuse2Net.Virtdev.AnswerHandling
import Cuse2Net.Realdev.Server
import Cuse2Net.Relay.Outcome
import Cuse2Net.IoctlFfi.BitGeometry
import Cuse2Net.Cuse.Ffi
import Cuse2Net.Virtdev.IoctlRetry
import Cuse2Net.Proto.IoctlInt
import Cuse2Net.Realdev.PollInterest
import Cuse2Net.Virtdev.IoctlDispatch
import Cuse2Net.Realdev.ReadWakeup
import Cuse2Net.Realdev.SyncPipe
import Cuse2Net.Proto.ExactReceive
import Cuse2Net.Cuse.OpIn
import Cuse2Net.Realdev.Responses
import Cuse2Net.Relay.Conversation
import Cuse2Net.Relay.Delivery
import Cuse2Net.Relay.KernelReplies
import Cuse2Net.Relay.DataOrder
import Cuse2Net.Relay.Opening
import Cuse2Net.Relay.Wakeups
import Cuse2Net.Lib.Books
import Cuse2Net.Virtdev.Process
import Cuse2Net.Virtdev.ProcessReplies
