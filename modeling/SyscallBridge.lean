import SyscallBridge.Data.Fnv
import SyscallBridge.Instance.Console
import SyscallBridge.Session.Run
import SyscallBridge.Proofs.Descriptor.Closing
import SyscallBridge.Proofs.Instance.Order
import SyscallBridge.Proofs.Process.TempFiles
import SyscallBridge.Proofs.File.OpenTemps
import SyscallBridge.Proofs.Process.Handles
import SyscallBridge.Proofs.Process.OpenTemps
import SyscallBridge.Proofs.Socket.Endpoint
import SyscallBridge.Proofs.Instance.Calls
import SyscallBridge.Proofs.Instance.Overtaking
import SyscallBridge.Proofs.Instance.Creation
import SyscallBridge.Proofs.Instance.Refusal
import SyscallBridge.Proofs.Descriptor.Slots
import SyscallBridge.Proofs.File.Frame
import SyscallBridge.Proofs.Process.Descriptors
import SyscallBridge.Proofs.Process.Dialing
import SyscallBridge.Proofs.Host.Requests
import SyscallBridge.Proofs.Host.Run
import SyscallBridge.Proofs.Host.ByteStream
import SyscallBridge.Proofs.Socket.Calls
import SyscallBridge.Proofs.Socket.Failure
import SyscallBridge.Proofs.Socket.OwnName
import SyscallBridge.Proofs.Host.Inbox
import SyscallBridge.Proofs.Host.Waiting
import SyscallBridge.Proofs.Host.ClosedResources
import SyscallBridge.Proofs.Socket.AfterStop
import SyscallBridge.Proofs.Socket.StopUnderWay
import SyscallBridge.Proofs.Host.Channels
import SyscallBridge.Proofs.Host.Ends
import SyscallBridge.Proofs.Host.Ports
import SyscallBridge.Proofs.Host.Replies
import SyscallBridge.Proofs.Host.Delivery
import SyscallBridge.Proofs.Host.Openings
import SyscallBridge.Proofs.Host.LiveResources
import SyscallBridge.Proofs.Host.Arrivals
import SyscallBridge.Proofs.Host.Ledger
import SyscallBridge.Proofs.Socket.Asking
import SyscallBridge.Proofs.Process.Sockets
import SyscallBridge.Proofs.Process.SocketTurns
import SyscallBridge.Proofs.Hosted.Run
import SyscallBridge.Proofs.Hosted.Ownership
import SyscallBridge.Proofs.Hosted.Names
import SyscallBridge.Proofs.FileSystem.Apart
import SyscallBridge.Proofs.FileSystem.Walks
import SyscallBridge.Proofs.FileSystem.Linking
import SyscallBridge.Proofs.FileSystem.Directories
import SyscallBridge.Proofs.Process.Surroundings
import SyscallBridge.Proofs.Process.TempDirectory
import SyscallBridge.Proofs.Process.StatAndOpen
import SyscallBridge.Proofs.Host.Families
import SyscallBridge.Proofs.Socket.Families
import SyscallBridge.Proofs.Process.Families
import SyscallBridge.Proofs.Hosted.Families
import SyscallBridge.Proofs.FileSystem.Slashes
import SyscallBridge.Proofs.Process.FailedCalls
import SyscallBridge.Proofs.File.Refusal
import SyscallBridge.Proofs.File.Positions
import SyscallBridge.Proofs.File.Console
import SyscallBridge.Proofs.Descriptor.Numbers
import SyscallBridge.Proofs.Descriptor.Limit
import SyscallBridge.Proofs.File.Access
import SyscallBridge.Proofs.Process.AccessModes
import SyscallBridge.Proofs.File.Splitting
import SyscallBridge.Proofs.Address.WireForm
import SyscallBridge.Proofs.Socket.BoundText
import SyscallBridge.Proofs.Address.Dialed
import SyscallBridge.Proofs.Process.Resolving
import SyscallBridge.Proofs.Process.Connecting
import SyscallBridge.Proofs.Host.PickedPorts
import SyscallBridge.Proofs.Process.Variables
import SyscallBridge.Proofs.Socket.Conversation
