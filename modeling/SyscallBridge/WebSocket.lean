import SyscallBridge.Turn

/-!
# Web sockets

A web socket is one side of a message channel, and remembers that it was closed.
-/

namespace SyscallBridge

structure WebSocket where
  channel : ChannelHandle
  closed : Bool := false
  deriving DecidableEq, Repr

namespace WebSocket

/-- The URLs that can be dialed. -/
def schemes : List String := ["ws://", "wss://"]

def canDial (url : String) : Bool := schemes.any fun scheme => url.startsWith scheme

/-- What a dial asks of the host. -/
def dial (url : String) : Except CallError Request :=
  if canDial url then .ok (.dialChannel url) else .error (.malformedAddress url)

def checkOpen (w : WebSocket) : Except CallError Unit :=
  if w.closed then .error (.invalidState "websocket is closed") else .ok ()

def send (w : WebSocket) (m : Message) : Except CallError Request := do
  w.checkOpen
  return .sendMessage w.channel m

def receive (w : WebSocket) : Except CallError Request := do
  w.checkOpen
  return .receiveMessage w.channel

/-- How a log shows a web socket. -/
def summary (w : WebSocket) : String :=
  "WebSocket \x7b url: " ++ Quoted.encode w.channel.url ++ ", closed: " ++
    (if w.closed then "true" else "false") ++ " \x7d"

def close (w : WebSocket) : WebSocket × List Effect :=
  if w.closed then (w, []) else ({ w with closed := true }, [.close w.channel.resource])

end WebSocket

namespace Message

/-- The bytes of a message, whichever kind it was sent as. -/
def bytes : Message → Bytes
  | text s => utf8Bytes s
  | binary bytes => bytes

/-- The text of a message; a binary one must hold UTF-8. -/
def textOf : Message → Except CallError String
  | text s => .ok s
  | binary bytes =>
    match Utf8.decode? bytes with
    | some s => .ok s
    | none => .error (.invalidArgument "binary message is not UTF-8")

end Message

end SyscallBridge
