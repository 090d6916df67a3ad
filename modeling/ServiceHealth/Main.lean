import ServiceHealth.Command.Program
import ServiceHealth.Http.Wire
import Std.Async.DNS
import Std.Async.TCP
import Std.Async.Timer

/-!
# The executable

The outer layer: it looks at the files and the environment, carries out an
interaction over sockets and the standard output, and ends with the exit status.
-/

namespace ServiceHealth.Shell

open Http (Call Delivery Fault Response)
open Std.Async (Async)
open Std.Async.TCP.Socket (Client)

/-! ## Files and environment -/

/-- The number of an error of the operating system, which may be given with a minus sign. -/
def errorNumber (code : UInt32) : Nat :=
  if code.toNat < 2147483648 then code.toNat else (0 - code).toNat

/-- The fault that an error of the operating system stands for. -/
def faultOf : IO.Error → FileFault
  | .noFileOrDirectory .. => .missing
  | .inappropriateType _ code _ => if errorNumber code = 20 then .notDirectory else .directory
  | .invalidArgument _ code _ =>
    if errorNumber code = 36 then .tooLong else .stated "Invalid argument (os error 22)"
  | .permissionDenied .. => .stated "Permission denied (os error 13)"
  | error => .stated (toString error)

/-- Reads the bytes at a path. -/
def readBytes (path : String) : IO (Except FileFault (List UInt8)) := do
  try
    let bytes ← IO.FS.readBinFile path
    return .ok bytes.toList
  catch error => return .error (faultOf error)

/-- Looks at what is at a path. -/
def readNode (path : String) : IO Node := do
  if path.toList.contains (Char.ofNat 0) then return .absent .zeroChar
  try
    let place := (⟨path, ""⟩ : IO.FS.DirEntry).root
    let metadata ← place.metadata
    match metadata.type with
    | .dir =>
      try
        let entries ← place.readDir
        return .directory (.ok (entries.toList.map (·.fileName)))
      catch error => return .directory (.error (toString error))
    | .file => return .file (← readBytes path)
    | _ => return .special (← readBytes path)
  catch error => return .absent (faultOf error)

/-- Looks at paths, and at the feature files in directories among them. -/
def readNodes (paths : List String) : IO (List (String × Node)) := do
  let mut nodes := []
  for path in paths do
    let node ← readNode path
    nodes := (path, node) :: nodes
    if let .directory (.ok names) := node then
      for name in names.filter Feature.isFeatureName do
        let inner := Path.join path name
        nodes := (inner, ← readNode inner) :: nodes
  return nodes

/-- Opens the log file of an invocation before anything is looked at; the fault is why it
cannot be opened. -/
def openLog (invocation : Invocation) : IO (Option FileFault) := do
  match invocation.logFile with
  | none => return none
  | some path =>
    try
      let _ ← IO.FS.Handle.mk path .append
      return none
    catch error => return some (faultOf error)

/-- The files that a command line makes the program look at. -/
def readFiles (environment : Environment) (arguments : List String) : IO FileSystem := do
  match Invocation.read arguments with
  | .error _ => return ⟨fun _ => .absent .missing, fun _ => .error .missing⟩
  | .ok invocation =>
    let fault ← openLog invocation
    let nodes ← readNodes (invocation.command.pathsRead environment)
    let node path := (nodes.lookup path).getD (.absent .missing)
    return ⟨node, fun _ => fault.elim (.ok node) .error⟩

/-- The environment of the program. -/
def readEnvironment : IO Environment := do
  let home ← IO.getEnv "HOME"
  let configHome ← IO.getEnv "XDG_CONFIG_HOME"
  let serverPort ← IO.getEnv "SERVER_PORT"
  return ⟨home.filter (· != ""), configHome, serverPort.map Text.Utf8.encode⟩

/-- Whether the report is printed in colour. -/
def readColour : IO Bool := do
  let terminal ← (← IO.getStdout).isTty
  return Report.wantsColour terminal (← IO.getEnv "CLICOLOR_FORCE") (← IO.getEnv "NO_COLOR")
    (← IO.getEnv "CLICOLOR")

/-! ## Calls -/

instance : Inhabited Delivery := ⟨.answered ⟨200, [], []⟩⟩

/-- The address of a socket. -/
def socketAddress (address : Std.Net.IPAddr) (port : UInt16) : Std.Net.SocketAddress :=
  match address with
  | .v4 address => .v4 ⟨address, port⟩
  | .v6 address => .v6 ⟨address, port⟩

/-- The name of a host as it is looked up: an address loses its brackets. -/
def lookupName (host : String) : String :=
  String.ofList (host.toList.filter fun c => c != '[' && c != ']')

/-- Connects to the first address of a host that accepts a connection.  There are no safe
connections, so nothing accepts one for `https`. -/
def connect (url : Http.Url) : Async (Option Client) := do
  if url.scheme = .https then return none
  let addresses ←
    try Std.Async.DNS.getAddrInfo (lookupName url.host) ""
    catch _ => pure #[]
  for address in addresses do
    try
      let socket ← Client.mk
      socket.connect (socketAddress address url.portNumber.toUInt16)
      return some socket
    catch _ => pure ()
  return none

/-- How many bytes are received at once, at most. -/
def receiveSize : UInt64 := 65536

/-- Receives the response to a call.  What is behind the head of a redirect is not waited for.
Once the head of another response has come, the time limit is one for its body, which is noted
as what it is to be called if the time runs out. -/
def receive (asked : Http.Url) (late : IO.Ref Fault) (socket : Client) (call : Call) :
    Async (Except Fault Response) := do
  let mut bytes := ByteArray.empty
  let mut ended := false
  while !ended do
    match ← (try socket.recv? receiveSize catch _ => return none) with
    | none => ended := true
    | some more => bytes := bytes ++ more
    if let some head := Http.headIn? bytes.toList then
      let response : Response := ⟨head.status, head.fields, []⟩
      match call.react response with
      | .accept => late.set .stalled
      | _ => return .ok response
    if let some result := Http.received? asked call.method ended bytes.toList then
      return result
  return .error (.broken asked)

/-- Makes a call over a connection of its own. -/
def exchange (asked : Http.Url) (late : IO.Ref Fault) (call : Call) :
    Async (Except Fault Response) := do
  match ← connect call.url with
  | none => return .error (.refused asked)
  | some socket =>
    try
      socket.sendAll #[call.wire.toUTF8]
      receive asked late socket call
    catch _ => return .error (.broken asked)

/-- The longest time for which anything waits, in milliseconds. -/
def maxMillis : Nat := 1000000000000

/-- Waits for some milliseconds. -/
def sleep (millis : Nat) : Async Unit :=
  Std.Async.sleep (Std.Time.Millisecond.Offset.ofNat (min millis maxMillis))

/-- Makes a call, and those that it is redirected to, within its time limit. -/
def deliver (call : Call) : Async Delivery := do
  let late ← IO.mkRef (Fault.timedOut call.url)
  Async.race (Http.follow Call.react (exchange call.url late) Http.maxRedirects call) do
    sleep (1000 * call.timeoutSecs)
    return .failed (← late.get)

/-- Makes copies of a call at once. -/
def deliverTogether (count : Nat) (call : Call) : Async (Completion count) := do
  let finished ← IO.mkRef ([] : List Nat)
  let deliveries ← Async.concurrentlyAll <| Array.ofFn fun number : Fin count => do
    let delivery ← deliver call
    finished.modify (number.val :: ·)
    return delivery
  let order ← finished.get
  return Completion.ofOrder (fun number => deliveries[number.val]?.getD default) order.reverse

/-! ## The program -/

/-- Carries out an interaction. -/
def execute {α : Type} (colour : Bool) : Interaction α → IO α
  | .done result => return result
  | .send call next => do
    let delivery ← (deliver call).block
    execute colour (next delivery)
  | .sendTogether count call next => do
    let completion ← (deliverTogether count call).block
    execute colour (next completion)
  | .pause millis next => do
    (sleep millis).block
    execute colour next
  | .print entry next => do
    IO.print (entry.render colour)
    execute colour next

end ServiceHealth.Shell

/-- The program: carries out its command line. -/
def main (arguments : List String) : IO UInt32 := do
  let environment ← ServiceHealth.Shell.readEnvironment
  let files ← ServiceHealth.Shell.readFiles environment arguments
  let colour ← ServiceHealth.Shell.readColour
  let ending ← ServiceHealth.Shell.execute colour
    (ServiceHealth.program files environment arguments)
  (← IO.getStdout).flush
  for line in ending.errorLines do
    IO.eprintln line
  return ending.status.toUInt32
