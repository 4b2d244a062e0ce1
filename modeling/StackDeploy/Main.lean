import StackDeploy.ChangeSet.Name
import StackDeploy.CommandLine.Program
import StackDeploy.Http.Wire
import Std.Async.DNS
import Std.Async.Signal
import Std.Async.TCP
import Std.Time.DateTime.Timestamp

/-!
# The command line program

The real world as the surroundings of the program: files on the disk, the environment of the
process, a connection for every request, the standard streams, the system's clocks and its interrupt
signal.
-/

namespace StackDeploy.Process

open Std.Async
open Std.Net

/-! ### Files and environment -/

/-- What an error of the system means for a file. -/
def fileError : IO.Error → FileError
  | .noFileOrDirectory _ _ _ => .missing
  | .inappropriateType _ code _ => if code = 20 then .notDirectory else .isDirectory
  | e => .other (toString e)

/-- The files on the disk. -/
def files : Files IO where
  contains path := do
    try
      let _ ← IO.FS.realPath path
      return true
    catch _ => return false
  read path := do
    if path.toList.contains '\x00' then return .error .invalidPath
    try
      let bytes ← IO.FS.readBinFile path
      match Utf8.decode? bytes.toList with
      | some text => return .ok text
      | none => return .error .notText
    catch e => return .error (fileError e)

/-- The variables that the program looks at. -/
def watchedVariables : List String :=
  ["HOME", "STACKCTL_HOME", "STACKCTL_ENDPOINT", "STACKCTL_TOKEN", "CLICOLOR", "CLICOLOR_FORCE",
    "NO_COLOR"]

/-- The number of the user, from what the system tells about a process. -/
def user? (status : String) : Option String :=
  (status.splitOn "\n").findSome? fun line =>
    match line.splitOn "\t" with
    | "Uid:" :: user :: _ => some user
    | _ => none

/-- The home directory of a user, from the list of accounts. -/
def homeOf? (user accounts : String) : Option String :=
  (accounts.splitOn "\n").findSome? fun line =>
    match line.splitOn ":" with
    | [_, _, number, _, _, home, _] => if number = user && home ≠ "" then some home else none
    | _ => none

/-- The home directory of the account under which the process runs. -/
def accountHome : IO (Option String) := do
  try
    let status ← IO.FS.readFile "/proc/self/status"
    let accounts ← IO.FS.readFile "/etc/passwd"
    return (user? status).bind fun user => homeOf? user accounts
  catch _ => return none

/-- The environment of the process. -/
def environment : IO Environment := do
  let values ← watchedVariables.filterMapM fun name => do
    return (← IO.getEnv name).map fun value => (name, value)
  let lookup (name : String) := values.lookup name
  return {
    lookup
    workingDirectory := (← IO.currentDir).toString
    accountHome := ← accountHome }

/-! ### Connections -/

/-- The addresses of a host. -/
def addresses : Url.Host → IO (List IPAddr)
  | .name text => do
    let found ← (DNS.getAddrInfo (String.ofList text) "").block
    return found.toList
  | .ipv4 n =>
    let byte (i : Nat) : UInt8 := (n >>> (8 * i) % 256).toUInt8
    return [.v4 (IPv4Addr.ofParts (byte 3) (byte 2) (byte 1) (byte 0))]
  | .ipv6 pieces =>
    let piece (i : Nat) : UInt16 := (pieces[i]?.getD 0).toUInt16
    return [.v6 (IPv6Addr.ofParts (piece 0) (piece 1) (piece 2) (piece 3) (piece 4) (piece 5)
      (piece 6) (piece 7))]

/-- An address with a port. -/
def socketAddress (port : UInt16) : IPAddr → SocketAddress
  | .v4 addr => .v4 ⟨addr, port⟩
  | .v6 addr => .v6 ⟨addr, port⟩

/-- Connects to the first of some addresses that accepts. -/
def connect (port : UInt16) : List IPAddr → IO TCP.Socket.Client
  | [] => throw (IO.userError "no address for the host")
  | address :: rest => do
    let client ← TCP.Socket.Client.mk
    try
      (client.connect (socketAddress port address)).block
      return client
    catch e => if rest.isEmpty then throw e else connect port rest

/-- All bytes that come over a connection until its end. -/
partial def receiveAll (client : TCP.Socket.Client) (received : ByteArray) : IO ByteArray := do
  match ← (client.recv? 65536).block with
  | some bytes => receiveAll client (received ++ bytes)
  | none => return received

/-- The responses before the last one that are read over, at most. -/
def maxInterim : Nat := 100

/-- Sends a request over a connection of its own. -/
def send (request : HttpRequest) : IO (Except String HttpResponse) := do
  match request.url.authority with
  | none => return .error "the URL names no host"
  | some authority =>
    if request.url.scheme ≠ "http" then return .error "only plain connections are supported"
    try
      let port := authority.port.getD 80
      let client ← connect port.toUInt16 (← addresses authority.host)
      (client.send (ByteArray.mk request.bytes.toArray)).block
      let bytes ← receiveAll client .empty
      match HttpResponse.ofBytes? maxInterim bytes.toList with
      | some response => return .ok response
      | none => return .error "the response is not complete"
    catch e => return .error (toString e)

/-! ### Console and clock -/

/-- Writes a text to a stream. -/
def writeTo (stream : IO.FS.Stream) (text : String) : IO Written := do
  try
    stream.putStr text
    stream.flush
    return .ok ()
  catch e => return .error (toString e)

/-- The time of the system. -/
def now : IO Clock := do
  let timer ← IO.monoMsNow
  let nanoseconds := (← Std.Time.Timestamp.now).toNanosecondsSinceUnixEpoch.val
  let calendar := Instant.ofUnix? (nanoseconds / 1000000000) (nanoseconds % 1000000000).toNat
  return { timer, stopwatch := timer, calendar := calendar.getD .epoch }

/-- The wait for an interruption, which begins when somebody first looks for one. -/
abbrev Interruption := IO.Ref (Option (AsyncTask Int))

/-- Somebody asked the program to stop. -/
def interrupted (interruption : Interruption) : IO Bool := do
  match ← interruption.get with
  | some wait => IO.hasFinished wait
  | none =>
    let waiter ← Signal.Waiter.mk .sigint false
    interruption.set (some (← waiter.wait))
    return false

/-- An interruption was waited for, and came. -/
def wasInterrupted (interruption : Interruption) : IO Bool := do
  match ← interruption.get with
  | some wait => IO.hasFinished wait
  | none => return false

/-- The longest time in milliseconds in which an interruption is not noticed. -/
def slice : Nat := 20

/-- Sleeps up to a time, or up to an interruption. -/
partial def sleepUntil (interruption : Interruption) (deadline : Nat) : IO Unit := do
  let timer ← IO.monoMsNow
  if deadline ≤ timer || (← wasInterrupted interruption) then return
  IO.sleep (min slice (deadline - timer)).toUInt32
  sleepUntil interruption deadline

/-! ### The process -/

/-- The real world as the **surroundings** of the program. -/
def surroundings : IO (Surroundings IO) := do
  let stdout ← IO.getStdout
  let stderr ← IO.getStderr
  let interruption ← IO.mkRef none
  return {
    environment := ← environment
    files
    send
    write := writeTo stdout
    warn := fun text => do let _ ← writeTo stderr text
    isTerminal := ← stdout.isTty
    clock := now
    sleepUntil := sleepUntil interruption
    interrupted := interrupted interruption
    freshName := return changeSetName (← IO.getRandomBytes 16).toList
    turns := 1 <<< 62 }

end StackDeploy.Process

/-- Runs the program on the words after its name. -/
def main (words : List String) : IO UInt32 := do
  (← StackDeploy.Process.surroundings).run words
