import DataQuality.Catalog.Message
import DataQuality.Command
import Std.Async.DNS
import Std.Async.TCP
import Std.Time

/-!
# The program

Carries out a command line on the files and the network of the machine. A run is a function of the
files that it starts from, the time, and what the server answers. So the files that it may touch
are read first; then it is carried out again and again, each time with one more answer of the
server, until it asks for no more; and in the end what it wrote, logged and printed is put out.
-/

namespace DataQuality.Main

open Std.Async Std.Net

/-- Takes what stands at a place of the machine into the files, if anything stands there. Only a
directory has something named by a point. -/
def copyPlace (files : Files) (place : List String) : IO Files := do
  let name := "/" ++ Files.nodeName place
  try
    let _ ← IO.FS.realPath (name ++ "/.")
    return files.put place .directory
  catch _ =>
    try
      let content ← IO.FS.readBinFile name
      return files.put place (.file content)
    catch _ => return files

/-- Takes everything on the way of a path into the files. -/
def copyPath (files : Files) (path : String) : IO Files :=
  (files.passed path).foldlM copyPlace files

def resultPath? (config : WorkflowConfig) : Option String :=
  match config.sink with
  | some sink => if sink.sinkType = SinkConfig.file then sink.filename else none
  | none => none

/-- Writes the files that are not as they were before. -/
def putOut (before after : Files) : IO Unit :=
  after.nodes.forM fun (name, node) =>
    match node with
    | .directory => return ()
    | .file content =>
        match before.nodes.lookup name with
        | some (.file old) =>
            if old.data = content.data then return () else IO.FS.writeBinFile ("/" ++ name) content
        | _ => IO.FS.writeBinFile ("/" ++ name) content

def socketAddress (port : UInt16) : IPAddr → SocketAddress
  | .v4 addr => .v4 { addr, port }
  | .v6 addr => .v6 { addr, port }

/-- Connects to the first of several addresses that lets it. -/
def connect (port : UInt16) : List IPAddr → IO (Option TCP.Socket.Client)
  | [] => return none
  | addr :: rest => do
      try
        let socket ← TCP.Socket.Client.mk
        (socket.connect (socketAddress port addr)).block
        return some socket
      catch _ => connect port rest

/-- All that comes before the connection ends or breaks off. -/
partial def receive (socket : TCP.Socket.Client) (received : ByteArray) : IO ByteArray := do
  let next ← try (socket.recv? 65536).block catch _ => pure none
  match next with
  | none => return received
  | some bytes => receive socket (received ++ bytes)

/-- The addresses of the host that a request goes to. Brackets around a host are not part of it. -/
def addressesOf (request : HttpRequest) (port : Nat) : IO (List IPAddr) := do
  let host := request.url.host.filter fun c => c != '[' && c != ']'
  try
    return (← (DNS.getAddrInfo (String.ofList host) (toString port)).block).toList
  catch _ => return []

/-- Sends a request and gives the answer; none if the server cannot be reached. Only connections
in clear are made. -/
def exchange (request : HttpRequest) : IO (Option HttpAnswer) := do
  if request.url.secure then return none
  let port := request.url.port.getD (Url.defaultPort false)
  match ← connect port.toUInt16 (← addressesOf request port) with
  | none => return none
  | some socket =>
      try
        (socket.send request.message.toUTF8).block
        let bytes ← receive socket ByteArray.empty
        return some (HttpAnswer.ofBytes bytes.toList)
      catch _ => return some .drop

/-- The connection with all answers that an attempt asks for. An attempt tells which requests
were received on a connection. -/
partial def settle (attempt : Connection → List HttpRequest) (answers : List HttpAnswer) :
    IO Connection := do
  match (attempt { answers })[answers.length]? with
  | none => return { answers }
  | some request =>
      match ← exchange request with
      | some answer => settle attempt (answers ++ [answer])
      | none => return { answers, reachable := false }

def filesFor (command : Command) : IO (Files × Option WorkflowConfig) := do
  let directory := (← IO.currentDir).toString
  let home := (Files.passed {} directory).getLast?.getD []
  let start ← copyPath (Files.startingAt home) directory
  match command.path? with
  | none => return (start, none)
  | some path =>
      let files ← copyPath start path
      match WorkflowConfig.fromFile files path with
      | .error _ => return (files, none)
      | .ok config =>
          match resultPath? config with
          | none => return (files, some config)
          | some result => return (← copyPath files result, some config)

def printJournal (now : Std.Time.Timestamp) (level : LogLevel) (journal : List LogLine) :
    IO Unit := do
  let time := (Std.Time.DateTime.ofTimestampWithZone now .UTC).toISO8601String
  for line in journal do
    if line.level ∈ level.shown then
      IO.println s!"{time} {line.level.name} {line.text}"

def carryOut (command : Command) : IO UInt32 := do
  let (files, config) ← filesFor command
  let now ← Std.Time.Timestamp.now
  let clock : Effect Station Int64 := pure (Int64.ofInt now.toSecondsSinceUnixEpoch.val)
  let perform (connection : Connection) : Command.Outcome × World Station :=
    command.perform Part.whole clock ⟨{ connection, desk := { files } }, []⟩
  let connection ← settle (fun connection => (perform connection).2.state.connection.received) []
  let (outcome, world) := perform connection
  putOut files world.state.desk.files
  printJournal now ((config.map (·.settings.loggerLevel)).getD .info) world.journal
  IO.print outcome.printed
  match outcome with
  | .done _ _ => pure ()
  | .failed message => IO.eprintln s!"Error: {message}"
  return outcome.code.toUInt32

end DataQuality.Main

/-- Carries out the command line; one that asks for nothing that there is gets the help. -/
def main (arguments : List String) : IO UInt32 := do
  match DataQuality.Command.parse? arguments with
  | some command => DataQuality.Main.carryOut command
  | none =>
      IO.eprint (DataQuality.Command.lines (DataQuality.Command.helpLines .commands))
      return DataQuality.Command.usageCode.toUInt32
