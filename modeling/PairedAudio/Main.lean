import PairedAudio.Program
import Std.Async.UDP
import Std.Sync.Mutex

/-! The server program on the network: it reads or creates the configuration file, opens the three
sockets, and lets two workers and the tone take turns at the server's state. What a turn does is
computed by the server; here its datagrams are sent and its lines are written. -/

set_option autoImplicit false

namespace PairedAudio.Main

open Capture (Tone)
open Cipher (Block IvSource)
open Std.Async.UDP (Socket)

/-- The number of a failure, which comes with either sign; a failure without one counts as an
input/output error. -/
def osError : IO.Error → OsError
  | .alreadyExists _ n _ | .otherError n _ | .resourceBusy n _ | .resourceVanished n _
  | .unsupportedOperation n _ | .hardwareFault n _ | .unsatisfiedConstraints n _
  | .illegalOperation n _ | .protocolError n _ | .timeExpired n _ | .interrupted _ n _
  | .noFileOrDirectory _ n _ | .invalidArgument _ n _ | .permissionDenied _ n _
  | .resourceExhausted _ n _ | .inappropriateType _ n _ | .noSuchThing _ n _ => ⟨n.toInt32.toInt.natAbs⟩
  | .unexpectedEof | .userError _ => ⟨5⟩

def attempt {α : Type} (action : IO α) : IO (Except OsError α) := do
  try
    return .ok (← action)
  catch e =>
    return .error (osError e)

def writeLog (lines : List Line) : IO Unit := lines.forM fun line => IO.eprintln line.render

/-- What stands at the path of the configuration file. A missing file is created here, so that the
place is known to take it or to refuse it. -/
def configPlace (random : Nat) : IO Config.Place := do
  match ← attempt (IO.FS.readBinFile Program.configPath) with
  | .ok bytes => return .file bytes.toList
  | .error e =>
    if e = .isDirectory then return .directory
    else if e ≠ .notFound then return .unreadable e
    else match (Config.loadOrCreate Program.configPath random .absent).place with
      | .file bytes =>
        match ← attempt (IO.FS.writeBinFile Program.configPath ⟨bytes.toArray⟩) with
        | .ok () => return .absent
        | .error e => return .sealed e
      | _ => return .absent

def ipv4 (ip : Std.Net.IPv4Addr) : Ipv4 :=
  ⟨ip.octets[0], ip.octets[1], ip.octets[2], ip.octets[3]⟩

def interfaceAddresses : IO (Except OsError (List InterfaceAddress)) := do
  let interfaces ← attempt Std.Net.interfaceAddresses
  return interfaces.map fun found => found.toList.map fun interface => match interface.address with
    | .v4 ip => .v4 (ipv4 ip)
    | .v6 ip => .other ip.toString

def netAddress (a : SocketAddress) : Std.Net.SocketAddress :=
  .v4 ⟨.ofParts a.ip.a a.ip.b a.ip.c a.ip.d, a.port⟩

/-- The sockets are opened for IPv4, so no other address comes from them. -/
def socketAddress : Std.Net.SocketAddress → SocketAddress
  | .v4 a => ⟨ipv4 a.addr, a.port⟩
  | .v6 a => ⟨⟨0, 0, 0, 0⟩, a.port⟩

def unspecified : Ipv4 := ⟨0, 0, 0, 0⟩

def localhost : Ipv4 := ⟨127, 0, 0, 1⟩

structure Sockets where
  control : Socket
  command : Socket
  audio : Socket
  controlPort : UInt16
  commandPort : UInt16

namespace Sockets

def worker (sockets : Sockets) : Worker → Socket
  | .control => sockets.control
  | .command => sockets.command

def bound (port : UInt16) : IO Socket := do
  let socket ← Socket.mk
  socket.bind (netAddress ⟨unspecified, port⟩)
  return socket

def portOf (socket : Socket) : IO UInt16 := return (socketAddress (← socket.getSockName)).port

def openAll (controlPort : UInt16) : ExceptT Setup IO Sockets := do
  let step {α : Type} (action : IO α) (refused : OsError → Setup) : ExceptT Setup IO α :=
    ExceptT.mk (return (← attempt action).mapError refused)
  let control ← step (bound controlPort) fun e => { bindControl := some e }
  let command ← step (bound 0) fun e => { bindCommand := some e }
  let audio ← step (bound 0) fun e => { bindAudio := some e }
  let controlPort ← step (portOf control) fun e => { controlAddress := some e }
  let commandPort ← step (portOf command) fun e => { commandAddress := some e }
  return { control, command, audio, controlPort, commandPort }

end Sockets

def send (socket : Socket) (bytes : List UInt8) (recipient : Option SocketAddress) :
    IO (Except OsError Unit) :=
  attempt (socket.send ⟨bytes.toArray⟩ (recipient.map netAddress)).block

/-- One turn of a worker. It is computed as if the network took every call. If it then refuses one,
the turn is computed again from the same state with that refusal. -/
def turn (sockets : Sockets) (w : Worker) (arrival : Arrival) (s : Server Tone) :
    IO (Report × Server Tone) := do
  let hopeful : Circumstances := { now := ← IO.monoMsNow }
  let run (c : Circumstances) : Report × Server Tone :=
    { s with sent := [] }.receive Tone.device w c arrival
  let (report, after) := run hopeful
  for datagram in after.sent do
    if let .error e ← send (sockets.worker w) datagram.bytes (some datagram.recipient) then
      return run { hopeful with reply := some e, ack := some e }
  if after.pairing.destination ≠ s.pairing.destination then
    if let some client := after.pairing.destination then
      if let .error e ← attempt (sockets.audio.connect (netAddress client)) then
        return run { hopeful with connect := some e }
  return (report, after)

def exclusively {α : Type} (state : Std.Mutex (Server Tone))
    (change : Server Tone → IO (α × Server Tone)) : IO α :=
  state.atomically do
    let (answer, s) ← change (← get)
    set s
    return answer

partial def serve (sockets : Sockets) (state : Std.Mutex (Server Tone)) (w : Worker) : IO Unit := do
  let received ← attempt ((sockets.worker w).recv 65536).block
  let arrival : Arrival := match received with
    | .ok (bytes, sender) =>
      .datagram bytes.toList ((sender.map socketAddress).getD ⟨unspecified, 0⟩)
    | .error e => .failure e
  let sender := match arrival with
    | .datagram _ sender => sender.text
    | .failure _ => ""
  let ended ← exclusively state fun s => do
    let (report, s) ← turn sockets w arrival s
    writeLog (report.line? w sender).toList
    return ((s.worker w).ended, s)
  if !ended then serve sockets state w

partial def play (sockets : Sockets) (state : Std.Mutex (Server Tone)) : IO Unit := do
  IO.sleep Tone.periodLength
  let running ← exclusively state fun s => do
    let (report, s) := { s with sent := [] }.emitTone none
    if let some (.sent datagram) := report then
      let _ ← send sockets.audio datagram.bytes none
    return (s.isRunning, s)
  if running then play sockets state

partial def watch (state : Std.Mutex (Server Tone)) : IO Unit := do
  IO.sleep 500
  if ← exclusively state fun s => return (s.isRunning, s) then watch state

/-- Runs a server to its end. A worker that still waits is woken by an empty datagram. -/
def run (sockets : Sockets) (server : Server Tone) : IO Unit := do
  let state ← Std.Mutex.new server
  let dedicated (loop : IO Unit) : IO (Task (Except IO.Error Unit)) :=
    IO.asTask loop Task.Priority.dedicated
  let loops ← [serve sockets state .control, serve sockets state .command, play sockets state].mapM
    dedicated
  watch state
  exclusively state fun s => return ((), s.shutdown Tone.device)
  for port in [sockets.controlPort, sockets.commandPort] do
    let _ ← send (← Socket.mk) [] (some ⟨localhost, port⟩)
  for loop in loops do
    let _ ← IO.wait loop

end PairedAudio.Main

open PairedAudio PairedAudio.Main in
/-- The server program; it only ends by failing. -/
def main : IO UInt32 := do
  let random := Wire.valueOf (← IO.getRandomBytes 8).toList
  let seed := (Cipher.Block.ofBytes? (← IO.getRandomBytes 16).toList).getD default
  let place ← configPlace random
  let opened ← match (Config.loadOrCreate Program.configPath random place).outcome with
    | .ok loaded => (Sockets.openAll loaded.config.port).run
    | .error _ => pure (.error {})
  let started := Program.start
    { place, random
      interfaces := ← interfaceAddresses
      commandPort := match opened with
        | .ok sockets => sockets.commandPort
        | .error _ => 0
      ivs := Cipher.IvSource.seeded seed
      setup := fun _ => match opened with
        | .ok _ => {}
        | .error setup => setup }
  writeLog started.log
  if let (some (config, server), .ok sockets) := (started.server, opened) then
    writeLog [Program.listeningLine ⟨unspecified, sockets.controlPort⟩ sockets.commandPort config.format]
    run sockets server
    writeLog Program.endLines
  return Program.exitCode.toUInt32
