import PairedAudio.Config.File
import PairedAudio.Server.Receiver
import PairedAudio.Server.Stream

/-! The server program without its sockets: what it reads, logs and starts, and how it ends. It
streams a test tone. -/

set_option autoImplicit false

namespace PairedAudio.Program

open Audio (Format)
open Capture (Tone)
open Cipher (IvSource)
open Text (decimal)

def configPath : String := "config.ini"

structure Surroundings where
  place : Config.Place
  random : Nat
  interfaces : Except OsError (List InterfaceAddress)
  commandPort : UInt16
  ivs : IvSource
  setup : UInt16 → Setup

def addressLines : Except OsError (List InterfaceAddress) → List Line
  | .error e => [.warn s!"could not list network interfaces: {e.message}"]
  | .ok addresses =>
    match reachableIpv4 addresses with
    | [] => [.warn "no non-loopback IPv4 address found"]
    | reachable => reachable.map fun ip => .info s!"address: {ip.text}"

def configLines (c : Config) : List Line :=
  [.info s!"port: {decimal c.port.toNat}", .info s!"pair code: {c.pairCode}",
    .info s!"audio format: {c.format.text}"]

def toneLine : Line :=
  .warn "built without the linux-monitor feature, streaming a test tone"

def listeningLine (control : SocketAddress) (commandPort : UInt16) (format : Format) : Line :=
  .info (s!"stream server listening on {control.text} (command port {decimal commandPort.toNat}, " ++
    s!"format {format.text})")

structure Started where
  log : List Line
  place : Config.Place
  server : Option (Config × Server Tone)

def start (world : Surroundings) : Started :=
  let loading := Config.loadOrCreate configPath world.random world.place
  match loading.outcome with
  | .error e => ⟨loading.log ++ [.error e.message], loading.place, none⟩
  | .ok loaded =>
    let config := loaded.config
    let log := loading.log ++ [toneLine] ++ addressLines world.interfaces ++ configLines config
    match Server.start Tone.device config Tone.standard world.commandPort world.ivs
        (world.setup config.port) with
    | .error e => ⟨log ++ [.error s!"failed to start: {e.message}"], loading.place, none⟩
    | .ok server => ⟨log, loading.place, some (config, server)⟩

def endLines : List Line :=
  [.error "a receiver stopped, shutting down", .info "stream server stopped"]

def exitCode : Nat := 1

end PairedAudio.Program
