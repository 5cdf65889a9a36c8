import PairedAudio.Proofs.Handlers

/-! The handling of a command as two halves, with a network of any kind between them.

The first half carries the command out and asks the network, once, to send the acknowledgement; the
second stops the capture if the network could not.
-/

set_option autoImplicit false

namespace PairedAudio

open Capture (Device)
open Wire (Command)

variable {σ : Type}

/-- What becomes of a datagram that a handler wants to send. -/
abbrev Network (σ : Type) := Datagram → Handler σ (Option OsError)

def Circumstances.network (c : Circumstances) : Network σ := fun d s =>
  match c.ack with
  | none => .ok none (Handler.recordSent d.recipient d.bytes s)
  | some e => .ok (some e) s

namespace Circumstances

variable {c : Circumstances}

theorem network_sent (sent : c.ack = none) (d : Datagram) (s : Server σ) :
    c.network d s = .ok none (Handler.recordSent d.recipient d.bytes s) := by
  simp only [network, sent]

theorem network_lost {e : OsError} (lost : c.ack = some e) (d : Datagram) (s : Server σ) :
    c.network d s = .ok (some e) s := by
  simp only [network, lost]

end Circumstances

namespace Control

def dispatch (backend : Device σ) (network : Network σ) (packet : List UInt8)
    (sender : SocketAddress) : Handler σ (Option OsError) := do
  let command ← read packet
  carryOut backend command
  let ack ← Handler.sealPacket .command command.encode
  network ⟨sender, ack⟩

def conclude (backend : Device σ) : Option OsError → Handler σ (Option OsError)
  | none => pure none
  | some e => do
    modify (silence backend)
    return some e

variable {backend : Device σ} {network : Network σ} {packet : List UInt8} {sender : SocketAddress}
  {s s' : Server σ} {command : Command}

theorem dispatch_unread {e : CodecError}
    (unread : commandIn s.command.framer.codec.key packet = .error e) :
    dispatch backend network packet sender s =
      .error (.failed (.decode e)) (s.opened .command packet) := by
  have reading : read packet s = .error (.failed (.decode e)) (s.opened .command packet) := by
    rw [read_eq, unread]
  unfold dispatch
  rw [Handler.bind_error reading]

theorem dispatch_uncarried {fault : HandlerFault}
    (asked : commandIn s.command.framer.codec.key packet = .ok command)
    (failed : carryOut backend command (s.opened .command packet) = .error fault s') :
    dispatch backend network packet sender s = .error fault s' := by
  unfold dispatch
  rw [Handler.bind_ok (read_of_commandIn asked), Handler.bind_error failed]

/-- Whatever the network does, it is asked for nothing but the acknowledgement, and only after the
command has been carried out. -/
theorem dispatch_carried (asked : commandIn s.command.framer.codec.key packet = .ok command)
    (carried : carryOut backend command (s.opened .command packet) = .ok () s') :
    dispatch backend network packet sender s =
      network ⟨sender, s'.packetFor .command command.encode⟩ (s'.sealing .command) := by
  unfold dispatch
  rw [Handler.bind_ok (read_of_commandIn asked), Handler.bind_ok carried,
    Handler.bind_ok (Handler.sealPacket_eq _ _ _)]

theorem after_dispatch (holds : Server σ → Prop) (c : Circumstances) (packet : List UInt8)
    (sender : SocketAddress) (s : Server σ) (opened : holds (s.opened .command packet))
    (carried : ∀ {command r}, Carried backend (s.opened .command packet) command r →
      holds (Handler.after r))
    (sealing : ∀ {t}, holds t → holds (t.sealing .command))
    (recorded : ∀ {t} (d : Datagram), holds t → holds (Handler.recordSent d.recipient d.bytes t)) :
    holds (Handler.after (dispatch backend c.network packet sender s)) := by
  cases asked : commandIn s.command.framer.codec.key packet with
  | error e =>
    rw [dispatch_unread asked]
    exact opened
  | ok command =>
    have carrying := carried (carryOut_carried backend command (s.opened .command packet))
    cases effect : carryOut backend command (s.opened .command packet) with
    | error fault t =>
      rw [effect] at carrying
      rw [dispatch_uncarried asked effect]
      exact carrying
    | ok done t =>
      rw [effect] at carrying
      rw [dispatch_carried asked effect]
      cases sent : c.ack with
      | none =>
        rw [Circumstances.network_sent sent]
        exact recorded _ (sealing carrying)
      | some e =>
        rw [Circumstances.network_lost sent]
        exact sealing carrying

theorem handle_eq_dispatch (backend : Device σ) (c : Circumstances) (packet : List UInt8)
    (sender : SocketAddress) (s : Server σ) :
    handle backend c packet sender s =
      (dispatch backend c.network packet sender >>= conclude backend) s := by
  cases asked : commandIn s.command.framer.codec.key packet with
  | error e => rw [handle_unread asked, Handler.bind_error (dispatch_unread asked)]
  | ok command =>
    cases carried : carryOut backend command (s.opened .command packet) with
    | error fault s' =>
      rw [handle_uncarried asked carried, Handler.bind_error (dispatch_uncarried asked carried)]
    | ok done s' =>
      have sending : dispatch backend c.network packet sender s = _ := dispatch_carried asked carried
      rw [handle_carried asked carried]
      cases sent : c.ack with
      | none =>
        rw [Circumstances.network_sent sent] at sending
        rw [Handler.bind_ok sending]
        rfl
      | some e =>
        rw [Circumstances.network_lost sent] at sending
        rw [Handler.bind_ok sending]
        rfl

def isLost : EStateM.Result HandlerFault (Server σ) (Option OsError) → Bool
  | .ok (some _) _ => true
  | .ok none _ | .error _ _ => false

theorem after_handle (backend : Device σ) (c : Circumstances) (packet : List UInt8)
    (sender : SocketAddress) (s : Server σ) :
    Handler.after (handle backend c packet sender s) =
      let halfway := dispatch backend c.network packet sender s
      if isLost halfway then silence backend (Handler.after halfway) else Handler.after halfway := by
  rw [handle_eq_dispatch]
  cases halfway : dispatch backend c.network packet sender s with
  | error fault s' =>
    rw [Handler.bind_error halfway]
    rfl
  | ok lost s' =>
    rw [Handler.bind_ok halfway]
    cases lost <;> rfl

end Control

end PairedAudio
