import Mathlib.Logic.Function.Basic
import PairedAudio.Proofs.Dispatch
import PairedAudio.Proofs.Run

/-! A shutdown between the steps of the two workers, in any order.

A worker receives a datagram, tests the running flag, and only then handles the datagram, in one
piece as far as it holds the lock of the pairing. The shutdown stops the capture and keeps the session
in one piece, clears the flag, and then waits for the workers to end.
-/

set_option autoImplicit false

namespace PairedAudio.Closing

open Capture (Device)

variable {σ : Type}

inductive Stage
  | receiving
  | testing (c : Circumstances) (packet : List UInt8) (sender : SocketAddress)
  | handling (c : Circumstances) (packet : List UInt8) (sender : SocketAddress)
  /-- An acknowledgement was lost, and the capture has still to be stopped. -/
  | silencing
  /-- The loop is left, with the running flag still as it is. -/
  | leaving
  | ended

namespace Stage

def isHandling : Stage → Bool
  | handling _ _ _ => true
  | receiving | testing _ _ _ | silencing | leaving | ended => false

def isEnded : Stage → Bool
  | ended => true
  | receiving | testing _ _ _ | handling _ _ _ | silencing | leaving => false

def behind {α : Type} : EStateM.Result HandlerFault (Server σ) α → Stage
  | .error .crashed _ => .leaving
  | .error (.failed _) _ | .ok _ _ => .receiving

end Stage

inductive Phase
  | opened
  /-- The capture is stopped and the session kept, with the running flag still set. -/
  | halted
  | cleared
  | closed
  deriving DecidableEq, Repr

structure System (σ : Type) where
  server : Server σ
  stage : Worker → Stage := fun _ => .receiving
  phase : Phase := .opened
  /-- The session as it was when the shutdown stopped the capture. -/
  final : Option Session := none
  /-- What each handshake that held the lock has left as the session, newest first. -/
  handshakes : List (Option Session) := []

/-- Something arrives for a worker, or a worker or the shutdown takes its next step. -/
inductive Move
  | arrive (w : Worker) (c : Circumstances) (arrival : Arrival)
  | work (w : Worker)
  | shutdown

namespace System

def put (w : Worker) (stage : Stage) (s : System σ) : System σ :=
  { s with stage := Function.update s.stage w stage }

def arrive (w : Worker) (c : Circumstances) (arrival : Arrival) (s : System σ) : System σ :=
  match s.stage w, arrival with
  | .receiving, .datagram bytes sender =>
    let received := bytes.take receiveLength
    put w (.testing c received sender) { s with server := s.server.store w received }
  | .receiving, .failure e => if e = .connectionReset then s else s.put w .leaving
  | _, _ => s

/-- A request is read without the lock, and what it asks for is done with it. -/
def handshake (backend : Device σ) (c : Circumstances) (packet : List UInt8) (sender : SocketAddress)
    (s : System σ) : System σ :=
  match Handshake.read packet s.server with
  | .error _ server => put .control .receiving { s with server }
  | .ok (request, port) server =>
    let paired := Handshake.pair backend c request port sender server
    put .control (.behind paired) { s with
      server := Handler.after paired
      handshakes := (Handler.after paired).session :: s.handshakes }

def command (backend : Device σ) (c : Circumstances) (packet : List UInt8) (sender : SocketAddress)
    (s : System σ) : System σ :=
  let halfway := Control.dispatch backend c.network packet sender s.server
  put .command (if Control.isLost halfway then .silencing else .behind halfway)
    { s with server := Handler.after halfway }

def work (backend : Device σ) (w : Worker) (s : System σ) : System σ :=
  match s.stage w with
  | .receiving | .ended => s
  | .testing c packet sender =>
    s.put w (if s.server.running then .handling c packet sender else .leaving)
  | .handling c packet sender => match w with
    | .control => s.handshake backend c packet sender
    | .command => s.command backend c packet sender
  | .silencing => put w .receiving { s with server := Control.silence backend s.server }
  | .leaving => put w .ended { s with server := s.server.endWorker w }

def haveEnded (s : System σ) : Bool := (s.stage .control).isEnded && (s.stage .command).isEnded

def shutdown (backend : Device σ) (s : System σ) : System σ :=
  match s.phase with
  | .opened =>
    let server := s.server.halt backend
    { s with server, phase := .halted, final := server.session }
  | .halted => { s with server := { s.server with running := false }, phase := .cleared }
  | .cleared =>
    if s.haveEnded then { s with server := { s.server with closed := true }, phase := .closed } else s
  | .closed => s

/-- Whoever has nothing to do, or has to wait, leaves the system as it is. -/
def step (backend : Device σ) (s : System σ) : Move → System σ
  | .arrive w c arrival => s.arrive w c arrival
  | .work w => s.work backend w
  | .shutdown => s.shutdown backend

def run (backend : Device σ) (s : System σ) : List Move → System σ
  | [] => s
  | move :: rest => (s.step backend move).run backend rest

def session (s : System σ) : Option Session :=
  match s.phase with
  | .opened | .halted | .cleared => s.server.session
  | .closed => s.final

theorem run_cons (backend : Device σ) (s : System σ) (move : Move) (rest : List Move) :
    s.run backend (move :: rest) = (s.step backend move).run backend rest := rfl

theorem run_append (backend : Device σ) (s : System σ) (moves later : List Move) :
    s.run backend (moves ++ later) = (s.run backend moves).run backend later := by
  induction moves generalizing s with
  | nil => rfl
  | cons move rest ih => exact ih _

end System

end PairedAudio.Closing
