import PairedAudio.Audio.Format
import PairedAudio.Log

/-! What every capture backend has in common: the operations that a server uses, the parameters
that it advertises, and the one who is given the captured chunks. -/

set_option autoImplicit false

namespace PairedAudio.Capture

open Audio (Encoding Format)

structure Advertised where
  encoding : Encoding
  bits : UInt16
  channels : UInt16
  rate : UInt32
  period : UInt32
  deriving DecidableEq, Repr

/-- Who is called with every captured chunk; a faulty one crashes the capture instead. -/
structure Listener where
  name : String
  crashes : Bool := false
  deriving DecidableEq, Repr

structure Delivery where
  listener : Listener
  chunk : List UInt8
  deriving DecidableEq, Repr

inductive Fault
  | refused (error : CaptureError)
  | crashed
  deriving DecidableEq, Repr

/-- A backend with states in `σ`. Stopping never fails; `stop` returns when the capture has ended,
and `requestStop` at once. -/
structure Device (σ : Type) where
  listen : Listener → σ → σ
  prepare : Format → EStateM Fault σ Unit
  start : EStateM Fault σ Unit
  stop : σ → σ
  requestStop : σ → σ
  setPlaying : Bool → EStateM Fault σ Unit
  advertised : σ → Advertised

def refusable {σ α : Type} (operation : EStateM CaptureError σ α) : EStateM Fault σ α :=
  fun s => match operation s with
    | .ok value s => .ok value s
    | .error e s => .error (.refused e) s

/-- What a capture has done to its surroundings: calls made, chunks delivered and lines logged, in
order. -/
structure Trace (κ : Type) where
  calls : List κ := []
  delivered : List Delivery := []
  log : List Line := []

namespace Trace

variable {κ : Type}

def call (t : Trace κ) (c : κ) : Trace κ := { t with calls := t.calls ++ [c] }

def deliver (t : Trace κ) (listener : Listener) (chunk : List UInt8) : Trace κ :=
  { t with delivered := t.delivered ++ [⟨listener, chunk⟩] }

def line (t : Trace κ) (l : Line) : Trace κ := { t with log := t.log ++ [l] }

end Trace

end PairedAudio.Capture
