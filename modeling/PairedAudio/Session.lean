import PairedAudio.Address

/-! The session of the paired client. -/

set_option autoImplicit false

namespace PairedAudio

inductive SessionState
  | streaming
  | paused
  | stopped
  deriving DecidableEq, Repr

def SessionState.name : SessionState → String
  | streaming => "Streaming"
  | paused => "Paused"
  | stopped => "Stopped"

/-- A pairing of the server with one client; the client is where its audio goes. -/
structure Session where
  id : Nat
  client : SocketAddress
  state : SessionState
  startedAt : Nat
  deriving DecidableEq, Repr

namespace Session

/-- A stopped session stays stopped whatever the client commands. -/
def command (state : SessionState) (s : Session) : Session :=
  if s.state = .stopped then s else { s with state }

def halt (s : Session) : Session := { s with state := .stopped }

end Session

end PairedAudio
