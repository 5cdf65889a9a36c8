import PairedAudio.Capture.Loopback
import PairedAudio.Capture.Monitor
import PairedAudio.Capture.Scripted
import PairedAudio.Capture.Tone

/-! The three captures in use.

A capture is called in surroundings that may be others at each call, and between the calls its thread
and its device go on. What it advertises is what the initialisation in force has found; an
initialisation that fails on the device leaves none in force, and then the capture does not start. Nor
does it start when an initialisation has crashed in its arithmetic.
-/

set_option autoImplicit false

namespace PairedAudio.Capture

open Audio (Binary32 Format)

def Device.call {σ : Type} (backend : Device σ) : DeviceCall → EStateM Fault σ Unit
  | .prepare format => backend.prepare format
  | .start => backend.start
  | .stop => modify backend.stop
  | .requestStop => modify backend.requestStop
  | .setPlaying playing => backend.setPlaying playing

def stateAfter {ε σ α : Type} : EStateM.Result ε σ α → σ
  | .ok _ s | .error _ s => s

section Refusable

variable {σ : Type} {operation : EStateM CaptureError σ Unit} {s s' : σ}

theorem refusable_error {e : CaptureError} (failed : operation s = .error e s') :
    refusable operation s = .error (.refused e) s' := by
  simp only [refusable, failed]

theorem of_refusable_ok (done : refusable operation s = .ok () s') : operation s = .ok () s' := by
  unfold refusable at done
  split at done
  · cases done
    assumption
  · cases done

theorem of_refusable_error {fault : Fault} (failed : refusable operation s = .error fault s') :
    ∃ e, fault = .refused e ∧ operation s = .error e s' := by
  unfold refusable at failed
  split at failed
  · cases failed
  · cases failed
    exact ⟨_, rfl, ‹_›⟩

theorem stateAfter_refusable (operation : EStateM CaptureError σ Unit) (s : σ) :
    stateAfter (refusable operation s) = stateAfter (operation s) := by
  unfold refusable
  cases operation s with
  | ok | error => rfl

end Refusable

/-- A kind of capture, as those who use it find it. -/
structure Usage where
  Options : Type
  State : Type
  Surroundings : Type
  Event : Type
  new : Options → State
  backend : Surroundings → Device State
  elapse : Event → State → State
  advertised : State → Advertised
  /-- What is advertised without an initialisation. -/
  blank : Advertised
  /-- What an initialisation has to advertise if it succeeds. -/
  offer : State → Format → Advertised
  /-- Whether an initialisation computes with numbers of the surroundings, and can crash on them. -/
  canCrash : Bool
  isRunning : State → Bool
  /-- Whether there is a capture thread that has not been joined. -/
  hasThread : State → Bool
  spawnRefusal : Surroundings → Option OsError
  alreadyRunning : CaptureError

def notInitialised : CaptureError := .configurationFailed "device not initialised"

def Tone.usage : Usage where
  Options := Binary32 × Binary32
  State := Tone
  Surroundings := Option OsError
  Event := Unit
  new := fun (frequency, amplitude) => { frequency, amplitude }
  backend spawn := { device with start := refusable (start spawn) }
  elapse _ tone := tone.next.2
  advertised := advertised
  blank := ⟨.pcm, 0, channels, 0, 0⟩
  offer _ f := ⟨f.encoding, f.bits, channels, f.rate, Audio.framesPerPeriod f.rate periodLength⟩
  canCrash := false
  isRunning := running
  hasThread tone := tone.run.isSome
  spawnRefusal spawn := spawn
  alreadyRunning := .configurationFailed "test tone capture already running"

def Monitor.usage : Usage where
  Options := Unit
  State := Monitor
  Surroundings := Host × Option OsError
  Event := Recorded ⊕ String
  new _ := {}
  backend := fun (host, spawn) => { device host with start := refusable (start host spawn) }
  elapse := Sum.elim receive reportStreamError
  advertised := advertised
  blank := ⟨.pcm, 0, 0, 0, 0⟩
  offer _ f := ⟨f.encoding, f.bits, channels, f.rate, Audio.framesPerPeriod f.rate periodLength⟩
  canCrash := false
  isRunning := running
  hasThread m := m.thread.isSome
  spawnRefusal := Prod.snd
  alreadyRunning := .configurationFailed "monitor capture already running"

inductive LoopbackEvent
  | step
  | arrive (packets : List RenderPacket)
  | change (channels : UInt16) (period : Int64) (due : List DueFailure)

def LoopbackEvent.apply (l : Loopback) : LoopbackEvent → Loopback
  | step => l.step
  | arrive packets => l.arrive packets
  | change channels period due => { l with endpoint := { l.endpoint with channels, period, due } }

def Loopback.usage : Usage where
  Options := Endpoint
  State := Loopback
  Surroundings := Option OsError
  Event := LoopbackEvent
  new endpoint := { endpoint }
  backend spawn := { device with start := refusable (start spawn) }
  elapse event l := event.apply l
  advertised := advertised
  blank := ⟨.pcm, 0, 0, 0, 0⟩
  offer l f := ⟨f.encoding, f.bits, l.endpoint.channels, f.rate,
    (periodFrames? l.endpoint.period f.rate).getD 0⟩
  canCrash := true
  isRunning := running
  hasThread l := l.thread.isSome
  spawnRefusal spawn := spawn
  alreadyRunning := .configurationFailed "loopback capture already running"

inductive Kind
  | tone
  | monitor
  | loopback
  deriving DecidableEq

def Kind.usage : Kind → Usage
  | tone => Tone.usage
  | monitor => Monitor.usage
  | loopback => Loopback.usage

inductive Use (u : Usage)
  | listen (surroundings : u.Surroundings) (listener : Listener)
  | call (surroundings : u.Surroundings) (call : DeviceCall)
  | elapse (event : u.Event)

namespace Use

variable {u : Usage}

def isPreparation : Use u → Bool
  | call _ (.prepare _) => true
  | _ => false

def isStart : Use u → Bool
  | call _ .start => true
  | _ => false

theorem sort (use : Use u) :
    (∃ surroundings format, use = .call surroundings (.prepare format)) ∨
      (∃ surroundings, use = .call surroundings .start) ∨
        use.isPreparation = false ∧ use.isStart = false := by
  cases use with
  | listen | elapse => exact .inr (.inr ⟨rfl, rfl⟩)
  | call surroundings call =>
    cases call with
    | prepare format => exact .inl ⟨surroundings, format, rfl⟩
    | start => exact .inr (.inl ⟨surroundings, rfl⟩)
    | stop | requestStop | setPlaying => exact .inr (.inr ⟨rfl, rfl⟩)

end Use

/-- What the initialisations of a history have left to advertise. -/
inductive InForce
  | found (offered : Advertised)
  | nothing
  /-- The last of them crashed when it was about to find this. -/
  | torn (offered : Advertised)

namespace Usage

variable (u : Usage)

def step (s : u.State) : Use u → u.State
  | .listen surroundings listener => (u.backend surroundings).listen listener s
  | .call surroundings call => stateAfter ((u.backend surroundings).call call s)
  | .elapse event => u.elapse event s

def run (s : u.State) (uses : List (Use u)) : u.State := uses.foldl u.step s

/-- What is in force after one more use. A refused format changes nothing, and an initialisation that
fails on the device leaves nothing in force. -/
def inForceAfter (s : u.State) (inForce : InForce) : Use u → InForce
  | .call surroundings (.prepare format) =>
    match format.validate with
    | .error _ => inForce
    | .ok () => match (u.backend surroundings).prepare format s with
      | .ok () _ => .found (u.offer s format)
      | .error (.refused _) _ => .nothing
      | .error .crashed _ => .torn (u.offer s format)
  | _ => inForce

def inForce (s : u.State) (before : InForce) : List (Use u) → InForce
  | [] => before
  | use :: uses => inForce (u.step s use) (u.inForceAfter s before use) uses

/-- How a kind of capture goes about its parameters. It can start only when it is ready. -/
structure Honest (ready : u.State → Bool) : Prop where
  new (options : u.Options) : u.advertised (u.new options) = u.blank ∧ ready (u.new options) = false
  refused {format : Format} {error : Audio.FormatError} (surroundings : u.Surroundings) (s : u.State)
    (invalid : format.validate = .error error) :
    (u.backend surroundings).prepare format s = .error (.refused error.asCapture) s
  prepared {format : Format} {surroundings : u.Surroundings} {s s' : u.State}
    (valid : format.validate = .ok ()) (done : (u.backend surroundings).prepare format s = .ok () s') :
    u.advertised s' = u.offer s format
  unprepared {format : Format} {surroundings : u.Surroundings} {s s' : u.State} {e : CaptureError}
    (valid : format.validate = .ok ())
    (failed : (u.backend surroundings).prepare format s = .error (.refused e) s') :
    u.advertised s' = u.blank ∧ ready s' = false
  torn {format : Format} {surroundings : u.Surroundings} {s s' : u.State}
    (valid : format.validate = .ok ())
    (crashed : (u.backend surroundings).prepare format s = .error .crashed s') :
    u.canCrash = true ∧ (u.advertised s' = u.blank ∨
      u.advertised s' = { u.blank with channels := (u.offer s format).channels }) ∧ ready s' = false
  unready {s : u.State} (surroundings : u.Surroundings) (unready : ready s = false) :
    (u.backend surroundings).start s = .error (.refused notInitialised) s
  started (surroundings : u.Surroundings) (s : u.State) :
    let after := u.step s (.call surroundings .start)
    u.advertised after = u.advertised s ∧ ready after = ready s
  quiet {use : Use u} (s : u.State) (quiet : use.isPreparation = false ∧ use.isStart = false) :
    u.advertised (u.step s use) = u.advertised s ∧ ready (u.step s use) = ready s

/-- What is advertised is what is in force; with nothing in force the capture is blank. A crash leaves
a channel count at most. -/
def Shows (ready : u.State → Bool) (s : u.State) : InForce → Prop
  | .found offered => u.advertised s = offered
  | .nothing => u.advertised s = u.blank ∧ ready s = false
  | .torn offered => u.canCrash = true ∧ (u.advertised s = u.blank ∨
      u.advertised s = { u.blank with channels := offered.channels }) ∧ ready s = false

variable {u} {ready : u.State → Bool}

theorem Shows.of_same {s after : u.State} {inForce : InForce} (shows : u.Shows ready s inForce)
    (same : u.advertised after = u.advertised s ∧ ready after = ready s) :
    u.Shows ready after inForce := by
  cases inForce with
  | found offered => exact same.1.trans shows
  | nothing => exact ⟨same.1.trans shows.1, same.2.trans shows.2⟩
  | torn offered => exact ⟨shows.1, shows.2.1.imp same.1.trans same.1.trans, same.2.trans shows.2.2⟩

theorem inForceAfter_of_other {use : Use u} (other : use.isPreparation = false) (s : u.State)
    (inForce : InForce) : u.inForceAfter s inForce use = inForce := by
  unfold inForceAfter
  split
  · cases other
  · rfl

theorem Honest.step (honest : u.Honest ready) {s : u.State} {inForce : InForce}
    (shows : u.Shows ready s inForce) (use : Use u) :
    u.Shows ready (u.step s use) (u.inForceAfter s inForce use) := by
  -- Only an initialisation in a valid format changes what is in force.
  rcases use.sort with ⟨surroundings, format, rfl⟩ | ⟨surroundings, rfl⟩ | quiet
  · simp only [Usage.step, inForceAfter, Device.call]
    cases valid : format.validate with
    | error error =>
      rw [honest.refused surroundings s valid]
      exact shows
    | ok _ =>
      dsimp only
      cases ended : (u.backend surroundings).prepare format s with
      | ok _ s' => exact honest.prepared valid ended
      | error fault s' =>
        cases fault with
        | refused e => exact honest.unprepared valid ended
        | crashed => exact honest.torn valid ended
  · exact shows.of_same (honest.started surroundings s)
  · rw [inForceAfter_of_other quiet.1]
    exact shows.of_same (honest.quiet s quiet)

theorem Honest.run (honest : u.Honest ready) {s : u.State} {inForce : InForce}
    (shows : u.Shows ready s inForce) (uses : List (Use u)) :
    u.Shows ready (u.run s uses) (u.inForce s inForce uses) := by
  -- Over the uses, with whatever is in force before them.
  induction uses generalizing s inForce with
  | nil => exact shows
  | cons use uses ih => exact ih (honest.step shows use)

end Usage

end PairedAudio.Capture
