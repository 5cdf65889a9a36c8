import PairedAudio.Capture.Scripted
import PairedAudio.Capture.Tone

/-! Capture backends seen from outside: an observer that is told of every call and whether it
succeeded, and whether a backend captures and plays.

A backend captures from a start that succeeds, which also sets it playing, to the next stop. Any
backend has such a status once its calls are watched; the tone has one of its own.
-/

set_option autoImplicit false

namespace PairedAudio.Capture

variable {σ ω : Type}

structure Watched (σ ω : Type) where
  device : σ
  seen : ω

def watchedCall (note : DeviceCall → Bool → ω → ω) (call : DeviceCall)
    (operation : EStateM Fault σ Unit) : EStateM Fault (Watched σ ω) Unit := fun w =>
  match operation w.device with
  | .ok () device => .ok () ⟨device, note call true w.seen⟩
  | .error fault device => .error fault ⟨device, note call false w.seen⟩

/-- The same backend with an observer, who is told of each call and of its success. -/
def Device.watched (backend : Device σ) (note : DeviceCall → Bool → ω → ω) :
    Device (Watched σ ω) where
  listen listener w := { w with device := backend.listen listener w.device }
  prepare format := watchedCall note (.prepare format) (backend.prepare format)
  start := watchedCall note .start backend.start
  stop w := ⟨backend.stop w.device, note .stop true w.seen⟩
  requestStop w := ⟨backend.requestStop w.device, note .requestStop true w.seen⟩
  setPlaying playing := watchedCall note (.setPlaying playing) (backend.setPlaying playing)
  advertised w := backend.advertised w.device

theorem watchedCall_ok {note : DeviceCall → Bool → ω → ω} {call : DeviceCall}
    {operation : EStateM Fault σ Unit} {w w' : Watched σ ω}
    (done : watchedCall note call operation w = .ok () w') : w'.seen = note call true w.seen := by
  unfold watchedCall at done
  split at done <;> cases done
  rfl

theorem watchedCall_error {note : DeviceCall → Bool → ω → ω} {call : DeviceCall}
    {operation : EStateM Fault σ Unit} {fault : Fault} {w w' : Watched σ ω}
    (failed : watchedCall note call operation w = .error fault w') :
    w'.seen = note call false w.seen := by
  unfold watchedCall at failed
  split at failed <;> cases failed
  rfl

abbrev Calls := List (DeviceCall × Bool)

/-- The same backend with a record of the calls that it gets. -/
def Device.recorded (backend : Device σ) : Device (Watched σ Calls) :=
  backend.watched fun call succeeded calls => calls ++ [(call, succeeded)]

theorem recorded_prepare_ok {backend : Device σ} {format : Audio.Format} {w w' : Watched σ Calls}
    (done : backend.recorded.prepare format w = .ok () w') :
    w'.seen = w.seen ++ [(.prepare format, true)] := by
  simp only [Device.recorded, Device.watched] at done
  rw [watchedCall_ok done]

theorem recorded_prepare_error {backend : Device σ} {format : Audio.Format} {fault : Fault}
    {w w' : Watched σ Calls} (failed : backend.recorded.prepare format w = .error fault w') :
    w'.seen = w.seen ++ [(.prepare format, false)] := by
  simp only [Device.recorded, Device.watched] at failed
  rw [watchedCall_error failed]

theorem recorded_start_ok {backend : Device σ} {w w' : Watched σ Calls}
    (done : backend.recorded.start w = .ok () w') : w'.seen = w.seen ++ [(.start, true)] := by
  simp only [Device.recorded, Device.watched] at done
  rw [watchedCall_ok done]

theorem recorded_start_error {backend : Device σ} {fault : Fault} {w w' : Watched σ Calls}
    (failed : backend.recorded.start w = .error fault w') : w'.seen = w.seen ++ [(.start, false)] := by
  simp only [Device.recorded, Device.watched] at failed
  rw [watchedCall_error failed]

theorem recorded_setPlaying_ok {backend : Device σ} {on : Bool} {w w' : Watched σ Calls}
    (done : backend.recorded.setPlaying on w = .ok () w') :
    w'.seen = w.seen ++ [(.setPlaying on, true)] := by
  simp only [Device.recorded, Device.watched] at done
  rw [watchedCall_ok done]

theorem recorded_setPlaying_error {backend : Device σ} {on : Bool} {fault : Fault}
    {w w' : Watched σ Calls} (failed : backend.recorded.setPlaying on w = .error fault w') :
    w'.seen = w.seen ++ [(.setPlaying on, false)] := by
  simp only [Device.recorded, Device.watched] at failed
  rw [watchedCall_error failed]

/-- Whether a backend captures, and whether it is set playing, as far as its calls tell. -/
structure Status (backend : Device σ) where
  capturing : σ → Bool
  playing : σ → Bool
  listen (listener : Listener) (d : σ) : capturing (backend.listen listener d) = capturing d
  prepared {format : Audio.Format} {d d' : σ} :
    backend.prepare format d = .ok () d' → capturing d' = capturing d
  unprepared {format : Audio.Format} {fault : Fault} {d d' : σ} :
    backend.prepare format d = .error fault d' → capturing d' = capturing d
  started {d d' : σ} : backend.start d = .ok () d' → capturing d' = true ∧ playing d' = true
  unstarted {fault : Fault} {d d' : σ} :
    backend.start d = .error fault d' → capturing d' = capturing d
  stopped (d : σ) : capturing (backend.stop d) = false
  stopRequested (d : σ) : capturing (backend.requestStop d) = false
  switched {on : Bool} {d d' : σ} :
    backend.setPlaying on d = .ok () d' → capturing d' = capturing d ∧ playing d' = on
  unswitched {on : Bool} {fault : Fault} {d d' : σ} :
    backend.setPlaying on d = .error fault d' →
      capturing d' = capturing d ∧ playing d' = playing d

/-- Two lamps, one lit while a backend captures and one while it is set playing. -/
structure Lamps where
  capturing : Bool := false
  playing : Bool := false
  deriving DecidableEq, Repr

def Lamps.note : DeviceCall → Bool → Lamps → Lamps
  | .start, true, _ => ⟨true, true⟩
  | .stop, _, lamps | .requestStop, _, lamps => { lamps with capturing := false }
  | .setPlaying playing, true, lamps => { lamps with playing }
  | _, _, lamps => lamps

def Status.ofLamps (backend : Device σ) : Status (backend.watched Lamps.note) where
  capturing w := w.seen.capturing
  playing w := w.seen.playing
  listen _ _ := rfl
  prepared done := by rw [watchedCall_ok done]; rfl
  unprepared failed := by rw [watchedCall_error failed]; rfl
  started done := by rw [watchedCall_ok done]; exact ⟨rfl, rfl⟩
  unstarted failed := by rw [watchedCall_error failed]; rfl
  stopped _ := rfl
  stopRequested _ := rfl
  switched done := by rw [watchedCall_ok done]; exact ⟨rfl, rfl⟩
  unswitched failed := by rw [watchedCall_error failed]; exact ⟨rfl, rfl⟩

namespace Tone

theorem prepare_eq (format : Audio.Format) (tone : Tone) :
    device.prepare format tone = match format.validate with
      | .error e => .error (.refused e.asCapture) tone
      | .ok () => .ok () { tone with
          format := some format
          period := Audio.framesPerPeriod format.rate periodLength } := by
  simp only [device, refusable, prepare]
  cases format.validate <;> rfl

theorem start_eq (tone : Tone) :
    device.start tone = match tone.format, tone.running with
      | none, _ => .error (.refused (.configurationFailed "device not initialised")) tone
      | some _, true =>
        .error (.refused (.configurationFailed "test tone capture already running")) tone
      | some format, false => .ok () { tone with
          running := true
          playing := true
          run := some {
            listener := tone.listener, format, frames := tone.period.toNat,
            oscillator := .start tone.frequency tone.amplitude format.rate } } := by
  simp only [device, refusable, start]
  cases tone.format with
  | none => rfl
  | some format => cases tone.running <;> rfl

theorem start_of_device {tone tone' : Tone} (started : device.start tone = .ok () tone') :
    start none tone = .ok () tone' := by
  simp only [device, refusable] at started
  split at started
  · rename_i done
    cases started
    exact done
  · cases started

theorem run_of_start {spawn : Option OsError} {tone tone' : Tone}
    (started : start spawn tone = .ok () tone') : ∃ run, tone'.run = some run := by
  unfold start at started
  split at started
  · cases started
  split at started
  · cases started
  cases spawn with
  | some e => cases started
  | none =>
    cases started
    exact ⟨_, rfl⟩

theorem next_quiet {tone : Tone} (quiet : tone.running = false ∨ tone.playing = false) :
    tone.next = (none, tone) := by
  have silent (crashed : Bool) : (!tone.running || !tone.playing || crashed) = true := by
    rcases quiet with stopped | paused
    · rw [stopped]
      rfl
    · rw [paused, Bool.not_false, Bool.or_true, Bool.true_or]
  unfold next
  split
  · rfl
  split
  · rfl
  · rw [if_pos (silent _)]

theorem next_sounding {tone : Tone} {run : ToneRun} {listener : Listener} (running : tone.running = true)
    (playing : tone.playing = true) (runs : tone.run = some run) (listens : run.listener = some listener)
    (sane : run.crashed = false) (calm : listener.crashes = false) :
    tone.next = (some ⟨listener, run.chunk⟩, { tone with run := some run.advance }) := by
  unfold next
  simp only [runs, listens, running, playing, sane, calm, Bool.not_true, Bool.or_self,
    Bool.false_eq_true, if_false]

def status : Status device where
  capturing tone := tone.running
  playing tone := tone.playing
  listen _ _ := rfl
  prepared done := by
    rw [prepare_eq] at done
    split at done <;> cases done
    rfl
  unprepared failed := by
    rw [prepare_eq] at failed
    split at failed <;> cases failed
    rfl
  started done := by
    rw [start_eq] at done
    split at done <;> cases done
    exact ⟨rfl, rfl⟩
  unstarted failed := by
    rw [start_eq] at failed
    split at failed <;> cases failed <;> rfl
  stopped _ := rfl
  stopRequested _ := rfl
  switched done := by
    cases done
    exact ⟨rfl, rfl⟩
  unswitched failed := by cases failed

end Tone

end PairedAudio.Capture
