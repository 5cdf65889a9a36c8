import PairedAudio.Proofs.Backend
import PairedAudio.Proofs.Run

/-! The session, the capture and the audio's destination agree in every run of a server.

They are three pieces of one state, and each exit of a handler changes some of them. While a session
is not stopped, the backend captures, plays exactly if the session streams, and the audio goes to
the session's client; otherwise the backend does not capture.
-/

set_option autoImplicit false

namespace PairedAudio

open Capture (Device Lamps Scripted Status Tone Watched)
open Cipher (IvSource Key)
open Wire (Settings)

variable {σ : Type} {backend : Device σ}

theorem Session.command_stopped (session : Session) : (session.command .stopped).state = .stopped := by
  unfold Session.command
  split
  · assumption
  · rfl

/-- Session, capture and destination agree. -/
structure Pairing.Consistent (status : Status backend) (p : Pairing σ) : Prop where
  live (session : Session) (present : p.session = some session) (going : session.state ≠ .stopped) :
    status.capturing p.device = true ∧
      (status.playing p.device = true ↔ session.state = .streaming) ∧
      (status.playing p.device = false ↔ session.state = .paused) ∧
      p.destination = some session.client
  idle (ended : ∀ session, p.session = some session → session.state = .stopped) :
    status.capturing p.device = false

namespace Pairing.Consistent

variable {status : Status backend} {p p' : Pairing σ}

theorem of_quiet (quiet : status.capturing p.device = false)
    (ended : ∀ session, p.session = some session → session.state = .stopped) :
    p.Consistent status where
  live session present going := absurd (ended session present) going
  idle _ := quiet

theorem of_stopped {before : Option Session} {change : Session → Session}
    (quiet : status.capturing p.device = false) (session : p.session = before.map change)
    (stops : ∀ session, (change session).state = .stopped) : p.Consistent status := by
  refine of_quiet quiet fun after present => ?_
  rw [session] at present
  obtain ⟨before, -, rfl⟩ := Option.map_eq_some_iff.mp present
  exact stops before

theorem of_started {session : Session} (capturing : status.capturing p.device = true)
    (playing : status.playing p.device = true) (present : p.session = some session)
    (streaming : session.state = .streaming) (aimed : p.destination = some session.client) :
    p.Consistent status where
  live other found _ := by
    cases present.symm.trans found
    rw [capturing, playing, streaming]
    exact ⟨rfl, by decide, by decide, aimed⟩
  idle ended := by
    rw [ended session present] at streaming
    cases streaming

theorem of_same {device : σ} (consistent : p.Consistent status)
    (capturing : status.capturing device = status.capturing p.device)
    (playing : status.playing device = status.playing p.device) :
    Consistent status { p with device } where
  live session present going := by
    rw [capturing, playing]
    exact consistent.live session present going
  idle ended := by
    rw [capturing]
    exact consistent.idle ended

theorem switched {on : Bool} {device : σ} (consistent : p.Consistent status)
    (set : backend.setPlaying on p.device = .ok () device) :
    Consistent status { p with
      device, session := p.session.map (Session.command (Control.switched on)) } where
  live session present going := by
    obtain ⟨before, found, rfl⟩ := Option.map_eq_some_iff.mp present
    obtain ⟨capturing, playing⟩ := status.switched set
    by_cases stopped : before.state = .stopped
    -- Commands do not wake a session that is stopped.
    · simp only [Session.command, if_pos stopped] at going
      exact absurd stopped going
    · obtain ⟨captures, -, -, aimed⟩ := consistent.live before found stopped
      simp only [Session.command, if_neg stopped]
      rw [capturing, playing]
      refine ⟨captures, ?_, ?_, aimed⟩ <;> cases on <;> simp [Control.switched]
  idle ended := by
    rw [(status.switched set).1]
    refine consistent.idle fun session present => ?_
    have halted := ended _ (Option.map_eq_some_iff.mpr ⟨session, present, rfl⟩)
    by_cases stopped : session.state = .stopped
    · exact stopped
    · simp only [Session.command, if_neg stopped] at halted
      cases on <;> cases halted

end Pairing.Consistent

namespace Server

theorem consistent_kept (status : Status backend) :
    Kept backend fun s => s.pairing.Consistent status where
  store w bytes s consistent := by
    rw [store, setWorker_pairing]
    exact consistent
  opened w packet s consistent := by
    rw [opened, setWorker_pairing]
    exact consistent
  ended w s consistent := by
    simp only [endWorker, setWorker_pairing]
    exact consistent
  handshake := by
    intro c request port sender s r ends _
    -- Whatever went before, the handshake has stopped the capture first.
    have stopped := status.stopped s.pairing.device
    cases ends with
    | unprepared prepared =>
      exact .of_quiet ((status.unprepared prepared).trans stopped) fun _ present => by cases present
    | unanswerable prepared | unsent prepared | unconnected prepared =>
      exact .of_quiet ((status.prepared prepared).trans stopped) fun _ present => by cases present
    | unstarted prepared _ _ _ started =>
      exact .of_quiet ((status.unstarted started).trans ((status.prepared prepared).trans stopped))
        fun _ present => by cases present
    | paired prepared _ _ _ started =>
      obtain ⟨capturing, playing⟩ := status.started started
      exact .of_started capturing playing rfl rfl rfl
  command := by
    intro c command sender s r ends consistent
    have carry : ∀ {s'}, Control.Carried backend s command (.ok () s') →
        s'.pairing.Consistent status := by
      intro s' carried
      cases carried with
      | pinged => exact consistent
      | switched set => exact consistent.switched set
      | stopped => exact .of_stopped (status.stopRequested _) rfl Session.command_stopped
    -- What is sealed and sent afterwards touches none of the three.
    cases ends with
    | failed carried =>
      cases carried with
      | unswitched failed =>
        obtain ⟨capturing, playing⟩ := status.unswitched failed
        exact consistent.of_same capturing playing
    | @acknowledged s' carried =>
      have carried : s'.pairing.Consistent status := carry carried
      exact carried
    | silenced carried => exact .of_stopped (status.stopRequested _) rfl fun _ => rfl
  chunk send bytes s consistent := by
    obtain ⟨audio, ivs, datagrams, -, frame⟩ := emit_frame send bytes s
    rw [frame]
    exact consistent
  halt _ := .of_stopped (status.stopped _) rfl fun _ => rfl
  closed consistent := consistent

/-- After every event of every run, session, capture and destination agree, whatever backend it is
that captures from each start that succeeds to the next stop. -/
theorem pairing_consistent (status : Status backend) {config : Config} {device : σ}
    {commandPort : UInt16} {ivs : IvSource} {setup : Setup} {s : Server σ}
    (started : start backend config device commandPort ivs setup = .ok s)
    (idle : status.capturing device = false) (events : List Event) :
    (s.run backend events).pairing.Consistent status := by
  obtain ⟨key, -, rfl⟩ := eq_initial_of_start started
  refine (consistent_kept status).run events ?_
  refine .of_quiet ?_ fun session present => by cases present
  rw [← idle]
  exact status.listen audioListener device

/-- A client that pairs and a shutdown, for the tone and for a backend that refuses to start and is
known by its lamps only. -/
theorem pairing_consistent_tone_and_lamps :
    let events : List Event :=
      [.arrival .control {} (.datagram Standard.request Standard.client), .chunk none [], .shutdown]
    let refusing : Watched Scripted Lamps := ⟨{ script := { refuseStart := some .deviceNotAvailable } }, {}⟩
    let lit := Scripted.device.watched Lamps.note
    let sounding := Standard.server Tone.device .standard
    let silent := Standard.server lit refusing
    (start Tone.device Standard.config .standard 5541 (.seeded default) {} = .ok sounding ∧
      Tone.status.capturing .standard = false ∧
      (sounding.run Tone.device events).pairing.Consistent Tone.status) ∧
    start lit Standard.config refusing 5541 (.seeded default) {} = .ok silent ∧
      (Status.ofLamps Scripted.device).capturing refusing = false ∧
      (silent.run lit events).pairing.Consistent (Status.ofLamps Scripted.device) := by
  intro events refusing lit sounding silent
  have sounds : start Tone.device Standard.config .standard 5541 (.seeded default) {} = .ok sounding :=
    Standard.start ..
  have silences : start lit Standard.config refusing 5541 (.seeded default) {} = .ok silent :=
    Standard.start ..
  exact ⟨⟨sounds, rfl, pairing_consistent Tone.status sounds rfl events⟩,
    silences, rfl, pairing_consistent (Status.ofLamps Scripted.device) silences rfl events⟩

end Server

end PairedAudio
