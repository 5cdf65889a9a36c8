import PairedAudio.Proofs.Outcomes

/-! What a start that fails leaves behind.

As long as its thread can be spawned, a capture that does not run still does not run when a start of
it has failed, and it stays so until it is started again. It has no capture thread either, unless the
start was refused before it came to joining: then everything is as it was, also the thread of an
earlier run that was asked to stop and not waited for.
-/

set_option autoImplicit false

namespace PairedAudio.Capture

open Audio (Format)

/-- How a kind of capture goes about being in use: only a start puts it in use, and only a capture in
use is called so. -/
structure Usage.Restrained (u : Usage) : Prop where
  prepared (surroundings : u.Surroundings) (format : Format) (s : u.State) :
    u.isRunning (u.step s (.call surroundings (.prepare format))) = u.isRunning s
  quiet {use : Use u} {s : u.State} (quiet : use.isPreparation = false ∧ use.isStart = false)
    (idle : u.isRunning s = false) : u.isRunning (u.step s use) = false
  doubled {surroundings : u.Surroundings} {s s' : u.State}
    (refused : (u.backend surroundings).start s = .error (.refused u.alreadyRunning) s') :
    u.isRunning s = true

namespace Usage.Restrained

variable {u : Usage}

theorem idle (restrained : u.Restrained) {use : Use u} {s : u.State} (other : use.isStart = false)
    (idle : u.isRunning s = false) : u.isRunning (u.step s use) = false := by
  rcases use.sort with ⟨surroundings, format, rfl⟩ | ⟨surroundings, rfl⟩ | quiet
  · exact (restrained.prepared surroundings format s).trans idle
  · cases other
  · exact restrained.quiet quiet idle

theorem run (restrained : u.Restrained) {s : u.State} (idle : u.isRunning s = false)
    {uses : List (Use u)} (unstarted : ∀ use ∈ uses, use.isStart = false) :
    u.isRunning (u.run s uses) = false := by
  -- Over the uses, for every state out of use: only a start could change that.
  induction uses generalizing s with
  | nil => exact idle
  | cons use uses ih =>
    obtain ⟨other, unstarted⟩ := List.forall_mem_cons.mp unstarted
    exact ih (restrained.idle other idle) unstarted

end Usage.Restrained

namespace Tone

theorem prepare_running (format : Format) (tone : Tone) :
    (stateAfter (refusable (prepare format) tone)).running = tone.running := by
  rw [stateAfter_refusable]
  cases valid : format.validate with
  | error => rw [prepare_invalid tone valid, stateAfter]
  | ok => rw [prepare_valid tone valid, stateAfter]

theorem Started.running {spawn : Option OsError} {tone after : Tone} {e : CaptureError}
    (started : Started spawn tone (.error e after)) (called : e = usage.alreadyRunning) :
    tone.running = true := by
  cases started with
  | unready => exact absurd called (by decide)
  | doubled runs => exact runs
  | unspawned => cases called

theorem restrained : usage.Restrained where
  prepared _ := prepare_running
  quiet {_ tone} quiet := (Kept.use tone quiet).idle
  doubled {surroundings tone _} refused := by
    obtain ⟨e, same, failed⟩ := of_refusable_error refused
    have started := started surroundings tone
    rw [failed] at started
    exact started.running (Fault.refused.inj same).symm

def Fresh (tone : Tone) : Prop := tone.format = none → tone.run = none

theorem fresh_start (spawn : Option OsError) {tone : Tone} (fresh : tone.Fresh) :
    (stateAfter (refusable (start spawn) tone)).Fresh := by
  rw [stateAfter_refusable]
  have started := started spawn tone
  generalize start spawn tone = result at started ⊢
  cases started with
  | unready | doubled => exact fresh
  | unspawned => exact fun _ => rfl
  | begun run ready =>
    -- A run begins only with a format.
    intro missing
    replace missing : tone.format = none := missing
    simp [missing] at ready

theorem fresh_prepare (format : Format) {tone : Tone} (fresh : tone.Fresh) :
    (stateAfter (refusable (prepare format) tone)).Fresh := by
  rw [stateAfter_refusable]
  cases valid : format.validate with
  | error =>
    rw [prepare_invalid tone valid]
    exact fresh
  | ok =>
    rw [prepare_valid tone valid]
    intro missing
    cases missing

theorem fresh_next {tone : Tone} (fresh : tone.Fresh) : tone.next.2.Fresh := by
  intro missing
  obtain ⟨run, next⟩ := tone.next_eq
  rw [next] at missing
  have still : tone.run = none := fresh missing
  simp only [Tone.next, still]

theorem Fresh.step {tone : Tone} (fresh : tone.Fresh) (use : Use usage) :
    Fresh (usage.step tone use) := by
  cases use with
  | listen => exact fresh
  | elapse => exact fresh_next fresh
  | call surroundings call =>
    cases call with
    | prepare format => exact fresh_prepare format fresh
    | start => exact fresh_start surroundings fresh
    | stop => exact fun _ => rfl
    | requestStop | setPlaying => exact fresh

theorem Fresh.run {tone : Tone} (fresh : tone.Fresh) (uses : List (Use usage)) :
    Fresh (usage.run tone uses) := by
  induction uses generalizing tone with
  | nil => exact fresh
  | cons use uses ih => exact ih (fresh.step use)

theorem failed_start {tone after : Tone} {fault : Fault} (fresh : tone.Fresh)
    (idle : tone.running = false) (failed : refusable (start none) tone = .error fault after) :
    after.running = false ∧ after.run = none := by
  obtain ⟨e, _, failed⟩ := of_refusable_error failed
  have started := started none tone
  rw [failed] at started
  cases started with
  | unready missing => exact ⟨idle, fresh missing⟩
  | doubled runs => exact absurd (idle.symm.trans runs) nofun
  | unspawned refused => cases refused

end Tone

namespace Monitor

theorem prepare_running (host : Host) (format : Format) (m : Monitor) :
    (stateAfter (refusable (prepare host format) m)).running = m.running := by
  obtain ⟨_, _, _, _, _, prepared⟩ := prepare_eq host format m
  rw [stateAfter_refusable, prepared]

theorem Started.running {spawn : Option OsError} {m after : Monitor} {e : CaptureError}
    (started : Started spawn m (.error e after)) (called : e = usage.alreadyRunning) :
    m.running = true := by
  cases started with
  | unready => exact absurd called (by decide)
  | doubled runs => exact runs
  | unspawned => cases called
  | failed _ other => exact absurd called other

theorem restrained : usage.Restrained where
  prepared surroundings := prepare_running surroundings.1
  quiet {_ m} quiet := (Kept.use m quiet).idle
  doubled {surroundings m _} refused := by
    obtain ⟨e, same, failed⟩ := of_refusable_error refused
    have started := started surroundings.1 surroundings.2 m
    rw [failed] at started
    exact started.running (Fault.refused.inj same).symm

theorem failed_start {host : Host} {m after : Monitor} {fault : Fault} (idle : m.running = false)
    (failed : refusable (start host none) m = .error fault after) :
    after.running = false ∧
      (after.thread = none ∨ fault = .refused notInitialised ∧ after = m) := by
  obtain ⟨e, rfl, ended⟩ := of_refusable_error failed
  have started := started host none m
  rw [ended] at started
  cases started with
  | unready => exact ⟨idle, .inr ⟨rfl, rfl⟩⟩
  | doubled runs => exact absurd (idle.symm.trans runs) nofun
  | unspawned _ refused => cases refused
  | failed => exact ⟨rfl, .inl rfl⟩

end Monitor

namespace Loopback

theorem prepare_running (format : Format) (l : Loopback) :
    (stateAfter (prepare format l)).running = l.running := by
  obtain ⟨_, _, _, _, _, prepared⟩ := prepare_eq format l
  rw [prepared]

theorem Started.running {spawn : Option OsError} {l after : Loopback} {e : CaptureError}
    (started : Started spawn l (.error e after)) (called : e = usage.alreadyRunning) :
    l.running = true := by
  cases started with
  | unready => exact absurd called (by decide)
  | doubled runs => exact runs
  | unspawned => cases called

theorem restrained : usage.Restrained where
  prepared _ := prepare_running
  quiet {_ l} quiet := (Kept.use l quiet).idle
  doubled {surroundings l _} refused := by
    obtain ⟨e, same, failed⟩ := of_refusable_error refused
    have started := started surroundings l
    rw [failed] at started
    exact started.running (Fault.refused.inj same).symm

theorem failed_start {l after : Loopback} {fault : Fault} (idle : l.running = false)
    (failed : refusable (start none) l = .error fault after) :
    fault = .refused notInitialised ∧ after = l := by
  obtain ⟨e, rfl, ended⟩ := of_refusable_error failed
  have started := started none l
  rw [ended] at started
  cases started with
  | unready => exact ⟨rfl, rfl⟩
  | doubled runs => exact absurd (idle.symm.trans runs) nofun
  | unspawned refused => cases refused

end Loopback

theorem Kind.restrained : (kind : Kind) → kind.usage.Restrained
  | tone => Tone.restrained
  | monitor => Monitor.restrained
  | loopback => Loopback.restrained

section FailedStart

variable {kind : Kind} {options : kind.usage.Options} {uses : List (Use kind.usage)}
  {surroundings : kind.usage.Surroundings} {fault : Fault} {s' : kind.usage.State}

theorem Kind.stopped
    (idle : kind.usage.isRunning (kind.usage.run (kind.usage.new options) uses) = false)
    (spawns : kind.usage.spawnRefusal surroundings = none)
    (failed : (kind.usage.backend surroundings).start
      (kind.usage.run (kind.usage.new options) uses) = .error fault s') :
    kind.usage.isRunning s' = false ∧
      (kind.usage.hasThread s' = false ∨ kind ≠ .tone ∧ fault = .refused notInitialised ∧
        s' = kind.usage.run (kind.usage.new options) uses) := by
  cases kind with
  | tone =>
    cases spawns
    have fresh : Tone.Fresh (Tone.usage.run (Tone.usage.new options) uses) :=
      Tone.Fresh.run (fun _ => rfl) uses
    obtain ⟨stopped, joined⟩ := Tone.failed_start fresh idle failed
    exact ⟨stopped, .inl (Option.isSome_eq_false_iff.mpr (Option.isNone_iff_eq_none.mpr joined))⟩
  | monitor =>
    obtain ⟨host, spawn⟩ := surroundings
    cases spawns
    obtain ⟨stopped, joined | untouched⟩ := Monitor.failed_start idle failed
    · exact ⟨stopped, .inl (Option.isSome_eq_false_iff.mpr (Option.isNone_iff_eq_none.mpr joined))⟩
    · exact ⟨stopped, .inr ⟨nofun, untouched⟩⟩
  | loopback =>
    cases spawns
    obtain ⟨refused, rfl⟩ := Loopback.failed_start idle failed
    exact ⟨idle, .inr ⟨nofun, refused, rfl⟩⟩

/-- When a start has failed although its thread could be spawned, the capture does not run, and until
the next start nothing makes it count as running. It has no thread either, or it was not initialised
and is as it was. -/
theorem failed_start_leaves_stopped
    (idle : kind.usage.isRunning (kind.usage.run (kind.usage.new options) uses) = false)
    (spawns : kind.usage.spawnRefusal surroundings = none)
    (failed : (kind.usage.backend surroundings).start
      (kind.usage.run (kind.usage.new options) uses) = .error fault s') :
    kind.usage.isRunning s' = false ∧
      (kind.usage.hasThread s' = false ∨ kind ≠ .tone ∧ fault = .refused notInitialised ∧
        s' = kind.usage.run (kind.usage.new options) uses) ∧
      ∀ between : List (Use kind.usage), (∀ use ∈ between, use.isStart = false) →
        ∀ surroundings' s'', (kind.usage.backend surroundings').start (kind.usage.run s' between) ≠
          .error (.refused kind.usage.alreadyRunning) s'' := by
  obtain ⟨stopped, joined⟩ := Kind.stopped idle spawns failed
  refine ⟨stopped, joined, fun between unstarted surroundings' s'' refused => ?_⟩
  have runs := kind.restrained.doubled refused
  exact absurd ((kind.restrained.run stopped unstarted).symm.trans runs) nofun

end FailedStart

def InputDevice.standard (name : String) : InputDevice where
  name := some name
  ranges := .ok [⟨2, some .i16, 1, 768000⟩]

/-- The device of the initialisation is gone when the monitor is started, and back afterwards. -/
theorem monitor_stopped_without_device :
    let u := Kind.monitor.usage
    let host : Host := { devices := .ok [.standard "pulse"] }
    let s : Monitor := u.run (u.new ()) [.call (host, none) (.prepare .standard)]
    let failed := (u.backend ({ devices := .ok [] }, none)).start s
    failed = .error (.refused .deviceNotAvailable) (stateAfter failed) ∧
      u.isRunning (stateAfter failed) = false ∧ ∀ s'', (u.backend (host, none)).start
        (u.run (stateAfter failed) []) ≠ .error (.refused u.alreadyRunning) s'' := by
  intro u host s failed
  have refused : failed = .error (.refused .deviceNotAvailable) (stateAfter failed) := rfl
  obtain ⟨idle, -, again⟩ := @failed_start_leaves_stopped .monitor _ _ _ _ _ rfl rfl refused
  exact ⟨refused, idle, again [] (List.forall_mem_nil _) (host, none)⟩

/-- The thread of a capture that was asked to stop outlives a start without a format. -/
theorem refused_start_leaves_thread :
    (let u := Loopback.usage
     let s := u.run (u.new { channels := 2, period := 100000 })
      [.call none (.prepare .standard), .call none .start, .call none .requestStop,
        .elapse (.change 2 100000 [⟨"CoInitializeEx", 0, "gone"⟩]), .call none (.prepare .standard)]
     u.isRunning s = false ∧ (u.backend none).start s = .error (.refused notInitialised) s ∧
      u.hasThread s = true) ∧
    let u := Tone.usage
    let s := u.run (u.new (⟨0⟩, ⟨0⟩)) [.call none (.prepare .standard)]
    let s' := stateAfter ((u.backend (some ⟨11⟩)).start s)
    u.isRunning s = false ∧ u.isRunning s' = true ∧
      (u.backend none).start s' = .error (.refused u.alreadyRunning) s' :=
  ⟨⟨rfl, rfl, rfl⟩, rfl, rfl, rfl⟩

end PairedAudio.Capture
