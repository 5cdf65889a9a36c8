import PairedAudio.Proofs.Loopback.Settling

/-! The account of one capture thread of a loopback capture.

It is kept beside the capture from the calls that are made of it and the answers that it gets. Whether
the capture is to play and whether it was asked to stop is read off the calls alone. The thread keeps
what the law says with every step, and whatever becomes of it, it ends with everything given back.
-/

set_option autoImplicit false

namespace PairedAudio.Capture

open Audio (Format)

structure Loopback.Alike (l l' : Loopback) : Prop where
  thread : l'.thread = l.thread
  queue : l'.endpoint.queue = l.endpoint.queue
  playing : l'.playing = l.playing
  running : l'.running = l.running

structure Life where
  shape : StreamShape
  listener : Option Listener
  /-- The packets that the endpoint has had for the thread. -/
  arrived : List RenderPacket := []
  log : List Answered := []
  fetched : List Fetched := []
  delivered : List Delivery := []
  /-- Whether the capture is to play, by the calls since the thread was started. -/
  playing : Bool := true
  /-- Whether it was asked to stop since then. -/
  asked : Bool := false
  /-- Whether the thread has looked whether it was asked, and it was. -/
  told : Bool := false

namespace Life

def align (life : Life) : UInt16 := life.shape.blockAlign?.getD 0

def witness (l : Loopback) (life : Life) : Life :=
  { life with
    log := life.log ++ l.madeBetween l.step
    fetched := life.fetched ++ (l.fetch?.map fun packet => ⟨packet, life.playing⟩).toList
    delivered := life.delivered ++ l.step.trace.delivered.drop l.trace.delivered.length
    told := life.told || life.asked && l.isPolling }

def offered (packets : List RenderPacket) (life : Life) : Life :=
  { life with arrived := life.arrived ++ packets }

def play (playing : Bool) (life : Life) : Life := { life with playing }

def ask (life : Life) : Life := { life with asked := true }

/-- What holds of a thread at any time. It fetches the packets as they arrive, and delivers what it has
fetched, but a listener that crashes is called with the last packet at most; as long as listeners
return, a buffer is given back before anything else is done; and the stream is stopped just if the
thread has seen that it was asked to stop, and then once. -/
structure Sound (life : Life) : Prop where
  sized : life.shape.waveFormat?.isSome
  ordered : life.fetched.map Fetched.packet <+: life.arrived
  gets : life.log.count ⟨.getBuffer, none⟩ = life.fetched.length
  heard : life.delivered = heardBy life.listener life.align life.fetched
  spared : ∀ listener, life.listener = some listener → listener.crashes = true →
    ∀ f ∈ life.fetched.dropLast, f.isHeard = false
  given (returns : ∀ listener, life.listener = some listener → listener.crashes = false) :
    GivenBack life.log (life.fetched.map fun f => f.packet.frames)
  stops : stopCount life.log = if life.told then 1 else 0
  obeyed (told : life.told = true) : life.asked = true ∧ ⟨.start, none⟩ ∈ life.log

/-- What holds of a thread that has not ended: it is in the apartment and has started its stream, goes
by what was asked of the capture, and whatever it has not fetched yet waits. -/
structure Ongoing (life : Life) (l : Loopback) (thread : LoopbackThread) : Prop where
  on : l.thread = some thread
  shape : thread.shape = life.shape
  listener : thread.listener = life.listener
  silent : ∀ byte ∈ thread.silence, byte = 0
  inside : ∃ work, life.log = ⟨.enterApartment, none⟩ :: work ∧ Within work
  started : ⟨.start, none⟩ ∈ life.log
  playing : l.playing = life.playing
  running : l.running = !life.asked
  untold : life.told = false
  arrived : life.arrived = life.fetched.map Fetched.packet ++ l.endpoint.queue
  spared : ∀ listener, life.listener = some listener → listener.crashes = true →
    ∀ f ∈ life.fetched, f.isHeard = false

/-- Why a thread has ended: it has seen that it was asked to stop, a call was refused, or its listener
has crashed on the last packet. -/
inductive Over (life : Life) : Prop
  | told (told : life.told = true)
  | broken (broken : Broken life.log)
  | crashed {listener : Listener} {f : Fetched} (registered : life.listener = some listener)
      (crashes : listener.crashes = true) (last : life.fetched.getLast? = some f)
      (heard : f.isHeard = true)

structure Closed (life : Life) : Prop where
  settled : Loopback.Settled life.log
  ended : life.Over

section Asked

variable {life : Life}

theorem Sound.offered (sound : life.Sound) (packets : List RenderPacket) :
    (life.offered packets).Sound :=
  { sound with ordered := sound.ordered.trans (List.prefix_append _ _) }

theorem Sound.play (sound : life.Sound) (playing : Bool) : (life.play playing).Sound := { sound with }

theorem Sound.ask (sound : life.Sound) : life.ask.Sound :=
  { sound with obeyed := fun told => ⟨rfl, (sound.obeyed told).2⟩ }

theorem Over.play (ended : life.Over) (playing : Bool) : (life.play playing).Over := by
  cases ended with
  | told told => exact .told told
  | broken broken => exact .broken broken
  | crashed registered crashes last heard => exact .crashed registered crashes last heard

theorem Over.ask (ended : life.Over) : life.ask.Over := by
  cases ended with
  | told told => exact .told told
  | broken broken => exact .broken broken
  | crashed registered crashes last heard => exact .crashed registered crashes last heard

variable {l : Loopback} {thread : LoopbackThread}

theorem Ongoing.offered (ongoing : life.Ongoing l thread) (packets : List RenderPacket) :
    (life.offered packets).Ongoing
      { l with endpoint := { l.endpoint with queue := l.endpoint.queue ++ packets } } thread :=
  { ongoing with
    arrived := by
      rw [Life.offered, ongoing.arrived, List.append_assoc] }

theorem Ongoing.play (ongoing : life.Ongoing l thread) (playing : Bool) :
    (life.play playing).Ongoing (l.setPlaying playing) thread :=
  { ongoing with playing := rfl }

theorem Ongoing.ask (ongoing : life.Ongoing l thread) : life.ask.Ongoing l.requestStop thread :=
  { ongoing with running := rfl }

theorem Ongoing.of_alike {l' : Loopback} (ongoing : life.Ongoing l thread)
    (alike : Loopback.Alike l l') : life.Ongoing l' thread :=
  { ongoing with
    on := alike.thread.trans ongoing.on
    playing := alike.playing.trans ongoing.playing
    running := alike.running.trans ongoing.running
    arrived := ongoing.arrived.trans (by rw [alike.queue]) }

end Asked

end Life

namespace Loopback

theorem Indoors.of_within {log : List Answered} (within : Within log) : Indoors log where
  stays a among := ⟨(within a among).1, (within a among).2.1⟩
  formats := .of_apart fun a among => (within a among).2.2

variable {l : Loopback} {thread : LoopbackThread} {life : Life}

theorem isPolling_of_still (still : l.isLive = false) : l.isPolling = false := by
  unfold isLive at still
  unfold isPolling
  cases on : l.thread with
  | none => rfl
  | some thread =>
    rw [on, Option.any_some] at still
    cases stage : thread.progress with
    | polling | fetching =>
      rw [stage] at still
      cases still
    | ended | crashed => simp [stage]

theorem witness_of_still (still : l.isLive = false) : life.witness l = life := by
  have same := step_of_still still
  have silent : l.madeBetween l.step = [] := by
    rw [same]
    exact (Made.refl l).madeBetween_eq
  have unfetched : l.fetch? = none := by
    rw [fetch?, silent]
    rfl
  rw [Life.witness, silent, unfetched, isPolling_of_still still, same]
  simp

section Witness

variable (live : thread.progress.isLive = true) (ongoing : life.Ongoing l thread)

include live ongoing

theorem exists_shift : ∃ work fetched, Shift l thread work fetched l.step ∧
    life.witness l = { life with
      log := life.log ++ (work ++ l.step.parting)
      fetched := life.fetched ++ fetched.toList
      delivered := life.delivered ++ heardBy life.listener life.align fetched.toList
      told := l.isTold } := by
  obtain ⟨work, fetched, shift⟩ := shift ongoing.on live ongoing.silent
  refine ⟨work, fetched, shift, ?_⟩
  have heard : l.step.trace.delivered.drop l.trace.delivered.length =
      heardBy life.listener life.align fetched.toList := by
    rw [shift.delivered, List.drop_left, ongoing.listener, LoopbackThread.align, ongoing.shape]
    rfl
  -- The capture plays and runs as it was asked to.
  have played : (l.fetch?.map fun packet => Fetched.mk packet life.playing) = fetched := by
    rw [shift.fetch?_eq]
    cases which : fetched with
    | none => rfl
    | some f =>
      rw [← ongoing.playing, ← (shift.first f which).2]
      rfl
  have told : (life.asked && l.isPolling) = l.isTold := by
    rw [isTold, ongoing.running, Bool.not_not]
  rw [Life.witness, shift.madeBetween_eq, played, heard, ongoing.untold, Bool.false_or, told]

theorem made_step : Made l (l.madeBetween l.step) l.step ∧
    l.step.trace.delivered = l.trace.delivered ++ l.step.trace.delivered.drop l.trace.delivered.length := by
  obtain ⟨work, fetched, shift, -⟩ := exists_shift live ongoing
  refine ⟨?_, ?_⟩
  · rw [shift.madeBetween_eq]
    exact shift.made
  · rw [shift.delivered, List.drop_left]

theorem sound_witness (sound : life.Sound) : (life.witness l).Sound := by
  obtain ⟨work, fetched, shift, after⟩ := exists_shift live ongoing
  rw [after]
  exact {
    sized := sound.sized
    ordered := by
      dsimp only
      rw [ongoing.arrived, List.map_append]
      exact (List.prefix_append_right_inj _).mpr shift.ahead
    gets := by
      dsimp only
      rw [List.count_append, List.count_append, sound.gets, shift.gets, count_parting,
        List.length_append, Nat.add_zero]
    heard := by
      dsimp only
      rw [sound.heard, ← heardBy_append]
      rfl
    spared := fun listener registered crashes f among => by
      -- What was fetched before this step has not crashed the listener.
      refine ongoing.spared listener registered crashes f ?_
      cases fetched with
      | none =>
        rw [Option.toList_none, List.append_nil] at among
        exact List.dropLast_subset _ among
      | some _ =>
        rw [Option.toList_some, List.dropLast_concat] at among
        exact among
    given := fun returns => by
      dsimp only
      have given := shift.given fun listener registered =>
        returns listener (ongoing.listener.symm.trans registered)
      rw [List.map_append]
      refine (sound.given returns).append ?_
      have both := given.append l.step.givenBack_parting
      rwa [List.append_nil] at both
    stops := by
      dsimp only
      rw [stopCount_append, stopCount_append, sound.stops, ongoing.untold, shift.stops,
        stopCount_parting]
      simp
    obeyed := fun told => by
      have idle : l.running = false := by
        have both : (!l.running && l.isPolling) = true := told
        simpa using (Bool.and_eq_true_iff.mp both).1
      refine ⟨?_, List.mem_append_left _ ongoing.started⟩
      simpa [ongoing.running] using idle }

theorem ongoing_witness (goesOn : l.step.isLive = true) :
    ∃ thread', (life.witness l).Ongoing l.step thread' := by
  obtain ⟨work, fetched, shift, after⟩ := exists_shift live ongoing
  obtain ⟨⟨thread', on', follows⟩, queue, spared⟩ := shift.goesOn goesOn
  obtain ⟨before, entered, inside⟩ := ongoing.inside
  -- A thread that goes on has made no parting calls.
  have stays : l.step.parting = [] := if_pos goesOn
  refine ⟨thread', ?_⟩
  rw [after, stays, List.append_nil]
  exact {
    on := on'
    shape := follows.shape.trans ongoing.shape
    listener := follows.listener.trans ongoing.listener
    silent := follows.silent
    inside := ⟨before ++ work, by rw [entered]; rfl, inside.append shift.within⟩
    started := List.mem_append_left _ ongoing.started
    playing := (onward_step goesOn).playing.trans ongoing.playing
    running := (onward_step goesOn).running.trans ongoing.running
    untold := Bool.eq_false_iff.mpr fun told =>
      absurd ((shift.told told).symm.trans goesOn) nofun
    arrived := by
      dsimp only
      rw [ongoing.arrived, queue, List.map_append, List.append_assoc]
    spared := fun listener registered crashes f among => by
      rcases List.mem_append.mp among with earlier | now
      · exact ongoing.spared listener registered crashes f earlier
      · exact spared listener (ongoing.listener.trans registered) crashes f (Option.mem_toList.mp now) }

theorem closed_witness (ends : l.step.isLive = false) : (life.witness l).Closed := by
  obtain ⟨work, fetched, shift, after⟩ := exists_shift live ongoing
  have leaves : l.step.parting = [⟨.leaveApartment, none⟩] := by
    rw [parting, ends]
    rfl
  rw [after]
  constructor
  · -- All that was done since the apartment was entered was done inside.
    obtain ⟨before, entered, inside⟩ := ongoing.inside
    dsimp only
    rw [leaves, entered, ← List.append_assoc]
    exact .of_indoors (.of_within (inside.append shift.within))
  · cases shift.ends ends with
    | told told => exact .told told
    | broken broken => exact .broken ((broken.before _).behind _)
    | crashed registered crashes heard =>
      exact .crashed (ongoing.listener.symm.trans registered) crashes List.getLast?_concat heard

end Witness

def opening (format : Format) (l : Loopback) (log : List Answered) : Life :=
  { shape := ⟨format, l.channels⟩, listener := l.listener, arrived := l.endpoint.queue, log }

theorem sound_opening {format : Format} {log : List Answered}
    (sized : (StreamShape.waveFormat? ⟨format, l.channels⟩).isSome)
    (given : GivenBack log []) (unstopped : stopCount log = 0) : (l.opening format log).Sound where
  sized
  ordered := List.nil_prefix
  gets := given.count
  heard := (heardBy_nil _ _).symm
  spared _ _ _ := List.forall_mem_nil _
  given _ := given
  stops := unstopped
  obeyed := nofun

theorem opening_begun {format : Format} {l : Loopback}
    (sized : (StreamShape.waveFormat? ⟨format, l.channels⟩).isSome) :
    let after := l.begun format
    ∃ log, Made l log after ∧ after.trace.delivered = l.trace.delivered ∧
      (l.opening format log).Sound ∧ (after.isLive = false → (l.opening format log).Closed) ∧
      (after.isLive = true → ∃ thread, (l.opening format log).Ongoing after thread) := by
  have launched := launched ⟨format, l.channels⟩ (l.spawned format)
  have entering : Made (l.spawned format) _ _ := .making [.enterApartment] _
  unfold begun
  generalize (l.spawned format).launch ⟨format, l.channels⟩ = after at launched ⊢
  -- The launch has failed before the apartment, inside it, or it has started the stream.
  cases launched with
  | @unentered text e refused =>
    rw [refused] at entering
    have dead := isLive_fail e ((l.spawned format).making [.enterApartment])
    refine ⟨_, ⟨entering.calls, entering.due, entering.answers⟩, rfl,
      sound_opening sized (.other nofun nofun .nil) rfl, fun _ => ⟨.unentered text, ?_⟩, fun live => ?_⟩
    · exact .broken (.single rfl text)
    · exact absurd (dead.symm.trans live) nofun
  | @lost calls e entered plain broken =>
    rw [entered] at entering
    have made := (entering.trans (.making calls _)).abort e
    have dead := isLive_abort e (((l.spawned format).making [.enterApartment]).making calls)
    rw [parting_abort, List.append_assoc] at made
    refine ⟨_, ⟨made.calls, made.due, made.answers⟩, rfl, sound_opening sized ?_ ?_,
      fun _ => ⟨.of_indoors (.of_plain plain), ?_⟩, fun live => absurd (dead.symm.trans live) nofun⟩
    · exact .other nofun nofun ((GivenBack.of_plain plain).append (.other nofun nofun .nil))
    · rw [stopCount_append, stopCount_append, stopCount_of_plain plain]
      rfl
    · exact .broken ((broken.before _).behind _)
  | crashed oversized =>
    rw [oversized] at sized
    cases sized
  | @opened calls entered plain started =>
    rw [entered] at entering
    have made := entering.trans (.making calls _)
    refine ⟨_, ⟨made.calls, made.due, made.answers⟩, rfl, sound_opening sized ?_ ?_, nofun, fun _ => ?_⟩
    · exact .other nofun nofun (.of_plain plain)
    · rw [stopCount_append, stopCount_of_plain plain]
      rfl
    · exact ⟨{ shape := ⟨format, l.channels⟩, listener := l.listener }, {
        on := rfl
        shape := rfl
        listener := rfl
        silent := nofun
        inside := ⟨_, rfl, .of_plain plain⟩
        started := List.mem_append_right _ started
        playing := rfl
        running := rfl
        untold := rfl
        arrived := rfl
        spared := fun _ _ _ => List.forall_mem_nil _ }⟩

end Loopback

end PairedAudio.Capture
