import PairedAudio.Proofs.Advertised
import PairedAudio.Proofs.Loopback.Life

/-! The account of a loopback capture: what its threads and its initialisations take from the system,
give back and deliver.

Of all accounts only that of the latest thread grows, and only while the thread goes on. A start finds
the thread before it ended, and what an initialisation takes it gives back.
-/

set_option autoImplicit false

namespace PairedAudio.Capture

open Audio (Format)

namespace Loopback

theorem calls_join (l : Loopback) : l.join.trace.calls = l.trace.calls := by
  unfold join
  split
  · dsimp only
    split
    · rfl
    · rfl
  · rfl

theorem delivered_join (l : Loopback) : l.join.trace.delivered = l.trace.delivered := by
  unfold join
  split
  · dsimp only
    split
    · rfl
    · rfl
  · rfl

end Loopback

def Loopback.Sized (l : Loopback) : Prop :=
  ∀ format, l.format = some format → (StreamShape.waveFormat? ⟨format, l.channels⟩).isSome

theorem Loopback.Sized.of_same {l after : Loopback} (sized : l.Sized) (same : Same l after) :
    after.Sized := by
  intro format ready
  rw [same.channels]
  exact sized format (same.format.symm.trans ready)

theorem Loopback.Sized.step {l : Loopback} (sized : l.Sized) (use : Use Loopback.usage) :
    Loopback.Sized (Loopback.usage.step l use) := by
  rcases use.sort with ⟨_, format, rfl⟩ | ⟨spawn, rfl⟩ | quiet
  · show Loopback.Sized (stateAfter (prepare format l))
    cases valid : format.validate with
    | error =>
      rw [prepare_invalid l valid]
      exact sized
    | ok =>
      have prepared := prepared l valid
      generalize prepare format l = result at prepared ⊢
      cases prepared with
      | failed | overlong => exact nofun
      | done _ sized =>
        intro format' ready
        cases ready
        exact sized
  · exact sized.of_same (same_start spawn l)
  · exact sized.of_same (Kept.use l quiet).toSame

theorem StreamShape.exists_blockAlign {shape : StreamShape} (sized : shape.waveFormat?.isSome) :
    ∃ align, shape.blockAlign? = some align := by
  cases aligned : shape.blockAlign? with
  | none =>
    rw [waveFormat?, aligned] at sized
    cases sized
  | some align => exact ⟨align, rfl⟩

/-- A loopback capture with the accounts of all its threads, the latest first, and of all its
initialisations. -/
structure Attended where
  capture : Loopback
  lives : List Life := []
  trials : List (List Answered) := []

namespace Attended

open Loopback

def map (f : Loopback → Loopback) (a : Attended) : Attended := { a with capture := f a.capture }

def step (a : Attended) : Attended :=
  { a with capture := a.capture.step, lives := a.lives.modifyHead (Life.witness a.capture) }

def steps : Nat → Attended → Attended
  | 0, a => a
  | n + 1, a => steps n a.step

def settle (a : Attended) : Attended := steps (a.capture.endpoint.queue.length + 2) a

def setPlaying (playing : Bool) (a : Attended) : Attended :=
  { a with
    capture := a.capture.setPlaying playing
    lives := a.lives.modifyHead (Life.play playing) }

def requestStop (a : Attended) : Attended :=
  { a with capture := a.capture.requestStop, lives := a.lives.modifyHead Life.ask }

def stop (a : Attended) : Attended := a.requestStop.settle.map join

def prepare (format : Format) (a : Attended) : Attended :=
  let after := stateAfter (Loopback.prepare format a.capture)
  { a with capture := after, trials := a.trials ++ [a.capture.madeBetween after] }

/-- A start that is not refused at once joins the thread of the run before; if a new thread can be
spawned, its account is opened with the calls of its launch, and it is to play. -/
def start (spawn : Option OsError) (a : Attended) : Attended :=
  match a.capture.format with
  | none => a
  | some format =>
    if a.capture.running then a
    else
      let joined := a.settle.map join
      let after := stateAfter (refusable (Loopback.start spawn) a.capture)
      match spawn with
      | some _ => { joined with capture := after }
      | none => { joined with
          capture := after
          lives := joined.capture.opening format (joined.capture.madeBetween after) :: joined.lives }

def arrive (packets : List RenderPacket) (a : Attended) : Attended :=
  if a.capture.isLive then
    { a with
      capture := a.capture.arrive packets
      lives := a.lives.modifyHead (Life.offered packets) }
  else a

def use (a : Attended) : Use usage → Attended
  | .elapse .step => a.step
  | .elapse (.arrive packets) => a.arrive packets
  | .call _ (.prepare format) => a.prepare format
  | .call spawn .start => a.start spawn
  | .call _ .stop => a.stop
  | .call _ .requestStop => a.requestStop
  | .call _ (.setPlaying playing) => a.setPlaying playing
  | other => a.map fun capture => usage.step capture other

def run (a : Attended) (uses : List (Use usage)) : Attended := uses.foldl use a

theorem capture_steps (n : Nat) (a : Attended) : (a.steps n).capture = a.capture.steps n := by
  induction n generalizing a with
  | zero => rfl
  | succ n ih => exact ih a.step

theorem capture_settle (a : Attended) : a.settle.capture = a.capture.settle := capture_steps _ a

theorem capture_start (spawn : Option OsError) (a : Attended) :
    (a.start spawn).capture = stateAfter (refusable (Loopback.start spawn) a.capture) := by
  cases ready : a.capture.format with
  | none => simp only [start, ready, refusable, Loopback.start, stateAfter]
  | some format =>
    cases runs : a.capture.running with
    | true => simp only [start, ready, runs, refusable, Loopback.start, stateAfter, if_true]
    | false =>
      simp only [start, ready, runs, Bool.false_eq_true, if_false]
      cases spawn with
      | some | none => rfl

theorem capture_arrive (packets : List RenderPacket) (a : Attended) :
    (a.arrive packets).capture = a.capture.arrive packets := by
  unfold arrive
  split
  · rfl
  · rename_i still
    rw [arrive_eq, if_neg still]

theorem capture_use (a : Attended) (use : Use usage) :
    (a.use use).capture = usage.step a.capture use := by
  cases use with
  | listen => rfl
  | elapse event =>
    cases event with
    | step | change => rfl
    | arrive packets => exact capture_arrive packets a
  | call surroundings call =>
    cases call with
    | prepare | requestStop | setPlaying => rfl
    | start => exact capture_start surroundings a
    | stop => exact congrArg join (capture_settle _)

theorem capture_run (a : Attended) (uses : List (Use usage)) :
    (a.run uses).capture = usage.run a.capture uses := by
  -- Over the uses: the account does not touch the capture that it is kept of.
  induction uses generalizing a with
  | nil => rfl
  | cons use uses ih => exact (ih (a.use use)).trans (by rw [capture_use]; rfl)

/-- The law of the account. -/
structure Lawful (a : Attended) : Prop where
  sound : ∀ life ∈ a.lives, life.Sound
  trials : ∀ log ∈ a.trials, Settled log
  delivered : a.capture.trace.delivered = a.lives.reverse.flatMap Life.delivered
  accounted : a.capture.trace.calls.Perm
    ((a.lives.flatMap Life.log ++ a.trials.flatten).map Answered.call)
  finished (still : a.capture.isLive = false) : ∀ life ∈ a.lives, life.Closed
  ongoing (live : a.capture.isLive = true) : ∃ life past thread, a.lives = life :: past ∧
    life.Ongoing a.capture thread ∧ ∀ other ∈ past, other.Closed

theorem isLive_congr {l l' : Loopback} (thread : l'.thread = l.thread) : l'.isLive = l.isLive := by
  rw [isLive, isLive, thread]

theorem Lawful.of_alike {a : Attended} (lawful : a.Lawful) {l : Loopback} (alike : Alike a.capture l)
    (calls : l.trace.calls = a.capture.trace.calls)
    (delivered : l.trace.delivered = a.capture.trace.delivered) : { a with capture := l }.Lawful where
  sound := lawful.sound
  trials := lawful.trials
  delivered := delivered.trans lawful.delivered
  accounted := by
    dsimp only
    rw [calls]
    exact lawful.accounted
  finished still := lawful.finished ((isLive_congr alike.thread).symm.trans still)
  ongoing live := by
    obtain ⟨life, past, thread, head, ongoing, ended⟩ :=
      lawful.ongoing ((isLive_congr alike.thread).symm.trans live)
    exact ⟨life, past, thread, head, ongoing.of_alike alike, ended⟩

theorem Lawful.instructed {a : Attended} (lawful : a.Lawful) {l : Loopback} {instruct : Life → Life}
    (thread : l.thread = a.capture.thread) (trace : l.trace = a.capture.trace)
    (log : ∀ life, (instruct life).log = life.log)
    (delivered : ∀ life, (instruct life).delivered = life.delivered)
    (sound : ∀ {life : Life}, life.Sound → (instruct life).Sound)
    (stays : ∀ {life : Life}, life.Over → (instruct life).Over)
    (ongoing : ∀ {life : Life} {thread}, life.Ongoing a.capture thread →
      (instruct life).Ongoing l thread) :
    { a with capture := l, lives := a.lives.modifyHead instruct }.Lawful := by
  obtain ⟨capture, lives, trials⟩ := a
  -- Only a capture that has ever been started has an account to change.
  cases lives with
  | nil =>
    exact {
      sound := List.forall_mem_nil _
      trials := lawful.trials
      delivered := (congrArg Trace.delivered trace).trans lawful.delivered
      accounted := trace ▸ lawful.accounted
      finished := fun _ => List.forall_mem_nil _
      ongoing := fun live => by
        obtain ⟨_, _, _, head, _⟩ := lawful.ongoing ((isLive_congr thread).symm.trans live)
        cases head }
  | cons life past =>
    obtain ⟨first, others⟩ := List.forall_mem_cons.mp lawful.sound
    exact {
      sound := List.forall_mem_cons.mpr ⟨sound first, others⟩
      trials := lawful.trials
      delivered := by
        have before := (congrArg Trace.delivered trace).trans lawful.delivered
        simpa [delivered] using before
      accounted := by
        have before := trace ▸ lawful.accounted
        simpa [log] using before
      finished := fun still => by
        obtain ⟨ended, others⟩ := List.forall_mem_cons.mp
          (lawful.finished ((isLive_congr thread).symm.trans still))
        refine List.forall_mem_cons.mpr ⟨⟨?_, stays ended.ended⟩, others⟩
        rw [log]
        exact ended.settled
      ongoing := fun live => by
        obtain ⟨_, _, running, head, goesOn, ended⟩ :=
          lawful.ongoing ((isLive_congr thread).symm.trans live)
        cases head
        exact ⟨_, past, running, rfl, ongoing goesOn, ended⟩ }

theorem accounted_append {calls front back : List SystemCall} (more : List SystemCall)
    (accounted : calls.Perm (front ++ back)) : (calls ++ more).Perm (front ++ more ++ back) := by
  refine (accounted.append_right more).trans ?_
  rw [List.append_assoc, List.append_assoc]
  exact List.perm_append_comm.append_left front

theorem Lawful.step {a : Attended} (lawful : a.Lawful) : a.step.Lawful := by
  cases lives : a.capture.isLive with
  | false =>
    have same : a.step = a := by
      have heads : a.lives.modifyHead (Life.witness a.capture) = a.lives := by
        cases a.lives with
        | nil => rfl
        | cons life past => exact congrArg (· :: past) (witness_of_still lives)
      rw [Attended.step, heads, step_of_still lives]
    rw [same]
    exact lawful
  | true =>
    -- The account of the thread under way is the first, and the only one that grows.
    obtain ⟨life, past, thread, head, ongoing, ended⟩ := lawful.ongoing lives
    have live : thread.progress.isLive = true := by
      rw [isLive, ongoing.on, Option.any_some] at lives
      exact lives
    have after : a.step.lives = life.witness a.capture :: past := by
      rw [Attended.step, head]
      rfl
    obtain ⟨made, delivered⟩ := made_step live ongoing
    exact {
      sound := by
        rw [after]
        refine List.forall_mem_cons.mpr ⟨sound_witness live ongoing ?_, fun other among => ?_⟩
        · exact lawful.sound life (head ▸ List.mem_cons_self)
        · exact lawful.sound other (head ▸ List.mem_cons_of_mem life among)
      trials := lawful.trials
      delivered := by
        have before := lawful.delivered
        rw [head, List.reverse_cons, List.flatMap_append, List.flatMap_singleton] at before
        rw [after, List.reverse_cons, List.flatMap_append, List.flatMap_singleton]
        show a.capture.step.trace.delivered = _
        rw [delivered, before, List.append_assoc, ← before]
        rfl
      accounted := by
        have before := lawful.accounted
        rw [head, List.flatMap_cons, List.append_assoc, List.map_append] at before
        show a.capture.step.trace.calls.Perm _
        have more := accounted_append
          ((a.capture.madeBetween a.capture.step).map Answered.call) before
        rw [← List.map_append] at more
        rw [made.calls, after, List.flatMap_cons, List.append_assoc, List.map_append]
        exact more
      finished := fun still => by
        rw [after]
        exact List.forall_mem_cons.mpr ⟨closed_witness live ongoing still, ended⟩
      ongoing := fun goesOn => by
        obtain ⟨thread', ongoing'⟩ := ongoing_witness live ongoing goesOn
        exact ⟨_, past, thread', after, ongoing', ended⟩ }

theorem Lawful.steps {a : Attended} (lawful : a.Lawful) (n : Nat) : (a.steps n).Lawful := by
  induction n generalizing a with
  | zero => exact lawful
  | succ n ih => exact ih lawful.step

theorem Lawful.join {a : Attended} (lawful : a.Lawful) (still : a.capture.isLive = false) :
    (a.map join).Lawful where
  sound := lawful.sound
  trials := lawful.trials
  delivered := (delivered_join a.capture).trans lawful.delivered
  accounted := by
    show a.capture.join.trace.calls.Perm _
    rw [calls_join]
    exact lawful.accounted
  finished _ := lawful.finished still
  ongoing live := absurd ((isLive_join a.capture).symm.trans live) nofun

theorem Lawful.settle_join {a : Attended} (lawful : a.Lawful) (idle : a.capture.running = false) :
    (a.settle.map Loopback.join).Lawful := by
  have still : a.settle.capture.isLive = false := by
    rw [capture_settle]
    exact settle_still idle
  exact (lawful.steps _).join still

theorem Lawful.setPlaying {a : Attended} (lawful : a.Lawful) (playing : Bool) :
    (a.setPlaying playing).Lawful :=
  lawful.instructed rfl rfl (fun _ => rfl) (fun _ => rfl) (·.play playing) (·.play playing)
    (·.play playing)

theorem Lawful.requestStop {a : Attended} (lawful : a.Lawful) : a.requestStop.Lawful :=
  lawful.instructed rfl rfl (fun _ => rfl) (fun _ => rfl) (·.ask) (·.ask) (·.ask)

theorem Lawful.stop {a : Attended} (lawful : a.Lawful) : a.stop.Lawful :=
  lawful.requestStop.settle_join rfl

theorem settled_prepare (format : Format) (l : Loopback) :
    let after := stateAfter (Loopback.prepare format l)
    ∃ log, Made l log after ∧ Settled log ∧ Alike l after ∧
      after.trace.delivered = l.trace.delivered := by
  cases valid : format.validate with
  | error error =>
    rw [prepare_invalid l valid]
    exact ⟨[], Made.refl l, ⟨.nil, .nil⟩, ⟨rfl, rfl, rfl, rfl⟩, rfl⟩
  | ok _ =>
    have prepared := prepared l valid
    generalize Loopback.prepare format l = result at prepared ⊢
    cases prepared with
    | @failed _ calls settled | @overlong calls settled | @done calls _ settled =>
      exact ⟨_, (Made.making calls l).of_same rfl rfl, settled, ⟨rfl, rfl, rfl, rfl⟩, rfl⟩

theorem Lawful.prepare {a : Attended} (lawful : a.Lawful) (format : Format) :
    (a.prepare format).Lawful := by
  obtain ⟨log, made, settled, alike, delivered⟩ := settled_prepare format a.capture
  have same : a.capture.madeBetween _ = log := made.madeBetween_eq
  unfold Attended.prepare
  dsimp only
  rw [same]
  exact {
    sound := lawful.sound
    trials := List.forall_mem_append.mpr ⟨lawful.trials, List.forall_mem_singleton.mpr settled⟩
    delivered := delivered.trans lawful.delivered
    accounted := by
      dsimp only
      rw [made.calls, List.flatten_append, List.flatten_singleton, ← List.append_assoc, List.map_append]
      exact lawful.accounted.append_right _
    finished := fun still => lawful.finished ((isLive_congr alike.thread).symm.trans still)
    ongoing := fun live => by
      obtain ⟨life, past, running, head, ongoing, ended⟩ :=
        lawful.ongoing ((isLive_congr alike.thread).symm.trans live)
      exact ⟨life, past, running, head, ongoing.of_alike alike, ended⟩ }

theorem Lawful.begins {a : Attended} (lawful : a.Lawful) (still : a.capture.isLive = false)
    {format : Format} (sized : (StreamShape.waveFormat? ⟨format, a.capture.channels⟩).isSome) :
    { a with
      capture := a.capture.begun format
      lives := a.capture.opening format (a.capture.madeBetween (a.capture.begun format)) ::
        a.lives }.Lawful := by
  obtain ⟨log, made, delivered, sound, finished, ongoing⟩ := opening_begun sized
  have same : a.capture.madeBetween _ = log := made.madeBetween_eq
  rw [same]
  have closed := lawful.finished still
  exact {
    sound := List.forall_mem_cons.mpr ⟨sound, lawful.sound⟩
    trials := lawful.trials
    delivered := by
      dsimp only
      rw [delivered, lawful.delivered, List.reverse_cons, List.flatMap_append, List.flatMap_singleton]
      exact (List.append_nil _).symm
    accounted := by
      dsimp only
      rw [made.calls, List.flatMap_cons, List.append_assoc, List.map_append]
      exact (lawful.accounted.append_right _).trans List.perm_append_comm
    finished := fun still' => List.forall_mem_cons.mpr ⟨finished still', closed⟩
    ongoing := fun live => by
      obtain ⟨thread, ongoing⟩ := ongoing live
      exact ⟨_, _, thread, rfl, ongoing, closed⟩ }

theorem Lawful.start {a : Attended} (lawful : a.Lawful) (sized : a.capture.Sized)
    (spawn : Option OsError) : (a.start spawn).Lawful := by
  cases ready : a.capture.format with
  | none =>
    simp only [Attended.start, ready]
    exact lawful
  | some format =>
    cases runs : a.capture.running with
    | true =>
      simp only [Attended.start, ready, runs, if_true]
      exact lawful
    | false =>
      simp only [Attended.start, ready, runs, Bool.false_eq_true, if_false]
      -- A thread that nobody has joined yet ends first, since the capture does not run.
      have joined : (a.settle.map Loopback.join).Lawful := lawful.settle_join runs
      have capture : (a.settle.map Loopback.join).capture = a.capture.settle.join :=
        congrArg Loopback.join (capture_settle a)
      have still : (a.settle.map Loopback.join).capture.isLive = false := by
        rw [capture]
        exact isLive_join _
      rw [stateAfter_refusable]
      have started := started spawn a.capture
      generalize Loopback.start spawn a.capture = result at started ⊢
      cases started with
      | unready unready => cases ready.symm.trans unready
      | doubled doubled => exact absurd (runs.symm.trans doubled) nofun
      | @unspawned e refused =>
        subst refused
        have closed := joined.finished still
        exact {
          sound := joined.sound
          trials := joined.trials
          delivered := capture ▸ joined.delivered
          accounted := capture ▸ joined.accounted
          finished := fun _ => closed
          ongoing := fun live => by
            have dead : a.capture.settle.join.isLive = false := isLive_join _
            exact absurd (dead.symm.trans live) nofun }
      | @begun format' free ready' =>
        subst free
        cases ready.symm.trans ready'
        have described : (StreamShape.waveFormat?
            ⟨format, (a.settle.map Loopback.join).capture.channels⟩).isSome := by
          rw [capture, (Kept.joined a.capture).channels]
          exact sized format ready
        have begins := joined.begins still described
        rw [capture] at begins ⊢
        exact begins

theorem Lawful.arrive {a : Attended} (lawful : a.Lawful) (packets : List RenderPacket) :
    (a.arrive packets).Lawful := by
  unfold Attended.arrive
  split
  · rename_i live
    obtain ⟨life, past, thread, head, ongoing, ended⟩ := lawful.ongoing live
    have before := lawful.accounted
    have delivered := lawful.delivered
    have sound := lawful.sound
    rw [head] at before delivered sound
    obtain ⟨first, others⟩ := List.forall_mem_cons.mp sound
    rw [arrive_eq, if_pos live, head]
    exact {
      sound := List.forall_mem_cons.mpr ⟨first.offered packets, others⟩
      trials := lawful.trials
      delivered := delivered.trans (by simp [Life.offered])
      accounted := before
      finished := fun still => absurd (still.symm.trans live) nofun
      ongoing := fun _ => ⟨_, past, thread, rfl, ongoing.offered packets, ended⟩ }
  · exact lawful

theorem Lawful.use {a : Attended} (lawful : a.Lawful) (sized : a.capture.Sized) (use : Use usage) :
    (a.use use).Lawful := by
  cases use with
  | listen => exact lawful.of_alike ⟨rfl, rfl, rfl, rfl⟩ rfl rfl
  | elapse event =>
    cases event with
    | step => exact lawful.step
    | change => exact lawful.of_alike ⟨rfl, rfl, rfl, rfl⟩ rfl rfl
    | arrive packets => exact lawful.arrive packets
  | call surroundings call =>
    cases call with
    | prepare format => exact lawful.prepare format
    | start => exact lawful.start sized surroundings
    | stop => exact lawful.stop
    | requestStop => exact lawful.requestStop
    | setPlaying playing => exact lawful.setPlaying playing

theorem Lawful.run {a : Attended} (lawful : a.Lawful) (sized : a.capture.Sized)
    (uses : List (Use usage)) : (a.run uses).Lawful := by
  -- Over the uses, for every lawful account of a capture whose stream can be described.
  induction uses generalizing a with
  | nil => exact lawful
  | cons use uses ih =>
    refine ih (lawful.use sized use) ?_
    rw [capture_use]
    exact sized.step use

theorem Lawful.new (endpoint : Endpoint) : Lawful { capture := Loopback.usage.new endpoint } where
  sound := List.forall_mem_nil _
  trials := List.forall_mem_nil _
  delivered := rfl
  accounted := .refl _
  finished _ := List.forall_mem_nil _
  ongoing := nofun

theorem Lawful.closed_or_ongoing {a : Attended} (lawful : a.Lawful) {life : Life}
    (among : life ∈ a.lives) :
    life.Closed ∨ a.capture.isLive = true ∧ a.lives.head? = some life ∧ life.told = false ∧
      ∃ work, life.log = ⟨.enterApartment, none⟩ :: work ∧ Within work := by
  cases live : a.capture.isLive with
  | false => exact .inl (lawful.finished live life among)
  | true =>
    obtain ⟨first, past, thread, head, ongoing, ended⟩ := lawful.ongoing live
    rw [head] at among ⊢
    rcases List.mem_cons.mp among with same | earlier
    · subst same
      exact .inr ⟨rfl, rfl, ongoing.untold, ongoing.inside⟩
    · exact .inl (ended life earlier)

theorem run_steps (n : Nat) (a : Attended) :
    a.run (List.replicate n (.elapse .step)) = a.steps n := by
  induction n generalizing a with
  | zero => rfl
  | succ n ih => exact ih a.step

/-- A thread that goes on long enough has fetched everything, and nobody has asked it to stop. -/
theorem Lawful.caught_up {a : Attended} (lawful : a.Lawful) {n : Nat}
    (enough : a.capture.endpoint.queue.length + 1 < n)
    (goesOn : (a.steps n).capture.isLive = true) :
    ∃ life past, (a.steps n).lives = life :: past ∧
      life.fetched.map Fetched.packet = life.arrived ∧ life.asked = false := by
  obtain ⟨life, past, thread, head, ongoing, -⟩ := (lawful.steps n).ongoing goesOn
  have running := ongoing.running
  have arrived := ongoing.arrived
  rw [capture_steps] at goesOn running arrived
  obtain ⟨empty, runs⟩ := Loopback.caught_up enough goesOn
  refine ⟨life, past, head, ?_, ?_⟩
  · rw [arrived, empty, List.append_nil]
  · simpa [runs] using running

end Attended

/-- Whatever is done with a loopback capture and whatever the endpoint answers, all its deliveries and
calls are those of its threads and initialisations. A thread fetches what arrives in order, and delivers
what it has fetched while the capture was to play, packet by packet. It gives each buffer back before
anything else as long as its listener returns. It stops its stream just if it has seen that it was asked
to stop, once, and it ends for no other reason but a refused call or a crash of its listener.
Initialisations and threads that have ended have given back whatever they took; a thread under way is in
the apartment that it has entered, and fetches everything if it goes on. -/
theorem account_balances (endpoint : Endpoint) (uses : List (Use Loopback.usage)) :
    let a := Attended.run { capture := Loopback.usage.new endpoint } uses
    a.capture = Loopback.usage.run (Loopback.usage.new endpoint) uses ∧
    a.capture.trace.delivered = a.lives.reverse.flatMap Life.delivered ∧
    a.capture.trace.calls.Perm
      ((a.lives.flatMap Life.log ++ a.trials.flatten).map Answered.call) ∧
    (∀ life ∈ a.lives, ∃ align, life.shape.blockAlign? = some align ∧
      life.fetched.map Fetched.packet <+: life.arrived ∧
      life.log.count ⟨.getBuffer, none⟩ = life.fetched.length ∧
      life.delivered = heardBy life.listener align life.fetched ∧
      (∀ listener, life.listener = some listener → listener.crashes = true →
        ∀ f ∈ life.fetched.dropLast, f.isHeard = false) ∧
      ((∀ listener, life.listener = some listener → listener.crashes = false) →
        GivenBack life.log (life.fetched.map fun f => f.packet.frames)) ∧
      stopCount life.log = (if life.told then 1 else 0) ∧
      (life.told = true → life.asked = true ∧ ⟨.start, none⟩ ∈ life.log) ∧
      (Loopback.Settled life.log ∧ life.Over ∨ a.capture.isLive = true ∧
        a.lives.head? = some life ∧ life.told = false ∧
        ∃ work, life.log = ⟨.enterApartment, none⟩ :: work ∧ Within work)) ∧
    (∀ log ∈ a.trials, Loopback.Settled log) ∧
    (∀ n, a.capture.endpoint.queue.length + 1 < n →
      let later := a.run (List.replicate n (.elapse .step))
      later.capture.isLive = true → ∃ life past, later.lives = life :: past ∧
        life.fetched.map Fetched.packet = life.arrived ∧ life.asked = false) ∧
    ∀ (packet : RenderPacket) (align : UInt16),
      (packet.chunk align).length = packet.frames.toNat * align.toNat := by
  intro a
  have lawful : a.Lawful := (Attended.Lawful.new endpoint).run nofun uses
  refine ⟨Attended.capture_run _ uses, lawful.delivered, lawful.accounted, fun life among => ?_,
    lawful.trials, fun n enough => ?_, fun packet align => packet.length_chunk align⟩
  · have sound := lawful.sound life among
    obtain ⟨align, aligned⟩ := life.shape.exists_blockAlign sound.sized
    have same : life.align = align := by rw [Life.align, aligned, Option.getD_some]
    exact ⟨align, aligned, sound.ordered, sound.gets, same ▸ sound.heard, sound.spared, sound.given,
      sound.stops, sound.obeyed,
      (lawful.closed_or_ongoing among).imp (fun closed => ⟨closed.settled, closed.ended⟩) id⟩
  · dsimp only
    rw [Attended.run_steps]
    exact lawful.caught_up enough

def pausedUses : List (Use Loopback.usage) :=
  let loud : RenderPacket := ⟨[1, 2, 3, 4], 1, 0, false⟩
  [.listen none ⟨"hall", false⟩, .call none (.prepare .standard), .call none .start,
    .elapse (.arrive [loud]), .elapse .step, .elapse .step,
    .call none (.setPlaying false), .elapse (.arrive [loud]), .elapse .step, .elapse .step,
    .call none (.setPlaying true), .elapse (.arrive [{ loud with flags := 2 }]), .elapse .step,
    .call none .stop]

/-- All three packets were fetched and given back, and the second was not delivered. -/
theorem account_balances_over_a_pause :
    let a := Attended.run { capture := Loopback.usage.new { channels := 2, period := 100000 } } pausedUses
    a.capture.trace.delivered.map Delivery.chunk = [[1, 2, 3, 4], [0, 0, 0, 0]] ∧
      ∃ life, a.lives = [life] ∧ life.fetched.map Fetched.playing = [true, false, true] ∧
        GivenBack life.log [1, 1, 1] ∧ stopCount life.log = 1 ∧ Loopback.Settled life.log := by
  intro a
  obtain ⟨-, delivered, -, lives, -⟩ := account_balances { channels := 2, period := 100000 } pausedUses
  -- The one account there is, as the uses make it; the rest follows from the law.
  have only : ∃ life, a.lives = [life] ∧ life.shape = ⟨.standard, 2⟩ ∧
      life.listener = some ⟨"hall", false⟩ ∧ life.told = true ∧
      life.fetched = [⟨⟨[1, 2, 3, 4], 1, 0, false⟩, true⟩, ⟨⟨[1, 2, 3, 4], 1, 0, false⟩, false⟩,
        ⟨⟨[1, 2, 3, 4], 1, 2, false⟩, true⟩] := ⟨_, rfl, rfl, rfl, rfl, rfl⟩
  obtain ⟨life, one, shape, listener, told, fetched⟩ := only
  obtain ⟨align, aligned, -, -, heard, -, given, stops, -, ended⟩ :=
    lives life (one ▸ List.mem_singleton_self life)
  rw [shape] at aligned
  cases aligned
  rw [one, List.reverse_singleton, List.flatMap_singleton, heard, listener, fetched] at delivered
  rw [fetched, listener] at given
  rw [told, if_pos rfl] at stops
  refine ⟨?_, life, one, by rw [fetched]; rfl, given ?_, stops, ?_⟩
  · rw [delivered]
    rfl
  · intro other registered
    cases registered
    rfl
  · obtain ⟨settled, -⟩ | ⟨-, -, untold, -⟩ := ended
    · exact settled
    · cases told.symm.trans untold

end PairedAudio.Capture
