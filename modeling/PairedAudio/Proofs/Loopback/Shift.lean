import PairedAudio.Proofs.Loopback.Polling

/-! What a step of a live capture thread adds to the account of its run.

A step makes calls, and leaves the apartment if it ends the thread. In between it gives a packet that
it fetches back at once, and what it delivers of the packet is what the packet says.
-/

set_option autoImplicit false

namespace PairedAudio.Capture

namespace RenderPacket

def chunk (align : UInt16) (p : RenderPacket) : List UInt8 :=
  if p.isSilent then List.replicate (p.size align) 0 else p.bytes align

end RenderPacket

theorem length_resized (length : Nat) (bytes : List UInt8) : (resized length bytes).length = length := by
  simp only [resized, List.length_append, List.length_take, List.length_replicate]
  omega

theorem RenderPacket.length_chunk (align : UInt16) (p : RenderPacket) :
    (p.chunk align).length = p.frames.toNat * align.toNat := by
  unfold chunk
  split
  · exact List.length_replicate
  · exact length_resized _ _

theorem resized_of_zeros {bytes : List UInt8} (silent : ∀ byte ∈ bytes, byte = 0) (length : Nat) :
    resized length bytes = List.replicate length 0 := by
  refine List.eq_replicate_iff.mpr ⟨length_resized length bytes, fun byte among => ?_⟩
  rcases List.mem_append.mp among with old | new
  · exact silent byte (List.mem_of_mem_take old)
  · exact List.eq_of_mem_replicate new

theorem LoopbackThread.present_eq {thread : LoopbackThread}
    (silent : ∀ byte ∈ thread.silence, byte = 0) (packet : RenderPacket) :
    (thread.present packet).1 = packet.chunk thread.align ∧
      ∀ byte ∈ (thread.present packet).2, byte = 0 := by
  unfold present RenderPacket.chunk
  split
  · dsimp only
    rw [resized_of_zeros silent]
    exact ⟨List.take_of_length_le (by simp), fun _ => List.eq_of_mem_replicate⟩
  · exact ⟨rfl, silent⟩

/-- A packet as it was fetched, and whether the capture played. -/
structure Fetched where
  packet : RenderPacket
  playing : Bool

def Fetched.isHeard (f : Fetched) : Bool := f.playing && 0 < f.packet.frames && !f.packet.missing

/-- What a listener has been given of the packets that were fetched. One that crashes keeps nothing. -/
def heardBy (listener : Option Listener) (align : UInt16) (fetched : List Fetched) : List Delivery :=
  match listener with
  | none => []
  | some listener =>
    if listener.crashes then []
    else (fetched.filter Fetched.isHeard).map fun f => ⟨listener, f.packet.chunk align⟩

theorem heardBy_append (listener : Option Listener) (align : UInt16) (front back : List Fetched) :
    heardBy listener align (front ++ back) =
      heardBy listener align front ++ heardBy listener align back := by
  unfold heardBy
  split
  · rfl
  split
  · rfl
  · rw [List.filter_append, List.map_append]

/-- Each buffer that was got is given back with its frames before any other call, and none besides. -/
inductive GivenBack : List Answered → List UInt32 → Prop
  | nil : GivenBack [] []
  | other {a : Answered} {log : List Answered} {frames : List UInt32} (idle : a ≠ ⟨.getBuffer, none⟩)
      (keeps : ∀ count, a.call ≠ .releaseBuffer count) (rest : GivenBack log frames) :
      GivenBack (a :: log) frames
  | pair {log : List Answered} {count : UInt32} {frames : List UInt32} {failure : Option String}
      (rest : GivenBack log frames) :
      GivenBack (⟨.getBuffer, none⟩ :: ⟨.releaseBuffer count, failure⟩ :: log) (count :: frames)

theorem GivenBack.append {front back : List Answered} {frames frames' : List UInt32}
    (first : GivenBack front frames) (second : GivenBack back frames') :
    GivenBack (front ++ back) (frames ++ frames') := by
  -- Over the first log; a buffer that it got is given back in it.
  induction first with
  | nil => exact second
  | other idle keeps _ ih => exact .other idle keeps ih
  | pair _ ih => exact .pair ih

theorem GivenBack.of_plain {log : List Answered} (plain : Plain log) : GivenBack log [] := by
  induction log with
  | nil => exact .nil
  | cons a log ih =>
    obtain ⟨ordinary, rest⟩ := List.forall_mem_cons.mp plain
    refine .other (fun same => ?_) (fun count same => ?_) (ih rest)
    · rw [same] at ordinary
      cases ordinary
    · rw [same] at ordinary
      cases ordinary

theorem GivenBack.count {log : List Answered} {frames : List UInt32} (given : GivenBack log frames) :
    log.count ⟨.getBuffer, none⟩ = frames.length := by
  -- Over the pairs: what gives a buffer back is no getting of another.
  induction given with
  | nil => rfl
  | other idle _ _ ih => rw [List.count_cons_of_ne idle, ih]
  | @pair _ count _ failure _ ih =>
    have other : (⟨.releaseBuffer count, failure⟩ : Answered) ≠ ⟨.getBuffer, none⟩ := nofun
    rw [List.count_cons_self, List.count_cons_of_ne other, ih, List.length_cons]

def Within (log : List Answered) : Prop :=
  ∀ a ∈ log, a.call ≠ .enterApartment ∧ a.call ≠ .leaveApartment ∧
    a.call ≠ .mixFormat ∧ a.call ≠ .freeMixFormat

theorem Within.of_plain {log : List Answered} (plain : Plain log) : Within log := fun _ among =>
  ⟨plain.ne among rfl, plain.ne among rfl, plain.ne among rfl, plain.ne among rfl⟩

theorem Within.append {front back : List Answered} (first : Within front) (second : Within back) :
    Within (front ++ back) :=
  List.forall_mem_append.mpr ⟨first, second⟩

def stopCount (log : List Answered) : Nat := log.countP fun a => a.call = .stop

theorem stopCount_append (front back : List Answered) :
    stopCount (front ++ back) = stopCount front + stopCount back := List.countP_append

theorem stopCount_of_plain {log : List Answered} (plain : Plain log) : stopCount log = 0 := by
  refine List.countP_eq_zero.mpr fun a among stops => ?_
  exact plain.ne among rfl (of_decide_eq_true stops)

namespace Loopback

def parting (l : Loopback) : List Answered := if l.isLive then [] else [⟨.leaveApartment, none⟩]

def isPolling (l : Loopback) : Bool := l.thread.any fun thread => thread.progress = .polling

def isTold (l : Loopback) : Bool := !l.running && l.isPolling

def fetch? (l : Loopback) : Option RenderPacket :=
  if ⟨.getBuffer, none⟩ ∈ l.madeBetween l.step then l.endpoint.queue.head? else none

/-- A thread that goes on after `thread` as it was, and keeps nothing but silence. -/
structure Follows (thread thread' : LoopbackThread) : Prop where
  shape : thread'.shape = thread.shape
  listener : thread'.listener = thread.listener
  silent : ∀ byte ∈ thread'.silence, byte = 0

/-- What holds when a step has not ended its thread: a packet that was fetched is off the queue, and a
listener that crashes has not been called. -/
structure GoesOn (l : Loopback) (thread : LoopbackThread) (fetched : Option Fetched) (l' : Loopback) :
    Prop where
  next : ∃ thread', l'.thread = some thread' ∧ Follows thread thread'
  queue : l.endpoint.queue = fetched.toList.map Fetched.packet ++ l'.endpoint.queue
  spared : ∀ listener, thread.listener = some listener → listener.crashes = true →
    ∀ f, fetched = some f → f.isHeard = false

/-- Why a step ends its thread: the thread is told to stop, a call is refused, or the listener crashes. -/
inductive Ends (l : Loopback) (thread : LoopbackThread) (work : List Answered) : Option Fetched → Prop
  | told {fetched : Option Fetched} (told : l.isTold = true) : Ends l thread work fetched
  | broken {fetched : Option Fetched} (broken : Broken work) : Ends l thread work fetched
  | crashed {listener : Listener} {f : Fetched} (registered : thread.listener = some listener)
      (crashes : listener.crashes = true) (heard : f.isHeard = true) : Ends l thread work (some f)

/-- What a step of a live thread has done, from `l` to `l'`: the work, and the packet that it has
fetched. -/
structure Shift (l : Loopback) (thread : LoopbackThread) (work : List Answered)
    (fetched : Option Fetched) (l' : Loopback) : Prop where
  made : Made l (work ++ l'.parting) l'
  within : Within work
  given (returns : ∀ listener, thread.listener = some listener → listener.crashes = false) :
    GivenBack work (fetched.toList.map fun f => f.packet.frames)
  stops : stopCount work = if l.isTold then 1 else 0
  told (told : l.isTold = true) : l'.isLive = false
  gets : work.count ⟨.getBuffer, none⟩ = fetched.toList.length
  first : ∀ f, fetched = some f → l.endpoint.queue.head? = some f.packet ∧ f.playing = l.playing
  delivered : l'.trace.delivered =
    l.trace.delivered ++ heardBy thread.listener thread.align fetched.toList
  goesOn (live : l'.isLive = true) : GoesOn l thread fetched l'
  ends (dead : l'.isLive = false) : Ends l thread work fetched

theorem givenBack_parting (l : Loopback) : GivenBack l.parting [] := by
  unfold parting
  split
  · exact .nil
  · exact .other nofun nofun .nil

theorem stopCount_parting (l : Loopback) : stopCount l.parting = 0 := by
  unfold parting
  split
  · rfl
  · rfl

theorem count_parting (l : Loopback) : l.parting.count ⟨.getBuffer, none⟩ = 0 :=
  l.givenBack_parting.count

section Parting

variable {l l' l'' : Loopback} {log : List Answered}

theorem isLive_fail (e : CaptureError) (l : Loopback) : (l.fail e).isLive = false := by
  cases on : l.thread with
  | none => simp [fail, setProgress, isLive, Loopback.log, on]
  | some thread => simp [fail, setProgress, isLive, Loopback.log, on, LoopbackProgress.isLive]

theorem isLive_abort (e : CaptureError) (l : Loopback) : (l.abort e).isLive = false :=
  isLive_fail e (l.note .leaveApartment)

theorem parting_abort (e : CaptureError) (l : Loopback) :
    (l.abort e).parting = [⟨.leaveApartment, none⟩] := by
  rw [parting, isLive_abort]
  rfl

theorem Made.note {c : SystemCall} (made : Made l log l') (sure : c.canFail = false) :
    Made l (log ++ [⟨c, none⟩]) (l'.note c) := by
  rw [note_eq sure, ← answers_sure sure l']
  exact made.trans (.making _ _)

theorem Made.abort (made : Made l log l') (e : CaptureError) :
    Made l (log ++ (l'.abort e).parting) (l'.abort e) := by
  rw [parting_abort]
  exact (made.note rfl).of_same rfl rfl

theorem isLive_setProgress {thread : LoopbackThread} (on : l.thread = some thread)
    (progress : LoopbackProgress) : (l.setProgress progress).isLive = progress.isLive := by
  simp only [setProgress, isLive, on, Option.map_some, Option.any_some]

theorem Made.setProgress {thread : LoopbackThread} {progress : LoopbackProgress}
    (made : Made l log l') (on : l'.thread = some thread) (live : progress.isLive = true) :
    Made l (log ++ (l'.setProgress progress).parting) (l'.setProgress progress) := by
  rw [parting, isLive_setProgress on, live, if_pos rfl, List.append_nil]
  exact made.of_same rfl rfl

end Parting

structure Worked (l : Loopback) (log : List Answered) (l' : Loopback) : Prop where
  made : Made l (log ++ l'.parting) l'
  delivered : l'.trace.delivered = l.trace.delivered
  queue : l'.endpoint.queue = l.endpoint.queue
  goesOn (live : l'.isLive = true) : ∃ progress,
    l'.thread = l.thread.map fun thread => { thread with progress }
  broken (dead : l'.isLive = false) : Broken log

theorem Worked.abort {calls : List SystemCall} (e : CaptureError) {l : Loopback}
    (broken : Broken (l.answers calls)) :
    Worked l (l.answers calls) ((l.making calls).abort e) where
  made := (Made.making calls l).abort e
  delivered := rfl
  queue := rfl
  goesOn live := by
    rw [isLive_abort] at live
    cases live
  broken _ := broken

theorem Worked.setProgress {thread : LoopbackThread} {progress : LoopbackProgress}
    (calls : List SystemCall) {l : Loopback} (on : l.thread = some thread)
    (live : progress.isLive = true) :
    Worked l (l.answers calls) ((l.making calls).setProgress progress) where
  made := (Made.making calls l).setProgress on live
  delivered := rfl
  queue := rfl
  goesOn _ := ⟨progress, rfl⟩
  broken dead := by
    have goesOn := isLive_setProgress (l := l.making calls) on progress
    rw [dead, live] at goesOn
    cases goesOn

theorem Look.worked {l l' : Loopback} {thread : LoopbackThread} (look : Look l l')
    (on : l.thread = some thread) : ∃ log, Worked l log l' ∧ Plain log := by
  cases look with
  | found plain | idle plain => exact ⟨_, .setProgress _ on rfl, plain⟩
  | lost e plain broken => exact ⟨_, .abort e broken, plain⟩

theorem Release.worked {packet : RenderPacket} {l l' : Loopback} {thread : LoopbackThread}
    (release : Release packet l l') (on : l.thread = some thread) :
    ∃ failure log, Worked l (⟨.releaseBuffer packet.frames, failure⟩ :: log) l' ∧ Plain log := by
  cases release with
  | looks given look =>
    obtain ⟨log, worked, plain⟩ := look.worked on
    have made := (Made.making [.releaseBuffer packet.frames] l).trans worked.made
    rw [given, ← List.append_assoc] at made
    refine ⟨_, log, ⟨made, worked.delivered, worked.queue, worked.goesOn, fun dead => ?_⟩, plain⟩
    exact (worked.broken dead).behind [_]
  | @lost text e refused =>
    have broken : Broken (l.answers [.releaseBuffer packet.frames]) := refused ▸ .single rfl text
    have worked := Worked.abort e broken
    rw [refused] at worked
    exact ⟨_, [], worked, .nil⟩

section Shift

variable {l l' : Loopback} {thread : LoopbackThread}

theorem isTold_of_running (runs : l.running = true) : l.isTold = false := by
  rw [isTold, runs]
  rfl

theorem isTold_of_fetching (on : l.thread = some thread) (fetches : thread.progress = .fetching) :
    l.isTold = false := by
  simp [isTold, isPolling, on, fetches]

theorem isTold_of_polling (on : l.thread = some thread) (polls : thread.progress = .polling)
    (told : l.running = false) : l.isTold = true := by
  simp [isTold, isPolling, on, polls, told]

theorem heardBy_nil (listener : Option Listener) (align : UInt16) : heardBy listener align [] = [] := by
  unfold heardBy
  split
  · rfl
  · exact ite_self []

theorem Shift.of_worked {work : List Answered} (worked : Worked l work l') (plain : Plain work)
    (on : l.thread = some thread) (silent : ∀ byte ∈ thread.silence, byte = 0)
    (untold : l.isTold = false) : Shift l thread work none l' where
  made := worked.made
  within := .of_plain plain
  given _ := .of_plain plain
  stops := by
    rw [stopCount_of_plain plain, untold]
    rfl
  told told := absurd (untold.symm.trans told) nofun
  gets := (GivenBack.of_plain plain).count
  first := nofun
  delivered := by rw [Option.toList_none, heardBy_nil, List.append_nil, worked.delivered]
  goesOn live := by
    obtain ⟨progress, goesOn⟩ := worked.goesOn live
    exact {
      next := ⟨{ thread with progress }, by rw [goesOn, on]; rfl, rfl, rfl, silent⟩
      queue := worked.queue.symm
      spared := nofun }
  ends dead := .broken (worked.broken dead)

theorem isLive_finish (on : l.thread = some thread) : l.finish.isLive = false := by
  rw [finish, call_eq]
  exact isLive_setProgress on .ended

theorem made_finish (l : Loopback) : Made l (l.answers [.stop] ++ [⟨.leaveApartment, none⟩]) l.finish := by
  have made := (Made.making [.stop] l).note (c := .leaveApartment) rfl
  rw [finish, call_eq]
  exact made.of_same rfl rfl

theorem Shift.finish (on : l.thread = some thread) (told : l.isTold = true) :
    Shift l thread (l.answers [.stop]) none l.finish := by
  have dead := isLive_finish on
  have made := made_finish l
  have leaves : l.finish.parting = [⟨.leaveApartment, none⟩] := by
    rw [parting, dead]
    rfl
  rw [← leaves] at made
  rw [answers_call] at made ⊢
  have given : GivenBack [⟨.stop, (l.call .stop).1⟩] [] := .other nofun nofun .nil
  exact {
    made
    within := by simp [Within]
    given := fun _ => given
    stops := by simp [stopCount, told]
    told := fun _ => dead
    gets := given.count
    first := nofun
    delivered := by
      rw [Option.toList_none, heardBy_nil, List.append_nil, Loopback.finish, call_eq]
      rfl
    goesOn := fun live => absurd (dead.symm.trans live) nofun
    ends := fun _ => .told told }

theorem Shift.unfetched {text : String} (e : CaptureError) (untold : l.isTold = false)
    (refused : l.answers [.getBuffer] = [⟨.getBuffer, some text⟩]) :
    Shift l thread [⟨.getBuffer, some text⟩] none ((l.making [.getBuffer]).abort e) := by
  have given : GivenBack [⟨.getBuffer, some text⟩] [] := .other nofun nofun .nil
  exact {
    made := by
      rw [← refused]
      exact (Made.making _ l).abort e
    within := by simp [Within]
    given := fun _ => given
    stops := by simp [stopCount, untold]
    told := fun told => absurd (untold.symm.trans told) nofun
    gets := given.count
    first := nofun
    delivered := by
      rw [Option.toList_none, heardBy_nil, List.append_nil]
      rfl
    goesOn := fun live => absurd ((isLive_abort e _).symm.trans live) nofun
    ends := fun _ => .broken (.single rfl text) }

theorem heardBy_fetched (thread : LoopbackThread) (packet : RenderPacket) (l : Loopback) :
    heardBy thread.listener thread.align [⟨packet, l.playing⟩] =
      match l.receiver? thread packet with
      | none => []
      | some listener =>
        if listener.crashes then []
        else [⟨listener, packet.chunk thread.align⟩] := by
  have same : Fetched.isHeard ⟨packet, l.playing⟩ =
    (l.playing && decide (0 < packet.frames) && !packet.missing) := rfl
  unfold heardBy receiver?
  cases thread.listener with
  | none => simp
  | some listener =>
    cases heard : l.playing && decide (0 < packet.frames) && !packet.missing with
    | false => simp [same, heard]
    | true => simp [same, heard]

theorem Shift.crashes {packet : RenderPacket} {listener : Listener} {rest : List RenderPacket}
    (on : l.thread = some thread) (untold : l.isTold = false)
    (queue : l.endpoint.queue = packet :: rest) (got : l.answers [.getBuffer] = [⟨.getBuffer, none⟩])
    (receives : l.receiver? thread packet = some listener) (faulty : listener.crashes = true) :
    Shift l thread [⟨.getBuffer, none⟩] (some ⟨packet, l.playing⟩)
      (l.making [.getBuffer]).crash := by
  have dead : (l.making [.getBuffer]).crash.isLive = false := isLive_setProgress on .crashed
  obtain ⟨heard, registered⟩ :
      Fetched.isHeard ⟨packet, l.playing⟩ = true ∧ thread.listener = some listener := by
    unfold receiver? at receives
    split at receives
    · exact ⟨‹_›, receives⟩
    · cases receives
  exact {
    made := by
      rw [parting, dead, ← got]
      exact ((Made.making _ l).note rfl).of_same rfl rfl
    within := by simp [Within]
    given := fun returns => absurd (faulty.symm.trans (returns listener registered)) nofun
    gets := List.count_singleton_self
    stops := by simp [stopCount, untold]
    told := fun told => absurd (untold.symm.trans told) nofun
    first := by
      intro f same
      cases same
      exact ⟨by rw [queue]; rfl, rfl⟩
    delivered := by
      rw [Option.toList_some, heardBy_fetched, receives]
      simp only [faulty, if_true, List.append_nil]
      rfl
    goesOn := fun live => absurd (dead.symm.trans live) nofun
    ends := fun _ => .crashed registered faulty heard }

structure Handed (l : Loopback) (thread : LoopbackThread) (packet : RenderPacket) (l' : Loopback) :
    Prop where
  calls : l'.trace.calls = l.trace.calls
  endpoint : l'.endpoint = l.endpoint
  delivered : l'.trace.delivered = l.trace.delivered ++
    heardBy thread.listener thread.align [⟨packet, l.playing⟩]
  thread : ∃ thread', l'.thread = some thread' ∧ Follows thread thread'

theorem handed_of_calm {packet : RenderPacket} (on : l.thread = some thread)
    (silent : ∀ byte ∈ thread.silence, byte = 0)
    (calm : ∀ listener, l.receiver? thread packet = some listener → listener.crashes = false) :
    Handed l thread packet (l.handed thread packet) := by
  have heard := heardBy_fetched thread packet l
  unfold handed
  cases receives : l.receiver? thread packet with
  | none =>
    rw [receives] at heard
    exact ⟨rfl, rfl, by rw [heard, List.append_nil], thread, on, rfl, rfl, silent⟩
  | some listener =>
    obtain ⟨presented, silence⟩ := LoopbackThread.present_eq silent packet
    rw [receives] at heard
    simp only [calm listener receives, Bool.false_eq_true, if_false] at heard
    refine ⟨rfl, rfl, ?_, _, rfl, rfl, rfl, silence⟩
    rw [heard, ← presented]
    rfl

theorem not_isHeard_of_calm {packet : RenderPacket} {listener : Listener}
    (registered : thread.listener = some listener) (crashes : listener.crashes = true)
    (calm : ∀ other, l.receiver? thread packet = some other → other.crashes = false) :
    Fetched.isHeard ⟨packet, l.playing⟩ = false := by
  refine Bool.eq_false_iff.mpr fun heard => ?_
  have receives : l.receiver? thread packet = some listener := (if_pos heard).trans registered
  exact absurd (crashes.symm.trans (calm listener receives)) nofun

theorem Shift.fetched {packet : RenderPacket} {rest : List RenderPacket}
    (on : l.thread = some thread) (silent : ∀ byte ∈ thread.silence, byte = 0)
    (untold : l.isTold = false) (queue : l.endpoint.queue = packet :: rest)
    (got : l.answers [.getBuffer] = [⟨.getBuffer, none⟩])
    (calm : ∀ listener, l.receiver? thread packet = some listener → listener.crashes = false)
    (release : Release packet ((l.making [.getBuffer]).handed thread packet).dequeued l') :
    ∃ work, Shift l thread work (some ⟨packet, l.playing⟩) l' := by
  -- The packet is fetched and handed on first; what is left are plain calls behind the release.
  have handed : Handed (l.making [.getBuffer]) thread packet _ := handed_of_calm on silent calm
  obtain ⟨thread', on', follows⟩ := handed.thread
  have on'' : ((l.making [.getBuffer]).handed thread packet).dequeued.thread = some thread' := on'
  obtain ⟨failure, plainly, worked, plain⟩ := release.worked on''
  have fetching : Made l [⟨.getBuffer, none⟩]
      ((l.making [.getBuffer]).handed thread packet).dequeued := by
    have due := congrArg (fun e : Endpoint => e.due) handed.endpoint
    rw [← got]
    exact (Made.making _ l).of_same handed.calls due
  refine ⟨⟨.getBuffer, none⟩ :: ⟨.releaseBuffer packet.frames, failure⟩ :: plainly, ?_⟩
  exact {
    made := fetching.trans worked.made
    within := by
      have both : Within [⟨.getBuffer, none⟩, ⟨.releaseBuffer packet.frames, failure⟩] := by
        simp [Within]
      exact both.append (.of_plain plain)
    given := fun _ => .pair (.of_plain plain)
    gets := (GivenBack.pair (.of_plain plain)).count
    stops := by
      have both : stopCount [⟨.getBuffer, none⟩, ⟨.releaseBuffer packet.frames, failure⟩] = 0 := by
        simp [stopCount]
      exact (stopCount_append [_, _] plainly).trans (by rw [both, stopCount_of_plain plain, untold]; rfl)
    told := fun told => absurd (untold.symm.trans told) nofun
    first := by
      intro f same
      cases same
      exact ⟨by rw [queue]; rfl, rfl⟩
    delivered := worked.delivered.trans handed.delivered
    goesOn := fun live => by
      obtain ⟨progress, goesOn⟩ := worked.goesOn live
      exact {
        next := ⟨{ thread' with progress }, by rw [goesOn, on'']; rfl, follows.shape,
          follows.listener, follows.silent⟩
        queue := by
          rw [worked.queue, dequeued, handed.endpoint]
          exact queue.trans (congrArg (packet :: ·) (congrArg List.tail queue).symm)
        spared := fun listener registered crashes f same => by
          cases same
          exact not_isHeard_of_calm registered crashes calm }
    ends := fun dead => .broken ((worked.broken dead).behind [_]) }

/-- What one step of a live thread does. -/
theorem shift (on : l.thread = some thread) (live : thread.progress.isLive = true)
    (silent : ∀ byte ∈ thread.silence, byte = 0) :
    ∃ work fetched, Shift l thread work fetched l.step := by
  have turned := turn l
  generalize l.step = l' at turned
  cases turned with
  | rests still =>
    rw [isLive, on, Option.any_some, live] at still
    cases still
  | told on' polls told =>
    cases on.symm.trans on'
    exact ⟨_, none, .finish on (isTold_of_polling on polls told)⟩
  | looks _ polls runs look =>
    obtain ⟨work, worked, plain⟩ := look.worked on
    exact ⟨work, none, .of_worked worked plain on silent (isTold_of_running runs)⟩
  | strays on' fetches =>
    cases on.symm.trans on'
    have worked : Worked l [] (l.setProgress .polling) :=
      ⟨(Made.refl l).setProgress on rfl, rfl, rfl, fun _ => ⟨.polling, rfl⟩,
        fun dead => absurd (dead.symm.trans (isLive_setProgress on .polling)) Bool.false_ne_true⟩
    exact ⟨[], none, .of_worked worked .nil on silent (isTold_of_fetching on fetches)⟩
  | unfetched e on' fetches queue refused =>
    cases on.symm.trans on'
    exact ⟨_, none, .unfetched e (isTold_of_fetching on fetches) refused⟩
  | crashes on' fetches queue got receives faulty =>
    cases on.symm.trans on'
    exact ⟨_, _, .crashes on (isTold_of_fetching on fetches) queue got receives faulty⟩
  | fetched on' fetches queue got calm release =>
    cases on.symm.trans on'
    obtain ⟨work, shift⟩ :=
      Shift.fetched on silent (isTold_of_fetching on fetches) queue got calm release
    exact ⟨work, _, shift⟩

theorem Shift.madeBetween_eq {work : List Answered} {fetched : Option Fetched}
    (shift : Shift l thread work fetched l') : l.madeBetween l' = work ++ l'.parting :=
  shift.made.madeBetween_eq

theorem Shift.ahead {work : List Answered} {fetched : Option Fetched}
    (shift : Shift l thread work fetched l') :
    fetched.toList.map Fetched.packet <+: l.endpoint.queue := by
  cases which : fetched with
  | none => exact List.nil_prefix
  | some f =>
    obtain ⟨rest, front⟩ := List.head?_eq_some_iff.mp (shift.first f which).1
    exact ⟨rest, front.symm⟩

theorem Shift.fetch?_eq {work : List Answered} {fetched : Option Fetched}
    (shift : Shift l thread work fetched l.step) : l.fetch? = fetched.map Fetched.packet := by
  -- Leaving the apartment is no fetching, so the calls of the work decide.
  have got : ⟨.getBuffer, none⟩ ∈ l.madeBetween l.step ↔ 0 < fetched.toList.length := by
    rw [shift.madeBetween_eq, ← List.count_pos_iff, List.count_append, shift.gets, count_parting]
    rfl
  unfold fetch?
  cases which : fetched with
  | none =>
    rw [which] at got
    exact if_neg (mt got.mp (Nat.not_lt_zero 0))
  | some f =>
    rw [which] at got
    rw [if_pos (got.mpr Nat.one_pos), (shift.first f which).1, Option.map_some]

end Shift

end Loopback

end PairedAudio.Capture
