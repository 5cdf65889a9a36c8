import PairedAudio.Proofs.Loopback.Calls

/-! What one step of a loopback capture's thread can do.

A step that is told to stop leaves the loop; any other looks for a packet, or fetches the one that a
look has found, hands it on, gives it back and looks again. A call that fails ends the thread.
-/

set_option autoImplicit false

namespace PairedAudio.Capture

def LoopbackProgress.isLive : LoopbackProgress → Bool
  | polling | fetching => true
  | ended | crashed => false

namespace Loopback

def isLive (l : Loopback) : Bool := l.thread.any fun thread => thread.progress.isLive

theorem arrive_eq (packets : List RenderPacket) (l : Loopback) :
    l.arrive packets = if l.isLive then
      { l with endpoint := { l.endpoint with queue := l.endpoint.queue ++ packets } } else l := by
  cases on : l.thread with
  | none => simp [arrive, isLive, on]
  | some thread =>
    obtain ⟨shape, listener, progress, silence⟩ := thread
    cases progress with
    | polling | fetching | ended | crashed => simp [arrive, isLive, on, LoopbackProgress.isLive]

/-- Between two states these calls have been made, and so answered. -/
structure Made (l : Loopback) (log : List Answered) (l' : Loopback) : Prop where
  calls : l'.trace.calls = l.trace.calls ++ log.map Answered.call
  due : l'.endpoint.due = (answersTo (log.map Answered.call) l.endpoint.due).2
  answers : l.answers (log.map Answered.call) = log

theorem map_call_answers (calls : List SystemCall) (l : Loopback) :
    (l.answers calls).map Answered.call = calls := by
  unfold answers
  -- Over the calls, whatever failures are due.
  generalize l.endpoint.due = due
  induction calls generalizing due with
  | nil => rfl
  | cons call calls ih => simp [answersTo, ih]

theorem Made.making (calls : List SystemCall) (l : Loopback) :
    Made l (l.answers calls) (l.making calls) := by
  have same := map_call_answers calls l
  exact ⟨by rw [same]; rfl, by rw [same]; rfl, by rw [same]⟩

theorem Made.refl (l : Loopback) : Made l [] l := ⟨by simp, rfl, rfl⟩

theorem Made.trans {l l' l'' : Loopback} {front back : List Answered} (first : Made l front l')
    (second : Made l' back l'') : Made l (front ++ back) l'' where
  calls := by rw [second.calls, first.calls, List.map_append, List.append_assoc]
  due := by rw [second.due, first.due, List.map_append, answersTo_append]
  answers := by
    have later : answersTo (back.map Answered.call)
        (answersTo (front.map Answered.call) l.endpoint.due).2 = (back, l''.endpoint.due) := by
      rw [← first.due]
      exact Prod.ext second.answers second.due.symm
    have earlier := first.answers
    simp only [Loopback.answers, List.map_append, answersTo_append, later] at earlier ⊢
    rw [earlier]

theorem Made.of_same {l l' l'' : Loopback} {log : List Answered} (made : Made l log l')
    (calls : l''.trace.calls = l'.trace.calls) (due : l''.endpoint.due = l'.endpoint.due) :
    Made l log l'' :=
  ⟨calls.trans made.calls, due.trans made.due, made.answers⟩

def madeBetween (l l' : Loopback) : List Answered :=
  l.answers (l'.trace.calls.drop l.trace.calls.length)

theorem Made.madeBetween_eq {l l' : Loopback} {log : List Answered} (made : Made l log l') :
    l.madeBetween l' = log := by
  rw [madeBetween, made.calls, List.drop_left, made.answers]

inductive Look (l : Loopback) : Loopback → Prop
  | found {calls : List SystemCall} (plain : Plain (l.answers calls))
      (waiting : l.endpoint.queue ≠ []) : Look l ((l.making calls).setProgress .fetching)
  | idle {calls : List SystemCall} (plain : Plain (l.answers calls))
      (none : l.endpoint.queue = []) : Look l ((l.making calls).setProgress .polling)
  | lost {calls : List SystemCall} (e : CaptureError) (plain : Plain (l.answers calls))
      (broken : Broken (l.answers calls)) : Look l ((l.making calls).abort e)

/-- How a packet is given back, which takes it off the queue. -/
inductive Release (packet : RenderPacket) (l : Loopback) : Loopback → Prop
  | looks {l' : Loopback} (given : l.answers [.releaseBuffer packet.frames] =
        [⟨.releaseBuffer packet.frames, none⟩])
      (look : Look (l.making [.releaseBuffer packet.frames]) l') : Release packet l l'
  | lost {text : String} (e : CaptureError) (refused : l.answers [.releaseBuffer packet.frames] =
        [⟨.releaseBuffer packet.frames, some text⟩]) :
      Release packet l ((l.making [.releaseBuffer packet.frames]).abort e)

def dequeued (l : Loopback) : Loopback :=
  { l with endpoint := { l.endpoint with queue := l.endpoint.queue.tail } }

def handed (thread : LoopbackThread) (packet : RenderPacket) (l : Loopback) : Loopback :=
  match l.receiver? thread packet with
  | none => l
  | some listener => { l with
      thread := some { thread with silence := (thread.present packet).2 }
      trace := l.trace.deliver listener (thread.present packet).1 }

/-- What one step of the capture thread can do. -/
inductive Turn (l : Loopback) : Loopback → Prop
  | rests (still : l.isLive = false) : Turn l l
  | told {thread : LoopbackThread} (on : l.thread = some thread) (polls : thread.progress = .polling)
      (told : l.running = false) : Turn l l.finish
  | looks {thread : LoopbackThread} {l' : Loopback} (on : l.thread = some thread)
      (polls : thread.progress = .polling) (runs : l.running = true) (look : Look l l') : Turn l l'
  | strays {thread : LoopbackThread} (on : l.thread = some thread)
      (fetches : thread.progress = .fetching) (none : l.endpoint.queue = []) :
      Turn l (l.setProgress .polling)
  | unfetched {thread : LoopbackThread} {packet : RenderPacket} {rest : List RenderPacket}
      {text : String} (e : CaptureError) (on : l.thread = some thread)
      (fetches : thread.progress = .fetching) (queue : l.endpoint.queue = packet :: rest)
      (refused : l.answers [.getBuffer] = [⟨.getBuffer, some text⟩]) :
      Turn l ((l.making [.getBuffer]).abort e)
  | crashes {thread : LoopbackThread} {packet : RenderPacket} {rest : List RenderPacket}
      {listener : Listener} (on : l.thread = some thread) (fetches : thread.progress = .fetching)
      (queue : l.endpoint.queue = packet :: rest) (got : l.answers [.getBuffer] = [⟨.getBuffer, none⟩])
      (receives : l.receiver? thread packet = some listener) (faulty : listener.crashes = true) :
      Turn l (l.making [.getBuffer]).crash
  | fetched {thread : LoopbackThread} {packet : RenderPacket} {rest : List RenderPacket}
      {l' : Loopback} (on : l.thread = some thread) (fetches : thread.progress = .fetching)
      (queue : l.endpoint.queue = packet :: rest) (got : l.answers [.getBuffer] = [⟨.getBuffer, none⟩])
      (calm : ∀ listener, l.receiver? thread packet = some listener → listener.crashes = false)
      (release : Release packet ((l.making [.getBuffer]).handed thread packet).dequeued l') : Turn l l'

theorem look_of_lookForPacket (l : Loopback) : Look l (proceed (lookForPacket l)) := by
  cases lookForPacket_performs l with
  | @ok found calls ended described =>
    rw [ended]
    cases found with
    | true => exact .found described.1 (described.2.mp rfl)
    | false =>
      refine .idle described.1 (Decidable.byContradiction fun waiting => ?_)
      cases described.2.mpr waiting
  | error ended described =>
    rw [ended]
    exact .lost _ described.1 described.2

theorem release_of_release (packet : RenderPacket) (l : Loopback) :
    Release packet l.dequeued (proceed (release packet l)) := by
  -- The packet leaves the queue before the call is answered, so the release begins without it.
  have opened : release packet l = (do
      attempt (.releaseBuffer packet.frames) (unknownFailure "ReleaseBuffer")
      lookForPacket) l.dequeued := rfl
  rw [opened]
  simp only [Bind.bind, EStateM.bind]
  have called := attempted l.dequeued (.releaseBuffer packet.frames) (unknownFailure "ReleaseBuffer")
  generalize attempt (.releaseBuffer packet.frames) (unknownFailure "ReleaseBuffer") l.dequeued =
    result at called
  cases called with
  | granted given => exact .looks given (look_of_lookForPacket _)
  | refused answer => exact .lost _ answer

theorem turn (l : Loopback) : Turn l l.step := by
  cases on : l.thread with
  | none =>
    have same : l.step = l := by rw [step, on]
    rw [same]
    exact .rests (by rw [isLive, on]; rfl)
  | some thread =>
    cases stage : thread.progress with
    | ended | crashed =>
      have same : l.step = l := by simp only [step, on, stage]
      rw [same]
      exact .rests (by simp only [isLive, on, Option.any_some, stage, LoopbackProgress.isLive])
    | polling =>
      cases runs : l.running with
      | false =>
        have told : l.step = l.finish := by simp [step, on, stage, runs]
        rw [told]
        exact .told on stage runs
      | true =>
        have looks : l.step = proceed (lookForPacket l) := by simp [step, on, stage, runs]
        rw [looks]
        exact .looks on stage runs (look_of_lookForPacket l)
    | fetching =>
      cases queue : l.endpoint.queue with
      | nil =>
        have strays : l.step = l.setProgress .polling := by simp only [step, on, stage, queue]
        rw [strays]
        exact .strays on stage queue
      | cons packet rest =>
        have called := attempted l .getBuffer (unknownFailure "GetBuffer")
        generalize ended : attempt .getBuffer (unknownFailure "GetBuffer") l = result at called
        cases called with
        | @refused text answer =>
          have unfetched : l.step =
              (l.making [.getBuffer]).abort (unknownFailure "GetBuffer" text) := by
            simp only [step, on, stage, queue, ended]
          rw [unfetched]
          exact .unfetched _ on stage queue answer
        | granted got =>
          have receives : (l.making [.getBuffer]).receiver? thread packet = l.receiver? thread packet :=
            rfl
          cases receiver : l.receiver? thread packet with
          | none =>
            have quiet : l.step = proceed (release packet
                ((l.making [.getBuffer]).handed thread packet)) := by
              simp only [step, on, stage, queue, ended, handed, receives, receiver]
            rw [quiet]
            refine .fetched on stage queue got ?_ (release_of_release packet _)
            simp [receiver]
          | some listener =>
            cases faulty : listener.crashes with
            | true =>
              have crashed : l.step = (l.making [.getBuffer]).crash := by
                simp only [step, on, stage, queue, ended, receives, receiver, faulty, if_true]
              rw [crashed]
              exact .crashes on stage queue got receiver faulty
            | false =>
              have heard : l.step = proceed (release packet
                  ((l.making [.getBuffer]).handed thread packet)) := by
                simp only [step, on, stage, queue, ended, handed, receives, receiver, faulty,
                  Bool.false_eq_true, if_false]
              rw [heard]
              refine .fetched on stage queue got ?_ (release_of_release packet _)
              intro other same
              rw [receiver] at same
              cases same
              exact faulty

inductive Launched (shape : StreamShape) (l : Loopback) : Loopback → Prop
  | unentered {text : String} (e : CaptureError)
      (refused : l.answers [.enterApartment] = [⟨.enterApartment, some text⟩]) :
      Launched shape l ((l.making [.enterApartment]).fail e)
  | lost {calls : List SystemCall} (e : CaptureError)
      (entered : l.answers [.enterApartment] = [⟨.enterApartment, none⟩])
      (plain : Plain ((l.making [.enterApartment]).answers calls))
      (broken : Broken ((l.making [.enterApartment]).answers calls)) :
      Launched shape l (((l.making [.enterApartment]).making calls).abort e)
  | crashed {calls : List SystemCall} (oversized : shape.waveFormat? = none) :
      Launched shape l ((l.making [.enterApartment]).making calls).crash
  | opened {calls : List SystemCall}
      (entered : l.answers [.enterApartment] = [⟨.enterApartment, none⟩])
      (plain : Plain ((l.making [.enterApartment]).answers calls))
      (started : ⟨.start, none⟩ ∈ (l.making [.enterApartment]).answers calls) :
      Launched shape l ((l.making [.enterApartment]).making calls)

theorem launched (shape : StreamShape) (l : Loopback) : Launched shape l (l.launch shape) := by
  have called := attempted l .enterApartment (unknownFailure "CoInitializeEx")
  rw [launch, enterApartment]
  generalize attempt .enterApartment (unknownFailure "CoInitializeEx") l = result at called
  cases called with
  | refused answer => exact .unentered _ answer
  | granted entered =>
    dsimp only
    cases openCapture_performs (l.making [.enterApartment]) shape with
    | ok ended described =>
      rw [ended]
      exact .opened entered described.1 described.2
    | @error fault calls ended described =>
      rw [ended]
      cases fault with
      | refused e => exact .lost e entered described.1 described.2
      | crashed => exact .crashed described.2

end Loopback

end PairedAudio.Capture
