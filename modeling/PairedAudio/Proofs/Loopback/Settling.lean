import PairedAudio.Proofs.Loopback.Shift
import PairedAudio.Proofs.Outcomes

/-! That a capture thread fetches what waits, and ends when it is told to.

A thread that has ended rests. One that goes on takes a packet off the queue with every step, but for a
look in front. One that is told to stop takes the packets that it has found off the queue, looks at the
running flag and ends, in as many steps as joining it waits for.
-/

set_option autoImplicit false

namespace PairedAudio.Capture.Loopback

variable {l : Loopback}

theorem step_of_still (still : l.isLive = false) : l.step = l := by
  cases on : l.thread with
  | none => simp only [step, on]
  | some thread =>
    rw [isLive, on, Option.any_some] at still
    cases stage : thread.progress with
    | polling | fetching =>
      rw [stage] at still
      cases still
    | ended | crashed => simp only [step, on, stage]

def remaining (l : Loopback) : Nat :=
  match l.thread with
  | none => 0
  | some thread =>
    match thread.progress with
    | .ended | .crashed => 0
    | .polling => 1
    | .fetching => l.endpoint.queue.length + 2

theorem remaining_of_still (still : l.isLive = false) (n : Nat) : l.remaining ≤ n := by
  unfold isLive at still
  unfold remaining
  cases on : l.thread with
  | none => exact Nat.zero_le n
  | some thread =>
    rw [on, Option.any_some] at still
    cases stage : thread.progress with
    | polling | fetching =>
      rw [stage] at still
      cases still
    | ended | crashed => simp only [stage, Nat.zero_le]

theorem still_of_remaining (none : l.remaining = 0) : l.isLive = false := by
  unfold remaining at none
  unfold isLive
  cases on : l.thread with
  | none => rfl
  | some thread =>
    rw [on] at none
    cases stage : thread.progress with
    | polling | fetching =>
      simp only [stage] at none
      omega
    | ended | crashed => simp [stage, LoopbackProgress.isLive]

theorem remaining_le (l : Loopback) : l.remaining ≤ l.endpoint.queue.length + 2 := by
  unfold remaining
  split
  · omega
  split
  all_goals omega

theorem Look.queue {l' : Loopback} (look : Look l l') : l'.endpoint.queue = l.endpoint.queue := by
  cases look with
  | found | idle | lost => rfl

theorem Release.queue {packet : RenderPacket} {l' : Loopback} (release : Release packet l l') :
    l'.endpoint.queue = l.endpoint.queue := by
  cases release with
  | looks _ look => exact look.queue
  | lost => rfl

theorem queue_handed (thread : LoopbackThread) (packet : RenderPacket) (l : Loopback) :
    (l.handed thread packet).endpoint.queue = l.endpoint.queue := by
  unfold handed
  split
  · rfl
  · rfl

theorem remaining_step (idle : l.running = false) : l.step.remaining ≤ l.remaining - 1 := by
  have turned := turn l
  generalize l.step = l' at turned
  cases turned with
  | rests still => exact remaining_of_still still _
  | told on => exact remaining_of_still (isLive_finish on) _
  | looks _ _ runs => exact absurd (idle.symm.trans runs) nofun
  | strays on fetches none => simp [remaining, setProgress, on, fetches]
  | unfetched e => exact remaining_of_still (isLive_abort e _) _
  | crashes on => exact remaining_of_still (isLive_setProgress on .crashed) _
  | @fetched thread packet rest l' on fetches queue got calm release =>
    -- The thread may look again at once, but the queue is a packet shorter.
    have left : l'.endpoint.queue = rest := by
      rw [release.queue, dequeued, queue_handed]
      exact congrArg List.tail queue
    have bound := remaining_le l'
    have now : l.remaining = rest.length + 3 := by
      simp only [remaining, on, fetches, queue, List.length_cons]
    rw [left] at bound
    omega

theorem remaining_steps (n : Nat) (idle : l.running = false) :
    (l.steps n).remaining ≤ l.remaining - n := by
  -- Over the steps: no step puts the capture in use again.
  induction n generalizing l with
  | zero => exact Nat.le_refl _
  | succ n ih =>
    have first := remaining_step idle
    have rest := ih ((Kept.step l).idle idle)
    rw [steps]
    omega

theorem settle_still (idle : l.running = false) : l.settle.isLive = false := by
  have bound := remaining_le l
  have left := remaining_steps (l.endpoint.queue.length + 2) idle
  exact still_of_remaining (by rw [settle]; omega)

def backlog (l : Loopback) : Nat :=
  match l.thread with
  | none => 0
  | some thread =>
    match thread.progress with
    | .ended | .crashed => 0
    | .polling => if l.endpoint.queue = [] then 0 else l.endpoint.queue.length + 1
    | .fetching => l.endpoint.queue.length

theorem backlog_le (l : Loopback) : l.backlog ≤ l.endpoint.queue.length + 1 := by
  unfold backlog
  split
  · exact Nat.zero_le _
  split
  · exact Nat.zero_le _
  · exact Nat.zero_le _
  · split
    · exact Nat.zero_le _
    · exact Nat.le_refl _
  · exact Nat.le_succ _

theorem queue_of_backlog (live : l.isLive = true) (none : l.backlog = 0) : l.endpoint.queue = [] := by
  unfold isLive at live
  unfold backlog at none
  cases on : l.thread with
  | none => simp [on] at live
  | some thread =>
    rw [on, Option.any_some] at live
    rw [on] at none
    cases stage : thread.progress with
    | polling => simpa [stage] using none
    | fetching => simpa [stage] using none
    | ended | crashed =>
      rw [stage] at live
      cases live

/-- What a step leaves that the thread outlives: the instructions are the same, and so much is left to
fetch. -/
structure Onward (l l' : Loopback) (left : Nat) : Prop where
  running : l'.running = l.running
  playing : l'.playing = l.playing
  backlog : l'.backlog = left

section Onward

variable {l' : Loopback} {thread : LoopbackThread}

theorem Look.onward (look : Look l l') (on : l.thread = some thread) (goesOn : l'.isLive = true) :
    Onward l l' l.endpoint.queue.length := by
  cases look with
  | found _ waiting => exact ⟨rfl, rfl, by simp [Loopback.backlog, setProgress, making, on]⟩
  | idle _ none => exact ⟨rfl, rfl, by simp [Loopback.backlog, setProgress, making, on, none]⟩
  | lost e => exact absurd ((isLive_abort e _).symm.trans goesOn) Bool.false_ne_true

theorem Release.onward {packet : RenderPacket} (release : Release packet l l')
    (on : l.thread = some thread) (goesOn : l'.isLive = true) :
    Onward l l' l.endpoint.queue.length := by
  cases release with
  | looks _ look =>
    have onward := look.onward on goesOn
    exact ⟨onward.running, onward.playing, onward.backlog⟩
  | lost e => exact absurd ((isLive_abort e _).symm.trans goesOn) Bool.false_ne_true

theorem instructions_handed (thread : LoopbackThread) (packet : RenderPacket) (l : Loopback) :
    (l.handed thread packet).running = l.running ∧ (l.handed thread packet).playing = l.playing := by
  unfold handed
  split
  · exact ⟨rfl, rfl⟩
  · exact ⟨rfl, rfl⟩

theorem onward_step (goesOn : l.step.isLive = true) : Onward l l.step (l.backlog - 1) := by
  have turned := turn l
  generalize l.step = l' at turned goesOn
  -- A thread that goes on has neither seen the flag cleared, nor met a refusal, nor crashed.
  cases turned with
  | rests still => exact absurd (still.symm.trans goesOn) Bool.false_ne_true
  | told on => exact absurd ((isLive_finish on).symm.trans goesOn) Bool.false_ne_true
  | @looks thread _ on polls _ look =>
    obtain ⟨running, playing, left⟩ := look.onward on goesOn
    refine ⟨running, playing, left.trans ?_⟩
    simp only [backlog, on, polls]
    split
    · simp [*]
    · rfl
  | strays on fetches none =>
    exact ⟨rfl, rfl, by simp [backlog, setProgress, on, fetches, none]⟩
  | unfetched e => exact absurd ((isLive_abort e _).symm.trans goesOn) Bool.false_ne_true
  | crashes on => exact absurd ((isLive_setProgress on .crashed).symm.trans goesOn) Bool.false_ne_true
  | @fetched thread packet rest l' on fetches queue got calm release =>
    obtain ⟨thread', on'⟩ : ∃ thread',
        ((l.making [.getBuffer]).handed thread packet).dequeued.thread = some thread' := by
      unfold handed
      split
      · exact ⟨thread, on⟩
      · exact ⟨_, rfl⟩
    obtain ⟨running, playing, left⟩ := release.onward on' goesOn
    obtain ⟨running', playing'⟩ := instructions_handed thread packet (l.making [.getBuffer])
    refine ⟨running.trans running', playing.trans playing', left.trans ?_⟩
    rw [dequeued, queue_handed]
    simp only [backlog, on, fetches, queue, List.length_cons, Nat.add_sub_cancel]
    exact congrArg (fun waiting : List RenderPacket => waiting.tail.length) queue

theorem isLive_of_steps {n : Nat} (goesOn : (l.steps n).isLive = true) : l.isLive = true := by
  -- Over the steps, for every capture: a thread that has ended does not come back.
  induction n generalizing l with
  | zero => exact goesOn
  | succ n ih =>
    have next : l.step.isLive = true := ih goesOn
    cases live : l.isLive with
    | true => rfl
    | false => exact (live.symm.trans (step_of_still live ▸ next))

theorem onward_steps {n : Nat} (goesOn : (l.steps n).isLive = true) :
    (l.steps n).running = l.running ∧ (l.steps n).backlog = l.backlog - n := by
  induction n generalizing l with
  | zero => exact ⟨rfl, rfl⟩
  | succ n ih =>
    obtain ⟨running, -, left⟩ := onward_step (isLive_of_steps goesOn)
    obtain ⟨running', left'⟩ := ih goesOn
    refine ⟨running'.trans running, left'.trans ?_⟩
    omega

/-- A thread that outlives enough steps has fetched all that waited, and was not told to stop. -/
theorem caught_up {n : Nat} (enough : l.endpoint.queue.length + 1 < n)
    (goesOn : (l.steps n).isLive = true) :
    (l.steps n).endpoint.queue = [] ∧ (l.steps n).running = true := by
  obtain ⟨running, left⟩ := onward_steps goesOn
  have few := l.backlog_le
  refine ⟨queue_of_backlog goesOn (by omega), running.trans ?_⟩
  cases told : l.running with
  | true => rfl
  | false =>
    have bound := remaining_le l
    have ended := still_of_remaining (l := l.steps n) (by have := remaining_steps n told; omega)
    exact absurd (ended.symm.trans goesOn) Bool.false_ne_true

end Onward

theorem isLive_join (l : Loopback) : l.join.isLive = false := by
  unfold join
  split
  · dsimp only
    split
    · rfl
    · rfl
  · rename_i none
    rw [isLive, none]
    rfl

end PairedAudio.Capture.Loopback
