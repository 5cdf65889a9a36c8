import PairedAudio.Capture.Loopback

/-! The calls that a loopback capture makes into the audio system, and their answers.

The failures that are due decide how each call is answered. An operation is described by the calls
that it makes: what it leaves behind is the capture it began with when it has made them, and whether
it succeeds is told by their answers.
-/

set_option autoImplicit false

namespace PairedAudio.Capture

open Audio (Format)

variable {α β ε : Type}

structure Answered where
  call : SystemCall
  failure : Option String := none
  deriving DecidableEq, Repr

def answersTo : List SystemCall → List DueFailure → List Answered × List DueFailure
  | [], due => ([], due)
  | call :: calls, due =>
    let answer := if call.canFail then countCall call.name due else (none, due)
    let rest := answersTo calls answer.2
    (⟨call, answer.1⟩ :: rest.1, rest.2)

theorem answersTo_append (front back : List SystemCall) (due : List DueFailure) :
    answersTo (front ++ back) due =
      let first := answersTo front due
      let second := answersTo back first.2
      (first.1 ++ second.1, second.2) := by
  -- Over the calls in front, whatever failures are due to begin with.
  induction front generalizing due with
  | nil => rfl
  | cons call calls ih => simp only [List.cons_append, answersTo, ih]

/-- Every call of `take` that succeeds is followed by one of `give` before the next such call, and
there are no other calls of `give`. -/
inductive Matched (take give : SystemCall) : List Answered → Prop
  | nil : Matched take give []
  | other {a : Answered} {log : List Answered} (idle : a ≠ ⟨take, none⟩) (keeps : a.call ≠ give)
      (rest : Matched take give log) : Matched take give (a :: log)
  | pair {between log : List Answered} {failure : Option String}
      (apart : ∀ a ∈ between, a.call ≠ take ∧ a.call ≠ give) (rest : Matched take give log) :
      Matched take give (⟨take, none⟩ :: between ++ ⟨give, failure⟩ :: log)

theorem Matched.of_apart {take give : SystemCall} {log : List Answered}
    (apart : ∀ a ∈ log, a.call ≠ take ∧ a.call ≠ give) : Matched take give log := by
  induction log with
  | nil => exact .nil
  | cons a log ih =>
    obtain ⟨⟨other, keeps⟩, rest⟩ := List.forall_mem_cons.mp apart
    exact .other (fun same => other (congrArg Answered.call same)) keeps (ih rest)

theorem Matched.append {take give : SystemCall} {front back : List Answered}
    (first : Matched take give front) (second : Matched take give back) :
    Matched take give (front ++ back) := by
  -- Over the pairs of the first log, which has none open at its end.
  induction first with
  | nil => exact second
  | other idle keeps _ ih => exact .other idle keeps ih
  | pair apart _ ih =>
    rw [List.append_assoc, List.cons_append]
    exact .pair apart ih

def SystemCall.isPlain : SystemCall → Bool
  | enterApartment | leaveApartment | mixFormat | freeMixFormat | getBuffer | releaseBuffer _ | stop =>
    false
  | _ => true

def Plain (log : List Answered) : Prop := ∀ a ∈ log, a.call.isPlain = true

theorem Plain.nil : Plain [] := List.forall_mem_nil _

theorem Plain.singleton {a : Answered} (plain : a.call.isPlain = true) : Plain [a] := by
  intro b only
  rw [List.mem_singleton.mp only]
  exact plain

theorem Plain.append {front back : List Answered} (first : Plain front) (second : Plain back) :
    Plain (front ++ back) :=
  List.forall_mem_append.mpr ⟨first, second⟩

theorem Plain.ne {log : List Answered} (plain : Plain log) {a : Answered} (among : a ∈ log)
    {call : SystemCall} (special : call.isPlain = false) : a.call ≠ call := by
  intro same
  have both := (plain a among).symm.trans (same ▸ special)
  cases both

theorem Plain.matched {log : List Answered} (plain : Plain log) {take give : SystemCall}
    (takes : take.isPlain = false) (gives : give.isPlain = false) : Matched take give log :=
  .of_apart fun _ among => ⟨plain.ne among takes, plain.ne among gives⟩

def SystemCall.isNeeded : SystemCall → Bool
  | raisePriority | stop => false
  | _ => true

/-- A call was refused that what is done depends on. -/
def Broken (log : List Answered) : Prop := ∃ a ∈ log, a.call.isNeeded = true ∧ a.failure ≠ none

theorem Broken.single {c : SystemCall} (needed : c.isNeeded = true) (text : String) :
    Broken [⟨c, some text⟩] :=
  ⟨_, List.mem_singleton_self _, needed, Option.some_ne_none text⟩

theorem Broken.behind {back : List Answered} (broken : Broken back) (front : List Answered) :
    Broken (front ++ back) := by
  obtain ⟨a, among, failed⟩ := broken
  exact ⟨a, List.mem_append_right front among, failed⟩

theorem Broken.before {front : List Answered} (broken : Broken front) (back : List Answered) :
    Broken (front ++ back) := by
  obtain ⟨a, among, failed⟩ := broken
  exact ⟨a, List.mem_append_left back among, failed⟩

/-- Why an operation on a stream of a shape fails: a call was refused, or the shape has no description. -/
def Cut (shape : StreamShape) (log : List Answered) : Fault → Prop
  | .refused _ => Broken log
  | .crashed => shape.waveFormat? = none

theorem Cut.behind {shape : StreamShape} {back : List Answered} {fault : Fault}
    (cut : Cut shape back fault) (front : List Answered) : Cut shape (front ++ back) fault := by
  cases fault with
  | refused => exact Broken.behind cut front
  | crashed => exact cut

theorem Cut.before {shape : StreamShape} {front : List Answered} {fault : Fault}
    (cut : Cut shape front fault) (back : List Answered) : Cut shape (front ++ back) fault := by
  cases fault with
  | refused => exact Broken.before cut back
  | crashed => exact cut

namespace Loopback

def answers (calls : List SystemCall) (l : Loopback) : List Answered :=
  (answersTo calls l.endpoint.due).1

def making (calls : List SystemCall) (l : Loopback) : Loopback :=
  { l with
    endpoint := { l.endpoint with due := (answersTo calls l.endpoint.due).2 }
    trace := { l.trace with calls := l.trace.calls ++ calls } }

theorem making_nil (l : Loopback) : l.making [] = l := by
  simp [making, answersTo]

theorem making_append (front back : List SystemCall) (l : Loopback) :
    l.making (front ++ back) = (l.making front).making back := by
  simp only [making, answersTo_append, List.append_assoc]

theorem answers_append (front back : List SystemCall) (l : Loopback) :
    l.answers (front ++ back) = l.answers front ++ (l.making front).answers back := by
  simp only [answers, making, answersTo_append]

theorem call_eq (c : SystemCall) (l : Loopback) : l.call c = ((l.call c).1, l.making [c]) := by
  unfold call making
  cases able : c.canFail <;> simp [answersTo, able, note, Trace.call]

theorem answers_call (c : SystemCall) (l : Loopback) : l.answers [c] = [⟨c, (l.call c).1⟩] := by
  unfold answers call
  cases able : c.canFail <;> simp [answersTo, able]

theorem note_eq {c : SystemCall} (sure : c.canFail = false) (l : Loopback) :
    l.note c = l.making [c] := by
  simp [making, answersTo, sure, note, Trace.call]

theorem answers_sure {c : SystemCall} (sure : c.canFail = false) (l : Loopback) :
    l.answers [c] = [⟨c, none⟩] := by
  simp [answers, answersTo, sure]

/-- An operation does nothing but make calls, and its outcome and their answers are as described. -/
inductive Performs (operation : EStateM ε Loopback α) (l : Loopback)
    (done : α → List Answered → Prop) (failed : ε → List Answered → Prop) : Prop
  | ok {value : α} {calls : List SystemCall} (ended : operation l = .ok value (l.making calls))
      (described : done value (l.answers calls))
  | error {e : ε} {calls : List SystemCall} (ended : operation l = .error e (l.making calls))
      (described : failed e (l.answers calls))

section Performs

variable {operation : EStateM ε Loopback α} {l : Loopback}
  {done done' : α → List Answered → Prop} {failed failed' : ε → List Answered → Prop}

theorem Performs.mono (performs : Performs operation l done failed)
    (does : ∀ value log, done value log → done' value log)
    (fails : ∀ e log, failed e log → failed' e log) : Performs operation l done' failed' := by
  cases performs with
  | ok ended described => exact .ok ended (does _ _ described)
  | error ended described => exact .error ended (fails _ _ described)

theorem making_inj {calls calls' : List SystemCall} (same : l.making calls = l.making calls') :
    calls = calls' :=
  List.append_cancel_left (congrArg (fun l : Loopback => l.trace.calls) same)

theorem Performs.and (first : Performs operation l done failed)
    (second : Performs operation l done' failed') :
    Performs operation l (fun value log => done value log ∧ done' value log)
      fun e log => failed e log ∧ failed' e log := by
  cases first with
  | ok ended described =>
    cases second with
    | ok ended' described' =>
      obtain ⟨rfl, same⟩ := EStateM.Result.ok.inj (ended.symm.trans ended')
      cases making_inj same
      exact .ok ended ⟨described, described'⟩
    | error ended' => cases ended.symm.trans ended'
  | error ended described =>
    cases second with
    | ok ended' => cases ended.symm.trans ended'
    | error ended' described' =>
      obtain ⟨rfl, same⟩ := EStateM.Result.error.inj (ended.symm.trans ended')
      cases making_inj same
      exact .error ended ⟨described, described'⟩

theorem Performs.bind {next : α → EStateM ε Loopback β}
    {done' : β → List Answered → Prop} (first : Performs operation l done failed)
    (second : ∀ value calls, done value (l.answers calls) →
      Performs (next value) (l.making calls) (fun value log => done' value (l.answers calls ++ log))
        fun e log => failed' e (l.answers calls ++ log))
    (fails : ∀ e log, failed e log → failed' e log) : Performs (operation >>= next) l done' failed' := by
  cases first with
  | @error e calls ended described =>
    have both : (operation >>= next) l = .error e (l.making calls) := by
      simp only [Bind.bind, EStateM.bind, ended]
    exact .error both (fails _ _ described)
  | @ok value calls ended described =>
    have both : (operation >>= next) l = next value (l.making calls) := by
      simp only [Bind.bind, EStateM.bind, ended]
    cases second value calls described with
    | ok ended' described' =>
      rw [← answers_append] at described'
      rw [← making_append] at ended'
      exact .ok (both.trans ended') described'
    | error ended' described' =>
      rw [← answers_append] at described'
      rw [← making_append] at ended'
      exact .error (both.trans ended') described'

theorem Performs.refusable {operation : EStateM CaptureError Loopback α}
    {failed : CaptureError → List Answered → Prop} {failed' : Fault → List Answered → Prop}
    (performs : Performs operation l done failed)
    (fails : ∀ e log, failed e log → failed' (.refused e) log) :
    Performs (Capture.refusable operation) l done failed' := by
  cases performs with
  | ok ended described => exact .ok (by rw [Capture.refusable, ended]) described
  | error ended described => exact .error (by rw [Capture.refusable, ended]) (fails _ _ described)

/-- Operations that keep to calls of some kind, which may be made one after the other. -/
theorem Performs.bind_within {kind : List Answered → Prop} {cut : ε → List Answered → Prop}
    {good : α → Prop} {good' : β → Prop} {next : α → EStateM ε Loopback β}
    (closed : ∀ {front back : List Answered}, kind front → kind back → kind (front ++ back))
    (behind : ∀ {e : ε} {back : List Answered}, cut e back → ∀ front, cut e (front ++ back))
    (first : Performs operation l (fun value log => good value ∧ kind log)
      fun e log => kind log ∧ cut e log)
    (second : ∀ value calls, good value →
      Performs (next value) (l.making calls) (fun value log => good' value ∧ kind log)
        fun e log => kind log ∧ cut e log) :
    Performs (operation >>= next) l (fun value log => good' value ∧ kind log)
      fun e log => kind log ∧ cut e log := by
  refine first.bind (fun value calls ⟨valued, before⟩ => ?_) fun _ _ failed => failed
  exact (second value calls valued).mono (fun _ _ ⟨valued', after⟩ => ⟨valued', closed before after⟩)
    fun _ _ ⟨after, cut⟩ => ⟨closed before after, behind cut _⟩

def Plainly (operation : EStateM CaptureError Loopback α) (l : Loopback) : Prop :=
  Performs operation l (fun _ => Plain) fun _ log => Plain log ∧ Broken log

theorem Plainly.bind {operation : EStateM CaptureError Loopback α}
    {next : α → EStateM CaptureError Loopback β} (first : Plainly operation l)
    (second : ∀ value l', Plainly (next value) l') : Plainly (operation >>= next) l := by
  refine Performs.bind first (fun value calls plain => ?_) fun _ _ failed => failed
  exact (second value _).mono (fun _ _ more => plain.append more)
    fun _ _ ⟨more, broken⟩ => ⟨plain.append more, broken.behind _⟩

end Performs

section Operations

variable (l : Loopback)

inductive Attempted (c : SystemCall) (wrap : String → CaptureError) :
    EStateM.Result CaptureError Loopback Unit → Prop
  | granted (answer : l.answers [c] = [⟨c, none⟩]) : Attempted c wrap (.ok () (l.making [c]))
  | refused {text : String} (answer : l.answers [c] = [⟨c, some text⟩]) :
      Attempted c wrap (.error (wrap text) (l.making [c]))

theorem attempted (c : SystemCall) (wrap : String → CaptureError) :
    Attempted l c wrap (attempt c wrap l) := by
  have answer := answers_call c l
  rw [attempt, call_eq]
  cases failure : (l.call c).1 with
  | none => exact .granted (failure ▸ answer)
  | some text => exact .refused (failure ▸ answer)

theorem attempt_performs (c : SystemCall) (wrap : String → CaptureError) :
    Performs (attempt c wrap) l (fun _ log => log = [⟨c, none⟩])
      fun _ log => ∃ text, log = [⟨c, some text⟩] := by
  have called := attempted l c wrap
  generalize ended : attempt c wrap l = result at called
  cases called with
  | granted answer => exact .ok ended answer
  | refused answer => exact .error ended ⟨_, answer⟩

theorem attempt_plain {c : SystemCall} (plain : c.isPlain = true) (needed : c.isNeeded = true)
    (wrap : String → CaptureError) : Plainly (attempt c wrap) l := by
  refine (attempt_performs l c wrap).mono (fun _ log only => ?_) fun _ log ⟨text, only⟩ => ?_
  · rw [only]
    exact .singleton plain
  · rw [only]
    exact ⟨.singleton plain, .single needed text⟩

theorem attemptIgnored_plain {c : SystemCall} (plain : c.isPlain = true) :
    Plainly (attemptIgnored c) l := by
  refine .ok (by rw [attemptIgnored, call_eq]) ?_
  rw [answers_call]
  exact .singleton plain

theorem modify_note_performs {c : SystemCall} (sure : c.canFail = false) :
    Performs (modify (note c)) l (fun _ log => log = [⟨c, none⟩]) fun (_ : ε) _ => False :=
  .ok (congrArg (EStateM.Result.ok ()) (note_eq sure l)) (answers_sure sure l)

theorem get_performs :
    Performs get l (fun value log => value = l ∧ log = []) fun (_ : ε) _ => False :=
  .ok (congrArg (EStateM.Result.ok l) (making_nil l).symm) ⟨rfl, rfl⟩

theorem pure_performs (value : α) :
    Performs (pure value) l (fun result log => result = value ∧ log = []) fun (_ : ε) _ => False :=
  .ok (congrArg (EStateM.Result.ok value) (making_nil l).symm) ⟨rfl, rfl⟩

theorem openClient_plain : Plainly openClient l :=
  (attempt_plain l rfl rfl _).bind fun _ l₁ =>
    (attempt_plain l₁ rfl rfl _).bind fun _ l₂ => attempt_plain l₂ rfl rfl _

theorem openStream_performs (shape : StreamShape) :
    Performs (openStream shape) l (fun _ log => shape.waveFormat?.isSome ∧ Plain log)
      fun fault log => Plain log ∧ Cut shape log fault := by
  unfold openStream
  cases sized : shape.waveFormat? with
  | none => exact .error (congrArg (EStateM.Result.error Fault.crashed) (making_nil l).symm) ⟨.nil, sized⟩
  | some wave =>
    refine Performs.refusable (Performs.mono (Plainly.bind (attempt_plain l (c := .prepare wave) rfl rfl _)
      fun _ l₁ => attempt_plain l₁ (c := .service) rfl rfl _) (fun _ _ plain => ⟨rfl, plain⟩)
        fun _ _ failed => failed) fun _ _ failed => failed

theorem openCapture_performs (shape : StreamShape) :
    Performs (openCapture shape) l (fun _ log => Plain log ∧ ⟨.start, none⟩ ∈ log)
      fun fault log => Plain log ∧ Cut shape log fault := by
  unfold openCapture
  have client : Performs (refusable openClient) l (fun _ => Plain)
    fun fault log => Plain log ∧ Cut shape log fault :=
      (openClient_plain l).refusable fun _ _ failed => failed
  refine client.bind (fun _ client plain => ?_) fun _ _ failed => failed
  refine (openStream_performs _ shape).bind (fun _ stream ⟨_, plain'⟩ => ?_)
    fun _ _ ⟨plain', cut⟩ => ⟨plain.append plain', cut.behind _⟩
  have starting (l' : Loopback) : Performs (do
      attemptIgnored .raisePriority
      attempt .start (unknownFailure "IAudioClient::Start")) l'
      (fun _ log => Plain log ∧ ⟨.start, none⟩ ∈ log) fun _ log => Plain log ∧ Broken log := by
    refine Performs.bind (attemptIgnored_plain _ rfl) (fun _ priority plain'' => ?_)
      fun _ _ failed => failed
    refine (attempt_performs _ .start _).mono (fun _ log started => ?_) fun _ log ⟨text, refused⟩ => ?_
    · subst started
      exact ⟨plain''.append (.singleton rfl), List.mem_append_right _ (List.mem_singleton_self _)⟩
    · subst refused
      exact ⟨plain''.append (.singleton rfl), .behind (.single rfl text) _⟩
  refine Performs.refusable ((starting _).mono (fun _ log ⟨plain'', started⟩ => ?_)
    fun _ _ failed => failed) fun _ _ ⟨plain'', broken⟩ => ?_
  · refine ⟨plain.append (plain'.append plain''), ?_⟩
    exact List.mem_append_right _ (List.mem_append_right _ started)
  · exact ⟨plain.append (plain'.append plain''), (Broken.behind broken _).behind _⟩

theorem lookForPacket_performs :
    Performs lookForPacket l (fun found log => Plain log ∧ (found = true ↔ l.endpoint.queue ≠ []))
      fun _ log => Plain log ∧ Broken log := by
  by_cases idle : (l.endpoint.queue.isEmpty &&
      (countCall SystemCall.nextPacketSize.name l.endpoint.due).1.isNone) = true
  · -- An idle look makes no call at all.
    have ended : lookForPacket l = .ok false (l.making []) := by
      rw [lookForPacket, if_pos idle, making_nil]
    have empty : l.endpoint.queue = [] := List.isEmpty_iff.mp (Bool.and_eq_true_iff.mp idle).1
    exact .ok ended ⟨.nil, by simp [empty]⟩
  have looks : Plainly (attempt .nextPacketSize (unknownFailure "GetNextPacketSize")) l :=
    attempt_plain l rfl rfl _
  cases looks with
  | @ok _ calls called plain =>
    have ended : lookForPacket l = .ok (!l.endpoint.queue.isEmpty) (l.making calls) := by
      rw [lookForPacket, if_neg idle, called]
      rfl
    exact .ok ended ⟨plain, by simp⟩
  | @error e calls called plain =>
    have ended : lookForPacket l = .error e (l.making calls) := by
      rw [lookForPacket, if_neg idle, called]
    exact .error ended plain

end Operations

structure Indoors (log : List Answered) : Prop where
  stays : ∀ a ∈ log, a.call ≠ .enterApartment ∧ a.call ≠ .leaveApartment
  formats : Matched .mixFormat .freeMixFormat log

structure Settled (log : List Answered) : Prop where
  apartments : Matched .enterApartment .leaveApartment log
  formats : Matched .mixFormat .freeMixFormat log

theorem Indoors.of_plain {log : List Answered} (plain : Plain log) : Indoors log where
  stays _ among := ⟨plain.ne among rfl, plain.ne among rfl⟩
  formats := plain.matched rfl rfl

theorem Indoors.append {front back : List Answered} (first : Indoors front) (second : Indoors back) :
    Indoors (front ++ back) where
  stays := List.forall_mem_append.mpr ⟨first.stays, second.stays⟩
  formats := first.formats.append second.formats

theorem Settled.of_indoors {log : List Answered} (indoors : Indoors log) :
    Settled (⟨.enterApartment, none⟩ :: log ++ [⟨.leaveApartment, none⟩]) where
  apartments := .pair indoors.stays .nil
  formats := by
    have left : Matched .mixFormat .freeMixFormat [⟨.leaveApartment, none⟩] :=
      .of_apart (by simp)
    exact .other nofun nofun (indoors.formats.append left)

theorem Settled.unentered (text : String) : Settled [⟨.enterApartment, some text⟩] where
  apartments := .other nofun nofun .nil
  formats := .of_apart (by simp)

/-- What a body does stands between entering the apartment and leaving it, on every way out. -/
theorem inApartment_encloses {body : EStateM Fault Loopback α} {l : Loopback}
    {done done' : α → List Answered → Prop} {failed failed' : Fault → List Answered → Prop}
    (inside : ∀ calls, Performs body (l.making calls) done failed)
    (does : ∀ value log, done value log →
      done' value (⟨.enterApartment, none⟩ :: log ++ [⟨.leaveApartment, none⟩]))
    (fails : ∀ fault log, failed fault log →
      failed' fault (⟨.enterApartment, none⟩ :: log ++ [⟨.leaveApartment, none⟩]))
    (refuses : ∀ e text, failed' (.refused e) [⟨.enterApartment, some text⟩]) :
    Performs (inApartment body) l done' failed' := by
  have entering : Performs (refusable enterApartment) l (fun _ log => log = [⟨.enterApartment, none⟩])
      failed' := (attempt_performs l .enterApartment _).refusable fun e _ ⟨text, only⟩ => by
    rw [only]
    exact refuses e text
  refine entering.bind (fun _ calls entered => ?_) fun _ _ refused => refused
  rw [entered]
  have left (more : List SystemCall) : ((l.making calls).making more).note .leaveApartment =
      (l.making calls).making (more ++ [.leaveApartment]) := by rw [making_append, note_eq rfl]
  have logged (more : List SystemCall) : (l.making calls).answers (more ++ [.leaveApartment]) =
      (l.making calls).answers more ++ [⟨.leaveApartment, none⟩] := by
    rw [answers_append, answers_sure rfl]
  cases inside calls with
  | @ok _ more ended described =>
    have told := does _ _ described
    rw [List.cons_append, ← logged] at told
    refine .ok ?_ told
    simp only [ended, left]
  | @error fault more ended described =>
    have told := fails _ _ described
    rw [List.cons_append, ← logged] at told
    refine @Performs.error _ _ _ _ _ _ fault _ ?_ told
    simp only [ended, left]

theorem inApartment_performs {body : EStateM Fault Loopback α} {l : Loopback} {good : α → Prop}
    {shape : StreamShape}
    (inside : ∀ calls, Performs body (l.making calls) (fun value log => good value ∧ Indoors log)
      fun fault log => Indoors log ∧ Cut shape log fault) :
    Performs (inApartment body) l (fun value log => good value ∧ Settled log)
      fun fault log => Settled log ∧ Cut shape log fault :=
  inApartment_encloses inside (fun _ _ ⟨valued, indoors⟩ => ⟨valued, .of_indoors indoors⟩)
    (fun _ _ ⟨indoors, cut⟩ => ⟨.of_indoors indoors, (cut.behind [_]).before _⟩)
    fun _ text => ⟨.unentered text, .single rfl text⟩

theorem Plainly.indoors {operation : EStateM CaptureError Loopback α} {l : Loopback}
    (plainly : Plainly operation l) (shape : StreamShape) :
    Performs (refusable operation) l (fun _ log => True ∧ Indoors log)
      fun fault log => Indoors log ∧ Cut shape log fault :=
  (Performs.mono plainly (fun _ _ plain => ⟨trivial, .of_plain plain⟩) fun _ _ failed => failed).refusable
    fun _ _ ⟨plain, broken⟩ => ⟨.of_plain plain, broken⟩

theorem mixChannels_performs (l : Loopback) :
    Performs mixChannels l (fun value log => value = l.endpoint.channels ∧ Indoors log)
      fun _ log => Indoors log ∧ Broken log := by
  unfold mixChannels
  refine (attempt_performs l .mixFormat _).bind (fun _ mix got => ?_) fun _ log ⟨text, only⟩ => ?_
  · -- Nothing that can fail comes between taking the mix format and freeing it.
    refine (get_performs _).bind (fun read none ⟨same, silent⟩ => ?_) nofun
    refine (modify_note_performs _ rfl).bind (fun _ free freed => ?_) nofun
    refine (pure_performs _ _).mono (fun value log ⟨is, quiet⟩ => ?_) nofun
    subst is same quiet
    rw [got, silent, freed]
    exact ⟨rfl, by simp, .pair nofun .nil⟩
  · subst only
    exact ⟨⟨by simp, .other nofun nofun .nil⟩, .single rfl text⟩

theorem trial_performs (format : Format) (l : Loopback) :
    let shape : StreamShape := ⟨format, l.endpoint.channels⟩
    Performs (trial format) l
      (fun value log => (value = (l.endpoint.channels, l.endpoint.period) ∧
        shape.waveFormat?.isSome) ∧ Settled log)
      fun fault log => Settled log ∧ Cut shape log fault := by
  intro shape
  refine inApartment_performs fun entered => ?_
  refine ((openClient_plain _).indoors shape).bind_within .append .behind fun _ client _ => ?_
  have mixing (l' : Loopback) : Performs (refusable mixChannels) l'
    (fun value log => value = l'.endpoint.channels ∧ Indoors log)
    fun fault log => Indoors log ∧ Cut shape log fault :=
      (mixChannels_performs l').refusable fun _ _ failed => failed
  have opening (l' : Loopback) : Performs (openStream shape) l'
    (fun _ log => shape.waveFormat?.isSome ∧ Indoors log)
    fun fault log => Indoors log ∧ Cut shape log fault :=
      (openStream_performs l' shape).mono (fun _ _ ⟨sized, plain⟩ => ⟨sized, .of_plain plain⟩)
        fun _ _ ⟨plain, cut⟩ => ⟨.of_plain plain, cut⟩
  refine (mixing _).bind_within .append .behind fun channels mix read => ?_
  refine ((attempt_plain _ rfl rfl _).indoors shape).bind_within .append .behind fun _ measured _ => ?_
  refine (get_performs _).bind (fun now none ⟨same, silent⟩ => ?_) nofun
  subst read same
  rw [silent]
  refine (opening _).bind_within .append .behind fun _ stream sized => ?_
  refine (pure_performs _ _).mono (fun value log ⟨is, quiet⟩ => ?_) nofun
  rw [quiet]
  exact ⟨⟨is, sized⟩, .of_plain .nil⟩

end Loopback

end PairedAudio.Capture
