import PairedAudio.Proofs.FailedStart

/-! The device that a monitor starts on.

An initialisation keeps no more of its device than a name, and a start takes the first device in the
list that is known by that name. On a host that stays the same this is the device of the
initialisation whenever that is one of the sound server's. The default input may be another device of
the same name, or not be in the list at all.
-/

set_option autoImplicit false

namespace PairedAudio.Capture

open Audio (Format)

namespace Host

theorem first_of_preferred {devices : List InputDevice} {i : Nat}
    (preferred : Source.preferred? (devices.map nameOf) = some i) :
    ∃ device, devices[i]? = some device ∧
      devices.findIdx? (fun other => nameOf other == nameOf device) = some i := by
  obtain ⟨wanted, -, first⟩ := List.exists_of_findSome?_eq_some preferred
  rw [List.findIdx?_map] at first
  obtain ⟨inside, named, -⟩ := List.findIdx?_eq_some_iff_getElem.mp first
  have same : nameOf devices[i] = wanted := by simpa using named
  refine ⟨devices[i], List.getElem?_eq_getElem inside, ?_⟩
  rw [same]
  exact first

inductive Chosen (host : Host) (devices : List InputDevice) (choice : Choice) : Prop
  | preferred {i : Nat} (found : Source.preferred? (devices.map nameOf) = some i)
      (there : devices[i]? = some choice.device)
      (first : devices.findIdx? (fun other => nameOf other == choice.name) = some i)
      (server : choice.isFallback = false)
  | fallback (default : host.fallback = some choice.device) (fallback : choice.isFallback = true)

theorem choose_listed {host : Host} {devices : List InputDevice} (listed : host.devices = .ok devices) :
    host.choose = match (Source.preferred? (devices.map nameOf)).bind fun i => devices[i]? with
      | some device => .ok ⟨device, nameOf device, false⟩
      | none => match host.fallback with
        | some device => .ok ⟨device, device.name.getD "default", true⟩
        | none => .error .deviceNotAvailable := by
  unfold choose listing
  rw [listed]
  rfl

theorem chosen_listed {host : Host} {devices : List InputDevice} {choice : Choice}
    (listed : host.devices = .ok devices) (chosen : host.choose = .ok choice) :
    Chosen host devices choice := by
  rw [choose_listed listed] at chosen
  split at chosen
  · rename_i device found
    cases chosen
    obtain ⟨i, preferred, there⟩ := Option.bind_eq_some_iff.mp found
    obtain ⟨first, there', leads⟩ := first_of_preferred preferred
    cases there.symm.trans there'
    exact .preferred preferred there leads rfl
  · split at chosen
    · rename_i default
      cases chosen
      exact .fallback default rfl
    · cases chosen

theorem listed_of_chosen {host : Host} {choice : Choice} (chosen : host.choose = .ok choice) :
    ∃ devices, host.devices = .ok devices := by
  unfold choose listing at chosen
  cases listed : host.devices with
  | error text =>
    rw [listed] at chosen
    cases chosen
  | ok devices => exact ⟨devices, rfl⟩

end Host

def InputDevice.opens (device : InputDevice) : Bool :=
  !device.buildCrashes && device.buildRefusal.isNone && device.playRefusal.isNone

def InputDevice.openingCalls (type : NativeType) (rate : UInt32) (device : InputDevice) :
    List HostCall :=
  if device.buildCrashes then [] else
    .build device.name type 2 rate :: if device.buildRefusal.isSome then [] else
      .play :: if device.playRefusal.isSome then [.close] else []

namespace Monitor

/-- What a start on a device comes to: one stream of the type in stereo at the rate of the format, on
that device and no other. -/
structure StartsOn (device : InputDevice) (type : NativeType) (format : Format) (m : Monitor)
    (result : EStateM.Result CaptureError Monitor Unit) : Prop where
  calls : (stateAfter result).trace.calls = m.trace.calls ++ device.openingCalls type format.rate
  plays (opens : device.opens = true) : ∃ after, result = .ok () after ∧ after.running = true ∧
    after.stream? = some ⟨type, format, m.listener⟩
  fails (shut : device.opens = false) : ∃ e after, result = .error e after ∧ e ≠ .deviceNotAvailable

theorem stop_calls {m : Monitor} (streamless : m.stream? = none) :
    m.stop.trace.calls = m.trace.calls := by
  cases on : m.thread with
  | none => simp only [stop, join, closeStream, on]
  | some thread =>
    obtain ⟨stream, crashed⟩ := thread
    simp only [stream?, on, Option.bind_some] at streamless
    subst streamless
    simp only [stop, join, closeStream, on]
    split
    · rfl
    · rfl

inductive OpenedOn (device : InputDevice) (format : Format) (m : Monitor) :
    EStateM.Result OpenFailure Monitor Unit → Prop
  | crashed (crashes : device.buildCrashes = true) : OpenedOn device format m (.error .crashed m)
  | unbuilt {text : String} (e : CaptureError) (calm : device.buildCrashes = false)
      (refused : device.buildRefusal = some text) (there : e ≠ .deviceNotAvailable) :
      OpenedOn device format m (.error (.refused e)
        (m.call (.build device.name m.native channels format.rate)))
  | unplayed {text : String} (e : CaptureError) (calm : device.buildCrashes = false)
      (built : device.buildRefusal = none) (refused : device.playRefusal = some text)
      (there : e ≠ .deviceNotAvailable) :
      OpenedOn device format m (.error (.refused e)
        (((m.call (.build device.name m.native channels format.rate)).call .play).call .close))
  | plays (calm : device.buildCrashes = false) (built : device.buildRefusal = none)
      (played : device.playRefusal = none) :
      OpenedOn device format m (.ok () { (m.call
        (.build device.name m.native channels format.rate)).call .play with
          thread := some { stream := some ⟨m.native, format, m.listener⟩ } })

theorem openedOn (device : InputDevice) (format : Format) (m : Monitor) :
    OpenedOn device format m (openOn device format m) := by
  unfold openOn
  split
  · exact .crashed ‹_›
  rename_i calm
  replace calm := Bool.eq_false_iff.mpr calm
  dsimp only
  split
  · exact .unbuilt _ calm ‹_› nofun
  rename_i built
  split
  · exact .unplayed _ calm built ‹_› nofun
  · exact .plays calm built ‹_›

theorem StartsOn.failed {device : InputDevice} {type : NativeType} {format : Format}
    {m before : Monitor} {e : CaptureError} (shut : device.opens = false)
    (there : e ≠ .deviceNotAvailable) (streamless : before.stream? = none)
    (calls : before.trace.calls = m.trace.calls ++ device.openingCalls type format.rate) :
    StartsOn device type format m (.error e before.stop) where
  calls := (stop_calls streamless).trans calls
  plays opens := absurd (shut.symm.trans opens) nofun
  fails _ := ⟨e, _, rfl, there⟩

theorem startsOn (device : InputDevice) (format : Format) {m : Monitor} (free : m.thread = none)
    (runs : m.running = true) :
    StartsOn device m.native format m (await (openOn device format) m) := by
  have opened := openedOn device format m
  have streamless : m.stream? = none := by rw [stream?, free]; rfl
  unfold await
  generalize openOn device format m = result at opened
  cases opened with
  | crashed crashes =>
    refine .failed ?_ nofun rfl ?_
    · simp [InputDevice.opens, crashes]
    · simp [InputDevice.openingCalls, crashes]
  | unbuilt e calm refused there =>
    refine .failed ?_ there streamless ?_
    · simp [InputDevice.opens, refused]
    · simp [InputDevice.openingCalls, calm, refused, log, call, Trace.line, Trace.call, channels]
  | unplayed e calm built refused there =>
    refine .failed ?_ there streamless ?_
    · simp [InputDevice.opens, refused]
    · simp [InputDevice.openingCalls, calm, built, refused, log, call, Trace.line, Trace.call, channels]
  | plays calm built played =>
    constructor
    · simp [stateAfter, InputDevice.openingCalls, calm, built, played, call, Trace.call, channels]
    · exact fun _ => ⟨_, rfl, runs, rfl⟩
    · simp [InputDevice.opens, calm, built, played]

theorem await_unnamed {host : Host} {name : String} (format : Format) (m : Monitor)
    (missing : host.named name = .error .deviceNotAvailable) :
    ∃ after, await (openStream host name format) m = .error .deviceNotAvailable after := by
  simp only [await, openStream, missing]
  exact ⟨_, rfl⟩

structure Keeps (format : Format) (name : String) (native : NativeType) (m : Monitor) : Prop where
  format : m.format = some format
  name : m.deviceName = some name
  native : m.native = native

section Keeps

variable {format : Format} {name : String} {native : NativeType} {m : Monitor}

theorem Keeps.step (keeps : Keeps format name native m) {use : Use usage}
    (quiet : use.isPreparation = false ∧ use.isStart = false) :
    Keeps format name native (usage.step m use) := by
  have kept := Kept.use m quiet
  exact ⟨kept.format.trans keeps.format, kept.deviceName.trans keeps.name, kept.native.trans keeps.native⟩

theorem Keeps.run (keeps : Keeps format name native m) {uses : List (Use usage)}
    (quiet : ∀ use ∈ uses, use.isPreparation = false ∧ use.isStart = false) :
    Keeps format name native (usage.run m uses) := by
  -- Over the uses: none of them initialises or starts.
  induction uses generalizing m with
  | nil => exact keeps
  | cons use uses ih =>
    obtain ⟨first, rest⟩ := List.forall_mem_cons.mp quiet
    exact ih (keeps.step first) rest

end Keeps

theorem keeps_of_prepare {host : Host} {format : Format} {m initialised : Monitor}
    (done : prepare host format m = .ok () initialised) :
    ∃ choice native, host.choose = .ok choice ∧
      NativeType.negotiate choice.device choice.name format = .ok native ∧
      Keeps format choice.name native initialised := by
  cases valid : format.validate with
  | error error =>
    rw [prepare_invalid host m valid] at done
    cases done
  | ok _ =>
    have prepared := prepared host m valid
    rw [done] at prepared
    cases prepared with
    | done chosen suits => exact ⟨_, _, chosen, suits, rfl, rfl, rfl⟩

theorem named_of_findIdx? {host : Host} {devices : List InputDevice} {name : String} {i : Nat}
    (listed : host.devices = .ok devices)
    (found : devices.findIdx? (fun device => Host.nameOf device == name) = some i) :
    ∃ device, devices[i]? = some device ∧ host.named name = .ok device := by
  obtain ⟨inside, -⟩ := List.findIdx?_eq_some_iff_getElem.mp found
  refine ⟨devices[i], List.getElem?_eq_getElem inside, ?_⟩
  rw [Host.named_listed name listed, List.find?_eq_bind_findIdx?_getElem?, found, Option.bind_some,
    List.getElem?_eq_getElem inside]

theorem unnamed_of_findIdx? {host : Host} {devices : List InputDevice} {name : String}
    (listed : host.devices = .ok devices)
    (missing : devices.findIdx? (fun device => Host.nameOf device == name) = none) :
    host.named name = .error .deviceNotAvailable := by
  rw [Host.named_listed name listed, List.find?_eq_bind_findIdx?_getElem?, missing, Option.bind_none]

/-- On a host that stays the same, a start after a successful initialisation opens the first device
in the list of the name that the chosen device is known by, with the negotiated type. It fails for
want of a device just if there is none of that name. The sound server's device is that very device;
the default input may be another one of its name, or not be in the list. -/
theorem starts_on_first_of_name {host : Host} {format : Format} {m initialised ready : Monitor}
    {between : List (Use usage)} (done : prepare host format m = .ok () initialised)
    (quiet : ∀ use ∈ between, use.isPreparation = false ∧ use.isStart = false)
    (reached : usage.run initialised between = ready) (idle : ready.running = false) :
    ∃ devices choice native, host.devices = .ok devices ∧ host.choose = .ok choice ∧
      NativeType.negotiate choice.device choice.name format = .ok native ∧
      match devices.findIdx? fun device => Host.nameOf device == choice.name with
      | some i => ∃ device, devices[i]? = some device ∧
          StartsOn device native format ready.join (start host none ready) ∧
          (choice.isFallback = false →
            Source.preferred? (devices.map Host.nameOf) = some i ∧ choice.device = device)
      | none => choice.isFallback = true ∧
          ∃ after, start host none ready = .error .deviceNotAvailable after := by
  obtain ⟨choice, native, chosen, suits, keeps⟩ := keeps_of_prepare done
  obtain ⟨devices, listed⟩ := Host.listed_of_chosen chosen
  have way := Host.chosen_listed listed chosen
  have kept : Keeps format choice.name native ready := reached ▸ keeps.run quiet
  have started := start_ready host kept.format kept.name idle
  refine ⟨devices, choice, native, listed, chosen, suits, ?_⟩
  -- Nothing but the name leads the start back to a device.
  cases found : devices.findIdx? fun device => Host.nameOf device == choice.name with
  | none =>
    refine ⟨?_, ?_⟩
    · cases way with
      | preferred _ _ first => cases first.symm.trans found
      | fallback _ fallback => exact fallback
    · rw [started]
      exact await_unnamed format _ (unnamed_of_findIdx? listed found)
  | some i =>
    obtain ⟨device, there, named⟩ := named_of_findIdx? listed found
    refine ⟨device, there, ?_, ?_⟩
    · obtain ⟨trace, joined⟩ := ready.join_eq
      have opens : openStream host choice.name format = openOn device format := by
        funext before
        simp only [openStream, named]
      rw [started, opens, joined, ← kept.native]
      have opened := startsOn device format rfl rfl (m := { ready with
        running := true, playing := true, thread := none, trace })
      exact ⟨opened.calls, opened.plays, opened.fails⟩
    · intro server
      cases way with
      | preferred preferred there' first =>
        cases first.symm.trans found
        exact ⟨preferred, Option.some.inj (there'.symm.trans there)⟩
      | fallback _ fallback => exact absurd (server.symm.trans fallback) nofun

/-- The sound server's device is second in the list. -/
theorem starts_on_pipewire :
    let host : Host := { devices := .ok [.standard "hw:0", .standard "pipewire"] }
    let initialised : Monitor := stateAfter (prepare host .standard {})
    prepare host .standard {} = .ok () initialised ∧
      ∃ after, start host none initialised = .ok () after ∧
        after.trace.calls = [.build (some "pipewire") .i16 2 48000, .play] := by
  intro host initialised
  have done : prepare host .standard {} = .ok () initialised := rfl
  obtain ⟨devices, choice, native, listed, chosen, suits, placed⟩ :=
    starts_on_first_of_name done (List.forall_mem_nil _) rfl rfl
  cases listed
  have same : choice = ⟨.standard "pipewire", "pipewire", false⟩ :=
    Except.ok.inj (chosen.symm.trans rfl)
  subst same
  obtain ⟨device, there, starts, -⟩ := placed
  cases there
  cases suits
  obtain ⟨after, started, -⟩ := starts.plays rfl
  have calls := starts.calls
  rw [started] at calls
  exact ⟨done, after, started, calls⟩

/-- The default input is chosen but not in the list, or another device of its name comes first. -/
theorem default_input_not_reopened :
    (let host : Host := { devices := .ok [], fallback := some (.standard "hw:0") }
     let initialised : Monitor := stateAfter (prepare host .standard {})
     prepare host .standard {} = .ok () initialised ∧
      start host none initialised =
        .error .deviceNotAvailable (stateAfter (start host none initialised))) ∧
    let busy : InputDevice := { InputDevice.standard "hw:0" with buildRefusal := some "busy" }
    let host : Host := { devices := .ok [busy, .standard "hw:0"], fallback := some (.standard "hw:0") }
    let initialised : Monitor := stateAfter (prepare host .standard {})
    prepare host .standard {} = .ok () initialised ∧
      start host none initialised =
        .error (.configurationFailed "failed to build monitor stream: busy")
          (stateAfter (start host none initialised)) :=
  ⟨⟨rfl, rfl⟩, rfl, rfl⟩

end Monitor

end PairedAudio.Capture
