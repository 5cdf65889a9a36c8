import PairedAudio.Proofs.SameDevice
import Mathlib.Data.Finset.Dedup

/-! The device and the sample type that a monitor is initialised with.

A device is chosen by its name, and a type by what some configuration of the device allows. The types
are asked for in an order that has all of them, so the first one allowed is the one preferred among all
that are. Nothing else of a host matters: not the order of the configurations, nor how often one is
given, nor which devices of other names there are.
-/

set_option autoImplicit false

namespace PairedAudio.Capture

open Audio (Format)

section First

variable {α : Type} {key : α → Nat} {xs : List α} {holds : α → Bool} {x : α}

/-- In a list of everything by its key, what is found first has the least key. -/
theorem find?_eq_some_iff_least (ordered : xs.Pairwise fun x y => key x < key y)
    (complete : ∀ x, x ∈ xs) :
    xs.find? holds = some x ↔
      holds x = true ∧ ∀ y, holds y = true → y ≠ x → key x < key y := by
  rw [List.find?_eq_some_iff_append]
  constructor
  · rintro ⟨found, front, back, rfl, refused⟩
    obtain ⟨-, behind, -⟩ := List.pairwise_append.mp ordered
    refine ⟨found, fun y held differs => ?_⟩
    rcases List.mem_append.mp (complete y) with inFront | atOrBehind
    · have := refused y inFront
      simp [held] at this
    · rcases List.mem_cons.mp atOrBehind with same | inBack
      · exact absurd same differs
      · exact (List.pairwise_cons.mp behind).1 y inBack
  · rintro ⟨held, least⟩
    obtain ⟨front, back, rfl⟩ := List.append_of_mem (complete x)
    obtain ⟨-, -, across⟩ := List.pairwise_append.mp ordered
    refine ⟨held, front, back, rfl, fun y inFront => ?_⟩
    have less : key y < key x := across y inFront x List.mem_cons_self
    cases held' : holds y with
    | false => rfl
    | true =>
      have differs : y ≠ x := by rintro rfl; exact Nat.lt_irrefl _ less
      exact absurd (least y held' differs) (Nat.lt_asymm less)

end First

namespace NativeType

/-- The place of a type in the order of preference of a format, which begins with the type that holds
the samples of the format. -/
def place (format : Format) : NativeType → Nat
  | i16 => if format.encoding = .pcm ∧ format.bits = 16 then 0 else 2
  | i32 => if format.encoding = .float then 1 else if format.bits = 16 then 2 else 0
  | f32 => if format.encoding = .float then 0 else 1

def Offered (ranges : List ConfigRange) (rate : UInt32) (type : NativeType) : Prop :=
  ∃ range ∈ ranges, range.channels = 2 ∧ range.type = some type ∧ range.minRate ≤ rate ∧
    rate ≤ range.maxRate

structure Preferred (format : Format) (ranges : List ConfigRange) (type : NativeType) : Prop where
  offered : Offered ranges format.rate type
  before {other : NativeType} (offered : Offered ranges format.rate other) (differs : other ≠ type) :
    place format type < place format other

theorem candidates_ordered (format : Format) :
    (candidates format).Pairwise fun x y => place format x < place format y := by
  obtain ⟨encoding, bits, rate⟩ := format
  cases encoding with
  | float => simp [candidates, place]
  | pcm => by_cases sixteen : bits = 16 <;> simp [candidates, place, sixteen]

theorem mem_candidates (format : Format) (type : NativeType) : type ∈ candidates format := by
  obtain ⟨encoding, bits, rate⟩ := format
  cases encoding with
  | float => cases type <;> simp [candidates]
  | pcm => by_cases sixteen : bits = 16 <;> cases type <;> simp [candidates, sixteen]

theorem any_supportedBy_iff {ranges : List ConfigRange} {rate : UInt32} {type : NativeType} :
    ranges.any (type.supportedBy rate) = true ↔ Offered ranges rate type := by
  simp [List.any_eq_true, supportedBy, Offered, and_assoc]

section Negotiate

variable {device : InputDevice} {name : String} {format : Format} {ranges : List ConfigRange}
  {type : NativeType}

theorem negotiate_queried (queried : device.ranges = .ok ranges) :
    negotiate device name format =
      match (candidates format).find? fun type => ranges.any (type.supportedBy format.rate) with
      | some type => .ok type
      | none => .error (.invalidFormat s!"{name} cannot record {format.text} in stereo") := by
  unfold negotiate
  rw [queried]
  rfl

theorem queried_of_negotiate (agreed : negotiate device name format = .ok type) :
    ∃ ranges, device.ranges = .ok ranges := by
  unfold negotiate at agreed
  cases queried : device.ranges with
  | error text =>
    rw [queried] at agreed
    cases agreed
  | ok ranges => exact ⟨ranges, rfl⟩

inductive Negotiated (name : String) (format : Format) (ranges : List ConfigRange) :
    Except CaptureError NativeType → Prop
  | agreed {type : NativeType} (preferred : Preferred format ranges type) :
      Negotiated name format ranges (.ok type)
  | refused (none : ∀ type, ¬ Offered ranges format.rate type) :
      Negotiated name format ranges
        (.error (.invalidFormat s!"{name} cannot record {format.text} in stereo"))

theorem negotiated (name : String) (format : Format) (queried : device.ranges = .ok ranges) :
    Negotiated name format ranges (negotiate device name format) := by
  rw [negotiate_queried queried]
  cases found : (candidates format).find? fun type => ranges.any (type.supportedBy format.rate) with
  | some type =>
    obtain ⟨held, least⟩ :=
      (find?_eq_some_iff_least (candidates_ordered format) (mem_candidates format)).mp found
    exact .agreed ⟨any_supportedBy_iff.mp held, fun offered => least _ (any_supportedBy_iff.mpr offered)⟩
  | none =>
    refine .refused fun type offered => ?_
    exact List.find?_eq_none.mp found type (mem_candidates format type)
      (any_supportedBy_iff.mpr offered)

end Negotiate

end NativeType

namespace Host

def FirstNamed (name : String) (devices : List InputDevice) (device : InputDevice) : Prop :=
  ∃ before behind, devices = before ++ device :: behind ∧ nameOf device = name ∧
    ∀ other ∈ before, nameOf other ≠ name

/-- Which device is chosen among those listed and the default input. -/
inductive Picks (devices : List InputDevice) (fallback : Option InputDevice) : Choice → Prop
  | pulse {device : InputDevice} (first : FirstNamed "pulse" devices device) :
      Picks devices fallback ⟨device, nameOf device, false⟩
  | pipewire {device : InputDevice} (pulseless : ∀ other ∈ devices, nameOf other ≠ "pulse")
      (first : FirstNamed "pipewire" devices device) :
      Picks devices fallback ⟨device, nameOf device, false⟩
  | default {device : InputDevice}
      (serverless : ∀ other ∈ devices, nameOf other ≠ "pulse" ∧ nameOf other ≠ "pipewire")
      (default : fallback = some device) :
      Picks devices fallback ⟨device, device.name.getD "default", true⟩

def server? (devices : List InputDevice) : Option InputDevice :=
  Source.serverDevices.findSome? fun wanted => devices.find? fun device => nameOf device == wanted

section Chosen

variable {host : Host} {devices : List InputDevice}

theorem find?_named_iff {name : String} {device : InputDevice} :
    (devices.find? fun device => nameOf device == name) = some device ↔
      FirstNamed name devices device := by
  rw [List.find?_eq_some_iff_append, FirstNamed]
  constructor
  · rintro ⟨named, before, behind, split, others⟩
    exact ⟨before, behind, split, by simpa using named, by simpa using others⟩
  · rintro ⟨before, behind, split, named, others⟩
    exact ⟨by simpa using named, before, behind, split, by simpa using others⟩

theorem find?_unnamed_iff {name : String} :
    (devices.find? fun device => nameOf device == name) = none ↔
      ∀ other ∈ devices, nameOf other ≠ name := by
  simp

theorem preferred?_eq_server? (devices : List InputDevice) :
    ((Source.preferred? (devices.map nameOf)).bind fun i => devices[i]?) = server? devices := by
  have place (wanted : String) : (devices.map nameOf).findIdx? (· == wanted) =
      devices.findIdx? fun device => nameOf device == wanted := by
    rw [List.findIdx?_map]
    rfl
  simp only [Source.preferred?, server?, place, List.find?_eq_bind_findIdx?_getElem?]
  induction Source.serverDevices with
  | nil => rfl
  | cons wanted others ih =>
    rw [List.findSome?_cons, List.findSome?_cons]
    cases found : devices.findIdx? fun device => nameOf device == wanted with
    | some i =>
      -- A place that has been found is in the list.
      obtain ⟨inside, -⟩ := List.findIdx?_eq_some_iff_getElem.mp found
      simp [List.getElem?_eq_getElem inside]
    | none => exact ih

theorem server?_eq_some_iff {device : InputDevice} :
    server? devices = some device ↔ FirstNamed "pulse" devices device ∨
      (∀ other ∈ devices, nameOf other ≠ "pulse") ∧ FirstNamed "pipewire" devices device := by
  simp only [← find?_named_iff, ← find?_unnamed_iff, server?, Source.serverDevices,
    List.findSome?_cons, List.findSome?_nil]
  cases devices.find? fun device => nameOf device == "pulse" with
  | some pulse => simp
  | none => cases devices.find? fun device => nameOf device == "pipewire" <;> simp

theorem server?_eq_none_iff :
    server? devices = none ↔
      ∀ other ∈ devices, nameOf other ≠ "pulse" ∧ nameOf other ≠ "pipewire" := by
  rw [server?, List.findSome?_eq_none_iff, Source.serverDevices, List.forall_mem_cons,
    List.forall_mem_singleton, find?_unnamed_iff, find?_unnamed_iff]
  simp only [imp_and, forall_and]

theorem choose_ok_iff (listed : host.devices = .ok devices) {choice : Choice} :
    host.choose = .ok choice ↔ Picks devices host.fallback choice := by
  rw [choose_listed listed, preferred?_eq_server?]
  constructor
  · intro chosen
    cases server : server? devices with
    | some device =>
      rw [server] at chosen
      cases chosen
      rcases server?_eq_some_iff.mp server with first | ⟨pulseless, first⟩
      · exact .pulse first
      · exact .pipewire pulseless first
    | none =>
      rw [server] at chosen
      cases default : host.fallback with
      | some device =>
        rw [default] at chosen
        cases chosen
        exact .default (server?_eq_none_iff.mp server) rfl
      | none =>
        rw [default] at chosen
        cases chosen
  · intro picks
    cases picks with
    | pulse first => rw [server?_eq_some_iff.mpr (.inl first)]
    | pipewire pulseless first => rw [server?_eq_some_iff.mpr (.inr ⟨pulseless, first⟩)]
    | default serverless default => rw [server?_eq_none_iff.mpr serverless, default]

end Chosen

end Host

/-- All that an initialisation looks at in a device: its name, and which configurations it has. -/
def InputDevice.offer (device : InputDevice) : Option String × Except String (Finset ConfigRange) :=
  (device.name, device.ranges.map List.toFinset)

theorem of_map_eq {ε α β : Type} {f : α → β} {first second : Except ε α}
    (same : first.map f = second.map f) :
    (∃ e, first = .error e ∧ second = .error e) ∨
      ∃ x y, first = .ok x ∧ second = .ok y ∧ f x = f y := by
  cases first with
  | error e =>
    cases second with
    | error e' =>
      cases same
      exact .inl ⟨e, rfl, rfl⟩
    | ok y => cases same
  | ok x =>
    cases second with
    | error e' => cases same
    | ok y => exact .inr ⟨x, y, rfl, rfl, Except.ok.inj same⟩

theorem NativeType.negotiate_of_offer {device other : InputDevice} (same : other.offer = device.offer)
    (name : String) (format : Format) : negotiate other name format = negotiate device name format := by
  rcases of_map_eq (congrArg Prod.snd same) with
    ⟨text, unread', unread⟩ | ⟨ranges', ranges, queried', queried, members⟩
  · simp only [negotiate, unread, unread']
  · have allowed (type : NativeType) :
        ranges'.any (type.supportedBy format.rate) = ranges.any (type.supportedBy format.rate) := by
      rw [Bool.eq_iff_iff, any_supportedBy_iff, any_supportedBy_iff]
      simp only [Offered, ← List.mem_toFinset, members]
    simp only [negotiate_queried queried, negotiate_queried queried', allowed]

namespace Host

def servers (devices : List InputDevice) : List InputDevice :=
  devices.filter fun device => nameOf device ∈ Source.serverDevices

theorem find?_offer {wanted : String} (server : wanted ∈ Source.serverDevices)
    (devices : List InputDevice) :
    ((servers devices).map InputDevice.offer).find? (fun offer => offer.1.getD "" == wanted) =
      (devices.find? fun device => nameOf device == wanted).map InputDevice.offer := by
  have goesBy : ((fun offer => offer.1.getD "" == wanted) ∘ InputDevice.offer) =
      fun device => nameOf device == wanted := rfl
  rw [List.find?_map, goesBy, servers, List.find?_filter]
  congr
  funext device
  by_cases named : nameOf device = wanted
  · simp [named, server]
  · simp [named]

theorem server?_offer (devices : List InputDevice) :
    (server? devices).map InputDevice.offer = Source.serverDevices.findSome? fun wanted =>
      ((servers devices).map InputDevice.offer).find? fun offer => offer.1.getD "" == wanted := by
  have first := find?_offer (show "pulse" ∈ Source.serverDevices by decide) devices
  have second := find?_offer (show "pipewire" ∈ Source.serverDevices by decide) devices
  rw [server?, List.map_findSome?]
  simp only [Source.serverDevices, List.findSome?_cons, List.findSome?_nil, Function.comp_apply,
    first, second]

def Choice.offer (choice : Choice) :
    (Option String × Except String (Finset ConfigRange)) × String × Bool :=
  (choice.device.offer, choice.name, choice.isFallback)

theorem choose_offer {host : Host} {devices : List InputDevice} (listed : host.devices = .ok devices) :
    host.choose.map Choice.offer =
      match (server? devices).map InputDevice.offer, host.fallback.map InputDevice.offer with
      | some offer, _ => .ok (offer, offer.1.getD "", false)
      | none, some offer => .ok (offer, offer.1.getD "default", true)
      | none, none => .error .deviceNotAvailable := by
  rw [choose_listed listed, preferred?_eq_server?]
  cases server? devices with
  | some device => rfl
  | none => cases host.fallback <;> rfl

end Host

namespace Monitor

section Initialisation

variable {host other : Host} {devices others : List InputDevice}

theorem prepare_of_choose (same : other.choose.map Host.Choice.offer = host.choose.map Host.Choice.offer)
    (format : Format) (m : Monitor) : prepare other format m = prepare host format m := by
  rcases of_map_eq same with ⟨e, missing', missing⟩ | ⟨choice', choice, chosen', chosen, offers⟩
  · simp only [prepare, missing, missing']
  · obtain ⟨device, name, fallback⟩ : choice'.device.offer = choice.device.offer ∧
        choice'.name = choice.name ∧ choice'.isFallback = choice.isFallback := by
      simpa [Host.Choice.offer] using offers
    simp only [prepare, chosen, chosen', logFallback, name, fallback,
      NativeType.negotiate_of_offer device]

theorem prepare_of_offers (listed : host.devices = .ok devices) (listed' : other.devices = .ok others)
    (servers : (Host.servers others).map InputDevice.offer = (Host.servers devices).map InputDevice.offer)
    (fallback : other.fallback.map InputDevice.offer = host.fallback.map InputDevice.offer)
    (format : Format) (m : Monitor) : prepare other format m = prepare host format m := by
  refine prepare_of_choose ?_ format m
  rw [Host.choose_offer listed, Host.choose_offer listed', Host.server?_offer, Host.server?_offer,
    servers, fallback]

theorem preferred_of_prepare {format : Format} {m after : Monitor} (listed : host.devices = .ok devices)
    (done : prepare host format m = .ok () after) :
    ∃ choice ranges, Host.Picks devices host.fallback choice ∧ choice.device.ranges = .ok ranges ∧
      after.deviceName = some choice.name ∧ after.format = some format ∧
      NativeType.Preferred format ranges after.native := by
  obtain ⟨choice, native, chosen, suits, keeps⟩ := keeps_of_prepare done
  obtain ⟨ranges, queried⟩ := NativeType.queried_of_negotiate suits
  have negotiated := NativeType.negotiated choice.name format queried
  rw [suits, ← keeps.native] at negotiated
  cases negotiated with
  | agreed preferred =>
    exact ⟨choice, ranges, (Host.choose_ok_iff listed).mp chosen, queried, keeps.name, keeps.format,
      preferred⟩

theorem prepare_of_offered {format : Format} {choice : Host.Choice} {ranges : List ConfigRange}
    {type : NativeType} (m : Monitor) (valid : format.validate = .ok ())
    (chosen : host.choose = .ok choice) (queried : choice.device.ranges = .ok ranges)
    (offered : NativeType.Offered ranges format.rate type) :
    ∃ after, prepare host format m = .ok () after := by
  have negotiated := NativeType.negotiated choice.name format queried
  cases suits : NativeType.negotiate choice.device choice.name format with
  | error e =>
    rw [suits] at negotiated
    cases negotiated with
    | refused none => exact absurd offered (none type)
  | ok native =>
    simp only [prepare, valid, chosen, suits]
    exact ⟨_, rfl⟩

/-- The device of an initialisation in a valid format is the first one called pulse, else the first one
called pipewire, else the default input. It succeeds just if there is one that can be used in stereo at
the rate of the format with some type, and keeps the one of these types that the format prefers. It does
the same on any other host on which the sound server's devices and the default input have the same names
and the same configurations, whatever their order and number, among whatever other devices. -/
theorem initialises_as_preferred {format : Format} (listed : host.devices = .ok devices)
    (valid : format.validate = .ok ()) (m : Monitor) :
    (∀ choice, host.choose = .ok choice ↔ Host.Picks devices host.fallback choice) ∧
    ((∃ after, prepare host format m = .ok () after) ↔
      ∃ choice ranges type, Host.Picks devices host.fallback choice ∧
        choice.device.ranges = .ok ranges ∧ NativeType.Offered ranges format.rate type) ∧
    (∀ after, prepare host format m = .ok () after →
      ∃ choice ranges, Host.Picks devices host.fallback choice ∧ choice.device.ranges = .ok ranges ∧
        after.deviceName = some choice.name ∧ after.format = some format ∧
        NativeType.Preferred format ranges after.native) ∧
    ∀ (other : Host) (others : List InputDevice), other.devices = .ok others →
      (Host.servers others).map InputDevice.offer = (Host.servers devices).map InputDevice.offer →
      other.fallback.map InputDevice.offer = host.fallback.map InputDevice.offer →
      prepare other format m = prepare host format m := by
  refine ⟨fun choice => Host.choose_ok_iff listed, ⟨?_, ?_⟩, fun after => preferred_of_prepare listed,
    fun other others listed' servers fallback =>
      prepare_of_offers listed listed' servers fallback format m⟩
  · rintro ⟨after, done⟩
    obtain ⟨choice, ranges, picks, queried, -, -, preferred⟩ := preferred_of_prepare listed done
    exact ⟨choice, ranges, after.native, picks, queried, preferred.offered⟩
  · rintro ⟨choice, ranges, type, picks, queried, offered⟩
    exact prepare_of_offered m valid ((Host.choose_ok_iff listed).mpr picks) queried offered

/-- The device called pulse is behind the other, and records 16 bits on one channel only. Listing its
configurations the other way round, one of them twice, and another device in front change nothing. -/
theorem initialises_as_preferred_behind :
    let mono : ConfigRange := ⟨1, some .i16, 8000, 192000⟩
    let whole : ConfigRange := ⟨2, some .i32, 8000, 192000⟩
    let float : ConfigRange := ⟨2, some .f32, 44100, 48000⟩
    let pulse (ranges : List ConfigRange) : InputDevice := { name := some "pulse", ranges := .ok ranges }
    let host : Host := { devices := .ok [.standard "pipewire", pulse [mono, whole, float]] }
    let other : Host := { devices := .ok [.standard "hw:0", .standard "pipewire",
      pulse [float, whole, mono, whole]] }
    ∃ after, prepare host .standard {} = .ok () after ∧ after.deviceName = some "pulse" ∧
      after.native = .f32 ∧ prepare other .standard {} = .ok () after := by
  intro mono whole float pulse host other
  have listed : host.devices = .ok [.standard "pipewire", pulse [mono, whole, float]] := rfl
  have valid : Format.standard.validate = .ok () := rfl
  obtain ⟨-, succeeds, -, same⟩ := initialises_as_preferred listed valid {}
  obtain ⟨after, done⟩ := succeeds.mpr ⟨⟨pulse [mono, whole, float], "pulse", false⟩, _, .f32,
    .pulse ⟨[.standard "pipewire"], [], rfl, rfl, by decide⟩, rfl, float, by simp, by decide⟩
  cases (show prepare host .standard {} = .ok () _ from rfl).symm.trans done
  have ranges : [float, whole, mono, whole].toFinset = [mono, whole, float].toFinset := by decide
  have servers : (Host.servers [.standard "hw:0", .standard "pipewire",
      pulse [float, whole, mono, whole]]).map InputDevice.offer =
      (Host.servers [.standard "pipewire", pulse [mono, whole, float]]).map InputDevice.offer :=
    congrArg (fun ranges => [(InputDevice.standard "pipewire").offer, (some "pulse", .ok ranges)]) ranges
  exact ⟨_, done, rfl, rfl, (same other _ rfl servers rfl).trans done⟩

end Initialisation

end Monitor

end PairedAudio.Capture
