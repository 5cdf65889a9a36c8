import PairedAudio.Proofs.Outcomes
import PairedAudio.Proofs.Period
import Mathlib.Algebra.Group.Int.Defs
import Mathlib.Algebra.Group.Nat.Defs

/-! The arithmetic of an initialisation on a render endpoint.

An endpoint reports a number of channels and a period, and nothing checks them. A period below an hour is
never too long for the product that it goes into, at any rate of a valid format. The frame that the
engine is told has the size that it has elsewhere as long as its bits can be counted in sixteen bits,
and the bytes of a second as long as they can be counted in 32; beyond these bounds the initialisation
crashes before the engine is told anything.
-/

set_option autoImplicit false

namespace PairedAudio.Capture

open Audio (Format)

section Widths

variable (shape : StreamShape)

theorem toNat_bits {f : Format} (valid : f.validate = .ok ()) : f.bits.toNat = 8 * f.bytesPerSample := by
  obtain ⟨-, ⟨-, bits⟩ | ⟨-, bits | bits | bits⟩⟩ := f.valid_parts valid <;>
    simp [Format.bytesPerSample, bits]

theorem product16?_eq_some {a b product : UInt16} :
    product16? a b = some product ↔ product.toNat = a.toNat * b.toNat := by
  have bound := product.toNat_lt_size
  unfold product16?
  split
  · rename_i fits
    rw [Option.some_inj, ← UInt16.toNat_inj, UInt16.toNat_mul, Nat.mod_eq_of_lt fits]
    exact eq_comm
  · simp only [reduceCtorEq, false_iff]
    omega

theorem product32?_eq_some {a b product : UInt32} :
    product32? a b = some product ↔ product.toNat = a.toNat * b.toNat := by
  have bound := product.toNat_lt_size
  unfold product32?
  split
  · rename_i fits
    rw [Option.some_inj, ← UInt32.toNat_inj, UInt32.toNat_mul, Nat.mod_eq_of_lt fits]
    exact eq_comm
  · simp only [reduceCtorEq, false_iff]
    omega

theorem product64?_eq_some {a b product : Int64} :
    product64? a b = some product ↔ product.toInt = a.toInt * b.toInt := by
  have above := product.minValue_le_toInt
  have below := product.toInt_le
  simp only [product64?]
  split
  · rename_i fits
    rw [Int64.toInt_minValue, Int64.toInt_maxValue] at fits
    rw [Option.some_inj, ← Int64.toInt_inj, Int64.toInt_mul,
      Int.bmod_eq_of_le (by omega) (by omega)]
    exact eq_comm
  · simp only [reduceCtorEq, false_iff]
    omega

/-- The sizes of a shape can be counted in the fields that the engine has for them. -/
def StreamShape.Fits : Prop :=
  shape.channels.toNat * shape.format.bits.toNat < 2 ^ 16 ∧
    shape.format.rate.toNat * shape.format.bytesPerFrame shape.channels < 2 ^ 32

theorem StreamShape.blockAlign?_eq_some (valid : shape.format.validate = .ok ()) {align : UInt16} :
    shape.blockAlign? = some align ↔
      shape.channels.toNat * shape.format.bits.toNat < 2 ^ 16 ∧
        align.toNat = shape.format.bytesPerFrame shape.channels := by
  have bits : shape.channels.toNat * shape.format.bits.toNat =
      8 * shape.format.bytesPerFrame shape.channels := by
    rw [toNat_bits valid, Format.bytesPerFrame, Nat.mul_left_comm, Nat.mul_comm shape.channels.toNat]
  have eight (product : UInt16) : (product / 8).toNat = product.toNat / 8 := UInt16.toNat_div product 8
  simp only [blockAlign?, bind, pure, Option.bind_eq_some_iff, product16?_eq_some, Option.some_inj]
  constructor
  · rintro ⟨product, counted, rfl⟩
    have bound := product.toNat_lt
    rw [eight]
    omega
  · rintro ⟨countable, size⟩
    have counted : (UInt16.ofNat (shape.channels.toNat * shape.format.bits.toNat)).toNat =
      shape.channels.toNat * shape.format.bits.toNat := UInt16.toNat_ofNat_of_lt' countable
    refine ⟨_, counted, UInt16.toNat_inj.mp ?_⟩
    rw [eight, counted]
    omega

theorem StreamShape.waveFormat?_spec (valid : shape.format.validate = .ok ()) :
    (shape.waveFormat?.isSome ↔ shape.Fits) ∧ ∀ wave, shape.waveFormat? = some wave →
      wave.blockAlign.toNat = shape.format.bytesPerFrame shape.channels ∧
      wave.bytesPerSecond.toNat =
        shape.format.rate.toNat * shape.format.bytesPerFrame shape.channels := by
  have sizes {wave : WaveFormat} (described : shape.waveFormat? = some wave) :
      shape.Fits ∧ wave.blockAlign.toNat = shape.format.bytesPerFrame shape.channels ∧
        wave.bytesPerSecond.toNat =
          shape.format.rate.toNat * shape.format.bytesPerFrame shape.channels := by
    simp only [waveFormat?, bind, pure, Option.bind_eq_some_iff, product32?_eq_some,
      Option.some_inj, UInt16.toNat_toUInt32] at described
    obtain ⟨align, aligned, second, counted, rfl⟩ := described
    obtain ⟨countable, size⟩ := (shape.blockAlign?_eq_some valid).mp aligned
    rw [size] at counted
    exact ⟨⟨countable, counted ▸ second.toNat_lt⟩, size, counted⟩
  refine ⟨⟨fun described => ?_, fun fits => ?_⟩, fun wave described => (sizes described).2⟩
  · obtain ⟨wave, described⟩ := Option.isSome_iff_exists.mp described
    exact (sizes described).1
  · obtain ⟨countable, narrow⟩ := fits
    have size : (UInt16.ofNat (shape.format.bytesPerFrame shape.channels)).toNat =
        shape.format.bytesPerFrame shape.channels := by
      refine UInt16.toNat_ofNat_of_lt' (Nat.lt_of_le_of_lt ?_ countable)
      rw [toNat_bits valid, Format.bytesPerFrame, Nat.mul_comm]
      exact Nat.mul_le_mul_left _ (Nat.le_mul_of_pos_left _ (by decide))
    have aligned := (shape.blockAlign?_eq_some valid).mpr ⟨countable, size⟩
    have second : product32? shape.format.rate
        (UInt16.ofNat (shape.format.bytesPerFrame shape.channels)).toUInt32 =
          some (UInt32.ofNat (shape.format.rate.toNat * shape.format.bytesPerFrame shape.channels)) := by
      rw [product32?_eq_some, UInt16.toNat_toUInt32, size]
      exact UInt32.toNat_ofNat_of_lt' narrow
    simp only [waveFormat?, aligned, bind, pure, Option.bind_some, second, Option.isSome_some]

end Widths

section Period

variable {period : Int64} {rate : UInt32}

/-- One hour, in units of 100 ns. -/
def hour : Int := 36000000000

theorem framesOf_bounds (valid : rate.toNat ≤ 768000) (started : 0 ≤ period.toInt)
    (short : period.toInt < hour) :
    0 ≤ period.toInt * rate.toNat ∧ period.toInt * rate.toNat < 2 ^ 32 * 10000000 := by
  have positive : 0 ≤ period.toInt * rate.toNat := Int.mul_nonneg started (Int.natCast_nonneg _)
  refine ⟨positive, ?_⟩
  calc period.toInt * rate.toNat
      ≤ hour * 768000 := Int.mul_le_mul (Int.le_of_lt short) (Int.ofNat_le.mpr valid)
        (Int.natCast_nonneg _) (by decide)
    _ < 2 ^ 32 * 10000000 := by decide

theorem exists_periodFrames (valid : rate.toNat ≤ 768000) (started : 0 ≤ period.toInt)
    (short : period.toInt < hour) :
    ∃ frames, periodFrames? period rate = some frames ∧
      (frames.toNat : Int) = period.toInt * rate.toNat / 10000000 := by
  have bounds := framesOf_bounds valid started short
  have counted : (Int64.ofNat rate.toNat).toInt = rate.toNat := Int64.toInt_ofNat_of_lt (by omega)
  have product : (period * Int64.ofNat rate.toNat).toInt = period.toInt * rate.toNat := by
    rw [Int64.toInt_mul, counted]
    exact Int.bmod_eq_of_le (by omega) (by omega)
  have fits : product64? period (Int64.ofNat rate.toNat) = some (period * Int64.ofNat rate.toNat) := by
    rw [product64?_eq_some, product, counted]
  have quotient : (period * Int64.ofNat rate.toNat / 10000000).toInt =
      period.toInt * rate.toNat / 10000000 := by
    have divisor : (10000000 : Int64).toInt = 10000000 := rfl
    rw [Int64.toInt_div, product, divisor, Int.tdiv_eq_ediv_of_nonneg bounds.1]
    exact Int.bmod_eq_of_le (by omega) (by omega)
  have below : period.toInt * rate.toNat / 10000000 < 2 ^ 32 := by omega
  have above : 0 ≤ period.toInt * rate.toNat / 10000000 := by omega
  refine ⟨_, by rw [periodFrames?, fits]; rfl, ?_⟩
  rw [UInt64.toNat_toUInt32, Int64.toNat_toUInt64_of_le ?_, Int64.toNatClampNeg, quotient]
  · omega
  · rw [Int64.le_iff_toInt_le, quotient]
    exact above

end Period

namespace Loopback

variable {α β ε : Type}

section Plans

variable {operation : EStateM ε Loopback α} {l : Loopback} {plan plan' : List SystemCall}
  {good : α → Prop} {good' : β → Prop}

/-- An operation that makes planned calls in their order, up to the end unless it fails. -/
def Executes (operation : EStateM ε Loopback α) (l : Loopback) (plan : List SystemCall)
    (good : α → Prop) : Prop :=
  Performs operation l (fun value log => good value ∧ log.map Answered.call = plan)
    fun _ log => log.map Answered.call <+: plan

theorem Executes.bind {next : α → EStateM ε Loopback β} (first : Executes operation l plan good)
    (second : ∀ value calls, good value → Executes (next value) (l.making calls) plan' good') :
    Executes (operation >>= next) l (plan ++ plan') good' := by
  refine Performs.bind first (fun value calls ⟨valued, front⟩ => ?_) fun _ log front => ?_
  · refine (second value calls valued).mono (fun result log ⟨valued', back⟩ => ?_) fun _ log back => ?_
    · exact ⟨valued', by rw [List.map_append, front, back]⟩
    · rw [List.map_append, front]
      exact (List.prefix_append_right_inj plan).mpr back
  · exact front.trans (List.prefix_append plan plan')

theorem Executes.refusable {operation : EStateM CaptureError Loopback α}
    (executes : Executes operation l plan good) : Executes (refusable operation) l plan good :=
  Performs.refusable executes fun _ _ front => front

theorem attempt_executes (c : SystemCall) (wrap : String → CaptureError) (l : Loopback) :
    Executes (attempt c wrap) l [c] fun _ => True := by
  refine (attempt_performs l c wrap).mono (fun _ log made => ?_) fun _ log ⟨text, refused⟩ => ?_
  · rw [made]
    exact ⟨trivial, rfl⟩
  · rw [refused]
    exact List.prefix_refl [c]

theorem openClient_executes (l : Loopback) :
    Executes openClient l [.createEnumerator, .defaultEndpoint, .activate] fun _ => True :=
  (attempt_executes _ _ l).bind fun _ _ _ => (attempt_executes _ _ _).bind fun _ _ _ =>
    attempt_executes _ _ _

def streamCalls (shape : StreamShape) : List SystemCall :=
  match shape.waveFormat? with
  | none => []
  | some wave => [.prepare wave, .service]

theorem openStream_executes (shape : StreamShape) (l : Loopback) :
    Executes (openStream shape) l (streamCalls shape) fun _ => True := by
  unfold openStream streamCalls
  cases shape.waveFormat? with
  | none => exact .error (congrArg (EStateM.Result.error Fault.crashed) (making_nil l).symm) List.nil_prefix
  | some wave =>
    exact Executes.refusable ((attempt_executes _ _ l).bind fun _ _ _ => attempt_executes _ _ _)

theorem get_executes (l : Loopback) : Executes (get : EStateM ε _ _) l [] fun value => value = l :=
  (get_performs l).mono (fun _ _ ⟨same, silent⟩ => ⟨same, by rw [silent]; rfl⟩) nofun

theorem pure_executes (value : α) (l : Loopback) :
    Executes (pure value : EStateM ε _ _) l [] fun result => result = value :=
  (pure_performs l value).mono (fun _ _ ⟨same, silent⟩ => ⟨same, by rw [silent]; rfl⟩) nofun

theorem mixChannels_executes (l : Loopback) :
    Executes mixChannels l [.mixFormat, .freeMixFormat] fun value => value = l.endpoint.channels := by
  refine (attempt_executes .mixFormat _ l).bind fun _ mix _ => ?_
  refine (get_executes _).bind fun read none same => ?_
  have freed : Executes (modify (note .freeMixFormat) : EStateM CaptureError _ _)
      ((l.making mix).making none) [.freeMixFormat] fun _ => True :=
    (modify_note_performs _ rfl).mono (fun _ _ made => ⟨trivial, by rw [made]; rfl⟩) nofun
  refine freed.bind fun _ free _ => ?_
  rw [same]
  exact pure_executes _ _

theorem inApartment_calls (plan : List SystemCall) {body : EStateM Fault Loopback α}
    (inside : ∀ calls, Executes body (l.making calls) plan good) :
    Performs (inApartment body) l
      (fun value log => good value ∧
        log.map Answered.call = .enterApartment :: plan ++ [.leaveApartment])
      fun _ log => log.map Answered.call ⊆ .enterApartment :: plan ++ [.leaveApartment] := by
  refine inApartment_encloses inside (fun value log ⟨valued, executed⟩ => ?_) (fun _ log cut => ?_)
    fun e text => by simp
  · simp [valued, executed]
  · have body : log.map Answered.call ⊆ plan ++ [.leaveApartment] :=
      List.subset_append_of_subset_left _ cut.subset
    simpa using List.subset_cons_of_subset .enterApartment body

end Plans

section Initialisation

variable {format : Format}

def trialCalls (shape : StreamShape) : List SystemCall :=
  [.enterApartment, .createEnumerator, .defaultEndpoint, .activate, .mixFormat, .freeMixFormat,
    .devicePeriod] ++ streamCalls shape ++ [.leaveApartment]

theorem trial_calls (format : Format) (l : Loopback) :
    Performs (trial format) l
      (fun value log => value = (l.endpoint.channels, l.endpoint.period) ∧
        log.map Answered.call = trialCalls ⟨format, l.endpoint.channels⟩)
      fun _ log => log.map Answered.call ⊆ trialCalls ⟨format, l.endpoint.channels⟩ := by
  have plan : trialCalls ⟨format, l.endpoint.channels⟩ = .enterApartment ::
      ([.createEnumerator, .defaultEndpoint, .activate] ++ ([.mixFormat, .freeMixFormat] ++
        ([.devicePeriod] ++ ([] ++ (streamCalls ⟨format, l.endpoint.channels⟩ ++ []))))) ++
          [.leaveApartment] := by simp [trialCalls]
  rw [plan]
  refine inApartment_calls _ fun entered => ?_
  refine (openClient_executes _).refusable.bind fun _ client _ => ?_
  refine (mixChannels_executes _).refusable.bind fun channels mix read => ?_
  refine (attempt_executes _ _ _).refusable.bind fun _ measured _ => ?_
  refine (get_executes _).bind fun now none same => ?_
  subst read same
  refine (openStream_executes _ _).bind fun _ stream _ => ?_
  exact pure_executes _ _

theorem prepare_mem_trialCalls {wave : WaveFormat} {shape : StreamShape} :
    .prepare wave ∈ trialCalls shape ↔ shape.waveFormat? = some wave := by
  unfold trialCalls streamCalls
  cases shape.waveFormat? with
  | none => simp
  | some _ => simp [eq_comm]

inductive Prepares (format : Format) (l : Loopback) (period : UInt32) :
    EStateM.Result Fault Loopback Unit → Prop
  | failed {fault : Fault} {calls : List SystemCall}
      (made : calls ⊆ trialCalls ⟨format, l.endpoint.channels⟩)
      (cut : Cut ⟨format, l.endpoint.channels⟩ (l.answers calls) fault) :
      Prepares format l period (.error fault (l.forget.making calls))
  | done (sized : (StreamShape.waveFormat? ⟨format, l.endpoint.channels⟩).isSome) :
      Prepares format l period
        (.ok () { l.forget.making (trialCalls ⟨format, l.endpoint.channels⟩) with
          channels := l.endpoint.channels
          period
          format := some format })

theorem prepares {period : UInt32} (valid : format.validate = .ok ()) (l : Loopback)
    (frames : periodFrames? l.endpoint.period format.rate = some period) :
    Prepares format l period (prepare format l) := by
  simp only [prepare, valid]
  cases (trial_performs format l.forget).and (trial_calls format l.forget) with
  | error ended described =>
    obtain ⟨⟨-, cut⟩, made⟩ := described
    rw [map_call_answers] at made
    rw [ended]
    exact .failed made cut
  | ok ended described =>
    obtain ⟨⟨⟨rfl, sized⟩, -⟩, -, made⟩ := described
    rw [map_call_answers] at made
    rw [ended, made]
    dsimp only
    rw [show periodFrames? l.forget.endpoint.period format.rate = some period from frames]
    exact .done sized

/-- An initialisation in a valid format computes the advertised period as whole numbers do, on every
endpoint whose device period is not negative and below an hour. If the bits of a frame can be counted
in 16 bits and the bytes of a second in 32, it does not crash, and the engine is told these sizes as
they are. If not, it crashes on them unless a call is refused before; the engine is told nothing, and
nothing is advertised. -/
theorem initialises_in_whole_numbers (valid : format.validate = .ok ()) (l : Loopback)
    (started : 0 ≤ l.endpoint.period.toInt) (short : l.endpoint.period.toInt < hour) :
    let shape : StreamShape := ⟨format, l.endpoint.channels⟩
    let frame := format.bytesPerFrame l.endpoint.channels
    ∃ calls, (stateAfter (prepare format l)).trace.calls = l.trace.calls ++ calls ∧
      (∀ after, prepare format l = .ok () after → (after.advertised.period.toNat : Int) =
        l.endpoint.period.toInt * format.rate.toNat / 10000000) ∧
      (shape.Fits → (∀ after, prepare format l ≠ .error .crashed after) ∧
        (∀ after, prepare format l = .ok () after → ∃ wave, .prepare wave ∈ calls) ∧
        ∀ wave, .prepare wave ∈ calls →
          wave.blockAlign.toNat = frame ∧ wave.bytesPerSecond.toNat = format.rate.toNat * frame) ∧
      (¬ shape.Fits → (∀ wave, .prepare wave ∉ calls) ∧ ∃ fault after,
        prepare format l = .error fault after ∧ after.advertised = ⟨.pcm, 0, 0, 0, 0⟩ ∧
          (fault = .crashed ∨ Broken (l.answers calls))) := by
  intro shape frame
  have rate : format.rate.toNat ≤ 768000 := (format.valid_parts valid).1
  obtain ⟨period, frames, whole⟩ := exists_periodFrames rate started short
  obtain ⟨sized_iff, sizes⟩ := shape.waveFormat?_spec valid
  have prepares := prepares valid l frames
  generalize prepare format l = result at prepares ⊢
  cases prepares with
  | @failed fault calls made cut =>
    refine ⟨calls, rfl, fun after ended => ?_, fun fits => ⟨fun after crashed => ?_,
      fun after ended => ?_, fun wave called => ?_⟩,
      fun wide => ⟨fun wave called => wide ?_, fault, _, rfl, rfl, ?_⟩⟩
    · cases ended
    · cases crashed
      have none : shape.waveFormat? = none := cut
      simp [none, fits] at sized_iff
    · cases ended
    · exact sizes wave (prepare_mem_trialCalls.mp (made called))
    · exact sized_iff.mp (Option.isSome_of_mem (prepare_mem_trialCalls.mp (made called)))
    · cases fault with
      | crashed => exact .inl rfl
      | refused => exact .inr cut
  | done sized =>
    refine ⟨_, rfl, fun after ended => ?_, fun _ => ⟨fun after crashed => ?_, fun after _ => ?_,
      fun wave called => ?_⟩, fun wide => absurd (sized_iff.mp sized) wide⟩
    · cases ended
      exact whole
    · cases crashed
    · obtain ⟨wave, described⟩ := Option.isSome_iff_exists.mp sized
      exact ⟨wave, prepare_mem_trialCalls.mpr described⟩
    · exact sizes wave (prepare_mem_trialCalls.mp called)

/-- Eight channels, and a period of not quite a whole number of frames. -/
theorem initialises_in_whole_numbers_on_eight_channels :
    let format : Format := ⟨.pcm, 24, 96000⟩
    let l : Loopback := { endpoint := { channels := 8, period := 101587 } }
    ∃ after wave, prepare format l = .ok () after ∧ after.advertised.period.toNat = 975 ∧
      .prepare wave ∈ after.trace.calls ∧ wave.blockAlign.toNat = 24 ∧
      wave.bytesPerSecond.toNat = 2304000 := by
  -- The run is evaluated before its parts get names.
  have ended : prepare ⟨.pcm, 24, 96000⟩ { endpoint := { channels := 8, period := 101587 } } = .ok ()
    (stateAfter (prepare ⟨.pcm, 24, 96000⟩ { endpoint := { channels := 8, period := 101587 } })) := rfl
  intro format l
  have valid : format.validate = .ok () := rfl
  obtain ⟨calls, made, period, fitting, -⟩ := initialises_in_whole_numbers valid l (by decide) (by decide)
  obtain ⟨-, some, waves⟩ := fitting ⟨by decide, by decide⟩
  obtain ⟨wave, called⟩ := some _ ended
  obtain ⟨align, second⟩ := waves wave called
  have frames := period _ ended
  rw [show l.endpoint.period.toInt * format.rate.toNat / 10000000 = (975 : Int) by decide] at frames
  have inTrace : .prepare wave ∈ (stateAfter (prepare format l)).trace.calls := by
    rw [made]
    exact List.mem_append_right _ called
  have size : format.bytesPerFrame 8 = 24 := by decide
  have bytes : format.rate.toNat * format.bytesPerFrame 8 = 2304000 := by decide
  exact ⟨stateAfter (prepare format l), wave, ended, Int.ofNat_inj.mp frames, inTrace, align.trans size, second.trans bytes⟩

/-- The first frame has more bits than can be counted in 16 bits, and a second of the other more bytes
than in 32. The endpoint refuses no call. -/
theorem frame_and_second_beyond_their_fields :
    let prepared (channels : UInt16) (format : Format) :=
      prepare format { endpoint := { channels, period := 100000 } }
    let outcome (channels : UInt16) (format : Format) : EStateM.Result Fault Loopback Unit :=
      .error .crashed (stateAfter (prepared channels format))
    Format.validate ⟨.pcm, 32, 48000⟩ = .ok () ∧ Format.validate ⟨.pcm, 32, 768000⟩ = .ok () ∧
      prepared 16384 ⟨.pcm, 32, 48000⟩ = outcome 16384 ⟨.pcm, 32, 48000⟩ ∧
      prepared 2000 ⟨.pcm, 32, 768000⟩ = outcome 2000 ⟨.pcm, 32, 768000⟩ :=
  ⟨rfl, rfl, rfl, rfl⟩

end Initialisation

end Loopback

end PairedAudio.Capture
