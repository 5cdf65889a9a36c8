import PairedAudio.Proofs.Outcomes

/-! What a capture advertises.

Only an initialisation touches the parameters, and it sets all of them or none. So a capture never
advertises a mixture: at any time its parameters are those of the initialisation in force, or those
of a capture that has not been initialised, which does not start. A crash in the arithmetic of a
loopback capture can leave the channel count behind, but nothing else.
-/

set_option autoImplicit false

namespace PairedAudio.Capture

open Audio (Format)

namespace Tone

theorem Same.shows {tone after : Tone} (same : Same tone after) :
    after.advertised = tone.advertised ∧ after.format.isSome = tone.format.isSome := by
  rw [advertised, advertised, same.format, same.period]
  exact ⟨rfl, rfl⟩

theorem same_start (spawn : Option OsError) (tone : Tone) :
    Same tone (stateAfter (refusable (start spawn) tone)) := by
  rw [stateAfter_refusable]
  have started := started spawn tone
  generalize start spawn tone = result at started ⊢
  cases started with
  | unready | doubled | unspawned | begun => exact ⟨rfl, rfl⟩

theorem start_unready (spawn : Option OsError) {tone : Tone} (unready : tone.format.isSome = false) :
    start spawn tone = .error notInitialised tone := by
  have missing : tone.format = none := by simpa using unready
  rw [start, missing]
  rfl

theorem honest : usage.Honest fun tone : Tone => tone.format.isSome where
  new _ := ⟨rfl, rfl⟩
  refused _ tone invalid := refusable_error (prepare_invalid tone invalid)
  prepared {format} _ {tone} _ valid done := by
    have did := (prepare_valid tone valid).symm.trans (of_refusable_ok done)
    cases did
    rfl
  unprepared {format} _ {tone} _ _ valid failed := by
    obtain ⟨e, _, failed⟩ := of_refusable_error failed
    have did := (prepare_valid tone valid).symm.trans failed
    cases did
  torn _ crashed := by
    obtain ⟨e, refused, -⟩ := of_refusable_error crashed
    cases refused
  unready surroundings unready := refusable_error (start_unready surroundings unready)
  started surroundings tone := (same_start surroundings tone).shows
  quiet tone quiet := (Kept.use tone quiet).shows

end Tone

namespace Monitor

theorem Same.shows {m after : Monitor} (same : Same m after) :
    after.advertised = m.advertised ∧ after.format.isSome = m.format.isSome := by
  rw [advertised, advertised, same.format, same.period]
  exact ⟨rfl, rfl⟩

theorem same_start (host : Host) (spawn : Option OsError) (m : Monitor) :
    Same m (stateAfter (refusable (start host spawn) m)) := by
  rw [stateAfter_refusable]
  have started := started host spawn m
  generalize start host spawn m = result at started ⊢
  cases started with
  | unready | doubled | unspawned | failed | begun => exact ⟨rfl, rfl, rfl, rfl⟩

theorem start_unready (host : Host) (spawn : Option OsError) {m : Monitor}
    (unready : m.format.isSome = false) : start host spawn m = .error notInitialised m := by
  have missing : m.format = none := by simpa using unready
  rw [start, missing]
  rfl

theorem honest : usage.Honest fun m : Monitor => m.format.isSome where
  new _ := ⟨rfl, rfl⟩
  refused surroundings m invalid := refusable_error (prepare_invalid surroundings.1 m invalid)
  prepared {format} surroundings {m} _ valid done := by
    have prepared := prepared surroundings.1 m valid
    rw [of_refusable_ok done] at prepared
    cases prepared with
    | done => rfl
  unprepared {format} surroundings {m} _ _ valid failed := by
    obtain ⟨e, _, failed⟩ := of_refusable_error failed
    have prepared := prepared surroundings.1 m valid
    rw [failed] at prepared
    cases prepared with
    | unchosen => exact ⟨rfl, rfl⟩
    | @unsuited choice =>
      obtain ⟨trace, logged⟩ := m.forget.logFallback_eq choice
      rw [logged]
      exact ⟨rfl, rfl⟩
  torn _ crashed := by
    obtain ⟨e, refused, -⟩ := of_refusable_error crashed
    cases refused
  unready surroundings unready := refusable_error (start_unready surroundings.1 surroundings.2 unready)
  started surroundings m := (same_start surroundings.1 surroundings.2 m).shows
  quiet m quiet := (Kept.use m quiet).shows

end Monitor

namespace Loopback

theorem Same.shows {l after : Loopback} (same : Same l after) :
    after.advertised = l.advertised ∧ after.format.isSome = l.format.isSome := by
  rw [advertised, advertised, same.format, same.channels, same.period]
  exact ⟨rfl, rfl⟩

theorem same_start (spawn : Option OsError) (l : Loopback) :
    Same l (stateAfter (refusable (start spawn) l)) := by
  rw [stateAfter_refusable]
  have started := started spawn l
  have joined := Kept.joined l
  generalize start spawn l = result at started ⊢
  cases started with
  | unready | doubled => exact ⟨rfl, rfl, rfl⟩
  | unspawned => exact ⟨joined.format, joined.channels, joined.period⟩
  | @begun format =>
    have launched := Kept.launch ⟨format, l.settle.join.channels⟩ (l.settle.join.spawned format)
    exact joined.toSame.trans ⟨launched.format, launched.channels, launched.period⟩

theorem start_unready (spawn : Option OsError) {l : Loopback} (unready : l.format.isSome = false) :
    start spawn l = .error notInitialised l := by
  have missing : l.format = none := by simpa using unready
  rw [start, missing]
  rfl

theorem honest : usage.Honest fun l : Loopback => l.format.isSome where
  new _ := ⟨rfl, rfl⟩
  refused _ l invalid := prepare_invalid l invalid
  prepared {format} _ {l s'} valid done := by
    have prepared := prepared l valid
    rw [show prepare format l = .ok () s' from done] at prepared
    cases prepared with
    | done _ _ frames =>
      show _ = Advertised.mk _ _ _ _ ((periodFrames? l.endpoint.period format.rate).getD 0)
      rw [frames]
      rfl
  unprepared {format} _ {l s'} e valid failed := by
    have prepared := prepared l valid
    rw [show prepare format l = .error (.refused e) s' from failed] at prepared
    cases prepared with
    | failed => exact ⟨rfl, rfl⟩
  torn {format} _ {l s'} valid crashed := by
    have prepared := prepared l valid
    rw [show prepare format l = .error .crashed s' from crashed] at prepared
    cases prepared with
    | failed => exact ⟨rfl, .inl rfl, rfl⟩
    | overlong => exact ⟨rfl, .inr rfl, rfl⟩
  unready surroundings unready := refusable_error (start_unready surroundings unready)
  started surroundings l := (same_start surroundings l).shows
  quiet l quiet := (Kept.use l quiet).shows

end Loopback

def Kind.isReady : (kind : Kind) → kind.usage.State → Bool
  | tone => fun tone : Tone => tone.format.isSome
  | monitor => fun monitor : Monitor => monitor.format.isSome
  | loopback => fun loopback : Loopback => loopback.format.isSome

theorem Kind.honest : (kind : Kind) → kind.usage.Honest kind.isReady
  | tone => Tone.honest
  | monitor => Monitor.honest
  | loopback => Loopback.honest

end PairedAudio.Capture
