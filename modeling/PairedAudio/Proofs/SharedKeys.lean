import PairedAudio.Proofs.Reload
import PairedAudio.Proofs.Run
import Mathlib.Data.List.GetD

/-! Pairing codes and the keys that they give.

A code fills a key up with copies of its own last byte. So two codes give one key just if the longer one
is the shorter one with more such copies behind it, and codes of one length never do. A configuration
is valid only with a code that gives a key, so a server never fails to start for want of one.
-/

set_option autoImplicit false

namespace PairedAudio

open Capture (Device)
open Cipher

namespace Cipher

theorem Block.toBytes_tabulate (f : Nat → UInt8) : (tabulate f).toBytes = (List.range 16).map f := rfl

namespace Key

/-- A longer run of bytes is a shorter one with copies of the last byte of this one behind it. -/
def Prolongs (long short : List UInt8) : Prop :=
  ∃ last copies, short.getLast? = some last ∧ 0 < copies ∧ long = short ++ List.replicate copies last

section Bytes

variable {secret front back : List UInt8} {key : Key} {last last' : UInt8}

theorem map_getD (short : secret.length ≤ 16) (last : UInt8) :
    ((List.range 16).map fun i => secret.getD i last) =
      secret ++ List.replicate (16 - secret.length) last := by
  apply List.ext_getElem
  · simp; omega
  · intro i inside _
    simp only [List.getElem_map, List.getElem_range, List.getElem_append, List.getElem_replicate]
    split
    · exact List.getD_eq_getElem _ _ ‹_›
    · exact List.getD_eq_default _ _ (by omega)

inductive Derived (secret : List UInt8) : Except StreamError Key → Prop
  | empty {e : StreamError} (none : secret = []) : Derived secret (.error e)
  | long {e : StreamError} (beyond : 16 < secret.length) : Derived secret (.error e)
  | filled {key : Key} {last : UInt8} (ends : secret.getLast? = some last)
      (short : secret.length ≤ 16)
      (bytes : key.block.toBytes = secret ++ List.replicate (16 - secret.length) last) :
      Derived secret (.ok key)

theorem derived (secret : List UInt8) : Derived secret (ofBytes secret) := by
  unfold ofBytes
  cases ends : secret.getLast? with
  | none => exact .empty (List.getLast?_eq_none_iff.mp ends)
  | some last =>
    dsimp only
    split
    · exact .long ‹_›
    · have short : secret.length ≤ 16 := by omega
      refine .filled ends short ?_
      exact (Block.toBytes_tabulate fun i => secret.getD i last).trans (map_getD short last)

theorem ofBytes_ok_iff :
    (∃ key, ofBytes secret = .ok key) ↔ 1 ≤ secret.length ∧ secret.length ≤ 16 := by
  have derived := derived secret
  generalize ofBytes secret = result at derived ⊢
  cases derived with
  | empty none => simp [none]
  | long beyond => simp [beyond]
  | filled ends short =>
    have some : secret ≠ [] := by
      rintro rfl
      cases ends
    exact iff_of_true ⟨_, rfl⟩ ⟨List.length_pos_iff.mpr some, short⟩

/-- What two runs are filled up to is the same just if the longer one is the shorter one, filled up to
the length of the longer. -/
theorem filled_eq_iff (ends : front.getLast? = some last) (ends' : back.getLast? = some last')
    (le : front.length ≤ back.length) (short : back.length ≤ 16) :
    front ++ List.replicate (16 - front.length) last =
        back ++ List.replicate (16 - back.length) last' ↔
      back = front ++ List.replicate (back.length - front.length) last := by
  constructor
  · intro same
    have cut := congrArg (List.take back.length) same
    rw [List.take_left, List.take_append, List.take_of_length_le le, List.take_replicate,
      Nat.min_eq_left (by omega)] at cut
    exact cut.symm
  · intro longer
    generalize copies : back.length - front.length = n at longer
    subst longer
    have same : last' = last := by
      cases n with
      | zero => simpa [ends] using ends'.symm
      | succ n => simpa [List.getLast?_append, List.getLast?_replicate] using ends'.symm
    rw [List.length_append, List.length_replicate] at short
    rw [same, List.append_assoc, List.replicate_append_replicate, List.length_append,
      List.length_replicate]
    congr 2
    omega

theorem prolonged_iff (ends : front.getLast? = some last) (le : front.length ≤ back.length) :
    back = front ++ List.replicate (back.length - front.length) last ↔
      front = back ∨ Prolongs back front := by
  constructor
  · intro longer
    rcases Nat.eq_zero_or_pos (back.length - front.length) with none | some
    · rw [none, List.replicate_zero, List.append_nil] at longer
      exact .inl longer.symm
    · exact .inr ⟨last, _, ends, some, longer⟩
  · rintro (rfl | ⟨last', copies, ends', -, rfl⟩)
    · simp
    · cases ends.symm.trans ends'
      simp

theorem not_prolongs_of_le (le : front.length ≤ back.length) : ¬ Prolongs front back := by
  rintro ⟨last, copies, -, some, rfl⟩
  rw [List.length_append, List.length_replicate] at le
  omega

variable {key' : Key}

theorem ofBytes_inj_iff_of_le (keyed : ofBytes front = .ok key)
    (keyed' : ofBytes back = .ok key') (le : front.length ≤ back.length) :
    key = key' ↔ front = back ∨ Prolongs back front := by
  have first := derived front
  have second := derived back
  rw [keyed] at first
  rw [keyed'] at second
  cases first with
  | filled ends _ bytes =>
    cases second with
    | filled ends' short bytes' =>
      rw [← prolonged_iff ends le, ← filled_eq_iff ends ends' le short, ← bytes, ← bytes']
      constructor
      · rintro rfl
        rfl
      · intro same
        cases key
        cases key'
        exact congrArg Key.mk (Block.toBytes_inj same)

theorem ofBytes_inj_iff (derived : ofBytes front = .ok key) (derived' : ofBytes back = .ok key') :
    key = key' ↔ front = back ∨ Prolongs back front ∨ Prolongs front back := by
  rcases Nat.le_total front.length back.length with le | le
  · rw [ofBytes_inj_iff_of_le derived derived' le]
    simp [not_prolongs_of_le le]
  · rw [eq_comm, ofBytes_inj_iff_of_le derived' derived le, eq_comm]
    simp [not_prolongs_of_le le]

end Bytes

theorem length_toUTF8 (text : String) : text.toUTF8.toList.length = text.utf8ByteSize := by
  rw [toList_bytes]
  rfl

theorem toUTF8_inj {s t : String} (same : s.toUTF8.toList = t.toUTF8.toList) : s = t := by
  have read := congrArg (fun bytes => String.fromUTF8? ⟨bytes.toArray⟩) same
  simp only [fromUTF8?_toUTF8] at read
  exact Option.some.inj read

theorem ofSecret_ok_iff (secret : String) :
    (∃ key, ofSecret secret = .ok key) ↔ 1 ≤ secret.utf8ByteSize ∧ secret.utf8ByteSize ≤ 16 := by
  rw [← length_toUTF8]
  exact ofBytes_ok_iff

end Key

end Cipher

theorem Config.validate_ok_iff (c : Config) :
    c.validate = .ok () ↔ (∃ key, Key.ofSecret c.pairCode = .ok key) ∧ c.format.validate = .ok () := by
  rw [Key.ofSecret_ok_iff]
  unfold Config.validate
  rw [String.isEmpty_eq_utf8ByteSize_beq_zero]
  split
  · rename_i empty
    rw [beq_iff_eq] at empty
    exact iff_of_false nofun (by omega)
  rename_i filled
  rw [beq_iff_eq] at filled
  split
  · exact iff_of_false nofun (by omega)
  · cases c.format.validate with
    | error e => exact iff_of_false nofun fun both => nomatch both.2
    | ok _ => exact iff_of_true rfl ⟨by omega, rfl⟩

namespace Server

variable {σ : Type}

theorem start_of_validated {backend : Device σ} {config : Config} (valid : config.validate = .ok ())
    (device : σ) (commandPort : UInt16) (ivs : IvSource) (setup : Setup) :
    ∃ key, Key.ofSecret config.pairCode = .ok key ∧
      start backend config device commandPort ivs setup =
        setup.run.map fun _ => initial backend key config.format commandPort device ivs := by
  obtain ⟨⟨key, derived⟩, -⟩ := config.validate_ok_iff.mp valid
  refine ⟨key, derived, ?_⟩
  cases prepared : setup.run with
  | ok _ => exact start_of_valid valid derived prepared
  | error e =>
    unfold start
    rw [valid, derived, prepared]
    rfl

/-- A code gives a key just if it has one to sixteen bytes, which is what a valid configuration asks of
it; so a server with a valid configuration fails to start only for the system's refusals. Two codes
give one key just if they are equal or one is the other with copies of its last byte behind it, and
different codes of one length in bytes never do. -/
theorem codes_that_share_keys (backend : Device σ) (device : σ) (commandPort : UInt16) (ivs : IvSource)
    (setup : Setup) (s t : String) :
    ((∃ key, Key.ofSecret s = .ok key) ↔ 1 ≤ s.utf8ByteSize ∧ s.utf8ByteSize ≤ 16) ∧
    (∀ port format, Config.validate ⟨s, port, format⟩ = .ok () ↔
      (∃ key, Key.ofSecret s = .ok key) ∧ format.validate = .ok ()) ∧
    (∀ port format, Config.validate ⟨s, port, format⟩ = .ok () →
      ∃ key, Key.ofSecret s = .ok key ∧
        start backend ⟨s, port, format⟩ device commandPort ivs setup =
          setup.run.map fun _ => initial backend key format commandPort device ivs) ∧
    ∀ key key', Key.ofSecret s = .ok key → Key.ofSecret t = .ok key' →
      (key = key' ↔ s = t ∨ Key.Prolongs t.toUTF8.toList s.toUTF8.toList ∨
        Key.Prolongs s.toUTF8.toList t.toUTF8.toList) ∧
      (s ≠ t → s.utf8ByteSize = t.utf8ByteSize → key ≠ key') := by
  refine ⟨Key.ofSecret_ok_iff s, fun port format => Config.validate_ok_iff _,
    fun port format valid => start_of_validated valid device commandPort ivs setup,
    fun key key' derived derived' => ?_⟩
  have bytes : s.toUTF8.toList = t.toUTF8.toList ↔ s = t :=
    ⟨Key.toUTF8_inj, fun same => by rw [same]⟩
  have shared := Key.ofBytes_inj_iff derived derived'
  rw [bytes] at shared
  refine ⟨shared, fun different length same => ?_⟩
  rw [← Key.length_toUTF8, ← Key.length_toUTF8] at length
  rcases shared.mp same with same | longer | longer
  · exact different same
  · exact Key.not_prolongs_of_le (Nat.le_of_eq length.symm) longer
  · exact Key.not_prolongs_of_le (Nat.le_of_eq length) longer

/-- A last digit that is repeated, and one that is another. -/
theorem codes_that_share_keys_of_twelve :
    Config.validate ⟨"12", Config.defaultPort, .standard⟩ = .ok () ∧
    ∃ key, Key.ofSecret "12" = .ok key ∧ Key.ofSecret "1222" = .ok key ∧
      start Capture.Tone.device ⟨"12", Config.defaultPort, .standard⟩ .standard 5541
          (.seeded default) {} =
        .ok (initial Capture.Tone.device key .standard 5541 .standard (.seeded default)) ∧
      ∃ other, Key.ofSecret "13" = .ok other ∧ key ≠ other := by
  have short : "12".toUTF8.toList = [0x31, 0x32] := by decide +kernel
  have long : "1222".toUTF8.toList = [0x31, 0x32, 0x32, 0x32] := by decide +kernel
  have other : "13".toUTF8.toList = [0x31, 0x33] := by decide +kernel
  have valid : Config.validate ⟨"12", Config.defaultPort, .standard⟩ = .ok () := rfl
  obtain ⟨-, -, starts, shares⟩ := codes_that_share_keys Capture.Tone.device .standard 5541
    (.seeded default) {} "12" "1222"
  obtain ⟨-, -, -, differs⟩ := codes_that_share_keys Capture.Tone.device .standard 5541
    (.seeded default) {} "12" "13"
  obtain ⟨key, derived, started⟩ := starts _ _ valid
  have derived' : Key.ofSecret "1222" = .ok _ := congrArg Key.ofBytes long
  have derived'' : Key.ofSecret "13" = .ok _ := congrArg Key.ofBytes other
  have prolongs : Key.Prolongs "1222".toUTF8.toList "12".toUTF8.toList :=
    ⟨0x32, 2, by rw [short]; rfl, by decide, by rw [short, long]; rfl⟩
  have same := (shares _ _ derived derived').1.mpr (.inr (.inl prolongs))
  refine ⟨valid, key, derived, same ▸ derived', started, _, derived'', ?_⟩
  exact (differs _ _ derived derived'').2 (by decide) rfl

end Server

end PairedAudio
