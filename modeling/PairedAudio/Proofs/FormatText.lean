import PairedAudio.Proofs.Grammar
import PairedAudio.Proofs.Period
import PairedAudio.Proofs.Reload

/-! Which texts name a format.

A format is read from three words. The numbers among them may have a plus sign and zeros in front, and
the words any white space around them, so a format has many texts. The one that is written for it is
among them if the format is valid, and no other format is ever read.
-/

set_option autoImplicit false

namespace PairedAudio.Audio.Format

open Text (Numeral Worded numeral? numeral?_eq_some_iff words words_eq_iff)

def IsRate (n : Nat) : Prop := 1 ≤ n ∧ n ≤ 768000

/-- The texts of a format. Any depth that is a 16-bit number may stand in the text of a float format,
whose samples have 32 bits all the same. -/
inductive Names (text : List Char) : Format → Prop
  | pcm {depth rate : List Char} {bits hertz : Nat}
      (three : Worded text ["pcm".toList, depth, rate])
      (depthNumeral : Numeral depth bits) (depthFits : bits ≤ 65535)
      (rateNumeral : Numeral rate hertz) (rateFits : hertz ≤ 4294967295)
      (isRate : IsRate hertz) (isDepth : bits = 16 ∨ bits = 24 ∨ bits = 32) :
      Names text ⟨.pcm, .ofNat bits, .ofNat hertz⟩
  | float {depth rate : List Char} {bits hertz : Nat}
      (three : Worded text ["float".toList, depth, rate])
      (depthNumeral : Numeral depth bits) (depthFits : bits ≤ 65535)
      (rateNumeral : Numeral rate hertz) (rateFits : hertz ≤ 4294967295)
      (isRate : IsRate hertz) : Names text ⟨.float, 32, .ofNat hertz⟩

theorem isRate_iff {hertz : Nat} (fits : hertz ≤ 4294967295) :
    ¬(UInt32.ofNat hertz = 0 ∨ maximumRate < UInt32.ofNat hertz) ↔ IsRate hertz := by
  have value : (UInt32.ofNat hertz).toNat = hertz := by
    rw [UInt32.toNat_ofNat']
    omega
  have most : maximumRate.toNat = 768000 := rfl
  rw [← UInt32.toNat_inj, UInt32.lt_iff_toNat_lt, value, most, UInt32.toNat_zero, IsRate]
  omega

theorem validate_eq_ok_iff {encoding : Encoding} {bits : UInt16} {hertz : Nat}
    (fits : hertz ≤ 4294967295) :
    validate ⟨encoding, bits, .ofNat hertz⟩ = .ok () ↔ IsRate hertz ∧
      match encoding with
      | .pcm => bits = 16 ∨ bits = 24 ∨ bits = 32
      | .float => bits = 32 := by
  rw [← isRate_iff fits, validate]
  split
  · rename_i outside
    simp [outside]
  · rename_i inside
    cases encoding with
    | pcm =>
      by_cases depth : bits = 16 ∨ bits = 24 ∨ bits = 32 <;> simp [inside, depth]
    | float => simp [inside]

def told (encoding : Encoding) (bits hertz : Nat) : Format :=
  ⟨encoding, match encoding with | .pcm => .ofNat bits | .float => 32, .ofNat hertz⟩

theorem ofWords_eq_ok_iff {name depth rate : List Char} {f : Format} :
    ofWords [name, depth, rate] = .ok f ↔ ∃ bits hertz encoding,
      numeral? 65535 depth = some bits ∧ numeral? 4294967295 rate = some hertz ∧
      Encoding.ofName? name = some encoding ∧ (told encoding bits hertz).validate = .ok () ∧
      told encoding bits hertz = f := by
  simp only [ofWords]
  cases numeral? 65535 depth with
  | none => simp
  | some bits =>
    cases numeral? 4294967295 rate with
    | none => simp
    | some hertz =>
      cases Encoding.ofName? name with
      | none => simp
      | some encoding =>
        simp only [Option.some.injEq, exists_and_left, ↓existsAndEq, true_and]
        change ((told encoding bits hertz).validate.map fun _ => told encoding bits hertz) = .ok f ↔ _
        cases (told encoding bits hertz).validate <;> simp [Except.map]

theorem words_of_parse {text : List Char} {f : Format} (read : parse text = .ok f) :
    ∃ name depth rate, Worded text [name, depth, rate] ∧ ofWords [name, depth, rate] = .ok f := by
  rw [parse] at read
  rcases split : words text with _ | ⟨name, _ | ⟨depth, _ | ⟨rate, _ | ⟨more, rest⟩⟩⟩⟩
  case cons.cons.cons.nil =>
    rw [split] at read
    exact ⟨name, depth, rate, words_eq_iff.mp split, read⟩
  all_goals
    rw [split] at read
    cases read

theorem ofName?_eq_some_iff {name : List Char} {encoding : Encoding} :
    Encoding.ofName? name = some encoding ↔ name = encoding.name.toList := by
  have pcm : Encoding.pcm.name.toList = ['p', 'c', 'm'] := rfl
  have float : Encoding.float.name.toList = ['f', 'l', 'o', 'a', 't'] := rfl
  unfold Encoding.ofName?
  cases encoding with
  | pcm =>
    rw [pcm]
    split
    · simpa
    · rename_i other
      split <;> simpa using other
  | float =>
    rw [float]
    split
    · rename_i same
      simp [same]
    · split <;> simpa

theorem isDepth_iff {bits : Nat} (fits : bits ≤ 65535) :
    (UInt16.ofNat bits = 16 ∨ UInt16.ofNat bits = 24 ∨ UInt16.ofNat bits = 32) ↔
      bits = 16 ∨ bits = 24 ∨ bits = 32 := by
  have value : (UInt16.ofNat bits).toNat = bits := by
    rw [UInt16.toNat_ofNat']
    omega
  have known (n : UInt16) : UInt16.ofNat bits = n ↔ bits = n.toNat := by
    rw [← UInt16.toNat_inj, value]
  simp only [known]
  rfl

theorem names_of_parse {text : List Char} {f : Format} (read : parse text = .ok f) : Names text f := by
  obtain ⟨name, depth, rate, three, read⟩ := words_of_parse read
  obtain ⟨bits, hertz, encoding, depthRead, rateRead, named, valid, rfl⟩ := ofWords_eq_ok_iff.mp read
  obtain ⟨depthNumeral, depthFits⟩ := numeral?_eq_some_iff.mp depthRead
  obtain ⟨rateNumeral, rateFits⟩ := numeral?_eq_some_iff.mp rateRead
  obtain ⟨isRate, isDepth⟩ := (validate_eq_ok_iff rateFits).mp valid
  obtain rfl := ofName?_eq_some_iff.mp named
  cases encoding with
  | pcm =>
    exact .pcm three depthNumeral depthFits rateNumeral rateFits isRate ((isDepth_iff depthFits).mp isDepth)
  | float => exact .float three depthNumeral depthFits rateNumeral rateFits isRate

theorem parse_of_names {text : List Char} {f : Format} (names : Names text f) : parse text = .ok f := by
  cases names with
  | pcm three depthNumeral depthFits rateNumeral rateFits isRate isDepth =>
    rw [parse, words_eq_iff.mpr three, ofWords_eq_ok_iff]
    exact ⟨_, _, .pcm, numeral?_eq_some_iff.mpr ⟨depthNumeral, depthFits⟩,
      numeral?_eq_some_iff.mpr ⟨rateNumeral, rateFits⟩, rfl,
      (validate_eq_ok_iff rateFits).mpr ⟨isRate, (isDepth_iff depthFits).mpr isDepth⟩, rfl⟩
  | float three depthNumeral depthFits rateNumeral rateFits isRate =>
    rw [parse, words_eq_iff.mpr three, ofWords_eq_ok_iff]
    exact ⟨_, _, .float, numeral?_eq_some_iff.mpr ⟨depthNumeral, depthFits⟩,
      numeral?_eq_some_iff.mpr ⟨rateNumeral, rateFits⟩, rfl,
      (validate_eq_ok_iff rateFits).mpr ⟨isRate, rfl⟩, rfl⟩

theorem valid_of_parse {text : List Char} {f : Format} (read : parse text = .ok f) :
    f.validate = .ok () := by
  obtain ⟨name, depth, rate, -, read⟩ := words_of_parse read
  obtain ⟨bits, hertz, encoding, -, -, -, valid, rfl⟩ := ofWords_eq_ok_iff.mp read
  exact valid

/-- A text is read as a format if and only if it names it: three words, of which the first is an
encoding and the others are numerals of a depth and a rate, with a rate in range and, for integer
samples, one of the three depths. What is read is valid, and a valid format is read back from the text
that is written for it. -/
theorem reads_exactly_names :
    (∀ (text : List Char) (f : Format), parse text = .ok f ↔ Names text f) ∧
    (∀ (text : List Char) (f : Format), parse text = .ok f → f.validate = .ok ()) ∧
    ∀ f : Format, f.validate = .ok () → parse f.text.toList = .ok f :=
  ⟨fun _ _ => ⟨names_of_parse, parse_of_names⟩, fun _ _ => valid_of_parse, fun _ => parse_text⟩

/-- Other white space than spaces, a sign and zeros in front of the numbers, and a depth that is put
right. -/
theorem reads_exactly_names_spread_out :
    let text := "\u3000float\u2003+0016\t0044100\n".toList
    let f : Format := ⟨.float, 32, 44100⟩
    parse text = .ok f ∧ Names text f ∧ f.validate = .ok () ∧ f.text = "float 32 44100" ∧
      parse f.text.toList = .ok f := by
  intro text f
  obtain ⟨exactly, valid, back⟩ := reads_exactly_names
  have read : parse text = .ok f := rfl
  have sound : f.validate = .ok () := valid text f read
  exact ⟨read, (exactly text f).mp read, sound, by decide +kernel, back f sound⟩

end PairedAudio.Audio.Format
