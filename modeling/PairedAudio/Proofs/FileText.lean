import PairedAudio.Proofs.FormatText

/-! Which texts are configuration files, and what is said of those that are not.

A file holds its three values on its first three lines. Several things may be wrong with a text at
once, and each is told from the text alone; loading names the first of them in the order in which the
values are judged, and fails only if there is one. Behind the third line anything may follow.
-/

set_option autoImplicit false

namespace PairedAudio

open Audio (Format)
open Text (Lined Numeral Trimmed lines numeral? numeral?_eq_some_iff trim)

def ConfigField.line : ConfigField → Nat
  | pairCode => 0
  | port => 1
  | format => 2

/-- The place of a cause in the order in which causes are named. An empty code is missing from its
file, so a file is never blamed for it. -/
def ConfigError.place : ConfigError → Nat
  | missing .pairCode => 0
  | missing .port => 1
  | invalidPort _ => 2
  | missing .format => 3
  | format _ => 4
  | longPairCode _ => 5
  | emptyPairCode => 6

namespace Config

/-- The configuration that a text describes: its first three lines are the code, the port and the
format, with white space around them or none. -/
inductive Describes (text : List Char) : Config → Prop
  | threeLines {first second third code port format : List Char} {others : List (List Char)}
      {n : Nat} {f : Format} (lined : Lined text (first :: second :: third :: others))
      (codeLine : Trimmed first code) (portLine : Trimmed second port)
      (formatLine : Trimmed third format) (codeFilled : code ≠ []) (portFilled : port ≠ [])
      (formatFilled : format ≠ []) (short : (String.ofList code).utf8ByteSize ≤ 16)
      (number : Numeral port n) (fits : n ≤ 65535) (shape : Format.parse format = .ok f) :
      Describes text ⟨String.ofList code, .ofNat n, f⟩

def Holds (text : List Char) (field : ConfigField) (value : List Char) : Prop :=
  ∃ found line, Lined text found ∧ found[field.line]? = some line ∧ Trimmed line value ∧ value ≠ []

inductive Fault (text : List Char) : ConfigError → Prop
  | missing {field : ConfigField} (none : ∀ value, ¬Holds text field value) :
      Fault text (.missing field)
  | invalidPort {value : List Char} (there : Holds text .port value)
      (other : ∀ n, Numeral value n → 65535 < n) : Fault text (.invalidPort value)
  | format {value : List Char} {e : Audio.FormatError} (there : Holds text .format value)
      (refused : Format.parse value = .error e) : Fault text (.format e)
  | longPairCode {value : List Char} (there : Holds text .pairCode value)
      (long : 16 < (String.ofList value).utf8ByteSize) :
      Fault text (.longPairCode (String.ofList value).utf8ByteSize)

def FirstFault (text : List Char) (cause : ConfigError) : Prop :=
  Fault text cause ∧ ∀ other, Fault text other → cause.place ≤ other.place

section Values

variable {text value other : List Char} {field : ConfigField}

theorem holds_iff :
    Holds text field value ↔ ((lines text).map trim)[field.line]? = some value ∧ value ≠ [] := by
  simp only [Holds, ← Text.lines_eq_iff, ← Text.trim_eq_iff, List.getElem?_map, Option.map_eq_some_iff]
  constructor
  · rintro ⟨_, line, rfl, there, trimmed, filled⟩
    exact ⟨⟨line, there, trimmed⟩, filled⟩
  · rintro ⟨⟨line, there, trimmed⟩, filled⟩
    exact ⟨_, line, rfl, there, trimmed, filled⟩

theorem Holds.unique (holds : Holds text field value) (also : Holds text field other) :
    value = other :=
  Option.some.inj ((holds_iff.mp holds).1.symm.trans (holds_iff.mp also).1)

def reading (text : List Char) (field : ConfigField) : Except ConfigError (List Char) :=
  required field ((lines text).map trim)[field.line]?

theorem reading_of_holds (holds : Holds text field value) : reading text field = .ok value :=
  required_ok_iff.mpr (holds_iff.mp holds)

theorem reading_cases (text : List Char) (field : ConfigField) :
    (∃ value, Holds text field value) ∨
      Fault text (.missing field) ∧ reading text field = .error (.missing field) := by
  cases read : reading text field with
  | ok value => exact .inl ⟨value, holds_iff.mpr (required_ok_iff.mp read)⟩
  | error e =>
    have missing : e = .missing field := by
      unfold reading required at read
      split at read <;> cases read
      rfl
    refine .inr ⟨.missing fun value holds => ?_, by rw [missing]⟩
    cases read.symm.trans (reading_of_holds holds)

theorem reading_of_lined {first second third : List Char} {others : List (List Char)}
    (lined : Lined text (first :: second :: third :: others)) (field : ConfigField) :
    reading text field = required field ([first, second, third].map trim)[field.line]? := by
  rw [reading, Text.lines_eq_iff.mpr lined]
  cases field <;> rfl

end Values

section Faults

variable {text : List Char} {cause : ConfigError} {n : Nat}

/-- What a text has in order if the cause at a place is none of its faults. -/
def InOrder (text : List Char) : Nat → Prop
  | 0 => ∃ code, Holds text .pairCode code
  | 1 => ∃ port, Holds text .port port
  | 2 => ∃ port n, Holds text .port port ∧ Numeral port n ∧ n ≤ 65535
  | 3 => ∃ format, Holds text .format format
  | 4 => ∃ format f, Holds text .format format ∧ Format.parse format = .ok f
  | 5 => ∃ code, Holds text .pairCode code ∧ (String.ofList code).utf8ByteSize ≤ 16
  | _ => True

theorem Fault.not_inOrder (fault : Fault text cause) : ¬InOrder text cause.place := by
  cases fault with
  | @missing field none =>
    cases field with
    | pairCode | port | format =>
      rintro ⟨value, there⟩
      exact none value there
  | invalidPort there other =>
    rintro ⟨port, n, also, number, fits⟩
    cases there.unique also
    exact absurd fits (Nat.not_le.mpr (other n number))
  | format there refused =>
    rintro ⟨format, f, also, shape⟩
    cases there.unique also
    cases refused.symm.trans shape
  | longPairCode there long =>
    rintro ⟨code, also, short⟩
    cases there.unique also
    omega

def Clear (text : List Char) (n : Nat) : Prop := ∀ cause, Fault text cause → n ≤ cause.place

theorem clear_zero (text : List Char) : Clear text 0 := fun _ _ => Nat.zero_le _

theorem Clear.next (clear : Clear text n) (inOrder : InOrder text n) : Clear text (n + 1) := by
  intro cause fault
  have other : n ≠ cause.place := by
    rintro rfl
    exact fault.not_inOrder inOrder
  exact Nat.lt_of_le_of_ne (clear cause fault) other

theorem Clear.sound (clear : Clear text 6) (cause : ConfigError) : ¬Fault text cause := by
  intro fault
  have late := clear cause fault
  cases fault with
  | @missing field none => cases field <;> simp [ConfigError.place] at late
  | invalidPort | format | longPairCode => simp [ConfigError.place] at late

theorem field_of_place {field other : ConfigField}
    (same : (ConfigError.missing field).place = (ConfigError.missing other).place) : field = other := by
  revert same
  cases field <;> cases other <;> decide

theorem Fault.unique {other : ConfigError} (fault : Fault text cause) (also : Fault text other)
    (same : cause.place = other.place) : cause = other := by
  cases fault with
  | @missing field none =>
    cases also with
    | @missing field' none' => rw [field_of_place same]
    | invalidPort | format | longPairCode => cases field <;> cases same
  | invalidPort there _ =>
    cases also with
    | @missing field none => cases field <;> cases same
    | invalidPort there' _ => rw [there.unique there']
    | format | longPairCode => cases same
  | format there refused =>
    cases also with
    | @missing field none => cases field <;> cases same
    | format there' refused' =>
      cases there.unique there'
      cases refused.symm.trans refused'
      rfl
    | invalidPort | longPairCode => cases same
  | longPairCode there _ =>
    cases also with
    | @missing field none => cases field <;> cases same
    | longPairCode there' _ => rw [there.unique there']
    | invalidPort | format => cases same

theorem FirstFault.unique {other : ConfigError} (first : FirstFault text cause)
    (also : FirstFault text other) : cause = other :=
  first.1.unique also.1 (Nat.le_antisymm (first.2 other also.1) (also.2 cause first.1))

end Faults

section Reading

variable {text : List Char}

theorem validate_read {code format : List Char} {f : Format} (port : UInt16) (filled : code ≠ [])
    (shape : Format.parse format = .ok f) :
    validate ⟨String.ofList code, port, f⟩ =
      if 16 < (String.ofList code).utf8ByteSize then
        .error (.longPairCode (String.ofList code).utf8ByteSize)
      else .ok () := by
  have nonempty : (String.ofList code).isEmpty = false := by simpa using filled
  rw [validate, if_neg (by simp [nonempty]), Format.valid_of_parse shape]
  rfl

theorem describes_of_holds {code port format : List Char} {n : Nat} {f : Format}
    (first : Holds text .pairCode code) (second : Holds text .port port)
    (third : Holds text .format format) (short : (String.ofList code).utf8ByteSize ≤ 16)
    (number : Numeral port n) (fits : n ≤ 65535) (shape : Format.parse format = .ok f) :
    Describes text ⟨String.ofList code, .ofNat n, f⟩ := by
  obtain ⟨codeRead, codeFilled⟩ := holds_iff.mp first
  obtain ⟨portRead, portFilled⟩ := holds_iff.mp second
  obtain ⟨formatRead, formatFilled⟩ := holds_iff.mp third
  match split : lines text with
  | first :: second :: third :: others =>
    simp only [split, ConfigField.line, List.map_cons, List.getElem?_cons_zero,
      List.getElem?_cons_succ, Option.some.injEq] at codeRead portRead formatRead
    exact .threeLines (Text.lines_eq_iff.mp split) (Text.trim_eq_iff.mp codeRead)
      (Text.trim_eq_iff.mp portRead) (Text.trim_eq_iff.mp formatRead) codeFilled portFilled
      formatFilled short number fits shape
  | [] | [_] | [_, _] => simp [split, ConfigField.line] at formatRead

theorem parse_eq (text : List Char) :
    parse text = (do
      let code ← reading text .pairCode
      let port ← reading text .port
      match numeral? 65535 port with
      | none => .error (.invalidPort port)
      | some n => do
        let format ← reading text .format
        let f ← (Format.parse format).mapError .format
        let c : Config := ⟨String.ofList code, .ofNat n, f⟩
        c.validate
        return c) := by
  refine bind_congr fun code => bind_congr fun port => ?_
  cases numeral? 65535 port <;> rfl

theorem parse_of_holds {code port format : List Char} {n : Nat} {f : Format}
    (first : Holds text .pairCode code) (second : Holds text .port port)
    (third : Holds text .format format) (number : numeral? 65535 port = some n)
    (shape : Format.parse format = .ok f) :
    let c : Config := ⟨String.ofList code, .ofNat n, f⟩
    parse text = c.validate.map fun _ => c := by
  simp only [parse_eq, reading_of_holds first, reading_of_holds second, reading_of_holds third, number,
    shape, bind, Except.bind, Except.mapError, Except.map]
  rfl

theorem parse_of_describes {c : Config} (describes : Describes text c) : parse text = .ok c := by
  cases describes with
  | threeLines lined codeLine portLine formatLine codeFilled portFilled formatFilled short number fits
      shape =>
    rw [parse_of_holds ⟨_, _, lined, rfl, codeLine, codeFilled⟩ ⟨_, _, lined, rfl, portLine, portFilled⟩
      ⟨_, _, lined, rfl, formatLine, formatFilled⟩ (numeral?_eq_some_iff.mpr ⟨number, fits⟩) shape,
      validate_read _ codeFilled shape, if_neg (Nat.not_lt.mpr short)]
    rfl

/-- A text is read as what it describes if nothing is wrong with it, or else refused for its first
fault. -/
theorem parse_cases (text : List Char) :
    (∃ c, parse text = .ok c ∧ Describes text c ∧ ∀ cause, ¬Fault text cause) ∨
      ∃ cause, parse text = .error cause ∧ FirstFault text cause := by
  -- The exits are taken one after the other; what has been passed clears the places up to the next.
  have clear := clear_zero text
  obtain ⟨code, first⟩ | ⟨fault, refused⟩ := reading_cases text .pairCode
  case inr => exact .inr ⟨_, by rw [parse_eq, refused]; rfl, fault, clear⟩
  replace clear := clear.next ⟨code, first⟩
  obtain ⟨port, second⟩ | ⟨fault, refused⟩ := reading_cases text .port
  case inr => exact .inr ⟨_, by rw [parse_eq, reading_of_holds first, refused]; rfl, fault, clear⟩
  replace clear := clear.next ⟨port, second⟩
  cases number : numeral? 65535 port with
  | none =>
    have other : ∀ n, Numeral port n → 65535 < n := by
      intro n numeral
      by_contra small
      cases number.symm.trans (numeral?_eq_some_iff.mpr ⟨numeral, Nat.not_lt.mp small⟩)
    refine .inr ⟨.invalidPort port, ?_, .invalidPort second other, clear⟩
    simp only [parse_eq, reading_of_holds first, reading_of_holds second, number, bind, Except.bind]
  | some n =>
    obtain ⟨numeral, fits⟩ := numeral?_eq_some_iff.mp number
    replace clear := clear.next ⟨port, n, second, numeral, fits⟩
    obtain ⟨format, third⟩ | ⟨fault, refused⟩ := reading_cases text .format
    case inr =>
      refine .inr ⟨.missing .format, ?_, fault, clear⟩
      simp only [parse_eq, reading_of_holds first, reading_of_holds second, number, refused, bind,
        Except.bind]
    replace clear := clear.next ⟨format, third⟩
    cases shape : Format.parse format with
    | error e =>
      refine .inr ⟨.format e, ?_, .format third shape, clear⟩
      simp only [parse_eq, reading_of_holds first, reading_of_holds second, number,
        reading_of_holds third, shape, bind, Except.bind, Except.mapError]
    | ok f =>
      replace clear := clear.next ⟨format, f, third, shape⟩
      have read := parse_of_holds first second third number shape
      simp only [validate_read (.ofNat n) (holds_iff.mp first).2 shape] at read
      by_cases long : 16 < (String.ofList code).utf8ByteSize
      · rw [if_pos long] at read
        exact .inr ⟨_, read, .longPairCode first long, clear⟩
      · rw [if_neg long] at read
        have short := Nat.not_lt.mp long
        exact .inl ⟨_, read, describes_of_holds first second third short numeral fits shape,
          (clear.next ⟨code, first, short⟩).sound⟩

theorem parse_eq_ok_iff {c : Config} : parse text = .ok c ↔ Describes text c := by
  refine ⟨fun read => ?_, parse_of_describes⟩
  obtain ⟨found, found_eq, describes, -⟩ | ⟨cause, refused, -⟩ := parse_cases text
  · cases read.symm.trans found_eq
    exact describes
  · cases read.symm.trans refused

theorem parse_eq_error_iff {cause : ConfigError} : parse text = .error cause ↔ FirstFault text cause := by
  obtain ⟨found, found_eq, -, sound⟩ | ⟨first, refused, isFirst⟩ := parse_cases text
  · rw [found_eq]
    exact ⟨nofun, fun isFirst => absurd isFirst.1 (sound cause)⟩
  · rw [refused]
    constructor
    · intro same
      cases same
      exact isFirst
    · intro also
      rw [isFirst.unique also]

theorem parse_of_lined {other first second third : List Char} {others others' : List (List Char)}
    (lined : Lined text (first :: second :: third :: others))
    (also : Lined other (first :: second :: third :: others')) : parse text = parse other := by
  simp only [parse_eq, reading_of_lined lined, reading_of_lined also]

end Reading

theorem read_file (text : String) : (Place.file text.toUTF8.toList).read = .ok text := by
  rw [Place.read, fromUTF8?_toUTF8]

theorem outcome_of_read {place : Place} {text : String} (read : place.read = .ok text) (path : String)
    (random : Nat) :
    (loadOrCreate path random place).outcome = match parse text.toList with
      | .ok c => .ok ⟨c, true⟩
      | .error cause => .error cause.asStream := by
  unfold loadOrCreate
  rw [read]
  simp only
  cases parse text.toList <;> rfl

/-- A text on file is loaded if and only if it describes a configuration, and then as this one. If it
is not loaded, the error is the first of its faults. What stands behind the third line has no say. -/
theorem loads_what_is_described (path : String) (random : Nat) :
    let load (text : String) := (loadOrCreate path random (.file text.toUTF8.toList)).outcome
    (∀ text loaded, load text = .ok loaded ↔
      loaded.persisted = true ∧ Describes text.toList loaded.config) ∧
    (∀ text e, load text = .error e ↔
      ∃ cause, FirstFault text.toList cause ∧ e = cause.asStream) ∧
    ∀ (text other : String) (first second third : List Char) (others others' : List (List Char)),
      Lined text.toList (first :: second :: third :: others) →
      Lined other.toList (first :: second :: third :: others') → load text = load other := by
  intro load
  refine ⟨?_, ?_, ?_⟩
  · intro text loaded
    obtain ⟨config, persisted⟩ := loaded
    simp only [load, outcome_of_read (read_file _), ← parse_eq_ok_iff]
    cases parse text.toList with
    | ok c => simp [and_comm, eq_comm]
    | error cause => simp
  · intro text e
    simp only [load, outcome_of_read (read_file _), ← parse_eq_error_iff]
    cases parse text.toList with
    | ok c => simp
    | error cause => simp [eq_comm]
  · intro text other first second third others others' lined also
    simp only [load, outcome_of_read (read_file _), parse_of_lined lined also]

/-- A code of three characters and four bytes, both line ends, a sign, a zero in front and a depth that
is put right. The file loads as it would without its last line. -/
theorem loads_what_is_described_with_more :
    let load (text : String) := (loadOrCreate "config.ini" 0 (.file text.toUTF8.toList)).outcome
    let text := "\u3000pär\u00a0\r\n +05540\nfloat 16 44100 \r\nmore\n"
    let other := "\u3000pär\u00a0\r\n +05540\nfloat 16 44100 \r\n"
    let c : Config := ⟨"pär", 5540, ⟨.float, 32, 44100⟩⟩
    let first := "\u3000pär\u00a0".toList
    let second := " +05540".toList
    let third := "float 16 44100 ".toList
    Lined text.toList [first, second, third, "more".toList] ∧ Lined other.toList [first, second, third] ∧
      load text = load other ∧ load other = .ok ⟨c, true⟩ ∧ Describes other.toList c := by
  intro load text other c first second third
  obtain ⟨exactly, -, alike⟩ := loads_what_is_described "config.ini" 0
  have lined : Lined text.toList [first, second, third, "more".toList] :=
    Text.lines_eq_iff.mp (by decide +kernel)
  have also : Lined other.toList [first, second, third] := Text.lines_eq_iff.mp (by decide +kernel)
  have read : parse other.toList = .ok c := by
    have value : (parse other.toList).toOption = some c := by decide +kernel
    cases loads : parse other.toList <;> rw [loads] at value <;> cases value
    rfl
  have describes : Describes other.toList c := parse_eq_ok_iff.mp read
  exact ⟨lined, also, alike text other first second third _ [] lined also,
    (exactly other ⟨c, true⟩).mpr ⟨rfl, describes⟩, describes⟩

end Config

end PairedAudio
