import PairedAudio.Config.File
import PairedAudio.Proofs.Text

/-! What is saved for a configuration, and what is loaded from it.

A file holds the pairing code, the port and the format on a line each, so a code comes back as it was
unless a line feed or white space at its ends is lost on the way. Everything else that is loaded comes
back in any case, for loading judges a configuration as it was read.
-/

set_option autoImplicit false

namespace PairedAudio

open Text (Bare decimal digits isWhite lines numeral? trim words)

theorem toList_loop_eq (bytes : ByteArray) (i : Nat) (read : List UInt8) :
    ByteArray.toList.loop bytes i read = read.reverse ++ bytes.data.toList.drop i := by
  induction i, read using ByteArray.toList.loop.induct bytes with
  | case1 i read before ih =>
    have next : bytes.data.toList.drop i = bytes.data[i] :: bytes.data.toList.drop (i + 1) := by
      rw [List.drop_eq_getElem_cons (by simpa using before)]
      rfl
    rw [ByteArray.toList.loop, if_pos before, ih, next]
    simp [ByteArray.get!, before]
  | case2 i read behind =>
    have none : bytes.data.toList.drop i = [] := List.drop_of_length_le (by simpa using behind)
    rw [ByteArray.toList.loop, if_neg behind, none, List.append_nil]

theorem toList_bytes (bytes : ByteArray) : bytes.toList = bytes.data.toList := by
  rw [ByteArray.toList, toList_loop_eq]
  rfl

theorem fromUTF8?_toUTF8 (text : String) :
    String.fromUTF8? ⟨text.toUTF8.toList.toArray⟩ = some text := by
  have same : (⟨text.toUTF8.toList.toArray⟩ : ByteArray) = text.toUTF8 := by
    rw [toList_bytes]
  rw [same]
  exact dif_pos text.isValidUTF8

namespace Audio.Format

theorem toList_text (f : Format) :
    f.text.toList =
      f.encoding.name.toList ++ ' ' :: (digits f.bits.toNat ++ ' ' :: digits f.rate.toNat) := by
  simp [text, decimal, toString]

theorem solid_name (e : Encoding) (c : Char) (present : c ∈ e.name.toList) : isWhite c = false := by
  have solid : e.name.toList.all (fun c => !isWhite c) = true := by cases e <;> decide
  simpa using List.all_eq_true.mp solid c present

theorem words_text (f : Format) :
    words f.text.toList = [f.encoding.name.toList, digits f.bits.toNat, digits f.rate.toNat] := by
  have named : f.encoding.name.toList ≠ [] := by cases f.encoding <;> decide
  have filled (n : Nat) : digits n ≠ [] := Text.digits_ne_nil n
  have solid (n : Nat) : ∀ c ∈ digits n, isWhite c = false := fun c => Text.isWhite_of_mem_digits
  rw [toList_text, Text.words_append_white _ named (solid_name _) (by decide),
    Text.words_append_white _ (filled _) (solid _) (by decide), Text.words_of_solid (filled _) (solid _)]

theorem bits_of_float {f : Format} (valid : f.validate = .ok ()) (float : f.encoding = .float) :
    f.bits = 32 := by
  simp only [validate, float] at valid
  split at valid
  · cases valid
  split at valid
  · assumption
  · cases valid

theorem parse_text {f : Format} (valid : f.validate = .ok ()) : parse f.text.toList = .ok f := by
  have named : Encoding.ofName? f.encoding.name.toList = some f.encoding := by
    cases f.encoding <;> decide
  have depth : numeral? 65535 (digits f.bits.toNat) = some f.bits.toNat :=
    Text.numeral?_digits 65535 _ (by have := f.bits.toNat_lt; omega)
  have rate : numeral? 4294967295 (digits f.rate.toNat) = some f.rate.toNat :=
    Text.numeral?_digits 4294967295 _ (by have := f.rate.toNat_lt; omega)
  rw [parse, words_text]
  simp only [ofWords, depth, rate, named, UInt16.ofNat_toNat, UInt32.ofNat_toNat]
  obtain ⟨encoding, bits, rate⟩ := f
  cases encoding with
  | pcm =>
    rw [valid]
    rfl
  | float =>
    -- Whatever is written is read as 32, and a valid format has nothing else to write.
    obtain rfl : bits = 32 := bits_of_float valid rfl
    rw [valid]
    rfl

theorem bare_text (f : Format) : Bare f.text.toList := by
  constructor
  · intro c first
    rw [toList_text] at first
    cases encoding : f.encoding <;> rw [encoding] at first <;> cases first <;> decide
  · intro c last
    have filled := Text.digits_ne_nil f.rate.toNat
    have parts : f.text.toList =
        (f.encoding.name.toList ++ ' ' :: digits f.bits.toNat ++ [' ']) ++ digits f.rate.toNat := by
      simp [toList_text]
    rw [parts, List.getLast?_append, List.getLast?_eq_some_getLast filled] at last
    cases last
    exact Text.isWhite_of_mem_digits (List.getLast_mem filled)

theorem lineFeed_not_mem_text (f : Format) : '\n' ∉ f.text.toList := by
  have numbers (n : Nat) : '\n' ∉ digits n := Text.not_mem_of_solid fun c => Text.isWhite_of_mem_digits
  have name := Text.not_mem_of_solid (solid_name f.encoding)
  simp [toList_text, numbers, name]

end Audio.Format

namespace Config

variable {c : Config} {text : List Char}

/-- No line feed in a code, and no white space at either end of it. -/
def Tidy (code : String) : Prop := '\n' ∉ code.toList ∧ Bare code.toList

theorem required_ok_iff {field : ConfigField} {line : Option (List Char)} {value : List Char} :
    required field line = .ok value ↔ line = some value ∧ value ≠ [] := by
  match line with
  | none => simp [required]
  | some [] =>
    simp only [required, reduceCtorEq, Option.some.injEq, false_iff, not_and]
    exact fun empty filled => filled empty.symm
  | some (c :: rest) =>
    simp only [required, Except.ok.injEq, Option.some.injEq]
    refine ⟨?_, And.left⟩
    rintro rfl
    simp

theorem ok_of_bind {ε α β : Type} {x : Except ε α} {next : α → Except ε β} {b : β}
    (done : (x >>= next) = .ok b) : ∃ a, x = .ok a ∧ next a = .ok b := by
  cases x with
  | error e => cases done
  | ok a => exact ⟨a, rfl, done⟩

/-- What loading reads as a code is a trimmed line, and what it has read it judges. -/
theorem valid_of_parse (loads : parse text = .ok c) : c.validate = .ok () ∧ Tidy c.pairCode := by
  unfold parse at loads
  obtain ⟨code, first, loads⟩ := ok_of_bind loads
  obtain ⟨portText, second, loads⟩ := ok_of_bind loads
  cases number : numeral? 65535 portText with
  | none =>
    simp only [number] at loads
    cases loads
  | some n =>
    simp only [number, pure_bind] at loads
    obtain ⟨formatText, third, loads⟩ := ok_of_bind loads
    obtain ⟨format, shape, loads⟩ := ok_of_bind loads
    obtain ⟨done, valid, loads⟩ := ok_of_bind loads
    cases loads
    obtain ⟨line, present, rfl⟩ : ∃ line ∈ lines text, trim line = code := by
      have trimmed : code ∈ (lines text).map trim := List.mem_of_getElem? (required_ok_iff.mp first).1
      exact List.mem_map.mp trimmed
    refine ⟨valid, ?_, ?_⟩
    · rw [String.toList_ofList]
      exact fun broken => Text.not_mem_of_mem_lines present (Text.mem_of_mem_trim broken)
    · rw [String.toList_ofList]
      exact Text.bare_trim line

theorem toList_fileText (c : Config) :
    c.fileText.toList =
      c.pairCode.toList ++
        '\n' :: (digits c.port.toNat ++ '\n' :: (c.format.text.toList ++ ['\n'])) := by
  simp [fileText, decimal, toString]

theorem getLast?_ne_return {line : List Char} (bare : Bare line) : line.getLast? ≠ some '\r' := by
  intro last
  have black := bare.2 _ last
  revert black
  decide

theorem bare_digits (n : Nat) : Bare (digits n) := .of_solid fun _ => Text.isWhite_of_mem_digits

theorem lines_fileText (tidy : Tidy c.pairCode) :
    lines c.fileText.toList = [c.pairCode.toList, digits c.port.toNat, c.format.text.toList] := by
  have number : '\n' ∉ digits c.port.toNat := Text.not_mem_of_solid fun _ => Text.isWhite_of_mem_digits
  have shape := c.format.bare_text
  rw [toList_fileText, Text.lines_append_lineFeed _ tidy.1 (getLast?_ne_return tidy.2),
    Text.lines_append_lineFeed _ number (getLast?_ne_return (bare_digits _)),
    Text.lines_append_lineFeed _ c.format.lineFeed_not_mem_text (getLast?_ne_return shape)]
  rfl

theorem valid_parts (valid : c.validate = .ok ()) :
    c.pairCode.toList ≠ [] ∧ c.format.validate = .ok () := by
  unfold validate at valid
  split at valid
  · cases valid
  rename_i filled
  split at valid
  · cases valid
  refine ⟨fun empty => filled ?_, ?_⟩
  · rw [String.toList_eq_nil_iff.mp empty]
    rfl
  · cases judged : c.format.validate with
    | ok done => rfl
    | error e =>
      rw [judged] at valid
      cases valid

theorem parse_fileText (valid : c.validate = .ok ()) (tidy : Tidy c.pairCode) :
    parse c.fileText.toList = .ok c := by
  obtain ⟨code, shape⟩ := valid_parts valid
  have number : numeral? 65535 (digits c.port.toNat) = some c.port.toNat :=
    Text.numeral?_digits 65535 _ (by have := c.port.toNat_lt; omega)
  have trimmed : (lines c.fileText.toList).map trim =
      [c.pairCode.toList, digits c.port.toNat, c.format.text.toList] := by
    simp [lines_fileText tidy, Text.trim_of_bare, tidy.2, bare_digits, c.format.bare_text]
  have first : required .pairCode (some c.pairCode.toList) = .ok c.pairCode.toList :=
    required_ok_iff.mpr ⟨rfl, code⟩
  have second : required .port (some (digits c.port.toNat)) = .ok (digits c.port.toNat) :=
    required_ok_iff.mpr ⟨rfl, Text.digits_ne_nil _⟩
  have third : required .format (some c.format.text.toList) = .ok c.format.text.toList :=
    required_ok_iff.mpr ⟨rfl, by simp [Audio.Format.toList_text]⟩
  have format : (Audio.Format.parse c.format.text.toList).mapError ConfigError.format =
      .ok c.format := by
    rw [Audio.Format.parse_text shape]
    rfl
  unfold parse
  simp only [trimmed, List.getElem?_cons_zero, List.getElem?_cons_succ, first, second, third, number,
    format, bind, Except.bind, pure, Except.pure, String.ofList_toList, UInt16.ofNat_toNat, valid]

theorem read_saved {path : String} {before after : Place} (saved : save path c before = .ok after) :
    after.read = .ok c.fileText := by
  have written : after = .file c.fileText.toUTF8.toList := by
    cases before <;> cases saved <;> rfl
  rw [written, Place.read, fromUTF8?_toUTF8]

theorem outcome_saved {path : String} {before after : Place} (saved : save path c before = .ok after)
    (random : Nat) :
    (loadOrCreate path random after).outcome = match parse c.fileText.toList with
      | .ok config => .ok ⟨config, true⟩
      | .error e => .error e.asStream := by
  unfold loadOrCreate
  rw [read_saved saved]
  simp only
  cases parse c.fileText.toList <;> rfl

theorem reloads_iff {path : String} {before after : Place} (saved : save path c before = .ok after)
    (random : Nat) :
    (loadOrCreate path random after).outcome = .ok ⟨c, true⟩ ↔
      c.validate = .ok () ∧ Tidy c.pairCode := by
  rw [outcome_saved saved]
  constructor
  · intro same
    cases loads : parse c.fileText.toList with
    | error e =>
      rw [loads] at same
      cases same
    | ok found =>
      rw [loads] at same
      cases same
      exact valid_of_parse loads
  · rintro ⟨valid, tidy⟩
    rw [parse_fileText valid tidy]

section Fresh

theorem isDigit_of_mem_zeroPadded {width n : Nat} : ∀ c ∈ Text.zeroPadded width n, c.isDigit := by
  intro c present
  rcases List.mem_append.mp present with zero | digit
  · rw [List.eq_of_mem_replicate zero]
    rfl
  · exact Text.isDigit_of_mem_digits n c digit

theorem length_code (n : Nat) : (Text.zeroPadded 6 (n % 1000000)).length = 6 := by
  have short : (digits (n % 1000000)).length ≤ 5 + 1 :=
    Text.length_digits_le (Nat.mod_lt n (by decide))
  rw [Text.zeroPadded, List.length_append, List.length_replicate]
  omega

theorem valid_fresh (n : Nat) : (fresh n).validate = .ok () ∧ Tidy (fresh n).pairCode := by
  have digit : ∀ c ∈ Text.zeroPadded 6 (n % 1000000), c.isDigit := isDigit_of_mem_zeroPadded
  have solid : ∀ c ∈ (fresh n).pairCode.toList, isWhite c = false := by
    intro c present
    rw [fresh, pairCodeOfNumber, String.toList_ofList] at present
    exact Text.isWhite_of_isDigit (digit c present)
  have size : (fresh n).pairCode.utf8ByteSize = 6 := by
    rw [fresh, pairCodeOfNumber, Text.utf8ByteSize_of_digits digit, length_code]
  have filled : (fresh n).pairCode.isEmpty = false := by
    rw [String.isEmpty_eq_utf8ByteSize_beq_zero, size]
    rfl
  constructor
  · rw [validate, size, filled]
    rfl
  · exact ⟨Text.not_mem_of_solid solid, .of_solid solid⟩

end Fresh

theorem valid_of_load {path : String} {random : Nat} {place : Place} {loaded : Loaded}
    (loads : (loadOrCreate path random place).outcome = .ok loaded) :
    loaded.config.validate = .ok () ∧ Tidy loaded.config.pairCode := by
  unfold loadOrCreate at loads
  cases read : place.read with
  | ok text =>
    simp only [read] at loads
    cases parsed : parse text.toList with
    | ok config =>
      simp only [parsed] at loads
      cases loads
      exact valid_of_parse parsed
    | error e =>
      simp only [parsed] at loads
      cases loads
  | error failure =>
    cases failure with
    | notFound =>
      simp only [read] at loads
      split at loads <;> cases loads <;> exact valid_fresh random
    | system e | notText =>
      simp only [read] at loads
      cases loads

/-- What is saved for a configuration is loaded as this very configuration exactly if it is valid and
its code has no line feed in it and no white space at its ends. Whatever loading gives is such a
configuration, and so is a new installation's, which is loaded again from where it was created. -/
theorem file_round_trip (path : String) :
    (∀ (c : Config) (before after : Place) (random : Nat), save path c before = .ok after →
      ((loadOrCreate path random after).outcome = .ok ⟨c, true⟩ ↔
        c.validate = .ok () ∧ '\n' ∉ c.pairCode.toList ∧
          (∀ x ∈ c.pairCode.toList.head?, isWhite x = false) ∧
          ∀ x ∈ c.pairCode.toList.getLast?, isWhite x = false)) ∧
    (∀ (place : Place) (random : Nat) (loaded : Loaded),
      (loadOrCreate path random place).outcome = .ok loaded →
        loaded.config.validate = .ok () ∧
        ∀ (before after : Place) (again : Nat), save path loaded.config before = .ok after →
          (loadOrCreate path again after).outcome = .ok ⟨loaded.config, true⟩) ∧
    ∀ random again : Nat,
      (∀ before after : Place, save path (fresh random) before = .ok after →
        (loadOrCreate path again after).outcome = .ok ⟨fresh random, true⟩) ∧
      (loadOrCreate path random .absent).outcome = .ok ⟨fresh random, true⟩ ∧
      (loadOrCreate path again (loadOrCreate path random .absent).place).outcome =
        .ok ⟨fresh random, true⟩ := by
  refine ⟨fun c before after random saved => reloads_iff saved random, ?_, ?_⟩
  · intro place random loaded loads
    obtain ⟨valid, tidy⟩ := valid_of_load loads
    exact ⟨valid, fun before after again saved => (reloads_iff saved again).mpr ⟨valid, tidy⟩⟩
  · intro random again
    have reloads (before after : Place) (saved : save path (fresh random) before = .ok after) :
        (loadOrCreate path again after).outcome = .ok ⟨fresh random, true⟩ :=
      (reloads_iff saved again).mpr (valid_fresh random)
    exact ⟨reloads, rfl, reloads .absent _ rfl⟩

/-- A code of six digits comes back. One that ends its line early is valid too, and its file is that of
another valid configuration. -/
theorem file_round_trip_line_feed :
    let path := "config.ini"
    let plain : Config := fresh 771203
    let broken : Config := ⟨"7\n8\npcm 24 8000", defaultPort, .standard⟩
    let other : Config := ⟨"7", 8, ⟨.pcm, 24, 8000⟩⟩
    let file (c : Config) : Place := .file c.fileText.toUTF8.toList
    (save path plain .absent = .ok (file plain) ∧
      (loadOrCreate path 0 (file plain)).outcome = .ok ⟨plain, true⟩) ∧
    save path broken .absent = .ok (file broken) ∧ broken.validate = .ok () ∧
      (loadOrCreate path 0 (file broken)).outcome ≠ .ok ⟨broken, true⟩ ∧
    (loadOrCreate path 0 (file broken)).outcome = .ok ⟨other, true⟩ ∧
      save path other .absent = .ok (file other) ∧
      (loadOrCreate path 0 (file other)).outcome = .ok ⟨other, true⟩ := by
  intro path plain broken other file
  obtain ⟨exactly, stays, -⟩ := file_round_trip path
  have found : parse broken.fileText.toList = .ok other := by
    have value : (parse broken.fileText.toList).toOption = some other := by decide +kernel
    cases loads : parse broken.fileText.toList <;> rw [loads] at value <;> cases value
    rfl
  have saved : save path broken .absent = .ok (file broken) := rfl
  have mistaken : (loadOrCreate path 0 (file broken)).outcome = .ok ⟨other, true⟩ := by
    rw [outcome_saved saved, found]
  refine ⟨⟨rfl, (exactly plain .absent _ 0 rfl).mpr (valid_fresh 771203)⟩, saved, rfl, ?_, mistaken,
    rfl, ?_⟩
  · intro same
    have whole := ((exactly broken .absent _ 0 rfl).mp same).2.1
    revert whole
    decide +kernel
  · exact (stays _ 0 _ mistaken).2 .absent _ 0 rfl

end Config

end PairedAudio
