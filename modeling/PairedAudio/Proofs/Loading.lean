import PairedAudio.Proofs.FileText

/-! Loading, and what becomes of the file.

Where anything stands at the path of the configuration file, loading reads it and never writes: it may
be the only record of a pairing code that clients know. Where nothing stands there a new configuration
is made, and loading succeeds even if it cannot be saved. Once saved, it is what loading finds from
then on.
-/

set_option autoImplicit false

namespace PairedAudio.Config

def Place.isThere : Place → Bool
  | file _ | directory | unreadable _ => true
  | absent | orphan | sealed _ => false

/-- What stands at a path, and every text that was to be written there, also in vain. -/
structure Disk where
  place : Place
  writes : List String
  deriving DecidableEq

namespace Disk

def readFile : StateM Disk (Except ReadFailure String) := fun disk => (disk.place.read, disk)

def writeFile (text : String) : StateM Disk (Except OsError Unit) := fun disk =>
  let writes := disk.writes ++ [text]
  match disk.place.write text with
  | .ok place => (.ok (), ⟨place, writes⟩)
  | .error e => (.error e, ⟨disk.place, writes⟩)

end Disk

def load (path : String) (random : Nat) : StateM Disk (Except StreamError Loaded) := do
  match ← Disk.readFile with
  | .ok text =>
    match parse text.toList with
    | .ok c => return .ok ⟨c, true⟩
    | .error cause => return .error cause.asStream
  | .error .notFound =>
    let c := fresh random
    match ← Disk.writeFile c.fileText with
    | .ok () => return .ok ⟨c, true⟩
    | .error _ => return .ok ⟨c, false⟩
  | .error e => return .error (.configuration s!"failed to read {path}: {e.message}")

section Step

variable {place : Place} (path : String) (random : Nat)

theorem read_eq_ok_iff {text : String} : place.read = .ok text ↔ place = .file text.toUTF8.toList := by
  constructor
  · intro read
    cases place with
    | file bytes =>
      simp only [Place.read, String.fromUTF8?] at read
      split at read
      · rename_i found decoded
        cases read
        split at decoded <;> cases decoded
        exact congrArg Place.file (toList_bytes ⟨bytes.toArray⟩).symm
      · cases read
    | directory | unreadable | absent | orphan | sealed => cases read
  · rintro rfl
    exact read_file text

/-- The calls are those of loading, and they write only where nothing is. -/
theorem load_eq (disk : Disk) :
    load path random disk =
      let loading := loadOrCreate path random disk.place
      (loading.outcome, ⟨loading.place,
        if disk.place.isThere then disk.writes else disk.writes ++ [(fresh random).fileText]⟩) := by
  obtain ⟨place, writes⟩ := disk
  cases place with
  | file bytes =>
    simp only [load, loadOrCreate, Disk.readFile, Place.read, bind, StateT.bind]
    cases String.fromUTF8? ⟨bytes.toArray⟩ with
    | none => rfl
    | some text => cases parsed : parse text.toList <;> simp only [parsed] <;> rfl
  | directory | unreadable | absent | orphan | sealed => rfl

inductive Ends (random : Nat) (place : Place) : Loading → Prop
  | loaded {text : String} {c : Config} {log : List Line} (stands : place = .file text.toUTF8.toList)
      (describes : Describes text.toList c) : Ends random place ⟨.ok ⟨c, true⟩, place, log⟩
  | refused {message : String} {log : List Line} (there : place.isThere = true)
      (undescribed : ∀ text : String, place = .file text.toUTF8.toList → ∀ c, ¬Describes text.toList c) :
      Ends random place ⟨.error (.configuration message), place, log⟩
  | created {log : List Line} (absent : place.isThere = false) :
      Ends random place
        ⟨.ok ⟨fresh random, true⟩, .file (fresh random).fileText.toUTF8.toList, log⟩
  | unsaved {log : List Line} (absent : place.isThere = false) :
      Ends random place ⟨.ok ⟨fresh random, false⟩, place, log⟩

theorem ends (place : Place) : Ends random place (loadOrCreate path random place) := by
  cases place with
  | file bytes =>
    cases read : (Place.file bytes).read with
    | ok text =>
      have stands := read_eq_ok_iff.mp read
      unfold loadOrCreate
      simp only [read]
      cases parsed : parse text.toList with
      | ok c => exact .loaded stands (parse_eq_ok_iff.mp parsed)
      | error cause =>
        refine .refused rfl fun other stands' c describes => ?_
        -- The bytes are those of one text only, and this text is refused.
        cases read.symm.trans (read_eq_ok_iff.mpr stands')
        cases parsed.symm.trans (parse_eq_ok_iff.mpr describes)
    | error failure =>
      have undescribed (text : String) (stands : Place.file bytes = .file text.toUTF8.toList)
          (c : Config) : ¬Describes text.toList c := by
        cases read.symm.trans (read_eq_ok_iff.mpr stands)
      unfold loadOrCreate
      simp only [read]
      cases failure with
      | system e | notText => exact .refused rfl undescribed
      | notFound =>
        simp only [Place.read] at read
        split at read <;> cases read
  | directory | unreadable =>
    refine .refused rfl ?_
    rintro _ ⟨⟩
  | absent => exact .created rfl
  | orphan | sealed => exact .unsaved rfl

variable {random} {loading : Loading}

theorem Ends.of_there (ended : Ends random place loading) (there : place.isThere = true) :
    (∀ loaded, loading.outcome = .ok loaded ↔ loaded.persisted = true ∧
      ∃ text : String, place = .file text.toUTF8.toList ∧ Describes text.toList loaded.config) ∧
    ∀ e, loading.outcome = .error e → ∃ message, e = .configuration message := by
  cases ended with
  | loaded stands describes =>
    refine ⟨fun loaded => ⟨?_, ?_⟩, nofun⟩
    · rintro ⟨⟩
      exact ⟨rfl, _, stands, describes⟩
    · rintro ⟨persisted, other, stands', describes'⟩
      cases (read_eq_ok_iff.mpr stands).symm.trans (read_eq_ok_iff.mpr stands')
      cases (parse_of_describes describes).symm.trans (parse_of_describes describes')
      exact congrArg _ (congrArg _ persisted.symm)
  | refused _ undescribed =>
    refine ⟨fun loaded => ⟨nofun, ?_⟩, ?_⟩
    · rintro ⟨-, text, stands, describes⟩
      cases undescribed text stands _ describes
    · rintro _ ⟨⟩
      exact ⟨_, rfl⟩
  | created absent | unsaved absent => cases absent.symm.trans there

theorem Ends.of_absent (ended : Ends random place loading) (absent : place.isThere = false) :
    ∃ persisted, loading.outcome = .ok ⟨fresh random, persisted⟩ ∧
      (persisted = true ↔ loading.place = .file (fresh random).fileText.toUTF8.toList) ∧
      (persisted = false ↔ loading.place = place) := by
  have unlike {bytes : List UInt8} : place ≠ .file bytes := by
    rintro rfl
    cases absent
  cases ended with
  | loaded stands => cases unlike stands
  | refused there => cases absent.symm.trans there
  | created => exact ⟨true, rfl, iff_of_true rfl rfl, iff_of_false nofun unlike.symm⟩
  | unsaved => exact ⟨false, rfl, iff_of_false nofun unlike, iff_of_true rfl rfl⟩

end Step

/-- A configuration as it is made when there is none: a code of six digits, and the usual port and
format. -/
structure IsDefault (c : Config) : Prop where
  valid : c.validate = .ok ()
  length : c.pairCode.length = 6
  digits : ∀ x ∈ c.pairCode.toList, x.isDigit
  port : c.port = 5540
  format : c.format = ⟨.pcm, 16, 48000⟩

theorem isDefault_fresh (n : Nat) : IsDefault (fresh n) where
  valid := (valid_fresh n).1
  length := by rw [fresh, pairCodeOfNumber, String.length_ofList, length_code]
  digits x present := by
    rw [fresh, pairCodeOfNumber, String.toList_ofList] at present
    exact isDigit_of_mem_zeroPadded x present
  port := rfl
  format := rfl

def loads (path : String) : List Nat → StateM Disk (List (Except StreamError Loaded))
  | [] => return []
  | random :: rest => return (← load path random) :: (← loads path rest)

section Runs

variable {disk : Disk} (path : String) (random : Nat)

theorem load_there (there : disk.place.isThere = true) :
    load path random disk = ((loadOrCreate path random disk.place).outcome, disk) := by
  rw [load_eq, if_pos there]
  have ends := ends path random disk.place
  generalize loadOrCreate path random disk.place = loading at ends
  cases ends with
  | loaded | refused => rfl
  | created absent => cases absent.symm.trans there
  | unsaved absent => cases absent.symm.trans there

theorem loads_described {text : String} {c : Config} (stands : disk.place = .file text.toUTF8.toList)
    (describes : Describes text.toList c) (randoms : List Nat) :
    loads path randoms disk = (randoms.map fun _ => .ok ⟨c, true⟩, disk) := by
  have once (random : Nat) : load path random disk = (.ok ⟨c, true⟩, disk) := by
    rw [load_there path random (by rw [stands]; rfl), stands, outcome_of_read (read_file text),
      parse_of_describes describes]
  -- Over the loadings: the file is there after each of them as it was before.
  induction randoms with
  | nil => rfl
  | cons random rest ih =>
    simp only [loads, bind, StateT.bind, once, ih]
    rfl

end Runs

/-- Loading writes only where nothing stands. What stands there is left as it is, to the byte; it is
loaded if it is a file with a text that describes a configuration, and otherwise there is an error of
configuration. Where nothing stands loading always gives a default configuration, after one attempt to
write it, and calls it persisted if and only if it is on file now; from then on it is what every loading
gives. -/
theorem loading_spares_files (path : String) (random : Nat) (disk : Disk) :
    let loading := loadOrCreate path random disk.place
    let after := (load path random disk).2
    ((load path random disk).1 = loading.outcome ∧ after.place = loading.place) ∧
    (disk.place.isThere = true → after = disk ∧
      (∀ loaded, loading.outcome = .ok loaded ↔ loaded.persisted = true ∧
        ∃ text : String, disk.place = .file text.toUTF8.toList ∧ Describes text.toList loaded.config) ∧
      ∀ e, loading.outcome = .error e → ∃ message, e = .configuration message) ∧
    (disk.place.isThere = false → ∃ c persisted, loading.outcome = .ok ⟨c, persisted⟩ ∧
      IsDefault c ∧ after.writes = disk.writes ++ [c.fileText] ∧
      (persisted = true ↔ after.place = .file c.fileText.toUTF8.toList) ∧
      (persisted = false ↔ after.place = disk.place) ∧
      (persisted = true → ∀ randoms, loads path randoms after =
        (randoms.map fun _ => .ok ⟨c, true⟩, after))) := by
  intro loading after
  have called := load_eq path random disk
  have ended : Ends random disk.place loading := ends path random disk.place
  refine ⟨⟨congrArg Prod.fst called, congrArg (·.2.place) called⟩, fun there => ?_, fun absent => ?_⟩
  · exact ⟨congrArg Prod.snd (load_there path random there), ended.of_there there⟩
  · have reached : after = ⟨loading.place, disk.writes ++ [(fresh random).fileText]⟩ := by
      simp only [after, loading, called, absent, Bool.false_eq_true, if_false]
    obtain ⟨persisted, given, saved, unsaved⟩ := ended.of_absent absent
    rw [reached]
    refine ⟨fresh random, persisted, given, isDefault_fresh random, rfl, saved, unsaved, fun kept => ?_⟩
    -- What was written is read back as what it was written from.
    exact loads_described path (saved.mp kept)
      (parse_eq_ok_iff.mp (parse_fileText (valid_fresh random).1 (valid_fresh random).2))

/-- A file that is not text is left alone; a configuration made where nothing is lasts. -/
theorem loading_spares_files_broken_then_absent :
    (load "config" 7 ⟨.file [0x37, 0xff], []⟩).2 = ⟨.file [0x37, 0xff], []⟩ ∧
    (∃ message,
      (loadOrCreate "config" 7 (.file [0x37, 0xff])).outcome = .error (.configuration message)) ∧
    (load "config" 7 ⟨.absent, []⟩).2.place = .file (fresh 7).fileText.toUTF8.toList ∧
    (loads "config" [1, 2] (load "config" 7 ⟨.absent, []⟩).2).1 =
      [.ok ⟨fresh 7, true⟩, .ok ⟨fresh 7, true⟩] := by
  obtain ⟨-, broken, -⟩ := loading_spares_files "config" 7 ⟨.file [0x37, 0xff], []⟩
  obtain ⟨untouched, -, refused⟩ := broken rfl
  obtain ⟨message, named⟩ := refused _ rfl
  obtain ⟨-, -, absent⟩ := loading_spares_files "config" 7 ⟨.absent, []⟩
  obtain ⟨c, persisted, given, -, -, saved, -, lasts⟩ := absent rfl
  cases given
  exact ⟨untouched, ⟨message, congrArg Except.error named⟩, saved.mp rfl,
    congrArg Prod.fst (lasts rfl [1, 2])⟩

end PairedAudio.Config
