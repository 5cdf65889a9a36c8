import PairedAudio.Config
import PairedAudio.Log
import PairedAudio.Text.Lines

/-! The configuration file: three lines with the pairing code, the port and the format. A file is
created with a fresh configuration where there is none, and never touched where there is one. -/

set_option autoImplicit false

namespace PairedAudio.Config

open Text (decimal lines numeral? trim)

def fileText (c : Config) : String :=
  s!"{c.pairCode}\n{decimal c.port.toNat}\n{c.format.text}\n"

def required (field : ConfigField) : Option (List Char) → Except ConfigError (List Char)
  | some (c :: rest) => .ok (c :: rest)
  | _ => .error (.missing field)

/-- Reads the first three lines without the white space around them. The pairing code is judged
last, when the other two have been read. -/
def parse (text : List Char) : Except ConfigError Config := do
  let values := (lines text).map trim
  let pairCode ← required .pairCode values[0]?
  let portText ← required .port values[1]?
  let port ← match numeral? 65535 portText with
    | some n => pure (UInt16.ofNat n)
    | none => throw (.invalidPort portText)
  let formatText ← required .format values[2]?
  let format ← (Audio.Format.parse formatText).mapError ConfigError.format
  let config : Config := ⟨String.ofList pairCode, port, format⟩
  config.validate
  return config

inductive Place
  | file (bytes : List UInt8)
  | directory
  | unreadable (error : OsError)
  /-- Nothing, in a directory that takes new files. -/
  | absent
  /-- Nothing, and no directory either. -/
  | orphan
  /-- Nothing, in a directory that refuses new files. -/
  | sealed (error : OsError)
  deriving DecidableEq, Repr

inductive ReadFailure
  | notFound
  | system (error : OsError)
  | notText
  deriving DecidableEq, Repr

namespace Place

def read : Place → Except ReadFailure String
  | file bytes => match String.fromUTF8? ⟨bytes.toArray⟩ with
    | some text => .ok text
    | none => .error .notText
  | directory => .error (.system .isDirectory)
  | unreadable e => .error (.system e)
  | absent | orphan | sealed _ => .error .notFound

def write (text : String) : Place → Except OsError Place
  | file _ | absent => .ok (file text.toUTF8.toList)
  | directory => .error .isDirectory
  | unreadable e | sealed e => .error e
  | orphan => .error .notFound

end Place

def ReadFailure.message : ReadFailure → String
  | notFound => OsError.notFound.message
  | system e => e.message
  | notText => "stream did not contain valid UTF-8"

structure Loaded where
  config : Config
  persisted : Bool
  deriving DecidableEq, Repr

/-- The outcome of loading: the configuration or an error, the place afterwards, and a log line. -/
structure Loading where
  outcome : Except StreamError Loaded
  place : Place
  log : List Line

def saveError (path : String) (e : OsError) : StreamError :=
  .configuration s!"failed to write {path}: {e.message}"

def save (path : String) (c : Config) (place : Place) : Except StreamError Place :=
  (place.write c.fileText).mapError (saveError path)

/-- Reads the file at a path, or creates one from a random number. -/
def loadOrCreate (path : String) (random : Nat) (place : Place) : Loading :=
  match place.read with
  | .ok text =>
    match parse text.toList with
    | .ok config => ⟨.ok ⟨config, true⟩, place, [.info s!"loaded configuration from {path}"]⟩
    | .error e => ⟨.error e.asStream, place, []⟩
  | .error .notFound =>
    let config := fresh random
    match save path config place with
    | .ok place => ⟨.ok ⟨config, true⟩, place, [.info s!"created configuration at {path}"]⟩
    | .error e =>
      ⟨.ok ⟨config, false⟩, place, [.warn (s!"could not write {path} ({e.message}); pair code " ++
        s!"{config.pairCode} is valid for this session only")]⟩
  | .error e => ⟨.error (.configuration s!"failed to read {path}: {e.message}"), place, []⟩

end PairedAudio.Config
