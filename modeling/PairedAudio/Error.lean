import PairedAudio.Text.Numeral

/-! Everything that can go wrong, by cause, and the one wording of each cause. Codec errors describe
a single bad datagram or an unusable buffer; capture errors come from an audio backend; stream
errors are what the server reports, and carry the other two. -/

set_option autoImplicit false

namespace PairedAudio

open Text (decimal signedDecimal)

structure OsError where
  number : Nat
  deriving DecidableEq, Repr

namespace OsError

def connectionReset : OsError := ⟨104⟩
def addressInUse : OsError := ⟨98⟩
def notFound : OsError := ⟨2⟩
def isDirectory : OsError := ⟨21⟩

def reason : Nat → String
  | 1 => "Operation not permitted"
  | 2 => "No such file or directory"
  | 5 => "Input/output error"
  | 9 => "Bad file descriptor"
  | 11 => "Resource temporarily unavailable"
  | 12 => "Cannot allocate memory"
  | 13 => "Permission denied"
  | 21 => "Is a directory"
  | 24 => "Too many open files"
  | 89 => "Destination address required"
  | 90 => "Message too long"
  | 97 => "Address family not supported by protocol"
  | 98 => "Address already in use"
  | 99 => "Cannot assign requested address"
  | 100 => "Network is down"
  | 101 => "Network is unreachable"
  | 104 => "Connection reset by peer"
  | 105 => "No buffer space available"
  | 113 => "No route to host"
  | n => "Unknown error " ++ decimal n

def message (e : OsError) : String := s!"{reason e.number} (os error {decimal e.number})"

end OsError

inductive CipherInput
  | key
  | iv
  deriving DecidableEq, Repr

def CipherInput.name : CipherInput → String
  | key => "key"
  | iv => "iv"

inductive Malformation
  | shortDatagram (length : Nat)
  | unalignedCiphertext (length : Nat)
  | settingsLength (length : Nat)
  | commandLength (length : Nat)
  | clientPort (value : Int)
  deriving DecidableEq, Repr

namespace Malformation

def message : Malformation → String
  | shortDatagram n => s!"datagram of {decimal n} bytes is shorter than 17"
  | unalignedCiphertext n => s!"ciphertext length {decimal n} is not a positive multiple of 16"
  | settingsLength n => s!"stream settings must be 28 bytes, got {decimal n}"
  | commandLength n => s!"command packet must be 4 bytes, got {decimal n}"
  | clientPort value => s!"invalid client port {signedDecimal value}"

end Malformation

inductive CodecError
  | lengthMismatch (what : CipherInput) (actual : Nat)
  | missingIv
  | bufferTooSmall (needed available : Nat)
  | malformed (why : Malformation)
  | invalidPadding (length : UInt8)
  | unknownCommand (code : Int32)
  deriving DecidableEq, Repr

namespace CodecError

def message : CodecError → String
  | lengthMismatch what actual =>
    s!"{what.name} length mismatch: expected 16 bytes, got {decimal actual}"
  | missingIv => "no IV armed for this operation"
  | bufferTooSmall needed available =>
    s!"output buffer too small: need {decimal needed} bytes, have {decimal available}"
  | malformed why => s!"malformed packet: {why.message}"
  | invalidPadding length => s!"invalid padding length {decimal length.toNat}"
  | unknownCommand code => s!"unknown command code {signedDecimal code.toInt}"

end CodecError

inductive CaptureError
  | deviceNotAvailable
  | configurationFailed (text : String)
  | invalidFormat (text : String)
  | unknown (text : String)
  deriving DecidableEq, Repr

namespace CaptureError

def message : CaptureError → String
  | deviceNotAvailable => "device not available"
  | configurationFailed text => s!"configuration failed: {text}"
  | invalidFormat text => s!"invalid audio format: {text}"
  | unknown text => s!"unknown error: {text}"

end CaptureError

inductive StreamError
  | configuration (text : String)
  | transport (context : String) (source : OsError)
  | decode (source : CodecError)
  | device (source : CaptureError)
  | send (source : OsError)
  deriving DecidableEq, Repr

namespace StreamError

def message : StreamError → String
  | configuration text => s!"configuration error: {text}"
  | transport context source => s!"transport error ({context}): {source.message}"
  | decode source => s!"decode error: {source.message}"
  | device source => s!"capture device error: {source.message}"
  | send source => s!"send failed: {source.message}"

end StreamError

end PairedAudio
