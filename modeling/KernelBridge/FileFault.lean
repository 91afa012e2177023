/-!
# File faults

What can keep a program from reading or writing a file, in the words of the system.

## Main definitions

* `FileFault` — the faults
* `FileFault.message` — their texts
-/

namespace KernelBridge

/-- Why a file could not be read or written. -/
inductive FileFault where
  | notFound
  | notDirectory
  | isDirectory
  | nameTooLong
  /-- There is no device behind its name. -/
  | noDevice
  /-- The device is full. -/
  | noSpace
  /-- The contents are no UTF-8. -/
  | notText
  /-- Any other fault, in the words of the system. -/
  | other (description : String)
  deriving DecidableEq, Repr

def FileFault.message : FileFault → String
  | notFound => "No such file or directory (os error 2)"
  | notDirectory => "Not a directory (os error 20)"
  | isDirectory => "Is a directory (os error 21)"
  | nameTooLong => "File name too long (os error 36)"
  | noDevice => "No such device or address (os error 6)"
  | noSpace => "No space left on device (os error 28)"
  | notText => "stream did not contain valid UTF-8"
  | other description => description

/-- The text of a file's bytes. -/
def textOfBytes (bytes : ByteArray) : Except FileFault String :=
  match String.fromUTF8? bytes with
  | some text => .ok text
  | none => .error .notText

end KernelBridge
