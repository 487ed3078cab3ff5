import ChipEight.Program.Delivery
import ChipEight.Program.Listing

/-!
# Stored programs

A stored program is a file of bytes, either the program itself or a listing of it in UTF-8. A path
leads to a file through folders; `.` stays in a folder, `..` leaves it for the one above, and empty
parts of a path stand for nothing.
-/

namespace ChipEight

/-- What a program file holds. -/
inductive Rom.Format where
  | binary
  | hexWords
deriving DecidableEq

/-- The text of bytes in UTF-8. -/
def utf8Text (bytes : List UInt8) : Except DeviceFault String :=
  match String.fromUTF8? ⟨bytes.toArray⟩ with
  | some text => .ok text
  | none      => .error .notUtf8

/-- The program in a file, given what reading the file yields. -/
def Rom.ofFile (format : Rom.Format) (file : Except DeviceFault (List UInt8)) :
    Except Rom.Fault Rom :=
  match format with
  | .binary => do ofBytes (← file.mapError .device)
  | .hexWords => do ofListing (← (file >>= utf8Text).mapError .device)

/-! ### Files by path -/

/-- A folder that holds files only, by name. -/
structure Folder where
  files : List (String × List UInt8)

namespace Folder

/-- Any folder outside. No file is known to be there. -/
def outside : Folder := ⟨[]⟩

/-- How many bytes a file's name has at most. -/
def nameLimit : Nat := 255

/-- How many bytes a path has at most. -/
def pathLimit : Nat := 4095

/-- What the parts of a path lead to. -/
def walk (f : Folder) : List String → Except DeviceFault (List UInt8)
  | []           => .error .isFolder
  | "." :: rest  => walk f rest
  | ".." :: rest => walk outside rest
  | name :: rest =>
    if nameLimit < name.utf8ByteSize then .error .nameTooLong
    else match f.files.lookup name with
      | none       => .error .notFound
      | some bytes => if rest.isEmpty then .ok bytes else .error .notFolder

/-- What reading a path yields. A path that starts with a slash leads from outside, and one that
ends with a slash asks for a folder. -/
def read (f : Folder) (path : String) : Except DeviceFault (List UInt8) :=
  let parts := (path.toList.splitOnP (· = '/')).map String.ofList
  let names := parts.filter (· ≠ "") ++ if parts.getLast? = some "" then ["."] else []
  if path = "" then .error .notFound
  else if pathLimit < path.utf8ByteSize then .error .nameTooLong
  else if parts.head? = some "" then walk outside names
  else walk f names

end Folder

end ChipEight
