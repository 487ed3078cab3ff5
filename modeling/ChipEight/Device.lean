/-!
# Failures of the world outside

Files, readers and drawing surfaces fail for reasons of their own. The machine passes the reason
on as it was given.
-/

namespace ChipEight

inductive DeviceFault where
  | notFound
  | notFolder
  | isFolder
  | nameTooLong
  | notUtf8
  | other (text : String)
deriving DecidableEq

def DeviceFault.message : DeviceFault → String
  | .notFound    => "No such file or directory (os error 2)"
  | .notFolder   => "Not a directory (os error 20)"
  | .isFolder    => "Is a directory (os error 21)"
  | .nameTooLong => "File name too long (os error 36)"
  | .notUtf8     => "stream did not contain valid UTF-8"
  | .other text  => text

end ChipEight
