/-!
# Files

Why a file cannot be read as text, in the words in which the operating system says so.
-/

set_option autoImplicit false
set_option relaxedAutoImplicit false

namespace SmartCard

/-- Why a file cannot be read as text. -/
inductive FileFault where
  | missing
  | denied
  | notFolder
  | isFolder
  | nameTooLong
  | notText
  deriving DecidableEq, Repr

namespace FileFault

/-- The wording of a fault. -/
def message : FileFault → String
  | .missing => "No such file or directory (os error 2)"
  | .denied => "Permission denied (os error 13)"
  | .notFolder => "Not a directory (os error 20)"
  | .isFolder => "Is a directory (os error 21)"
  | .nameTooLong => "File name too long (os error 36)"
  | .notText => "stream did not contain valid UTF-8"

end FileFault

end SmartCard
