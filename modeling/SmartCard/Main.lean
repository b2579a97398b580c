import SmartCard.Campaign.Draws
import SmartCard.CommandLine

/-!
# The program

Input and output of the command line: the files named in the arguments are read beforehand, and
the texts of the outcome are printed. Campaigns draw from a seed.
-/

set_option autoImplicit false
set_option relaxedAutoImplicit false

namespace SmartCard.CommandLine

/-- What a failure of the system says of a file. -/
def faultOf : IO.Error → FileFault
  | .noFileOrDirectory .. => .missing
  | .permissionDenied .. => .denied
  | .inappropriateType _ code _ => if code = 20 then .notFolder else .isFolder
  | .invalidArgument _ code _ => if code = 36 then .nameTooLong else .notText
  | _ => .notText

/-- Reads a file as text. -/
def readText (path : String) : IO (Except FileFault String) := do
  try
    return .ok (← IO.FS.readFile ⟨path⟩)
  catch error =>
    return .error (faultOf error)

/-- The files that the arguments name, with their contents. -/
def readArguments (arguments : List String) : IO (List (String × Except FileFault String)) :=
  match arguments with
  | "run" :: configPath :: scriptPath :: _ => do
    return [(configPath, ← readText configPath), (scriptPath, ← readText scriptPath)]
  | _ => return []

end SmartCard.CommandLine

/-- Runs the program. -/
def main (arguments : List String) : IO UInt32 := do
  let files ← SmartCard.CommandLine.readArguments arguments
  let readFile (path : String) : Except SmartCard.FileFault String :=
    (files.lookup path).getD (.error .missing)
  let outcome := SmartCard.CommandLine.run SmartCard.CampaignPlan.draw readFile arguments
  for line in outcome.output do
    IO.println line
  for line in outcome.errors do
    IO.eprintln line
  return UInt32.ofNat outcome.code
