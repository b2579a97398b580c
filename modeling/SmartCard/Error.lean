import SmartCard.Aid
import SmartCard.Exchange
import SmartCard.Memory.Error
import SmartCard.Text.Quoted

/-!
# What can end applet code early

Applet code fails with a status word of its own choice or with the failure of something it asked
for. None of this reaches the sender of a command: it sees the status word of the failure.
-/

set_option autoImplicit false
set_option relaxedAutoImplicit false

namespace SmartCard

/-- Why an applet cannot be installed, registered or found. -/
inductive RegistryError where
  | duplicateAid (aid : Aid)
  | notRegistered
  | alreadyRegistered (aid : Aid)
  | notInstalling
  | registryFull (capacity : Nat)
  | contextsExhausted
  | unknownAid (aid : Aid)
  | unknownClass (name : String)
  | malformedInstallParams
  | installDataTooLong (length : Nat)
  deriving DecidableEq

/-- The wording of a refusal. -/
def RegistryError.message : RegistryError → String
  | .duplicateAid aid => s!"AID {aid} is already registered"
  | .notRegistered => "applet did not register during installation"
  | .alreadyRegistered aid => s!"applet already registered as {aid}"
  | .notInstalling => "register is only legal during installation"
  | .registryFull capacity => s!"applet registry full ({capacity} applets)"
  | .contextsExhausted => "no context identifiers left"
  | .unknownAid aid => s!"no applet registered as {aid}"
  | .unknownClass name => "no applet class named " ++ Text.quoted name
  | .malformedInstallParams => "malformed install parameters"
  | .installDataTooLong length => s!"install data of {length} bytes exceeds 255"

inductive CardError where
  | status (word : StatusWord)
  | exchange (error : ExchangeError)
  | memory (error : MemoryError)
  | transaction (error : TransactionError)
  | registry (error : RegistryError)
  | aid (error : AidError)
  /-- Applet code crashed with a text. -/
  | uncaught (text : String)
  deriving DecidableEq

namespace CardError

/-- The wording of a failure. -/
def message : CardError → String
  | .status word => s!"status {word}"
  | .exchange error => error.message
  | .memory error => error.message
  | .transaction error => error.message
  | .registry error => error.message
  | .aid error => error.message
  | .uncaught text => "uncaught applet failure: " ++ text

/-- The status word that the sender of a command sees. -/
def statusWord : CardError → StatusWord
  | .status word => word
  | .exchange (.badLength _ _) => .wrongLength
  | .memory (.securityViolation _ _) => .securityStatusNotSatisfied
  | _ => .unknown

/-- Whether the failure is a loss of power. -/
def isTear : CardError → Bool
  | .transaction .torn => true
  | .memory (.journal .torn) => true
  | _ => false

end CardError

end SmartCard
