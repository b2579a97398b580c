import SmartCard.Applet.Code
import SmartCard.Applet.InstallParams

/-!
# Applets

An applet is the code that the card runs on four occasions. Everything an applet wants to keep
lives in arrays of the card, so the code itself does not change while the applet is installed.
Whether it may be selected on several channels is asked outside the containment of applet code, so
here it is no code but part of the applet. Factories build applets during installation, and a
catalog lists factories by name.
-/

set_option autoImplicit false
set_option relaxedAutoImplicit false

namespace SmartCard

structure Applet (σ : Type) where
  /-- Handles one command. A failure discards the response. -/
  process : Handler σ Unit
  /-- Runs when the applet becomes selected; `false` refuses the selection. -/
  select : Program (services σ) Bool := .done true
  /-- Runs when the applet stops being selected. -/
  deselect : Program (services σ) Unit := .done ()
  /-- Runs once before the applet is removed. -/
  uninstall : Program (services σ) Unit := .done ()
  /-- Whether the applet may be selected on several channels at once. The answer is assumed to come
  without a crash and to be the same whenever it is asked for. -/
  multiSelectable : Bool := false

/-- Builds an applet inside its fresh context. The code has to register the applet. -/
abbrev Factory (σ : Type) : Type :=
  InstallParams → Hook σ (Applet σ)

/-- Factories under the names of their classes, in the order of the names. -/
structure Catalog (σ : Type) where
  factories : List (String × Factory σ)

namespace Catalog

variable {σ : Type}

/-- The factory of a class. -/
def find? (catalog : Catalog σ) (name : String) : Option (Factory σ) :=
  catalog.factories.lookup name

/-- The names of the classes. -/
def classes (catalog : Catalog σ) : List String :=
  catalog.factories.map (·.1)

end Catalog

end SmartCard
