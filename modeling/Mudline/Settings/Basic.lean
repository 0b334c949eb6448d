import Mudline.Script.State

/-!
# Settings

What the user can set: where scripts are kept, which creatures are left out of the list of those in
the room, and how scripts run. The user can also set shared variables beforehand.
-/

namespace Mudline

/-- The settings of a session. -/
structure Settings where
  /-- The folder that scripts are kept in. -/
  scriptsDir : Text := "scripts"
  /-- What the names of their files end in, after a point. -/
  scriptExtension : Text := "cmd"
  /-- The expression for creatures that are left out. -/
  ignored : Option Text := none
  /-- How many rounds the replacement of references takes at most. -/
  maxPasses : Nat := 16
  /-- How long a pause takes that does not say it. -/
  pauseDefault : Duration := .ofWholeSeconds 1
  deriving DecidableEq, Repr

/-- The settings of the scripts of a session. -/
def Settings.forScripts (s : Settings) : Script.Settings :=
  { maxPasses := s.maxPasses, pauseDefault := s.pauseDefault }

/-- Settings and the shared variables that are set beforehand. -/
structure Configuration where
  /-- The settings. -/
  settings : Settings := {}
  /-- The variables. -/
  presets : Store := {}
  deriving DecidableEq, Repr

end Mudline
