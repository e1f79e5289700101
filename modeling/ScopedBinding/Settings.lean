import ScopedBinding.Act

/-!
# The release policy of a process

The policy is decided once. `Settings.current` reads the environment variable when the policy is
first needed and keeps it from then on; `Settings.install` decides it earlier, and is refused
afterwards.
-/

set_option autoImplicit false

namespace ScopedBinding.Settings

variable {η ε : Type}

/-- The policy that the environment variable selects now. -/
def fromVariable : Act η ε ReleasePolicy := do
  let s ← Act.settings
  let (policy, warnings) := ReleasePolicy.ofVariable s.content
  warnings.forM Act.log
  pure policy

/-- The policy of the process, which is decided now if it was not before. -/
def current : Act η ε ReleasePolicy := do
  match (← Act.settings).active with
  | some policy => pure policy
  | none =>
    let policy ← fromVariable
    Act.setSettings { (← Act.settings) with active := some policy }
    pure policy

/-- Decides the policy, or reports the one that is already decided. -/
def install (policy : ReleasePolicy) : Act η ε (Except ReleasePolicy Unit) := do
  let s ← Act.settings
  match s.active with
  | some active => pure (.error active)
  | none =>
    Act.setSettings { s with active := some policy }
    pure (.ok ())

/-- Changes the content of the environment variable. -/
def setVariable (content : Option (List UInt8)) : Act η ε Unit := do
  Act.setSettings { (← Act.settings) with content := content }

end ScopedBinding.Settings
