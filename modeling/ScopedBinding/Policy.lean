import ScopedBinding.Log
import ScopedBinding.Text.Blank
import ScopedBinding.Text.Utf8

/-!
# What happens when a dropped guard cannot restore

A guard that is dropped gives its saved value back, and there is nobody to tell if it cannot. The
`ReleasePolicy` says whether that is a panic or only a log message. It is read from the content of
an environment variable: one of five words, in letters of either case and with white space around
it. Anything else gets a warning and leaves the policy at `ReleasePolicy.panic`.
-/

set_option autoImplicit false

namespace ScopedBinding

/-- What a guard does that was dropped and could not restore. -/
inductive ReleasePolicy where
  | panic
  | log
  deriving DecidableEq

namespace ReleasePolicy

/-- The word for a policy. -/
def word : ReleasePolicy → String
  | panic => "panic"
  | log => "log"

/-- The name of a policy in texts that list fields. -/
def distinct : ReleasePolicy → String
  | panic => "Panic"
  | log => "Log"

/-- The text of the settings that hold this policy. -/
def settingsText (p : ReleasePolicy) : String :=
  "RebindConfig \x7b release_failure: " ++ p.distinct ++ " \x7d"

/-- The policy that a specification names. -/
def parse? (spec : String) : Option ReleasePolicy :=
  let word := Text.lowerAscii (Text.trim spec)
  if word = "panic" ∨ word = "abort" ∨ word = "strict" then some panic
  else if word = "log" ∨ word = "warn" then some log
  else none

/-- The environment variable that names the policy. -/
def variableName : String := "REBIND_RELEASE_FAILURE"

/-- The warning about a specification that names no policy. -/
def unrecognised (spec : String) : LogMessage :=
  ⟨.warn, "rebind::config", "unrecognised " ++ variableName,
    [("value", spec), ("fallback", word panic)]⟩

/-- The policy that the content of the variable selects, with the warnings about it. Without the
variable the policy is `panic`. -/
def ofVariable : Option (List UInt8) → ReleasePolicy × List LogMessage
  | none => (panic, [])
  | some bytes =>
    let spec := Text.decodeLossy bytes
    match parse? spec with
    | some p => (p, [])
    | none => (panic, [unrecognised spec])

end ReleasePolicy

end ScopedBinding
