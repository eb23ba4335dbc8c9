import KeyMenu.Environment
import KeyMenu.Text.Blank

/-!
# What an invalid key does

Typed keys that no entry allows are forgotten, or lead back to the root menu, or end the session.
-/

namespace KeyMenu

/-- What an invalid key does. -/
inductive InvalidKeyPolicy
  | stay
  | reset
  | exit
  deriving DecidableEq

/-- A policy that does not exist. -/
structure UnknownPolicy where
  value : Text
  deriving DecidableEq

namespace InvalidKeyPolicy

/-- The name of a policy. -/
def name : InvalidKeyPolicy → Text
  | .stay => "stay".toList
  | .reset => "reset".toList
  | .exit => "exit".toList

/-- All policies. -/
def all : List InvalidKeyPolicy := [.stay, .reset, .exit]

/-- The policy of exactly that name. -/
def named? (t : Text) : Option InvalidKeyPolicy := all.find? (·.name == t)

theorem named?_name (p : InvalidKeyPolicy) : named? p.name = some p := by
  cases p <;> decide

/-- Reads the name of a policy, in either case and with white space around it. -/
def ofText (t : Text) : Except UnknownPolicy InvalidKeyPolicy :=
  match named? (t.strip.map Char.toLower) with
  | some policy => .ok policy
  | none => .error ⟨t⟩

/-- The policy: what the argument says, or else the environment, and keys are forgotten where
neither says anything. -/
def choose (argument : Option Text) (environ : Environment) :
    Except UnknownPolicy InvalidKeyPolicy :=
  match (argument.filter (!·.isEmpty)).or (environ.filled? Environment.policyName) with
  | some value => ofText value
  | none => .ok .stay

end InvalidKeyPolicy

/-- The complaint about a policy that does not exist. -/
def UnknownPolicy.message (e : UnknownPolicy) : Text :=
  "Invalid key policy '".toList ++ e.value ++ "' (choose from ".toList ++
    Text.joinWith ", ".toList (InvalidKeyPolicy.all.map (·.name)) ++ [')']

end KeyMenu
