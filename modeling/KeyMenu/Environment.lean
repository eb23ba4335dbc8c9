import KeyMenu.Table

/-!
# Environments

An environment gives texts to names. It is handed to every process; four of its variables also
speak to this program: the shell to use (`shellName`), what an invalid key does (`policyName`), how
much is logged (`logName`) and where configurations are kept (`configHomeName`).
-/

namespace KeyMenu

/-- The variables that a process is given. -/
abbrev Environment := Table Text

namespace Environment

/-- Names the shell for commands that ask for none. -/
def shellName : Text := "DT_DEFAULT_SHELL".toList

/-- Names the policy for invalid keys. -/
def policyName : Text := "DT_ON_INVALID_KEY".toList

/-- Names the log level. -/
def logName : Text := "DT_LOG".toList

/-- Names the directory of configurations. -/
def configHomeName : Text := "XDG_CONFIG_HOME".toList

/-- The value of a variable, if it has one that is not empty. -/
def filled? (e : Environment) (name : Text) : Option Text :=
  (Table.get? e name).filter (!·.isEmpty)

/-- The environment overlaid with values. -/
def overlay (e : Environment) (values : Table Text) : Environment := Table.putAll e values

end Environment

end KeyMenu
