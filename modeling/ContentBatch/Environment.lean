/-!
# The environment

The variables that a program is started with.
-/

namespace ContentBatch

/-- The variables of the environment with their texts. -/
abbrev Environment := List (String × String)

namespace Environment

/-- The text of a variable, if it is set. -/
def get? (environment : Environment) (name : String) : Option String :=
  environment.lookup name

end Environment

end ContentBatch
