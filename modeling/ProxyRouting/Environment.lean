import ProxyRouting.Unicode.CaseMap

/-!
# Environment variables

A variable whose value is not a text counts as missing, so an environment is a partial function
from names to texts.
-/

namespace ProxyRouting

abbrev Environment := String → Option String

namespace Environment

def empty : Environment := fun _ => none

/-- The environment of a list of names and values; of two with one name the first counts. -/
def ofList (values : List (String × String)) : Environment := fun name =>
  values.lookup name

/-- The environment of variables whose values are bytes. -/
def ofBytes (values : String → Option ByteArray) : Environment := fun name =>
  (values name).bind String.fromUTF8?

/-- A variable by its name in lower case or, if there is none, in upper case. -/
def ignoringCase (env : Environment) (name : String) : Option String :=
  (env (String.ofList (Unicode.lowercaseOf name.toList))).orElse fun _ =>
    env (String.ofList (Unicode.uppercaseOf name.toList))

end Environment

end ProxyRouting
