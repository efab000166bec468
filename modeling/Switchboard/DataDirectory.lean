/-!
# The data directory

Settings, history and configuration lie in the program's own directory, below the base directory
for user data. A base directory that is not absolute does not count.
-/

set_option autoImplicit false

namespace Switchboard

/-- The path starts at the root. -/
def isAbsolutePath (path : String) : Bool := path.toList.head? == some '/'

/-- The path of an entry of a directory. -/
def joinPath (directory name : String) : String :=
  match directory.toList.getLast? with
  | none => name
  | some '/' => directory ++ name
  | some _ => directory ++ "/" ++ name

/-- The home directory: the given one, or that of the account if none is given or an empty one. -/
def homeDirectory (account : String) (given : Option String) : String :=
  (given.filter (!·.isEmpty)).getD account

/-- The base directory for user data: the given one if it is absolute, or else the usual place
below the home directory. -/
def userDataBase (home : String) (given : Option String) : String :=
  match given.filter isAbsolutePath with
  | some base => base
  | none => joinPath (joinPath home ".local") "share"

/-- The directory that holds the program's data. -/
def dataDirectory (home : String) (given : Option String) : String :=
  joinPath (userDataBase home given) "codex-switch"

/-- Without an absolute base directory, the data lies below the home directory. -/
theorem userDataBase_of_relative {home : String} {given : Option String}
    (h : given.filter isAbsolutePath = none) :
    userDataBase home given = joinPath (joinPath home ".local") "share" := by
  simp [userDataBase, h]

end Switchboard
