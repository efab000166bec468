import Switchboard.Snapshot
import Switchboard.Text.Casing

/-!
# Which profile an identity belongs to

Identities and profiles are compared by three keys: workspace id, workspace name and e-mail, white
space at the ends and case ignored. Five rules, strongest first, say which keys must agree
(`Rule.all`). A rule decides when exactly one profile obeys it: `matchIdentity` is the verdict of
the first rule that decides.
-/

set_option autoImplicit false

namespace Switchboard

/-- A value as it is compared: trimmed and in lower case; a blank one is absent. -/
def normalizeValue (value : Option String) : Option String :=
  let text := Text.lower (Text.trim (value.getD ""))
  if text.isEmpty then none else some text

/-- The three values by which accounts are compared. -/
structure AccountKey where
  workspaceId : Option String
  workspaceName : Option String
  email : Option String
  deriving DecidableEq

/-- The key of an account. The name on the screen stands in for a workspace name that is absent,
not for a blank one. -/
def AccountKey.of (workspaceId workspaceName email : Option String) (displayWorkspace : String) :
    AccountKey where
  workspaceId := normalizeValue workspaceId
  workspaceName := normalizeValue (workspaceName <|> some displayWorkspace)
  email := normalizeValue email

/-- The key of a profile. -/
def Profile.key (p : Profile) : AccountKey :=
  .of p.workspaceId p.workspaceName p.email p.displayWorkspace

/-- The key of a live identity. -/
def Identity.key (i : Identity) : AccountKey :=
  .of i.workspaceId i.workspaceName i.email i.displayWorkspace

/-- Both values are present and equal. -/
def agree (a b : Option String) : Bool := a.isSome && a == b

/-- The keys that must agree. -/
inductive Rule where
  | idAndEmail
  | id
  | nameAndEmail
  | name
  | email
  deriving DecidableEq, Repr

namespace Rule

/-- All rules, strongest first. -/
def all : List Rule := [idAndEmail, id, nameAndEmail, name, email]

/-- The keys agree as the rule demands. -/
def holds (r : Rule) (wanted candidate : AccountKey) : Bool :=
  match r with
  | idAndEmail =>
    agree wanted.workspaceId candidate.workspaceId && agree wanted.email candidate.email
  | id => agree wanted.workspaceId candidate.workspaceId
  | nameAndEmail =>
    agree wanted.workspaceName candidate.workspaceName && agree wanted.email candidate.email
  | name => agree wanted.workspaceName candidate.workspaceName
  | email => agree wanted.email candidate.email

/-- The one profile that obeys the rule, if exactly one does. -/
def verdict (r : Rule) (wanted : AccountKey) (profiles : List Profile) : Option Profile :=
  match profiles.filter fun p => r.holds wanted p.key with
  | [p] => some p
  | _ => none

end Rule

/-- The profile that the identity belongs to without doubt. -/
def matchProfile (profiles : List Profile) (i : Identity) : Option Profile :=
  Rule.all.findSome? fun r => r.verdict i.key profiles

/-- The name of the profile that the identity belongs to without doubt. -/
def matchIdentity (profiles : List Profile) (i : Identity) : Option String :=
  (matchProfile profiles i).map (·.name)

/-- The best name for the live identity: the profile that it belongs to, or else the one
remembered, or else the one that the backend has as active. -/
def resolveProfile (profiles : List Profile) (current : Option Identity)
    (remembered active : Option String) : Option String :=
  (current.bind (matchIdentity profiles)) <|> remembered <|> active

end Switchboard
