/-!
# Failures

Why a command could not be done. Three causes are the program's own; any other is what the backend
has reported. A failure may lie within a context, which then gives the text.
-/

set_option autoImplicit false

namespace Switchboard

/-- The cause of a failure. -/
inductive Failure where
  | hookMissing
  | timedOut (label : String) (seconds : Nat)
  | nothingSelected
  | reported (text : String)
  | within (context : String) (cause : Failure)
  deriving DecidableEq, Inhabited

namespace Failure

/-- The text that is shown: the outermost one. -/
def message : Failure → String
  | hookMissing => "方案2 Hook 提速版未注入或版本过旧，请先安装/更新 Hook"
  | timedOut label seconds => label ++ "超时（>" ++ Nat.repr seconds ++ "秒）"
  | nothingSelected => "请先选择一个账号。"
  | reported text => text
  | within context _ => context

/-- The innermost failure. -/
def root : Failure → Failure
  | within _ cause => cause.root
  | f => f

/-- The innermost cause is one of the program's own. -/
def isOwn (f : Failure) : Bool :=
  match f.root with
  | hookMissing | timedOut _ _ | nothingSelected => true
  | _ => false

@[simp] theorem root_root (f : Failure) : f.root.root = f.root := by
  induction f with
  | within _ _ ih => exact ih
  | _ => rfl

end Failure

end Switchboard
