import Switchboard.Json.Decode

/-!
# Quotas

What is left of an account's two allowances and when each starts anew. Every value may be unknown.
`Quota.orElse` fills the unknown values of one quota from another.
-/

set_option autoImplicit false

namespace Switchboard

open Json

/-- What is left of an account's two quotas, and when they are reset. -/
structure Quota where
  fiveHourRemaining : Option Int64 := none
  fiveHourResetsAt : Option Int64 := none
  oneWeekRemaining : Option Int64 := none
  oneWeekResetsAt : Option Int64 := none
  deriving DecidableEq, Inhabited

namespace Quota

/-- The known values of `q`, and for the others those of `old`. -/
def orElse (q old : Quota) : Quota where
  fiveHourRemaining := q.fiveHourRemaining <|> old.fiveHourRemaining
  fiveHourResetsAt := q.fiveHourResetsAt <|> old.fiveHourResetsAt
  oneWeekRemaining := q.oneWeekRemaining <|> old.oneWeekRemaining
  oneWeekResetsAt := q.oneWeekResetsAt <|> old.oneWeekResetsAt

/-- The fields of a record that holds a quota. -/
def slots : List Slot :=
  ["fiveHourRemainingPercent", "fiveHourResetsAt", "oneWeekRemainingPercent",
    "oneWeekResetsAt"].map fun key => slot key (Decoder.optional Decoder.int64)

/-- The quota in a record. -/
def ofRecord (r : Record) : Except Flaw Quota := do
  return {
    fiveHourRemaining := ← r.optional "fiveHourRemainingPercent" Decoder.int64
    fiveHourResetsAt := ← r.optional "fiveHourResetsAt" Decoder.int64
    oneWeekRemaining := ← r.optional "oneWeekRemainingPercent" Decoder.int64
    oneWeekResetsAt := ← r.optional "oneWeekResetsAt" Decoder.int64 }

/-- The fields that write a quota. -/
def fields (q : Quota) : List (String × Json) :=
  [("fiveHourRemainingPercent", opt int64 q.fiveHourRemaining),
    ("fiveHourResetsAt", opt int64 q.fiveHourResetsAt),
    ("oneWeekRemainingPercent", opt int64 q.oneWeekRemaining),
    ("oneWeekResetsAt", opt int64 q.oneWeekResetsAt)]

@[simp] theorem orElse_self (q : Quota) : q.orElse q = q := by
  rcases q with ⟨_ | _, _ | _, _ | _, _ | _⟩ <;> rfl

@[simp] theorem orElse_orElse_self (q old : Quota) : (q.orElse old).orElse old = q.orElse old := by
  rcases q with ⟨_ | _, _ | _, _ | _, _ | _⟩ <;> rcases old with ⟨_ | _, _ | _, _ | _, _ | _⟩ <;> rfl

end Quota

end Switchboard
