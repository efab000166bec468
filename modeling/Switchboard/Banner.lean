/-!
# The error banner

An error text shows only after it has been seen, unchanged, for some time; a sync that fails once
never reaches the screen. `Banner.observe` takes one look at the error; `Banner.look` also says what
the one who looks is told.
-/

set_option autoImplicit false

namespace Switchboard

/-- What the banner shows, and what it has seen and for how long. -/
structure Banner where
  /-- How long, in milliseconds, a text must stay the same before it shows. -/
  delay : Int64
  /-- The text seen last. -/
  candidate : Option String := none
  /-- When the candidate was seen first. -/
  since : Int64 := 0
  /-- The text on the screen. -/
  displayed : Option String := none
  deriving DecidableEq

namespace Banner

/-- An empty banner; a delay beyond the signed range wraps around. -/
def ofDelay (delay : UInt64) : Banner := { delay := delay.toInt64 }

/-- The banner with this text as its candidate. -/
def notice (b : Banner) (text : String) (now : Int64) : Banner :=
  if b.candidate = some text then b else { b with candidate := some text, since := now }

/-- The banner with its candidate on the screen, if that is stable by now. -/
def settle (b : Banner) (now : Int64) : Banner :=
  if b.delay ≤ now - b.since then { b with displayed := b.candidate } else b

/-- One look at the error; no error clears the banner at once. -/
def observe (b : Banner) (error : Option String) (now : Int64) : Banner :=
  match error with
  | none => { delay := b.delay }
  | some text => (b.notice text now).settle now

/-- One look at the error, with the text that is handed back. -/
def look (b : Banner) (error : Option String) (now : Int64) : Option String × Banner :=
  match error with
  | none => (none, b.observe none now)
  | some text =>
    let after := b.observe (some text) now
    (after.displayed, after)

section

variable (b : Banner) (text : String) (now : Int64)

@[simp] theorem delay_notice : (b.notice text now).delay = b.delay := by
  unfold notice
  split <;> rfl

@[simp] theorem candidate_notice : (b.notice text now).candidate = some text := by
  unfold notice
  split
  · assumption
  · rfl

@[simp] theorem displayed_notice : (b.notice text now).displayed = b.displayed := by
  unfold notice
  split <;> rfl

/-- A text that is seen again is as old as before. -/
theorem since_notice :
    (b.notice text now).since = if b.candidate = some text then b.since else now := by
  unfold notice
  split <;> rfl

@[simp] theorem delay_settle : (b.settle now).delay = b.delay := by
  unfold settle
  split <;> rfl

@[simp] theorem candidate_settle : (b.settle now).candidate = b.candidate := by
  unfold settle
  split <;> rfl

@[simp] theorem since_settle : (b.settle now).since = b.since := by
  unfold settle
  split <;> rfl

theorem displayed_settle :
    (b.settle now).displayed = if b.delay ≤ now - b.since then b.candidate else b.displayed := by
  unfold settle
  split <;> rfl

end

@[simp] theorem displayed_observe_none (b : Banner) (now : Int64) :
    (b.observe none now).displayed = none := rfl

@[simp] theorem delay_observe (b : Banner) (error : Option String) (now : Int64) :
    (b.observe error now).delay = b.delay := by
  cases error with
  | none => rfl
  | some text => simp [observe]

/-- A look hands back what the banner shows after it. -/
theorem look_eq (b : Banner) (error : Option String) (now : Int64) :
    b.look error now = ((b.observe error now).displayed, b.observe error now) := by
  cases error <;> rfl

end Banner

end Switchboard
