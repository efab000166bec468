import Switchboard.Text.Blank

/-!
# Plain text from marked-up text

A tag is a `<`, one or more characters other than `>`, and a `>`. `stripTags` puts a space for
each tag, from the left; `collapse` puts one space for each run of white space; `plain` does both
and trims the ends. `clip` cuts a long text and marks the cut.
-/

set_option autoImplicit false

namespace Switchboard.Text

/-- The text with a space in place of every tag. `held` is what was read since the first `<` that
may still open a tag, latest character first; it is given back when the text ends or when the tag
would be empty. -/
def stripTagsFrom : Option (List Char) → List Char → List Char
  | none, [] => []
  | some held, [] => '<' :: held.reverse
  | none, c :: s => if c = '<' then stripTagsFrom (some []) s else c :: stripTagsFrom none s
  | some [], c :: s =>
    if c = '>' then '<' :: '>' :: stripTagsFrom none s else stripTagsFrom (some [c]) s
  | some (d :: held), c :: s =>
    if c = '>' then ' ' :: stripTagsFrom none s else stripTagsFrom (some (c :: d :: held)) s

/-- The text with a space in place of every tag. -/
def stripTags (s : List Char) : List Char := stripTagsFrom none s

/-- The text with one space in place of every run of white space; `inRun` says that the run
before the text has its space already. -/
def collapseFrom (inRun : Bool) : List Char → List Char
  | [] => []
  | c :: s =>
    if isBlank c then
      if inRun then collapseFrom true s else ' ' :: collapseFrom true s
    else c :: collapseFrom false s

/-- The text with one space in place of every run of white space. -/
def collapse (s : List Char) : List Char := collapseFrom false s

/-- Tags and runs of white space become single spaces, and the ends are trimmed. -/
def plain (s : List Char) : List Char := trimChars (collapse (stripTags s))

/-- The first `limit` characters and a mark, or the text itself when it is no longer than that. -/
def clip (limit : Nat) (s : List Char) : List Char :=
  if limit < s.length then s.take limit ++ ['.', '.', '.'] else s

end Switchboard.Text
