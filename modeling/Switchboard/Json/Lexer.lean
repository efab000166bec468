import Switchboard.Json.Token

/-!
# From characters to tokens

The lexer is a transducer: `Lexer.step` takes one character and gives the next state with the
tokens that the character completes, and `lex` runs it over a text. A character that no token
can contain ends the run with `fault`.
-/

set_option autoImplicit false

namespace Switchboard.Json

/-- How far a number has been read. -/
inductive NumberPart where
  | minus
  | zero
  | whole
  | point
  | fraction
  | exponentMark
  | exponentSign
  | exponent
  deriving DecidableEq, Repr

/-- The part of the number that the next character belongs to, if it belongs to the number. -/
def NumberPart.next? (p : NumberPart) (c : Char) : Option NumberPart :=
  match p with
  | minus => if c = '0' then some zero else if c.isDigit then some whole else none
  | zero => if c = '.' then some point else if c = 'e' ∨ c = 'E' then some exponentMark else none
  | whole =>
    if c.isDigit then some whole
    else if c = '.' then some point
    else if c = 'e' ∨ c = 'E' then some exponentMark else none
  | point => if c.isDigit then some fraction else none
  | fraction =>
    if c.isDigit then some fraction
    else if c = 'e' ∨ c = 'E' then some exponentMark else none
  | exponentMark =>
    if c = '+' ∨ c = '-' then some exponentSign else if c.isDigit then some exponent else none
  | exponentSign => if c.isDigit then some exponent else none
  | exponent => if c.isDigit then some exponent else none

/-- A number may end after this part. -/
def NumberPart.isLast : NumberPart → Bool
  | zero | whole | fraction | exponent => true
  | minus | point | exponentMark | exponentSign => false

/-- A number that has reached this part ends before `c`; a zero is never followed by a digit. -/
def NumberPart.endsBefore (p : NumberPart) (c : Char) : Bool :=
  p.isLast && !(p == .zero && c.isDigit)

/-- What the lexer is in the middle of. Characters already read are kept in reverse; those of a
string as code points, since an escape may name half of a surrogate pair. -/
inductive Lexer where
  | between
  | word (rest : List Char) (token : Token)
  | number (part : NumberPart) (read : List Char)
  | string (read : List Nat)
  | escaped (read : List Nat)
  | hex (read : List Nat) (missing : Nat) (value : Nat)
  | stopped
  deriving DecidableEq, Repr

/-- The value of a digit of base sixteen. -/
def hexValue? (c : Char) : Option Nat :=
  if c.isDigit then some (c.toNat - 48)
  else if 'a' ≤ c ∧ c ≤ 'f' then some (c.toNat - 87)
  else if 'A' ≤ c ∧ c ≤ 'F' then some (c.toNat - 55)
  else none

/-- The characters of a string read as code points: a high surrogate must be followed by a low one,
and a low surrogate must follow a high one. -/
def pairSurrogates : List Nat → Option (List Char)
  | [] => some []
  | n :: rest =>
    if 0xD800 ≤ n ∧ n < 0xDC00 then
      match rest with
      | m :: rest =>
        if 0xDC00 ≤ m ∧ m < 0xE000 then
          (pairSurrogates rest).map
            (Char.ofNat (0x10000 + (n - 0xD800) * 0x400 + (m - 0xDC00)) :: ·)
        else none
      | [] => none
    else if 0xDC00 ≤ n ∧ n < 0xE000 then none
    else (pairSurrogates rest).map (Char.ofNat n :: ·)

namespace Lexer

/-- The lexer meets a character that no token can have here. -/
def fail : Lexer × List Token := (stopped, [.fault])

/-- A character between two tokens. -/
def start (c : Char) : Lexer × List Token :=
  if c = ' ' ∨ c = '\n' ∨ c = '\t' ∨ c = '\r' then (between, [])
  else if c = '\x7b' then (between, [.openBrace])
  else if c = '\x7d' then (between, [.closeBrace])
  else if c = '[' then (between, [.openBracket])
  else if c = ']' then (between, [.closeBracket])
  else if c = ':' then (between, [.colon])
  else if c = ',' then (between, [.comma])
  else if c = '"' then (string [], [])
  else if c = 'n' then (word ['u', 'l', 'l'] .null, [])
  else if c = 't' then (word ['r', 'u', 'e'] (.bool true), [])
  else if c = 'f' then (word ['a', 'l', 's', 'e'] (.bool false), [])
  else if c = '-' then (number .minus ['-'], [])
  else if c = '0' then (number .zero ['0'], [])
  else if c.isDigit then (number .whole [c], [])
  else fail

/-- The character after a backslash. -/
def unescape (read : List Nat) (c : Char) : Lexer × List Token :=
  if c = '"' ∨ c = '\\' ∨ c = '/' then (string (c.toNat :: read), [])
  else if c = 'b' then (string (0x08 :: read), [])
  else if c = 'f' then (string (0x0c :: read), [])
  else if c = 'n' then (string (0x0a :: read), [])
  else if c = 'r' then (string (0x0d :: read), [])
  else if c = 't' then (string (0x09 :: read), [])
  else if c = 'u' then (hex read 4 0, [])
  else fail

/-- One character. -/
def step (s : Lexer) (c : Char) : Lexer × List Token :=
  match s with
  | between => start c
  | word rest token =>
    match rest with
    | [] => fail
    | [x] => if c = x then (between, [token]) else fail
    | x :: rest => if c = x then (word rest token, []) else fail
  | number part read =>
    match part.next? c with
    | some part => (number part (c :: read), [])
    | none =>
      if part.endsBefore c then
        let (s, tokens) := start c
        (s, .number read.reverse :: tokens)
      else fail
  | string read =>
    if c = '"' then (between, [.string (pairSurrogates read.reverse)])
    else if c = '\\' then (escaped read, [])
    else if c.toNat < 0x20 then fail
    else (string (c.toNat :: read), [])
  | escaped read => unescape read c
  | hex read missing value =>
    match hexValue? c with
    | some d =>
      if missing ≤ 1 then (string ((16 * value + d) :: read), [])
      else (hex read (missing - 1) (16 * value + d), [])
    | none => fail
  | stopped => (stopped, [])

/-- The tokens that the end of the text completes. -/
def finish : Lexer → List Token
  | between | stopped => []
  | number part read => if part.isLast then [.number read.reverse] else [.fault]
  | word .. | string .. | escaped .. | hex .. => [.fault]

/-- The tokens of a text, from a state. -/
def run (s : Lexer) : List Char → List Token
  | [] => s.finish
  | c :: text =>
    let (s, tokens) := s.step c
    tokens ++ run s text

end Lexer

/-- The tokens of a text. -/
def lex (text : List Char) : List Token := Lexer.between.run text

end Switchboard.Json
