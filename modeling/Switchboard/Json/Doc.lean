import Switchboard.Json.Lexer
import Switchboard.Json.Value

/-!
# What a JSON text holds

A `Doc` is what was found in a text up to the first place where it stops being JSON; that place is
marked by `fault`, and everything the fault lies inside of is closed right after it. A reader of a
`Doc` from left to right therefore meets a wrong value and a broken text in the order in which
they stand.

`Reading.ofText` reads a text: the value, and whether only white space follows it. `Parser.step`
takes one token; the parser keeps the containers that are still open on a stack.
-/

set_option autoImplicit false

namespace Switchboard.Json

/-- What stands before the colon of a field: a string, a string without a value, or nothing that
can stand there. -/
inductive Key where
  | text (s : String)
  | invalid
  | missing
  deriving DecidableEq

/-- A value found in a text. Where a key is missing, the value of its field is what stands in its
place. -/
inductive Doc where
  | null
  | bool (b : Bool)
  | number (text : List Char)
  | string (value : Option String)
  | array (items : List Doc)
  | object (fields : List (Key × Doc))
  | fault

mutual

/-- What a value holds when it is written and read again. -/
def toDoc : Json → Doc
  | null => .null
  | bool b => .bool b
  | int n => .number (decimal n)
  | string s => .string (some s)
  | array items => .array (itemDocs items)
  | object fields => .object (fieldDocs fields)

/-- `toDoc` of every item. -/
def itemDocs : List Json → List Doc
  | [] => []
  | x :: xs => toDoc x :: itemDocs xs

/-- `toDoc` of every field. -/
def fieldDocs : List (String × Json) → List (Key × Doc)
  | [] => []
  | (key, x) :: fields => (.text key, toDoc x) :: fieldDocs fields

end

/-- A container that is still open, with what it holds so far in reverse. -/
inductive Frame where
  | items (read : List Doc)
  | fields (read : List (Key × Doc))
  | field (read : List (Key × Doc)) (key : Key)

/-- What must come next: a value; a value or the end of an empty array; a key or the end of an empty
object; a key; a colon; or, after a value, a comma or the end. -/
inductive Expected where
  | value
  | item
  | firstKey
  | key
  | colon
  | more
  deriving DecidableEq

/-- A value and whether the text ends with it. -/
structure Reading where
  doc : Doc
  isWhole : Bool

/-- The parser between two tokens: inside of some containers, after a whole value and perhaps more,
or behind the place where the text broke. -/
inductive Parser where
  | inside (expected : Expected) (stack : List Frame)
  | after (doc : Doc) (isWhole : Bool)
  | broken (doc : Doc)

/-- The outermost container, when the text breaks inside of all these and `d` stands there. -/
def closeAll (d : Doc) : List Frame → Doc
  | [] => d
  | .items read :: rest => closeAll (.array (d :: read).reverse) rest
  | .fields read :: rest => closeAll (.object ((.missing, d) :: read).reverse) rest
  | .field read key :: rest => closeAll (.object ((key, d) :: read).reverse) rest

/-- The value of a token that is a whole value. -/
def Token.scalar? : Token → Option Doc
  | .null => some .null
  | .bool b => some (.bool b)
  | .number text => some (.number text)
  | .string value => some (.string (value.map String.ofList))
  | _ => none

/-- What stands in a key's place when it is no key. -/
def Token.inPlaceOfKey : Token → Doc
  | .openBracket => .array [.fault]
  | .openBrace => .object [(.missing, .fault)]
  | t => t.scalar?.getD .fault

/-- The key that a string token is. -/
def keyOf : Option (List Char) → Key
  | some s => .text (String.ofList s)
  | none => .invalid

namespace Parser

/-- The text breaks inside of these containers. -/
def fail (stack : List Frame) : Parser := broken (closeAll .fault stack)

/-- A value is complete inside of these containers. -/
def place (d : Doc) : List Frame → Parser
  | [] => after d true
  | .items read :: rest => inside .more (.items (d :: read) :: rest)
  | .field read key :: rest => inside .more (.fields ((key, d) :: read) :: rest)
  | stack => fail stack

/-- A value starts with this token. -/
def value (stack : List Frame) (t : Token) : Parser :=
  match t with
  | .openBracket => inside .item (.items [] :: stack)
  | .openBrace => inside .firstKey (.fields [] :: stack)
  | t =>
    match t.scalar? with
    | some d => place d stack
    | none => fail stack

/-- A key is this token. -/
def key (stack : List Frame) (t : Token) : Parser :=
  match t, stack with
  | .string s, .fields read :: stack => inside .colon (.field read (keyOf s) :: stack)
  | t, stack => broken (closeAll t.inPlaceOfKey stack)

/-- One token. -/
def step (p : Parser) (t : Token) : Parser :=
  match p with
  | after d _ => after d false
  | broken d => broken d
  | inside expected stack =>
    match expected with
    | .value => value stack t
    | .item =>
      match t, stack with
      | .closeBracket, .items read :: stack => place (.array read.reverse) stack
      | t, stack => value stack t
    | .firstKey =>
      match t, stack with
      | .closeBrace, .fields read :: stack => place (.object read.reverse) stack
      | t, stack => key stack t
    | .key => key stack t
    | .colon => if t = .colon then inside .value stack else fail stack
    | .more =>
      match t, stack with
      | .comma, .items read :: stack => inside .value (.items read :: stack)
      | .comma, .fields read :: stack => inside .key (.fields read :: stack)
      | .closeBracket, .items read :: stack => place (.array read.reverse) stack
      | .closeBrace, .fields read :: stack => place (.object read.reverse) stack
      | _, stack => fail stack

/-- The text ends here. -/
def finish : Parser → Reading
  | inside _ stack => ⟨closeAll .fault stack, true⟩
  | after d isWhole => ⟨d, isWhole⟩
  | broken d => ⟨d, true⟩

/-- Reads on from an inner place of the text. -/
def run (p : Parser) (tokens : List Token) : Parser := tokens.foldl step p

/-- Nothing is read yet. -/
def start : Parser := inside .value []

end Parser

/-- What a text holds. -/
def Reading.ofText (text : String) : Reading := (Parser.start.run (lex text.toList)).finish

end Switchboard.Json
