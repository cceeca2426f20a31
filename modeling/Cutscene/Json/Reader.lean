import Cutscene.Json.Numeral
import Cutscene.Json.Quoted

/-!
# Reading JSON

A text is taken apart into tokens, and each token moves on a state that holds the containers
still open, innermost first. Nothing is read twice and nothing recurs on the nesting, so that
any text is read in one pass.

A container inside 127 others is unreadable, and so is an object one of whose names has no
text.
-/

namespace Cutscene

namespace Json

/-! ### Tokens -/

/-- The smallest parts of a text. A string that has no text is one with half of a pair of
surrogates. -/
inductive Token where
  | openArray
  | closeArray
  | openObject
  | closeObject
  | comma
  | colon
  | string (text : Option String)
  | scalar (value : Json)
deriving DecidableEq

namespace Token

/-- The characters that may stand between tokens. -/
def isBlank (c : Char) : Bool := c == ' ' || c == '\n' || c == '\r' || c == '\t'

/-- The tokens of one character. -/
def ofChar? : Char → Option Token
  | '[' => some .openArray
  | ']' => some .closeArray
  | '{' => some .openObject
  | '}' => some .closeObject
  | ',' => some .comma
  | ':' => some .colon
  | _ => none

/-- The three words. -/
def ofWord? (word : List Char) : Option Token :=
  if word = ['n', 'u', 'l', 'l'] then some (.scalar .null)
  else if word = ['t', 'r', 'u', 'e'] then some (.scalar (.bool true))
  else if word = ['f', 'a', 'l', 's', 'e'] then some (.scalar (.bool false))
  else none

/-- A numeral as a token. -/
def ofNumeral? (text : List Char) : Option Token :=
  (Numeral.ofChars? text).map fun n => .scalar n.value

/-- The first token of a text and what follows it. The text may be malformed (`none`) or hold
no further token (`some none`). -/
def first? : List Char → Option (Option (Token × List Char))
  | [] => some none
  | c :: rest =>
    if isBlank c then first? rest
    else if c = '"' then
      (Quoted.read? rest).map fun (text, rest) => some (.string text, rest)
    else match ofChar? c with
      | some token => some (some (token, rest))
      | none =>
        if Numeral.isPart c && c.isAlpha == false then
          (ofNumeral? (c :: rest.takeWhile Numeral.isPart)).map fun token =>
            some (token, rest.dropWhile Numeral.isPart)
        else
          (ofWord? (c :: rest.takeWhile Char.isAlpha)).map fun token =>
            some (token, rest.dropWhile Char.isAlpha)

/-- What follows a token is shorter than the text it was taken from. -/
theorem first?_length {text rest : List Char} {token : Token}
    (h : first? text = some (some (token, rest))) : rest.length < text.length := by
  fun_induction first? text with
  | case1 => simp at h
  | case2 c cs _ ih => exact Nat.lt_succ_of_lt (ih h)
  | case3 cs =>
    obtain ⟨⟨s, r⟩, hr, he⟩ := Option.map_eq_some_iff.1 h
    cases he
    exact Nat.lt_succ_of_lt (Quoted.read?_length hr)
  | case4 => simp_all
  | case5 c cs =>
    obtain ⟨t, _, he⟩ := Option.map_eq_some_iff.1 h
    cases he
    exact Nat.lt_succ_of_le ((List.dropWhile_sublist _).length_le)
  | case6 c cs =>
    obtain ⟨t, _, he⟩ := Option.map_eq_some_iff.1 h
    cases he
    exact Nat.lt_succ_of_le ((List.dropWhile_sublist _).length_le)

end Token

/-! ### States -/

/-- A container that is still open, with what it holds so far in reverse. An object also keeps
the name whose value comes next. -/
inductive Frame where
  | array (items : List Json)
  | object (members : List (Option String × Json)) (name : Option String)

/-- What may come next. -/
inductive Expect where
  | value
  | firstItem
  | firstName
  | name
  | colon
  | next
  | finished (value : Json)

/-- What may come next and the open containers, innermost first. -/
structure Reading where
  expect : Expect
  stack : List Frame

namespace Reading

/-- Before anything is read. -/
def start : Reading := ⟨.value, []⟩

/-- Containers nest to this depth. -/
def depthLimit : Nat := 127

/-- A complete value takes its place in the innermost open container. -/
def put (value : Json) : List Frame → Reading
  | [] => ⟨.finished value, []⟩
  | .array items :: stack => ⟨.next, .array (value :: items) :: stack⟩
  | .object members name :: stack => ⟨.next, .object ((name, value) :: members) name :: stack⟩

/-- The members of an object from their reverse, if every name has a text. -/
def membersOf? (reversed : List (Option String × Json)) : Option (List (String × Json)) :=
  reversed.reverse.mapM fun member => member.1.map (·, member.2)

/-- A container that has been closed inside the open ones of `stack` takes its place there. -/
def close (value : Json) (stack : List Frame) : Reading :=
  put (if (stack.drop (depthLimit - 1)).isEmpty then value else .unreadable) stack

/-- A token where a value has to begin. -/
def begin? (stack : List Frame) : Token → Option Reading
  | .scalar value => some (put value stack)
  | .string text => some (put (text.elim .unreadable .string) stack)
  | .openArray => some ⟨.firstItem, .array [] :: stack⟩
  | .openObject => some ⟨.firstName, .object [] none :: stack⟩
  | .closeArray | .closeObject | .comma | .colon => none

/-- Moves the state on by one token, if the token may stand there. -/
def feed? (state : Reading) (token : Token) : Option Reading :=
  match state.expect, state.stack, token with
  | .value, stack, token => begin? stack token
  | .firstItem, .array _ :: stack, .closeArray => some (close (.array []) stack)
  | .firstItem, stack, token => begin? stack token
  | .firstName, .object _ _ :: stack, .closeObject => some (close (.object []) stack)
  | .firstName, .object members _ :: stack, .string text
  | .name, .object members _ :: stack, .string text =>
    some ⟨.colon, .object members text :: stack⟩
  | .colon, stack, .colon => some ⟨.value, stack⟩
  | .next, .array items :: stack, .comma => some ⟨.value, .array items :: stack⟩
  | .next, .array items :: stack, .closeArray => some (close (.array items.reverse) stack)
  | .next, .object members name :: stack, .comma =>
    some ⟨.name, .object members name :: stack⟩
  | .next, .object members _ :: stack, .closeObject =>
    some (close ((membersOf? members).elim .unreadable .object) stack)
  | _, _, _ => none

end Reading

/-- Moves the state on by every token of a text. -/
def scan? (text : List Char) (state : Reading) : Option Reading :=
  match _h : Token.first? text with
  | none => none
  | some none => some state
  | some (some (token, rest)) =>
    match state.feed? token with
    | none => none
    | some state => scan? rest state
termination_by text.length
decreasing_by exact Token.first?_length _h

/-- Reads a text that holds one value and nothing else. -/
def ofChars? (text : List Char) : Option Json :=
  match scan? text Reading.start with
  | some ⟨.finished value, _⟩ => some value
  | _ => none

/-- Reads a text that holds one value and nothing else. -/
def ofText? (text : String) : Option Json := ofChars? text.toList

end Json

end Cutscene
