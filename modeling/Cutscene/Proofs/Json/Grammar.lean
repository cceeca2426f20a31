import Cutscene.Json.Reader

/-!
# The Texts of a Value

Which texts spell a value is told here by a grammar, and not by the way in which they are read. A
value has many texts: blanks may stand between any two tokens, any character of a string may be
escaped, a number may have an exponent, and an object names its members in the order of the value.

What can be spelled is a *phrase* (`Json.Phrase`): a value, an element, which is a value with blanks
around it, a member of an object, and what stands between the brackets of a container that is not
empty. In this form the grammar is a single relation (`Json.Spells`), with one rule for each way to
write a phrase.

A text can be well formed and still have no value for each of its parts. What such a part spells is
`Json.unreadable`: a number past the greatest one, a string with half of a pair of surrogates, an
object with such a string as a name, and a container for which there is no room.

## Main definitions

* `Quoted.Quotes`: the texts of a string.
* `Numeral.Spells`: the texts of a numeral.
* `Json.Spells`: the texts of a phrase, by the number of containers that there is room for.
-/

namespace Cutscene

/-! ### Strings -/

namespace Quoted

/-- The texts of pieces. A character that is neither a quote nor a backslash nor below the space may
stand for itself. -/
inductive Spells : List Piece → List Char → Prop
  | nil : Spells [] []
  | plain {c : Char} {pieces : List Piece} {text : List Char} (hspace : ¬c < ' ')
      (hquote : c ≠ '"') (hslash : c ≠ '\\') (h : Spells pieces text) :
      Spells (.char c :: pieces) (c :: text)
  | escaped {mark c : Char} {pieces : List Piece} {text : List Char}
      (hmark : escaped? mark = some c) (h : Spells pieces text) :
      Spells (.char c :: pieces) ('\\' :: mark :: text)
  | unit {a b c d : Char} {n : Nat} {pieces : List Piece} {text : List Char}
      (hunit : unit? a b c d = some n) (h : Spells pieces text) :
      Spells (.unit n :: pieces) ('\\' :: 'u' :: a :: b :: c :: d :: text)

/-- The texts of a string, which stands between quotes. It has no text of its own if a surrogate in
it lacks its partner. -/
inductive Quotes : Option String → List Char → Prop
  | mk {pieces : List Piece} {text : List Char} (h : Spells pieces text) :
      Quotes ((chars? pieces).map String.ofList) ('"' :: text ++ ['"'])

end Quoted

/-! ### Numerals -/

namespace Numeral

/-- A row of digits. -/
structure Digits (row : List Char) : Prop where
  ne_nil : row ≠ []
  isDigit : ∀ c ∈ row, c.isDigit = true

/-- Digits before the point. Only a zero alone begins with a zero. -/
structure Front (row : List Char) : Prop extends Digits row where
  eq_zero : row.head? = some '0' → row = ['0']

/-- The texts of an exponent, which may be missing. -/
inductive SpellsExponent : Int → List Char → Prop
  | missing : SpellsExponent 0 []
  | plain {mark : Char} {row : List Char} (hmark : mark = 'e' ∨ mark = 'E') (hrow : Digits row) :
      SpellsExponent (natOfDigits row) (mark :: row)
  | plus {mark : Char} {row : List Char} (hmark : mark = 'e' ∨ mark = 'E') (hrow : Digits row) :
      SpellsExponent (natOfDigits row) (mark :: '+' :: row)
  | minus {mark : Char} {row : List Char} (hmark : mark = 'e' ∨ mark = 'E') (hrow : Digits row) :
      SpellsExponent (-(natOfDigits row : Int)) (mark :: '-' :: row)

/-- The texts of a numeral without its sign. It is whole if nothing follows its digits. -/
inductive SpellsUnsigned (negative : Bool) : Numeral → List Char → Prop
  | integer {front text : List Char} {exponent : Int} (hfront : Front front)
      (hexponent : SpellsExponent exponent text) :
      SpellsUnsigned negative ⟨negative, front, [], exponent, text.isEmpty⟩ (front ++ text)
  | decimal {front fraction text : List Char} {exponent : Int} (hfront : Front front)
      (hfraction : Digits fraction) (hexponent : SpellsExponent exponent text) :
      SpellsUnsigned negative ⟨negative, front, fraction, exponent, false⟩
        (front ++ '.' :: (fraction ++ text))

/-- The texts of a numeral. -/
inductive Spells : Numeral → List Char → Prop
  | positive {n : Numeral} {text : List Char} (h : SpellsUnsigned false n text) : Spells n text
  | negative {n : Numeral} {text : List Char} (h : SpellsUnsigned true n text) :
      Spells n ('-' :: text)

end Numeral

/-! ### Values -/

namespace Json

/-- Nothing but blanks. -/
def Blanks (text : List Char) : Prop := ∀ c ∈ text, Token.isBlank c = true

/-- What a text can spell: a value, a value with blanks around it, the items of an array, a member
of an object, and all of its members. A name that has no text is missing. -/
inductive Phrase where
  | value (value : Json)
  | element (value : Json)
  | items (items : List Json)
  | member (name : Option String) (value : Json)
  | members (members : List (Option String × Json))

/-- The members of an object, if every name has a text. -/
def named? (members : List (Option String × Json)) : Option (List (String × Json)) :=
  members.mapM fun member => member.1.map (·, member.2)

/-- A container as it is read where there is room for so many, one inside the other. -/
def inRoom : Nat → Json → Json
  | 0, _ => .unreadable
  | _ + 1, container => container

/-- **The texts of a phrase**, where there is room for so many containers, one inside the other. -/
inductive Spells : Nat → Phrase → List Char → Prop
  | null {room : Nat} : Spells room (.value .null) ['n', 'u', 'l', 'l']
  | true {room : Nat} : Spells room (.value (.bool true)) ['t', 'r', 'u', 'e']
  | false {room : Nat} : Spells room (.value (.bool false)) ['f', 'a', 'l', 's', 'e']
  | number {room : Nat} {n : Numeral} {text : List Char} (h : Numeral.Spells n text) :
      Spells room (.value n.value) text
  | string {room : Nat} {s : Option String} {text : List Char} (h : Quoted.Quotes s text) :
      Spells room (.value (s.elim .unreadable .string)) text
  | emptyArray {room : Nat} {blanks : List Char} (hblanks : Blanks blanks) :
      Spells room (.value (inRoom room (.array []))) ('[' :: blanks ++ [']'])
  | array {room : Nat} {items : List Json} {text : List Char}
      (h : Spells (room - 1) (.items items) text) :
      Spells room (.value (inRoom room (.array items))) ('[' :: text ++ [']'])
  | emptyObject {room : Nat} {blanks : List Char} (hblanks : Blanks blanks) :
      Spells room (.value (inRoom room (.object []))) ('{' :: blanks ++ ['}'])
  | object {room : Nat} {members : List (Option String × Json)} {text : List Char}
      (h : Spells (room - 1) (.members members) text) :
      Spells room (.value (inRoom room ((named? members).elim .unreadable .object)))
        ('{' :: text ++ ['}'])
  | element {room : Nat} {value : Json} {before text after : List Char} (hbefore : Blanks before)
      (h : Spells room (.value value) text) (hafter : Blanks after) :
      Spells room (.element value) (before ++ text ++ after)
  | lastItem {room : Nat} {item : Json} {text : List Char} (h : Spells room (.element item) text) :
      Spells room (.items [item]) text
  | nextItem {room : Nat} {item : Json} {items : List Json} {text more : List Char}
      (h : Spells room (.element item) text) (hmore : Spells room (.items items) more) :
      Spells room (.items (item :: items)) (text ++ ',' :: more)
  | member {room : Nat} {name : Option String} {value : Json}
      {before quoted after text : List Char} (hbefore : Blanks before)
      (hname : Quoted.Quotes name quoted) (hafter : Blanks after)
      (h : Spells room (.element value) text) :
      Spells room (.member name value) (before ++ quoted ++ after ++ ':' :: text)
  | lastMember {room : Nat} {name : Option String} {value : Json} {text : List Char}
      (h : Spells room (.member name value) text) : Spells room (.members [(name, value)]) text
  | nextMember {room : Nat} {name : Option String} {value : Json}
      {members : List (Option String × Json)} {text more : List Char}
      (h : Spells room (.member name value) text) (hmore : Spells room (.members members) more) :
      Spells room (.members ((name, value) :: members)) (text ++ ',' :: more)

end Json

end Cutscene
