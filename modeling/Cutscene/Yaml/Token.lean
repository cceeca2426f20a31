import Cutscene.Yaml.Scalar

/-!
# Tokens

The smallest parts of a YAML text that have a meaning. Some of them are not written: where
indentation opens or closes a collection, and where a key turns out to be one, there is a token
for it.
-/

namespace Cutscene

namespace Yaml

/-- The bytes of a tag. They may be any but zero, and need not be those of a text. -/
abbrev TagBytes := List UInt8

namespace TagBytes

/-- The bytes of characters of ASCII. -/
def ofChars (chars : List Char) : TagBytes := chars.map fun c => UInt8.ofNat c.toNat

/-- The bytes before the first zero. -/
def untilZero (bytes : List UInt8) : TagBytes := bytes.takeWhile (· != 0)

end TagBytes

/-- A tag as written: a shorthand for a prefix and what follows it. A tag in full has an empty
shorthand. -/
structure TagText where
  handle : List Char
  suffix : TagBytes
deriving DecidableEq

/-- A line that begins with a percent sign. -/
inductive Directive where
  | version (major minor : Nat)
  | tag (handle : List Char) (tagPrefix : TagBytes)
deriving DecidableEq

/-- The smallest parts of a text. -/
inductive Token where
  | directive (directive : Directive)
  | documentStart
  | documentEnd
  | blockSequence
  | blockMapping
  | blockEnd
  | openSequence
  | closeSequence
  | openMapping
  | closeMapping
  | comma
  | item
  | key
  | value
  | alias (name : List Char)
  | anchor (name : List Char)
  | tag (tag : TagText)
  | scalar (text : List Char) (style : Style)
deriving DecidableEq

namespace Token

/-- A line that begins with a percent sign. -/
def isDirective : Token → Bool
  | directive _ => true
  | _ => false

end Token

/-! ### Anchors -/

namespace Anchor

/-- What may follow the name of an anchor. -/
def mayFollow : List Char → Bool
  | [] => true
  | c :: _ =>
    isBlank c || isBreak c || c == '?' || c == ':' || c == ',' || c == ']' || c == '}' ||
      c == '%' || c == '@' || c == '\x60'

/-- The name behind the sign of an anchor or an alias. -/
def read? (c : Cursor) : Option (List Char × Cursor) :=
  let (name, next) := (c.skip 1).span isNameChar
  if !name.isEmpty && mayFollow next.rest then some (name, next) else none

end Anchor

/-! ### Tags -/

namespace TagText

/-- A character of tags. The commas and brackets stand only in tags that are closed off. -/
def isTagChar (closedOff : Bool) (c : Char) : Bool :=
  isNameChar c || c == ';' || c == '/' || c == '?' || c == ':' || c == '@' || c == '&' ||
    c == '=' || c == '+' || c == '$' || c == '.' || c == '!' || c == '~' || c == '*' ||
    c == '\'' || c == '(' || c == ')' || (closedOff && (c == ',' || c == '[' || c == ']'))

/-- The byte that a percent sign and two digits write, and what follows them. -/
def byte? : List Char → Option (Nat × List Char)
  | '%' :: a :: b :: rest => (Hex.ofDigits? [a, b]).map (·, rest)
  | _ => none

/-- The number of bytes that follow a given first byte of a character. -/
def trailCount? (byte : Nat) : Option Nat :=
  if byte < 0x80 then some 0
  else if 0xC0 ≤ byte ∧ byte < 0xE0 then some 1
  else if 0xE0 ≤ byte ∧ byte < 0xF0 then some 2
  else if 0xF0 ≤ byte ∧ byte < 0xF8 then some 3
  else none

/-- Goes on with the remaining bytes of a character. -/
def trailBytes? : Nat → List Char → Option (List UInt8)
  | 0, _ => some []
  | count + 1, text =>
    (byte? text).bind fun (byte, rest) =>
      if 0x80 ≤ byte ∧ byte < 0xC0 then (trailBytes? count rest).map (UInt8.ofNat byte :: ·)
      else none

/-- The bytes that percent signs and digits write, as many as the first of them asks for. Not
all of them are those of a character. -/
def escaped? (text : List Char) : Option (List UInt8) := do
  let (byte, rest) ← byte? text
  let count ← trailCount? byte
  let trail ← trailBytes? count rest
  return UInt8.ofNat byte :: trail

/-- The bytes of a tag from a place on. -/
def bytes? (closedOff : Bool) : Nat → Cursor → Option (List UInt8 × Cursor)
  | 0, _ => none
  | fuel + 1, c =>
    match c.rest with
    | [] => some ([], c)
    | d :: rest =>
      if d == '%' then
        (escaped? (d :: rest)).bind fun escaped =>
          (bytes? closedOff fuel (c.skip (3 * escaped.length))).map fun (bytes, next) =>
            (escaped ++ bytes, next)
      else if isTagChar closedOff d then
        (bytes? closedOff fuel (c.skip 1)).map fun (bytes, next) =>
          (UInt8.ofNat d.toNat :: bytes, next)
      else some ([], c)

/-- The bytes of a tag from a place on, at least one, of which those before a zero count. -/
def someBytes? (size : Nat) (closedOff : Bool) (c : Cursor) : Option (TagBytes × Cursor) :=
  ((bytes? closedOff size c).filter fun (bytes, _) => !bytes.isEmpty).map fun (bytes, next) =>
    (TagBytes.untilZero bytes, next)

/-- A shorthand: a sign, a name that may be empty, and another sign, which may be missing. -/
def readHandle (c : Cursor) : List Char × Cursor :=
  let (name, next) := (c.skip 1).span isNameChar
  if next.at? (· == '!') then ('!' :: name ++ ['!'], next.skip 1) else ('!' :: name, next)

/-- A shorthand that is closed by a sign of its own. -/
def isClosed (handle : List Char) : Bool := handle.length ≥ 2 && handle.getLast? == some '!'

/-- What may follow a tag. -/
def mayFollow (inFlow : Bool) (text : List Char) : Bool :=
  endsWord text || (inFlow && text.head? == some ',')

/-- The tag at a place, whatever follows it. -/
def body? (size : Nat) (c : Cursor) : Option (TagText × Cursor) :=
  if (c.skip 1).at? (· == '<') then do
    let (suffix, next) ← someBytes? size true (c.skip 2)
    if next.at? (· == '>') then some (⟨[], suffix⟩, next.skip 1) else none
  else
    let (handle, next) := readHandle c
    if isClosed handle then
      (someBytes? size false next).map fun (suffix, next) => (⟨handle, suffix⟩, next)
    else
      (bytes? false size next).map fun (bytes, next) =>
        let suffix := TagBytes.untilZero (TagBytes.ofChars (handle.drop 1) ++ bytes)
        (if suffix.isEmpty then ⟨[], TagBytes.ofChars ['!']⟩ else ⟨['!'], suffix⟩, next)

/-- Reads a tag. -/
def read? (size : Nat) (inFlow : Bool) (c : Cursor) : Option (TagText × Cursor) :=
  (body? size c).filter fun (_, next) => mayFollow inFlow next.rest

end TagText

/-! ### Directives -/

namespace Directive

/-- A number of at most nine digits. -/
def number? (c : Cursor) : Option (Nat × Cursor) :=
  let (digits, next) := c.span Char.isDigit
  if digits.isEmpty || digits.length > 9 then none
  else some (Nat.ofDigitChars 10 digits 0, next)

/-- The numbers of a version. -/
def version? (c : Cursor) : Option (Directive × Cursor) := do
  let (major, c) ← number? (c.skipWhile isBlank)
  if c.at? (· == '.') then
    let (minor, c) ← number? (c.skip 1)
    return (.version major minor, c)
  else none

/-- A shorthand for tags and what it stands for. -/
def tag? (size : Nat) (c : Cursor) : Option (Directive × Cursor) := do
  let c := c.skipWhile isBlank
  if c.at? (· == '!') then
    let (handle, c) := TagText.readHandle c
    if (TagText.isClosed handle || handle == ['!']) && c.at? isBlank then
      let (tagPrefix, c) ← TagText.someBytes? size true (c.skipWhile isBlank)
      if endsWord c.rest then return (.tag handle tagPrefix, c) else none
    else none
  else none

/-- Reads a directive with its line. -/
def read? (size : Nat) (c : Cursor) : Option (Directive × Cursor) := do
  let (name, c) := (c.skip 1).span isNameChar
  if endsWord c.rest then
    let (directive, c) ←
      if name = ['Y', 'A', 'M', 'L'] then version? c
      else if name = ['T', 'A', 'G'] then tag? size c
      else none
    let c ← c.finishLine?
    return (directive, c)
  else none

end Directive

end Yaml

end Cutscene
