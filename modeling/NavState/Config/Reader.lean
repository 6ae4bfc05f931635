import NavState.Config.Numeral

namespace NavState.Config

/-!
# Reading configuration text

The text is read once, from left to right, and the first fault met decides the
error.  The value of the field is read strictly; the values of unknown fields
are only skimmed, which asks for the grammar of JSON but for no range of numbers
and no pairing of surrogate escapes.
-/

/-- A value read and the text after it. -/
abbrev After (α : Type) := α × List Char

/-- The blanks of JSON. -/
def isBlank (character : Char) : Bool :=
  character = ' ' || character = '\n' || character = '\t' || character = '\r'

/-- The text without its leading blanks. -/
def skipBlanks (text : List Char) : List Char :=
  text.dropWhile isBlank

/-- Read the rest of a literal word. -/
def readWord : List Char → List Char → Except ReadError (List Char)
  | [], text => .ok text
  | _ :: _, [] => .error .truncated
  | wanted :: word, character :: text =>
      if wanted = character then
        readWord word text
      else
        .error .malformed

/-! ## Strings -/

/-- The value of a hexadecimal digit. -/
def hexValue? (digit : Char) : Option Nat :=
  if digit.isDigit then
    some (digit.toNat - '0'.toNat)
  else if 'a' ≤ digit ∧ digit ≤ 'f' then
    some (digit.toNat - 'a'.toNat + 10)
  else if 'A' ≤ digit ∧ digit ≤ 'F' then
    some (digit.toNat - 'A'.toNat + 10)
  else
    none

/-- The code unit of four hexadecimal digits. -/
def codeUnit? (digits : List Char) : Option Nat :=
  digits.foldlM (fun value digit => (value * 16 + ·) <$> hexValue? digit) 0

/-- The character of an escape by one letter. -/
def escaped? : Char → Option Char
  | '"' => some '"'
  | '\\' => some '\\'
  | '/' => some '/'
  | 'b' => some '\x08'
  | 'f' => some '\x0c'
  | 'n' => some '\n'
  | 'r' => some '\r'
  | 't' => some '\t'
  | _ => none

/-- An element of a string: a character, or a code unit that was escaped. -/
inductive StringUnit where
  | character (value : Char)
  | code (value : Nat)
  deriving Repr, DecidableEq

/-- The elements of a string up to its closing quote or its first fault. -/
structure StringBody where
  units : List StringUnit
  rest : Except ReadError (List Char)

/-- Put an element in front of a body. -/
def StringBody.cons (unit : StringUnit) (body : StringBody) : StringBody :=
  { body with units := unit :: body.units }

/-- Scan a string whose opening quote has been read. -/
def scanString : List Char → StringBody
  | [] => ⟨[], .error .truncated⟩
  | '"' :: rest => ⟨[], .ok rest⟩
  | ['\\'] => ⟨[], .error .truncated⟩
  | '\\' :: 'u' :: first :: second :: third :: fourth :: rest =>
      match codeUnit? [first, second, third, fourth] with
      | some value => (scanString rest).cons (.code value)
      | none => ⟨[], .error .malformed⟩
  | '\\' :: 'u' :: rest =>
      if (String.ofList rest).utf8ByteSize < 4 then
        ⟨[], .error .truncated⟩
      else
        ⟨[], .error .malformed⟩
  | '\\' :: letter :: rest =>
      match escaped? letter with
      | some value => (scanString rest).cons (.character value)
      | none => ⟨[], .error .malformed⟩
  | value :: rest =>
      if value < ' ' then
        ⟨[], .error .malformed⟩
      else
        (scanString rest).cons (.character value)

/-- Whether a code unit opens a surrogate pair. -/
def isLeading (unit : Nat) : Bool :=
  0xd800 ≤ unit && unit ≤ 0xdbff

/-- Whether a code unit closes a surrogate pair. -/
def isTrailing (unit : Nat) : Bool :=
  0xdc00 ≤ unit && unit ≤ 0xdfff

/-- The character of a surrogate pair. -/
def pairedCharacter (leading trailing : Nat) : Char :=
  Char.ofNat ((leading - 0xd800) * 0x400 + (trailing - 0xdc00) + 0x10000)

/-- Join the elements of a string into characters; lone surrogates are malformed. -/
def joinUnits
    (rest : Except ReadError (List Char)) :
    List StringUnit →
    Except ReadError (After (List Char))
  | [] => rest.map fun text => ([], text)
  | .character value :: units =>
      (joinUnits rest units).map fun (characters, text) =>
        (value :: characters, text)
  | [.code unit] =>
      if isTrailing unit then
        .error .malformed
      else if isLeading unit then
        match rest with
        | .error fault => .error fault
        | .ok _ => .error .malformed
      else
        rest.map fun text => ([Char.ofNat unit], text)
  | .code unit :: .character value :: units =>
      if isTrailing unit || isLeading unit then
        .error .malformed
      else
        (joinUnits rest units).map fun (characters, text) =>
          (Char.ofNat unit :: value :: characters, text)
  | .code unit :: .code next :: units =>
      if isTrailing unit then
        .error .malformed
      else if isLeading unit then
        if isTrailing next then
          (joinUnits rest units).map fun (characters, text) =>
            (pairedCharacter unit next :: characters, text)
        else
          .error .malformed
      else
        (joinUnits rest (.code next :: units)).map fun (characters, text) =>
          (Char.ofNat unit :: characters, text)

/-- Read a string whose opening quote has been read. -/
def readString (text : List Char) : Except ReadError (After String) :=
  let body := scanString text
  (joinUnits body.rest body.units).map fun (characters, rest) =>
    (String.ofList characters, rest)

/-- Skim a string whose opening quote has been read. -/
def skimString (text : List Char) : Except ReadError (List Char) :=
  (scanString text).rest

/-! ## Numbers -/

/-- Split the leading digits off a text. -/
def splitDigits (text : List Char) : List Char × List Char :=
  text.span Char.isDigit

/--
Split the whole part of a number off a text: a zero alone, or digits that do not
begin with a zero.  `missing` is the fault of a text without a digit at its end.
-/
def readWhole (missing : ReadError) (text : List Char) : Except ReadError (After (List Char)) :=
  match splitDigits text with
  | ([], []) => .error missing
  | ([], _ :: _) => .error .malformed
  | ('0' :: _ :: _, _) => .error .malformed
  | (digits, rest) => .ok (digits, rest)

/-- Read at least one digit; `missing` is the fault at the end of the text. -/
def readDigits (missing : ReadError) (text : List Char) : Except ReadError (After (List Char)) :=
  match splitDigits text with
  | ([], []) => .error missing
  | ([], _ :: _) => .error .malformed
  | (digits, rest) => .ok (digits, rest)

/-- Read the fraction of a number, if there is one. -/
def readFraction
    (missing : ReadError) :
    List Char →
    Except ReadError (After (Option (List Char)))
  | '.' :: text =>
      (readDigits missing text).map fun (digits, rest) => (some digits, rest)
  | text => .ok (none, text)

/-- Read the exponent of a number, if there is one. -/
def readExponent (missing : ReadError) (text : List Char) : Except ReadError (After (Option Int)) :=
  let signed (negative : Bool) (text : List Char) : Except ReadError (After (Option Int)) :=
    (readDigits missing text).map fun (digits, rest) =>
      let value : Int := digitsValue digits
      (some (if negative then -value else value), rest)
  let unsigned : List Char → Except ReadError (After (Option Int))
    | '+' :: text => signed false text
    | '-' :: text => signed true text
    | text => signed false text
  match text with
  | 'e' :: text => unsigned text
  | 'E' :: text => unsigned text
  | text => .ok (none, text)

/-- Read a number whose sign has been read. -/
def readNumeral
    (missing : ReadError)
    (negative : Bool)
    (text : List Char) :
    Except ReadError (After Numeral) := do
  let (whole, text) ← readWhole missing text
  let (fraction, text) ← readFraction missing text
  let (exponent, text) ← readExponent missing text
  return (⟨negative, whole, fraction, exponent⟩, text)

/-! ## Skimmed values -/

/-- Whether a skimmed container holds elements or named members. -/
inductive Container where
  | array
  | object
  deriving Repr, DecidableEq

/-- The character that closes a container. -/
def Container.closing : Container → Char
  | array => ']'
  | object => '\x7d'

/-- Skim a value that is no container. -/
def skimScalar (text : List Char) : Except ReadError (List Char) :=
  match text with
  | [] => .error .truncated
  | 'n' :: rest => readWord ['u', 'l', 'l'] rest
  | 't' :: rest => readWord ['r', 'u', 'e'] rest
  | 'f' :: rest => readWord ['a', 'l', 's', 'e'] rest
  | '"' :: rest => skimString rest
  | '-' :: rest => (readNumeral .malformed true rest).map Prod.snd
  | first :: _ =>
      if first.isDigit then
        (readNumeral .malformed false text).map Prod.snd
      else
        .error .malformed

/-- Skim the name of a member and the colon after it. -/
def skimName (text : List Char) : Except ReadError (List Char) :=
  match skipBlanks text with
  | [] => .error .truncated
  | '"' :: rest => do
      match skipBlanks (← skimString rest) with
      | [] => .error .truncated
      | ':' :: rest => .ok rest
      | _ => .error .malformed
  | _ => .error .malformed

/-- What skimming does next. -/
inductive Skim where
  /-- A value begins here. -/
  | value
  /-- A container was opened: its first element or its end comes here. -/
  | opened
  /-- An element ended: a comma or the end of its container comes here. -/
  | ended
  deriving Repr, DecidableEq

/--
Skim values inside the open containers, innermost first.  Every step but the
last reads a character or turns to a value that reads one, so twice the length
of the text is enough fuel.
-/
def skimWithin :
    Nat →
    Skim →
    List Container →
    List Char →
    Except ReadError (List Char)
  | 0, _, _, _ => .error .truncated
  | _ + 1, .opened, [], text => .ok text
  | _ + 1, .ended, [], text => .ok text
  | fuel + 1, .value, open_, text =>
      match skipBlanks text with
      | '[' :: rest => skimWithin fuel .opened (.array :: open_) rest
      | '\x7b' :: rest => skimWithin fuel .opened (.object :: open_) rest
      | rest => do
          skimWithin fuel .ended open_ (← skimScalar rest)
  | fuel + 1, .opened, container :: outer, text =>
      match skipBlanks text with
      | [] => .error .truncated
      | first :: rest =>
          if first = container.closing then
            skimWithin fuel .ended outer rest
          else
            match container with
            | .array =>
                skimWithin fuel .value (container :: outer) (first :: rest)
            | .object => do
                skimWithin fuel .value (container :: outer)
                  (← skimName (first :: rest))
  | fuel + 1, .ended, container :: outer, text =>
      match skipBlanks text with
      | [] => .error .truncated
      | first :: rest =>
          if first = container.closing then
            skimWithin fuel .ended outer rest
          else if first = ',' then
            match container with
            | .array => skimWithin fuel .value (container :: outer) rest
            | .object => do
                skimWithin fuel .value (container :: outer) (← skimName rest)
          else
            .error .malformed

/-- Skim one value. -/
def skimValue (text : List Char) : Except ReadError (List Char) :=
  skimWithin (2 * text.length + 2) .value [] text

/-! ## The configuration -/

/-- Refuse what was found in a place where something else was wanted. -/
def refuse {α : Type} (found : Found) (wanted : Wanted) : Except ReadError α :=
  .error (.mismatch (.wrongType found wanted))

/-- Refuse the value that begins here, which is of the wrong type. -/
def refuseValue
    {α : Type}
    (wanted : Wanted)
    (text : List Char) :
    Except ReadError α :=
  match text with
  | [] => .error .truncated
  | 'n' :: rest => do
      let _ ← readWord ['u', 'l', 'l'] rest
      refuse .null wanted
  | 't' :: rest => do
      let _ ← readWord ['r', 'u', 'e'] rest
      refuse (.boolean true) wanted
  | 'f' :: rest => do
      let _ ← readWord ['a', 'l', 's', 'e'] rest
      refuse (.boolean false) wanted
  | '"' :: rest => do
      let (value, _) ← readString rest
      refuse (.string value) wanted
  | '[' :: _ => refuse .sequence wanted
  | '\x7b' :: _ => refuse .map wanted
  | '-' :: rest => do
      let (numeral, _) ← readNumeral .truncated true rest
      refuse (← numeral.found) wanted
  | first :: _ =>
      if first.isDigit then do
        let (numeral, _) ← readNumeral .truncated false text
        refuse (← numeral.found) wanted
      else
        .error .malformed

/-- Read a capacity from a number whose sign has been read. -/
def readCapacityNumeral (negative : Bool) (text : List Char) : Except ReadError (After Nat) := do
  let (numeral, rest) ← readNumeral .truncated negative text
  match ← numeral.found with
  | .integer value =>
      if value < 0 then
        .error (.mismatch (.negative value))
      else
        .ok (value.toNat, rest)
  | other => refuse other .capacity

/-- Read the capacity. -/
def readCapacity (text : List Char) : Except ReadError (After Nat) :=
  let text := skipBlanks text
  match text with
  | [] => .error .truncated
  | '-' :: rest => readCapacityNumeral true rest
  | first :: _ =>
      if first.isDigit then
        readCapacityNumeral false text
      else
        refuseValue .capacity text

/-- Read the colon between a name and its value. -/
def readColon (text : List Char) : Except ReadError (List Char) :=
  match skipBlanks text with
  | [] => .error .truncated
  | ':' :: rest => .ok rest
  | _ => .error .malformed

/-- The configuration of a complete object. -/
def ofCapacity? (capacity : Option Nat) : Except ReadError Config :=
  match capacity with
  | some capacity => .ok { capacity := capacity }
  | none => .error (.mismatch .missingCapacity)

/-- Read one member whose opening quote has been read. -/
def readMember
    (capacity : Option Nat)
    (text : List Char) :
    Except ReadError (After (Option Nat)) := do
  let (name, text) ← readString text
  if name = "capacity" then
    if capacity.isSome then
      .error (.mismatch .repeatedCapacity)
    else
      let (value, text) ← readCapacity (← readColon text)
      return (some value, text)
  else
    return (capacity, ← skimValue (← readColon text))

/--
Read the members that follow a member.  Each of them reads a character, so the
length of the text is enough fuel.
-/
def readMembers :
    Nat →
    Option Nat →
    List Char →
    Except ReadError (After Config)
  | 0, _, _ => .error .truncated
  | fuel + 1, capacity, text =>
      match skipBlanks text with
      | [] => .error .truncated
      | '\x7d' :: rest => do
          return (← ofCapacity? capacity, rest)
      | ',' :: rest =>
          match skipBlanks rest with
          | [] => .error .truncated
          | '"' :: rest => do
              let (capacity, rest) ← readMember capacity rest
              readMembers fuel capacity rest
          | _ => .error .malformed
      | _ => .error .malformed

/-- Read an object whose opening brace has been read. -/
def readObject (text : List Char) : Except ReadError (After Config) :=
  match skipBlanks text with
  | [] => .error .truncated
  | '\x7d' :: rest => do
      return (← ofCapacity? none, rest)
  | '"' :: rest => do
      let (capacity, rest) ← readMember none rest
      readMembers (rest.length + 1) capacity rest
  | _ => .error .malformed

/-- Read an array whose opening bracket has been read: the capacity alone. -/
def readArray (text : List Char) : Except ReadError (After Config) :=
  match skipBlanks text with
  | [] => .error .truncated
  | ']' :: _ => .error (.mismatch .noElement)
  | text => do
      let (capacity, text) ← readCapacity text
      match skipBlanks text with
      | [] => .error .truncated
      | ']' :: rest => return ({ capacity := capacity }, rest)
      | _ => .error .malformed

/-- Read a configuration at the start of a text. -/
def readConfig (text : List Char) : Except ReadError (After Config) :=
  match text with
  | [] => .error .truncated
  | '[' :: rest => readArray rest
  | '\x7b' :: rest => readObject rest
  | _ => refuseValue .config text

/-- Read a text that is a configuration and nothing else. -/
def read (text : String) : Except ReadError Config := do
  let (config, rest) ← readConfig (skipBlanks text.toList)
  if (skipBlanks rest).isEmpty then
    return config
  else
    .error .malformed

end NavState.Config
