import NavState.Number.Decimal
import NavState.Text.Quoted
import NavState.Text.Record

namespace NavState

/-!
# Configuration

The configuration of a cache is its capacity.  Its text is a JSON object with
one field; reading such a text can fail because the text ends too early, because
it is no JSON, or because it is JSON of another shape.
-/

/-- The configuration of a cache. -/
structure Config where
  capacity : Nat := 100
  deriving Repr, DecidableEq

namespace Config

/-- The written form of a configuration. -/
def render (config : Config) : String :=
  "\x7b\"capacity\":" ++ toString config.capacity ++ "\x7d"

/-- The diagnostic text of a configuration. -/
def describe (config : Config) : String :=
  Text.record "NavigationCacheConfig" [
    ("capacity", toString config.capacity)]

/-- What a text held in a place where something else was wanted. -/
inductive Found where
  | null
  | boolean (value : Bool)
  | integer (value : Int)
  | float (negative : Bool) (magnitude : Number.Binary64)
  | string (value : String)
  | sequence
  | map
  deriving Repr, DecidableEq

/-- What a place in the text has to hold. -/
inductive Wanted where
  | capacity
  | config
  deriving Repr, DecidableEq

/-- How a text departs from the shape of a configuration. -/
inductive Mismatch where
  | missingCapacity
  | repeatedCapacity
  | noElement
  | wrongType (found : Found) (wanted : Wanted)
  | negative (value : Int)
  deriving Repr, DecidableEq

/-- Why a text is no configuration. -/
inductive ReadError where
  /-- The text ended where more was needed. -/
  | truncated
  /-- The text is no JSON. -/
  | malformed
  /-- The text is JSON so far, but of another shape. -/
  | mismatch (cause : Mismatch)
  deriving Repr, DecidableEq

/-- Floats are positional from ten to the minus fifth up to ten to the sixteenth. -/
def floatText (negative : Bool) (magnitude : Number.Binary64) : String :=
  let decimal := Number.Decimal.shortest magnitude
  let power := decimal.leadingPower
  (if negative then "-" else "") ++
    if -5 ≤ power ∧ power < 16 then
      decimal.positional ".0"
    else
      decimal.scientific

/-- The words for something found. -/
def Found.describe : Found → String
  | null => "null"
  | boolean value => "boolean `" ++ Text.truth value ++ "`"
  | integer value => "integer `" ++ toString value ++ "`"
  | float negative magnitude =>
      "floating point `" ++ floatText negative magnitude ++ "`"
  | string value => "string " ++ Text.quote value
  | sequence => "sequence"
  | map => "map"

/-- The words for something wanted. -/
def Wanted.describe : Wanted → String
  | capacity => "usize"
  | config => "struct NavigationCacheConfig"

/-- The words for a mismatch. -/
def Mismatch.describe : Mismatch → String
  | missingCapacity => "missing field `capacity`"
  | repeatedCapacity => "duplicate field `capacity`"
  | noElement =>
      "invalid length 0, expected " ++ Wanted.config.describe ++
        " with 1 element"
  | wrongType found wanted =>
      "invalid type: " ++ found.describe ++ ", expected " ++ wanted.describe
  | negative value =>
      "invalid value: " ++ (Found.integer value).describe ++ ", expected " ++
        Wanted.capacity.describe

/-- The words with which the position of a fault begins. -/
def positionMark : String := " at line "

/-- The part of a text before the first place where a mark stands. -/
def textBefore (mark : List Char) : List Char → List Char
  | [] => []
  | first :: rest =>
      if mark.isPrefixOf (first :: rest) then
        []
      else
        first :: textBefore mark rest

/-- The message of a mismatch: its words, up to the position of a fault. -/
def Mismatch.message (mismatch : Mismatch) : String :=
  String.ofList (textBefore positionMark.toList mismatch.describe.toList)

end Config

end NavState
