import NavState.Metric.Vector
import NavState.Text.Digest

namespace NavState.Metric

/-!
# The library at hand

Programs run over one library of metrics.  It checks a definition part by part,
and the first part at fault decides the message.  Label values, descriptors and
the form of what goes by a name are told apart by digests.  What is gathered
under one name becomes one family, and families and rows are sorted.
-/

/-! ## Checks -/

/-- What is wrong with a definition. -/
inductive DefinitionError where
  | emptyHelp
  | badName (name : String)
  | badLabel (label : String)
  | repeatedLabel (label : String)
  deriving Repr, DecidableEq

/-- The message of a definition error. -/
def DefinitionError.message : DefinitionError → String
  | emptyHelp => "empty help string"
  | badName name => "'" ++ name ++ "' is not a valid metric name"
  | badLabel label => "'" ++ label ++ "' is not a valid label name"
  | repeatedLabel label => "duplicate variable label name " ++ label

/-- Letters of the basic Latin alphabet and the underscore. -/
def isLabelStart (character : Char) : Bool :=
  character.isAlpha || character = '_'

/-- Whether a text is an identifier over some starting characters and digits. -/
def isIdentifier (isStart : Char → Bool) (text : String) : Bool :=
  match text.toList with
  | [] => false
  | first :: rest =>
      isStart first &&
        rest.all fun character => isStart character || character.isDigit

/-- Whether a text names a metric: an identifier in which colons count as letters. -/
def isMetricName (text : String) : Bool :=
  isIdentifier (fun character => isLabelStart character || character = ':') text

/-- Whether a text names a label. -/
def isLabelName (text : String) : Bool :=
  isIdentifier isLabelStart text

/-- The first label at fault, given the labels before it. -/
def labelError? (before : List String) : List String → Option DefinitionError
  | [] => none
  | label :: rest =>
      if !isLabelName label then
        some (.badLabel label)
      else if label ∈ before then
        some (.repeatedLabel label)
      else
        labelError? (label :: before) rest

/-- The first part of a definition at fault. -/
def Definition.error? (definition : Definition) : Option DefinitionError :=
  if definition.help.isEmpty then
    some .emptyHelp
  else if !isMetricName definition.name then
    some (.badName definition.name)
  else
    labelError? [] definition.labels

/-! ## Descriptors -/

/-- Put an entry before the first one that is not less. -/
def insertSorted
    {α : Type}
    (less : α → α → Bool)
    (entry : α) :
    List α →
    List α
  | [] => [entry]
  | first :: rest =>
      if less first entry then
        first :: insertSorted less entry rest
      else
        entry :: first :: rest

namespace Descriptor

/-- The digest of what tells a descriptor apart: its name and constant values. -/
def identity (descriptor : Descriptor) : UInt64 :=
  let constants := descriptor.constants.foldr
    (insertSorted fun left right => left.1 < right.1) []
  Text.digestAll (descriptor.definition.name :: constants.map Prod.snd)

/-- The digest of what descriptors of one name have in common. -/
def form (descriptor : Descriptor) : UInt64 :=
  let labels :=
    descriptor.constants.map Prod.fst ++
      descriptor.definition.labels.map fun label => "$" ++ label
  Text.digestAll
    (descriptor.definition.help ::
      labels.foldr (insertSorted fun left right => left < right) [])

end Descriptor

/-- What is remembered of descriptors that were offered. -/
structure Memory where
  /-- The descriptors of what was taken. -/
  identities : List UInt64 := []
  /-- The sums of the descriptors of each thing that was taken. -/
  sums : List UInt64 := []
  /-- The form of every name that was looked at. -/
  forms : Assoc String UInt64 := []

namespace Memory

/--
Look at descriptors one by one, given those before: a descriptor that was taken
before, or whose name has another form, or that comes twice ends the inspection.
-/
def inspect
    (memory : Memory)
    (before : List UInt64) :
    List Descriptor →
    Memory × Option (List UInt64)
  | [] => (memory, some before)
  | descriptor :: rest =>
      let name := descriptor.definition.name
      let known := (Assoc.find? name memory.forms).getD descriptor.form
      if descriptor.identity ∈ memory.identities ∨ known ≠ descriptor.form then
        (memory, none)
      else
        let noted :=
          { memory with forms := Assoc.bind name known memory.forms }
        if descriptor.identity ∈ before then
          (noted, none)
        else
          noted.inspect (before ++ [descriptor.identity]) rest

/-- Offer descriptors: whether they are taken, and what is remembered. -/
def offer (memory : Memory) (descriptors : List Descriptor) : Bool × Memory :=
  match memory.inspect [] descriptors with
  | (noted, none) => (false, noted)
  | (noted, some identities) =>
      let sum := identities.foldl (fun sum identity => sum + identity) 0
      if sum ∈ noted.sums then
        (false, noted)
      else
        (true,
          { noted with
            identities := noted.identities ++ identities
            sums := noted.sums ++ [sum] })

/-- What is remembered of everything that was offered. -/
def ofOffers (offered : List (List Descriptor)) : Memory :=
  offered.foldl (fun memory descriptors => (memory.offer descriptors).2) {}

end Memory

/-! ## Gathering -/

/-- The label values, in the order of the label names. -/
def Row.values (row : Row) : List String :=
  row.labels.map Prod.snd

/-- Whether a list of texts comes no later than another in the order of lists. -/
def textsLe : List String → List String → Bool
  | [], _ => true
  | _ :: _, [] => false
  | left :: lefts, right :: rights =>
      if left = right then
        textsLe lefts rights
      else
        left < right

/-- Rows with fewer labels come first, the others by their values. -/
def Row.le (left right : Row) : Bool :=
  if left.labels.length = right.labels.length then
    textsLe left.values right.values
  else
    left.labels.length < right.labels.length

namespace Family

/-- Add the rows of a family to the first one of its name, or else the family. -/
def join (family : Family) : List Family → List Family
  | [] => [family]
  | first :: rest =>
      if first.name = family.name then
        { first with rows := first.rows ++ family.rows } :: rest
      else
        first :: join family rest

/-- One family for each name that has rows, families and rows sorted. -/
def gather (families : List Family) : List Family :=
  let inhabited := families.filter fun family => !family.rows.isEmpty
  let joined := inhabited.foldl (fun known family => join family known) []
  let sorted := joined.map fun family =>
    { family with rows := family.rows.mergeSort Row.le }
  sorted.mergeSort fun left right => left.name ≤ right.name

end Family

/-! ## The text format -/

/-- Help texts escape backslashes and line ends. -/
def escapeHelp (text : String) : String :=
  String.ofList (text.toList.flatMap fun character =>
    match character with
    | '\\' => ['\\', '\\']
    | '\n' => ['\\', 'n']
    | other => [other])

/-- Label values escape backslashes, line ends and quotes. -/
def escapeValue (text : String) : String :=
  String.ofList (text.toList.flatMap fun character =>
    match character with
    | '\\' => ['\\', '\\']
    | '\n' => ['\\', 'n']
    | '"' => ['\\', '"']
    | other => [other])

/-- The line of one row. -/
def Row.render (name : String) (row : Row) : String :=
  let labels := row.labels.map fun label =>
    label.1 ++ "=\"" ++ escapeValue label.2 ++ "\""
  let braced :=
    if labels.isEmpty then
      ""
    else
      "\x7b" ++ ",".intercalate labels ++ "\x7d"
  name ++ braced ++ " " ++ row.reading.text ++ "\n"

/-- The lines of one family: its help, its type and its rows. -/
def Family.render (family : Family) : String :=
  "# HELP " ++ family.name ++ " " ++ escapeHelp family.help ++ "\n" ++
    "# TYPE " ++ family.name ++ " " ++ family.kind.label ++ "\n" ++
    String.join (family.rows.map (Row.render family.name))

/-! ## The library -/

/-- The library that programs run over. -/
def Library.standard : Library where
  fault? _ definition :=
    definition.error?.map fun cause => "Error: " ++ cause.message
  address _ values := (Text.digest (String.join values)).toNat
  admits offered descriptors := ((Memory.ofOffers offered).offer descriptors).1
  gather := Family.gather
  render families := String.join (families.map Family.render)

end NavState.Metric
