import Columnar.Text.Decimal
import Columnar.Text.Pieces

set_option autoImplicit false

namespace Columnar

inductive UsageFault where
  | unknownWord
  | missingWord
  -- An option without its value, or an empty path.
  | missingValue
  | needlessValue
  | repeatedOption
  | badNumber
  | unknownCommand
  | missingCommand
  | nothingGiven
  | helpWanted
  | versionWanted
deriving DecidableEq, Repr

inductive OptionForm where
  | flag
  | text
  | number
  | texts
  | help
  | version
deriving DecidableEq, Repr

structure Grammar where
  options : List (String × OptionForm)
  positions : Option Nat
  commands : List String

-- What is gathered, each list with its latest part first.
structure Gathered where
  positions : List String
  values : List (String × String)
  flags : List String

inductive PendingWord where
  | nothing
  | option (name : String)
  | value (name value : String)
  | positions (latestFirst : List String)

structure GatheredPart where
  gathered : Gathered
  pending : PendingWord
  command : Option (String × List String)

namespace Gathered

def empty : Gathered := ⟨[], [], []⟩

def value? (gathered : Gathered) (name : String) : Option String := gathered.values.lookup name

def number? (gathered : Gathered) (name : String) : Option Nat :=
  match gathered.value? name with
  | none => none
  | some text => (Text.size? text.toList).toOption

def valuesOf (gathered : Gathered) (name : String) : List String :=
  ((gathered.values.filter fun pair => pair.1 == name).map (·.2)).reverse

def positionsInOrder (gathered : Gathered) : List String := gathered.positions.reverse

end Gathered

namespace Grammar

def form? (grammar : Grammar) (name : String) : Option OptionForm := grammar.options.lookup name

def addValue (grammar : Grammar) (gathered : Gathered) (name value : String) :
    Except UsageFault Gathered :=
  let form := grammar.form? name
  if form ≠ some .texts ∧ (gathered.value? name).isSome then .error .repeatedOption
  else if form = some .number ∧ !(Text.size? value.toList).isOk then .error .badNumber
  else .ok { gathered with values := (name, value) :: gathered.values }

def settle (grammar : Grammar) (gathered : Gathered) : PendingWord → Except UsageFault Gathered
  | .nothing => .ok gathered
  | .option _ => .error .missingValue
  | .value name value => grammar.addValue gathered name value
  | .positions words =>
    if words.contains "" then .error .missingValue
    else .ok { gathered with positions := words ++ gathered.positions }

def addFlag (gathered : Gathered) (name : String) : OptionForm → Except UsageFault Gathered
  | .help => .error .helpWanted
  | .version => .error .versionWanted
  | _ =>
    if gathered.flags.contains name then .error .repeatedOption
    else .ok { gathered with flags := name :: gathered.flags }

def takesValue : OptionForm → Bool
  | .text | .number | .texts => true
  | _ => false

def longOption (grammar : Grammar) (gathered : Gathered) (pending : PendingWord) (name : String)
    (value : Option String) : Except UsageFault (Gathered × PendingWord) :=
  match grammar.form? name with
  | none => .error .unknownWord
  | some form =>
    if takesValue form then
      match grammar.settle gathered pending with
      | .error fault => .error fault
      | .ok settled =>
        match value with
        | none => .ok (settled, .option name)
        | some text => (grammar.addValue settled name text).map fun added => (added, .nothing)
    else if value.isSome then .error .needlessValue
    else
      match grammar.settle gathered pending with
      | .error fault => .error fault
      | .ok settled => (addFlag settled name form).map fun added => (added, .nothing)

def shortOption (grammar : Grammar) (gathered : Gathered) (pending : PendingWord) (letter : Char) :
    Except UsageFault (Gathered × PendingWord) :=
  if letter = 'h' then grammar.longOption gathered pending "help" none
  else if letter = 'V' then grammar.longOption gathered pending "version" none
  else .error .unknownWord

def positionCount (gathered : Gathered) : PendingWord → Nat
  | .positions words => gathered.positions.length + words.length
  | _ => gathered.positions.length

-- What is wrong with a positional word too many. The name of a command is one only behind two
-- dashes, where commands are not looked for.
def strayWord (grammar : Grammar) (word : String) : UsageFault :=
  if grammar.commands.isEmpty ∨ grammar.commands.contains word then .unknownWord
  else .unknownCommand

def position (grammar : Grammar) (gathered : Gathered) (pending : PendingWord) (word : String) :
    Except UsageFault (Gathered × PendingWord) :=
  if grammar.positions.any (· ≤ positionCount gathered pending) then
    .error (grammar.strayWord word)
  else
    match grammar.positions, pending with
    | none, .positions words => .ok (gathered, .positions (word :: words))
    | _, _ => (grammar.settle gathered pending).map fun settled => (settled, .positions [word])

def long? (word : String) : Option (String × Option String) :=
  match word.toList with
  | '-' :: '-' :: rest =>
    match Text.cut? '=' rest with
    | none => some (String.ofList rest, none)
    | some (name, value) => some (String.ofList name, some (String.ofList value))
  | _ => none

def short? (word : String) : Option Char :=
  match word.toList with
  | '-' :: letter :: _ => some letter
  | _ => none

def awaits : PendingWord → Option String
  | .option name => some name
  | _ => none

def take (grammar : Grammar) (gathered : Gathered) (pending : PendingWord) (word : String) :
    Except UsageFault (Gathered × PendingWord) :=
  match long? word with
  | some (name, value) => grammar.longOption gathered pending name value
  | none =>
    match short? word with
    | some letter => grammar.shortOption gathered pending letter
    | none =>
      match awaits pending with
      | some name => .ok (gathered, .value name word)
      | none => grammar.position gathered pending word

-- Gathers words. Behind two dashes all of them are positional. What is pending in front of a
-- command stays so: the words of the command come first.
def gather (grammar : Grammar) :
    Bool → Gathered → PendingWord → List String → Except UsageFault GatheredPart
  | _, gathered, pending, [] =>
    (grammar.settle gathered pending).map fun settled => ⟨settled, .nothing, none⟩
  | true, gathered, pending, word :: rest =>
    match grammar.position gathered pending word with
    | .error fault => .error fault
    | .ok (gathered, pending) => gather grammar true gathered pending rest
  | false, gathered, pending, word :: rest =>
    if word = "--" then gather grammar true gathered pending rest
    else if (awaits pending).isNone && grammar.commands.contains word then
      .ok ⟨gathered, pending, some (word, rest)⟩
    else
      match grammar.take gathered pending word with
      | .error fault => .error fault
      | .ok (gathered, pending) => gather grammar false gathered pending rest

def read (grammar : Grammar) (words : List String) : Except UsageFault GatheredPart :=
  grammar.gather false .empty .nothing words

end Grammar

end Columnar
