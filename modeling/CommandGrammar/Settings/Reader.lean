import CommandGrammar.Settings
import CommandGrammar.Settings.Misfit
import CommandGrammar.Toml.Document

/-! # Settings from a text

The settings stand under the key `dispatcher`, as a table or as a list of values in the order of
the settings. They are read in the order of the text, and the first one that does not fit is
reported. Unknown keys are passed over.
-/

namespace CommandGrammar.Settings

open Toml (Value Entries)

/-- Why a text gives no settings. -/
inductive Refusal where
  /-- The text does not follow the notation. -/
  | malformed
  | misfit (misfit : Misfit)
  /-- The strategy is neither a name nor a name with an empty table. -/
  | strategyShape
deriving DecidableEq, Repr

/-- How a value is described when it does not fit. Moments count as maps. -/
def Found.ofValue : Value → Found
  | .text value => .text value
  | .integer value => .integer value
  | .floating value => .floating value
  | .boolean value => .boolean value
  | .array _ | .tables _ => .sequence
  | .moment | .table .. => .map

/-- Whether a value is a table or an array without members, as goes with the name of a strategy
that is written as a table. -/
def isEmptyValue : Value → Bool
  | .array items | .tables items => items.isEmpty
  | .table _ entries => entries.isEmpty
  | _ => false

/-- The strategy with a name. -/
def strategyNamed (name : String) : Except Refusal StrategyName :=
  match StrategyName.ofString? name with
  | some strategy => .ok strategy
  | none => .error (.misfit (.unknownVariant name (StrategyName.all.map (·.display))))

/-- The strategy that a value describes: its name, or a table whose first key is the name. In
braces the table has no other key. -/
def strategyOf : Value → Except Refusal StrategyName
  | .text name => strategyNamed name
  | .table origin ((name, value) :: others) => do
    if isBraced origin ∧ !others.isEmpty then .error .strategyShape
    let strategy ← strategyNamed name
    if isEmptyValue value then .ok strategy else .error .strategyShape
  | _ => .error .strategyShape
where
  /-- Whether a table with the origin is written in braces. -/
  isBraced (origin : Toml.Origin) : Bool := origin == .inline || origin == .inlineDotted

/-- The pattern that a value describes. -/
def patternOf : Value → Except Refusal String
  | .text pattern => .ok pattern
  | value => .error (.misfit (.wrongKind (.ofValue value) "a string"))

/-- The number of a group that a value describes. -/
def groupOf : Value → Except Refusal Nat
  | .integer value =>
    if 0 ≤ value then .ok value.toNat
    else .error (.misfit (.wrongValue (.integer value) "usize"))
  | value => .error (.misfit (.wrongKind (.ofValue value) "usize"))

/-- Takes in one setting. -/
def set (settings : Settings) : String × Value → Except Refusal Settings
  | ("strategy", value) => do .ok { settings with strategy := ← strategyOf value }
  | ("pattern", value) => do .ok { settings with pattern := ← patternOf value }
  | ("group", value) => do .ok { settings with group := ← groupOf value }
  | _ => .ok settings

/-- The settings with the given ones taken in, in order. -/
def ofEntries (entries : Entries) : Except Refusal Settings := entries.foldlM set default

/-- The names of the settings, in the order in which a list gives their values. -/
def names : List String := ["strategy", "pattern", "group"]

/-- The settings that a value describes. A moment says nothing about any of them. -/
def ofValue : Value → Except Refusal Settings
  | .table _ entries => ofEntries entries
  | .array items | .tables items => ofEntries (names.zip items)
  | .moment => .ok default
  | value => .error (.misfit (.wrongKind (.ofValue value) "struct DispatcherConfig"))

/-- The settings that a text describes. -/
def read (text : String) : Except Refusal Settings :=
  match Toml.read? text with
  | none => .error .malformed
  | some entries =>
    match entries.find? "dispatcher" with
    | some value => ofValue value
    | none => .ok default

end CommandGrammar.Settings
