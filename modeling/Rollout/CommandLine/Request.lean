import Rollout.CommandLine.Form
import Rollout.Timings

/-!
# Reading a command line

A command line names a command among options. The options that every command takes may stand before
it and after it, its own options after it; none stands twice in the same place. A shared option
counts with its value after the command, or else with the one before it, or else as the environment
sets it.

The version is told as soon as it is asked for, whatever follows.
-/

namespace Rollout.CommandLine

inductive Item where
  | option (name : OptionName) (value : String)
  | command (form : Form)
  | operand (text : String)

/-- The options that are known before a command, or after it. -/
def knownOptions : Option Form → List OptionName
  | none => .version :: OptionName.shared
  | some form => OptionName.shared ++ form.options

/-- What the words of a command line say, after a command or when none was named yet. -/
def items? (form : Option Form) : List String → Option (List Item)
  | [] => some []
  | w :: rest =>
      match Word.read (knownOptions form) w with
      | .unknown => none
      | .endOfOptions => some (rest.map .operand)
      | .operand =>
          match form with
          | some _ => (items? form rest).map (.operand w :: ·)
          | none => do
              let named ← Form.named? w
              let others ← items? named rest
              return .command named :: others
      | .option .version none => some [.option .version ""]
      | .option name (some value) =>
          if name.takesValue then (items? form rest).map (.option name value :: ·) else none
      | .option name none =>
          if name.takesValue then
            match rest with
            | [] => none
            | value :: rest =>
                if Word.read (knownOptions form) value = .operand then
                  (items? form rest).map (.option name value :: ·)
                else none
          else (items? form rest).map (.option name "" :: ·)

def options (items : List Item) : Given :=
  items.filterMap fun
    | .option name value => some (name, value)
    | _ => none

def operands (items : List Item) : List String :=
  items.filterMap fun
    | .operand text => some text
    | _ => none

def splitAtCommand? : List Item → Option (List Item × Form × List Item)
  | [] => none
  | .command form :: rest => some ([], form, rest)
  | item :: rest => (splitAtCommand? rest).map fun s => (item :: s.1, s.2)

structure Settings where
  format : Format
  config : String
  gateway : String
  token : Option String
  deriving DecidableEq, Repr

inductive Request where
  | version
  | command (settings : Settings) (command : Command)
  deriving DecidableEq, Repr

/-- Whether options may be given in one place: each at most once, and a format by its name. A path
is not empty. -/
def Given.wellFormed (given : Given) : Bool :=
  (given.map (·.1)).Nodup &&
    (given.value? .output).all (fun name => (Format.ofName? name).isSome) &&
    given.value? .config != some ""

/-- The variables of the environment that a command line looks at, besides those of its timings. -/
def optionVariables : List String := ["CONFIG", "GATEWAY", "TOKEN"].map Timings.variableName

def fromEnvironment (env : String → Option String) : OptionName → Option String
  | .config => env (Timings.variableName "CONFIG")
  | .gateway => env (Timings.variableName "GATEWAY")
  | .token => env (Timings.variableName "TOKEN")
  | _ => none

def sharedValue? (env : String → Option String) (before after : Given) (name : OptionName) :
    Option String :=
  after.value? name <|> before.value? name <|> fromEnvironment env name

/-- Whether the environment is consulted for the path of the configuration, and sets none. -/
def lacksPath (env : String → Option String) (before after : Given) : Bool :=
  fromEnvironment env .config = some "" && !(before.has .config && after.has .config)

def settingsOf (env : String → Option String) (before after : Given) : Settings where
  format := ((sharedValue? env before after .output).bind Format.ofName?).getD .human
  config := (sharedValue? env before after .config).getD "rollout.yaml"
  gateway := (sharedValue? env before after .gateway).getD "http://localhost"
  token := sharedValue? env before after .token

def Request.read? (env : String → Option String) (words : List String) : Option Request := do
  let items ← items? none words
  match splitAtCommand? items with
  | none =>
      let given := options items
      if given.has .version && given.wellFormed then some .version else none
  | some (earlier, form, later) =>
      let before := options earlier
      let after := options later
      if before.wellFormed && after.wellFormed && !lacksPath env before after then
        let command ← form.command? after (operands later)
        return .command (settingsOf env before after) command
      else none

end Rollout.CommandLine
