/-!
# Words of a command line

A word that starts with a hyphen and goes on asks for an option; the word of two hyphens says that
no options follow; every other word is an operand. The value of an option may be attached to it,
after an equals sign or, when the option is one letter, right away.
-/

namespace Rollout.CommandLine

inductive OptionName where
  | output
  | config
  | gateway
  | token
  | version
  | tenant
  | noWait
  | url
  | restore
  | serverPort
  deriving DecidableEq, Repr

namespace OptionName

/-- The word for an option, after its two hyphens. -/
def long : OptionName → String
  | output => "output"
  | config => "config"
  | gateway => "gateway"
  | token => "token"
  | version => "version"
  | tenant => "tenant"
  | noWait => "no-wait"
  | url => "url"
  | restore => "restore"
  | serverPort => "server-port"

/-- The letter for an option, after its hyphen. -/
def short? : OptionName → Option Char
  | output => some 'o'
  | version => some 'V'
  | _ => none

def takesValue : OptionName → Bool
  | version | noWait | restore => false
  | _ => true

/-- The options that every command takes, before it and after it. -/
def shared : List OptionName := [output, config, gateway, token]

end OptionName

inductive Word where
  | operand
  | endOfOptions
  | option (name : OptionName) (attached : Option String)
  | unknown
  deriving DecidableEq, Repr

/-- What follows the letter of an option as its value. -/
def attachedToLetter : List Char → Option String
  | [] => none
  | '=' :: value => some (String.ofList value)
  | value => some (String.ofList value)

def attachedToWord : List Char → Option String
  | [] => none
  | _ :: value => some (String.ofList value)

def Word.read (known : List OptionName) (w : String) : Word :=
  match w.toList with
  | ['-'] => operand
  | ['-', '-'] => endOfOptions
  | '-' :: '-' :: text =>
      match known.find? (·.long.toList = text.takeWhile (· != '=')) with
      | some name => option name (attachedToWord (text.dropWhile (· != '=')))
      | none => unknown
  | '-' :: letter :: text =>
      match known.find? (·.short? = some letter) with
      | some name => option name (attachedToLetter text)
      | none => unknown
  | _ => operand

end Rollout.CommandLine
