import Rollout.Text.Printable

/-!
# Quoted text

A message that repeats what it was given shows it between double quotes, with the characters that
would not show, the marks that would attach to a neighbour, the quote and the backslash escaped.
`\0`, `\t`, `\r` and `\n` have short escapes; any other escape is the code point in hexadecimal
between braces. A single quote stands as it is.
-/

namespace Rollout.Text

def codePointEscape (c : Char) : List Char :=
  ['\\', 'u', '\x7b'] ++ Nat.toDigits 16 c.toNat ++ ['\x7d']

def quotedChar (c : Char) : List Char :=
  if c = '\x00' then ['\\', '0']
  else if c = '\t' then ['\\', 't']
  else if c = '\r' then ['\\', 'r']
  else if c = '\n' then ['\\', 'n']
  else if c = '"' then ['\\', '"']
  else if c = '\\' then ['\\', '\\']
  else if isExtending c || !isPrintable c then codePointEscape c
  else [c]

def quoted (s : String) : String := String.ofList ('"' :: s.toList.flatMap quotedChar ++ ['"'])

end Rollout.Text
