import Rollout.Json.Reader
import Rollout.Text.Blank
import Rollout.Text.Utf8

/-!
# Addresses of HTTP requests

An address is read as the URL Standard reads one of the schemes `http` and `https`: backslashes
count as slashes, dot segments are resolved, and what may not stand in a path or a query is
percent-encoded. A host is a name in ASCII, or four bytes if it ends in a number. Names with labels
in Punycode are refused, and so are addresses with credentials. The query is kept as it goes on the
wire, and pairs are added to it in form encoding.
-/

namespace Rollout.Http

/-- An address: its scheme, host, port if that is not the usual one, the segments of its path, and
its query. -/
structure Url where
  scheme : String
  host : String
  port : Option Nat
  path : List String
  query : Option String
  deriving DecidableEq, Repr

def hexDigit (n : Nat) : Char := Char.ofNat (if n < 10 then 48 + n else 55 + n)

def percentByte (b : UInt8) : List Char := ['%', hexDigit (b.toNat / 16), hexDigit (b.toNat % 16)]

/-- A character, percent-encoded if it is not ASCII or has to be. -/
def encodeChar (special : Char → Bool) (c : Char) : List Char :=
  if c.toNat < 32 || 126 < c.toNat || special c then (Text.utf8 [c]).flatMap percentByte else [c]

def isPathSpecial (c : Char) : Bool :=
  c ∈ [' ', '"', '#', '<', '>', '?', '^', '\x60', '\x7b', '\x7d']

def isQuerySpecial (c : Char) : Bool := c ∈ [' ', '"', '#', '<', '>', '\'']

def formEncode (s : String) : List Char :=
  (Text.utf8 s.toList).flatMap fun b =>
    let c := Char.ofNat b.toNat
    if b < 0x80 && (c.isAlphanum || c ∈ ['*', '-', '.', '_']) then [c]
    else if c = ' ' then ['+']
    else percentByte b

def formPair (pair : String × String) : List Char :=
  formEncode pair.1 ++ '=' :: formEncode pair.2

namespace Url

/-- Whether a character may not stand around an address. -/
def isMargin (c : Char) : Bool := c.toNat ≤ 32

/-- An address without what may not stand around it, and without tabs and line ends. -/
def cleaned (cs : List Char) : List Char :=
  (Text.dropEndWhile isMargin (cs.dropWhile isMargin)).filter
    fun c => !(c = '\t' || c = '\n' || c = '\r')

def isSlash (c : Char) : Bool := c = '/' || c = '\\'

def endsAuthority (c : Char) : Bool := isSlash c || c = '?' || c = '#'

def isHostChar (c : Char) : Bool :=
  33 ≤ c.toNat && c.toNat ≤ 126 &&
    !(c ∈ ['#', '/', ':', '<', '>', '?', '@', '[', '\\', ']', '^', '|', '%'])

def scheme? (cs : List Char) : Option (String × List Char) :=
  let scheme := (cs.takeWhile (· ≠ ':')).map Char.toLower
  match cs.dropWhile (· ≠ ':') with
  | ':' :: rest =>
      if scheme = ['h', 't', 't', 'p'] ∨ scheme = ['h', 't', 't', 'p', 's'] then
        some (String.ofList scheme, rest.dropWhile isSlash)
      else none
  | _ => none

def usualPort (scheme : String) : Nat := if scheme = "https" then 443 else 80

/-- The port that digits write, unless it is the usual one. Nothing if there is no such port. -/
def port? (scheme : String) (digits : List Char) : Option (Option Nat) :=
  if digits.all Char.isDigit then
    let port := digits.foldl (fun n c => 10 * n + (c.toNat - 48)) 0
    if digits.isEmpty || port = usualPort scheme then some none
    else if port < 65536 then some (some port) else none
  else none

def number? (base : Nat) (digits : List Char) : Option Nat :=
  digits.foldlM (fun n c => ((Json.hexDigit? c).filter (· < base)).map (base * n + ·)) 0

/-- The number that a part of a host writes, in base 16 or 8 if a zero says so. -/
def partNumber? : List Char → Option Nat
  | [] => none
  | '0' :: 'x' :: digits => number? 16 digits
  | '0' :: c :: digits => number? 8 (c :: digits)
  | digits => number? 10 digits

/-- Whether the last part of a host is meant as a number. -/
def endsInNumber (parts : List (List Char)) : Bool :=
  parts.getLast?.any fun last =>
    (!last.isEmpty && last.all Char.isDigit) || (partNumber? last).isSome

/-- The four bytes that numbers stand for, the last of which fills what the others leave. -/
def bytesHost? (numbers : List Nat) : Option String :=
  let front := numbers.dropLast
  let left := 4 - front.length
  let last := numbers.getLast?.getD 0
  if front.length < 4 && front.all (· < 256) && last >>> (8 * left) = 0 then
    let filled := (List.range left).reverse.map fun i => last >>> (8 * i) % 256
    some (String.intercalate "." ((front ++ filled).map toString))
  else none

/-- The parts between the points of a host, without an empty one at the end. -/
def hostParts (name : List Char) : List (List Char) :=
  let labels := name.splitOn '.'
  if labels.getLast? = some [] then labels.dropLast else labels

def host? (name : List Char) : Option String :=
  if (hostParts name).any (['x', 'n', '-', '-'].isPrefixOf ·) then none
  else if endsInNumber (hostParts name) then do bytesHost? (← (hostParts name).mapM partNumber?)
  else some (String.ofList name)

def authority? (scheme : String) (cs : List Char) : Option (String × Option Nat) := do
  let host := cs.takeWhile (· ≠ ':')
  if host.isEmpty || !(host.all isHostChar) then none
  return (← host? (host.map Char.toLower), ← port? scheme ((cs.dropWhile (· ≠ ':')).drop 1))

/-- A segment with its encoded dots written out. -/
def undotted : List Char → List Char
  | '%' :: '2' :: c :: cs =>
      if c = 'e' || c = 'E' then '.' :: undotted cs else '%' :: '2' :: c :: undotted cs
  | c :: cs => c :: undotted cs
  | [] => []

/-- The segments so far, in reverse, with one more that may say to stay or to go up. After the last
one of these comes an empty segment. -/
def addSegment (before : List (List Char)) (segment : List Char) (last : Bool) :
    List (List Char) :=
  let plain := undotted segment
  if plain = ['.', '.'] then (if last then [] :: before.drop 1 else before.drop 1)
  else if plain = ['.'] then (if last then [] :: before else before)
  else segment.flatMap (encodeChar isPathSpecial) :: before

def segments (before : List (List Char)) : List (List Char) → List (List Char)
  | [] => before
  | [segment] => addSegment before segment true
  | segment :: rest => segments (addSegment before segment false) rest

def pathOf (cs : List Char) : List String :=
  let cs := match cs with
    | c :: rest => if isSlash c then rest else cs
    | [] => []
  (segments [] (cs.splitOnP isSlash)).reverse.map String.ofList

def read (s : String) : Option Url := do
  let (scheme, cs) ← scheme? (cleaned s.toList)
  let (host, port) ← authority? scheme (cs.takeWhile (!endsAuthority ·))
  let rest := (cs.dropWhile (!endsAuthority ·)).takeWhile (· ≠ '#')
  let query := match rest.dropWhile (· ≠ '?') with
    | [] => none
    | _ :: query => some (String.ofList (query.flatMap (encodeChar isQuerySpecial)))
  return ⟨scheme, host, port, pathOf (rest.takeWhile (· ≠ '?')), query⟩

def withPairs (u : Url) (pairs : List (String × String)) : Url :=
  if pairs.isEmpty then u
  else
    let old := (u.query.filter (· ≠ "")).toList
    let new := pairs.map fun pair => String.ofList (formPair pair)
    { u with query := some (String.intercalate "&" (old ++ new)) }

def withoutQuery (u : Url) : Url := { u with query := none }

def render (u : Url) : String :=
  u.scheme ++ "://" ++ u.host ++
    (match u.port with | some port => ":" ++ toString port | none => "") ++
    String.join (u.path.map fun segment => "/" ++ segment) ++
    (match u.query with | some query => "?" ++ query | none => "")

end Url

end Rollout.Http
