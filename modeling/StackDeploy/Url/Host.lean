import StackDeploy.Domain.Name
import StackDeploy.Text.Decimal
import StackDeploy.Text.Percent
import StackDeploy.Text.Search
import StackDeploy.Text.Utf8

/-!
# Hosts

The host of a URL is a name or a numeric address. Both kinds of address have several written forms
and one that they are printed in.

* `Host.parse` — the host of a URL whose scheme is one of the special ones.
* `Host.parseOpaque` — the host of any other URL.
* `Host.print` — the printed form.
-/

namespace StackDeploy.Url

open Text

/-- Why a text is no URL. -/
inductive Error where
  | emptyHost
  | badDomain
  | badHostCharacter
  | badPort
  | badIpv4
  | badIpv6
  /-- There is no scheme. -/
  | relative
deriving DecidableEq, Repr

/-- The wording of an error. -/
def Error.message : Error → String
  | emptyHost => "empty host"
  | badDomain => "invalid international domain name"
  | badHostCharacter => "invalid domain character"
  | badPort => "invalid port number"
  | badIpv4 => "invalid IPv4 address"
  | badIpv6 => "invalid IPv6 address"
  | relative => "relative URL without a base"

/-- A **host**. -/
inductive Host where
  | name (text : List Char)
  | ipv4 (address : Nat)
  /-- The eight pieces of sixteen bits of an address. -/
  | ipv6 (pieces : List Nat)
deriving DecidableEq, Repr

namespace Host

/-! ### Addresses of version 4 -/

/-- The number that digits write in a base. -/
def based? (base : Nat) (digits : List Char) : Option Nat :=
  digits.foldlM (fun value c => ((hexValue? c).filter (· < base)).map (value * base + ·)) 0

/-- The number that a part of an address writes: hexadecimal, octal or decimal. A mark of a base
without digits stands for zero. -/
def part? : List Char → Option Nat
  | [] => none
  | '0' :: 'x' :: digits | '0' :: 'X' :: digits => based? 16 digits
  | '0' :: c :: digits => based? 8 (c :: digits)
  | digits => based? 10 digits

/-- The parts of a name between its dots, without a last one that is empty. -/
def parts (text : List Char) : List (List Char) :=
  let parts := splitOnChar '.' text
  if 1 < parts.length && parts.getLast? = some [] then parts.dropLast else parts

/-- A name whose last part is a number, so that it has to be an address. -/
def endsInNumber (text : List Char) : Bool :=
  match (parts text).getLast? with
  | none => false
  | some last => !last.isEmpty && (last.all isDigit || (part? last).isSome)

/-- The address with these numbers: the last one fills all bytes that the others leave. -/
def address? (numbers : List Nat) : Option Nat :=
  match numbers.getLast? with
  | none => none
  | some last =>
    let bytes := numbers.dropLast
    if 3 < bytes.length || 1 <<< (8 * (4 - bytes.length)) ≤ last || bytes.any (255 < ·) then none
    else
      let high := bytes.foldl (fun value byte => value * 256 + byte) 0
      some (high <<< (8 * (4 - bytes.length)) + last)

/-- Reads an address. -/
def ipv4? (text : List Char) : Option Nat :=
  ((parts text).mapM part?).bind address?

/-- The printed form of an address: four bytes in decimal. -/
def printIpv4 (address : Nat) : List Char :=
  joinWith '.' ([3, 2, 1, 0].map fun i => natDigits (address >>> (8 * i) % 256))

/-! ### Addresses of version 6 -/

/-- The number of at most four hexadecimal digits. -/
def piece? (digits : List Char) : Option Nat :=
  if digits.isEmpty || 4 < digits.length then none else hexNumber? digits

/-- A byte in decimal without zeros before it. -/
def byte? (digits : List Char) : Option Nat :=
  match digits with
  | '0' :: _ :: _ => none
  | _ => (readNat? digits).filter (· ≤ 255)

/-- The two pieces of an address of version 4 inside of one of version 6. -/
def embedded? (text : List Char) : Option (List Nat) := do
  match ← (splitOnChar '.' text).mapM byte? with
  | [a, b, c, d] => some [a * 256 + b, c * 256 + d]
  | _ => none

/-- The pieces between colons. The last one may be an address of version 4 if `final` holds. -/
def pieces? (final : Bool) : List (List Char) → Option (List Nat)
  | [] => some []
  | [last] => if final && last.contains '.' then embedded? last else (piece? last).map ([·])
  | piece :: rest => do return (← piece? piece) :: (← pieces? final rest)

/-- The pieces of a text, of which there are none if it is empty. -/
def side? (final : Bool) (text : List Char) : Option (List Nat) :=
  if text.isEmpty then some [] else pieces? final (splitOnChar ':' text)

/-- Reads an address. Two colons stand for as many zeros as are missing, at least one. -/
def ipv6? (text : List Char) : Option (List Nat) :=
  match cutAt [':', ':'] text with
  | none => (side? true text).filter (·.length = 8)
  | some (before, after) => do
    let left ← side? false before
    let right ← side? true after
    if 7 < left.length + right.length then none
    else some (left ++ List.replicate (8 - left.length - right.length) 0 ++ right)

/-- The first of the longest runs of zeros, by where it begins and how long it is. Gives the run at
the beginning of the list as well. -/
def zeroRuns : List Nat → (Nat × Nat) × Nat
  | [] => ((0, 0), 0)
  | piece :: rest =>
    let ((start, length), leading) := zeroRuns rest
    let leading := if piece = 0 then leading + 1 else 0
    if length ≤ leading then ((0, leading), leading) else ((start + 1, length), leading)

/-- Pieces in hexadecimal with colons between them. -/
def printPieces (pieces : List Nat) : List Char :=
  joinWith ':' (pieces.map hexDigits)

/-- The printed form of an address. Two colons stand for the first of the longest runs of zeros if
it has at least two of them. -/
def printIpv6 (pieces : List Nat) : List Char :=
  let (start, length) := (zeroRuns pieces).1
  if length < 2 then printPieces pieces
  else printPieces (pieces.take start) ++ [':', ':'] ++ printPieces (pieces.drop (start + length))

/-! ### Hosts -/

/-- Reads an address of version 6 in brackets. -/
def bracketed (text : List Char) : Except Error Host :=
  match text.getLast? with
  | some ']' =>
    match ipv6? (text.drop 1).dropLast with
    | some pieces => .ok (.ipv6 pieces)
    | none => .error .badIpv6
  | _ => .error .badIpv6

/-- The host that a text **names** in a URL with a special scheme. -/
def parse (text : List Char) : Except Error Host :=
  if text.head? = some '[' then bracketed text
  else
    match (Utf8.decode? (Percent.decode text)).bind (Domain.asciiName? ·.toList) with
    | none => .error .badDomain
    | some ascii =>
      if ascii.isEmpty then .error .emptyHost
      else if endsInNumber ascii then
        match ipv4? ascii with
        | some address => .ok (.ipv4 address)
        | none => .error .badIpv4
      else .ok (.name ascii)

/-- The characters that must not stand in a host of a URL with any other scheme. -/
def isForbiddenOpaque (c : Char) : Bool :=
  c = '\x00' || " #/:<>?@[\\]^|".toList.contains c

/-- A character of printable ASCII. -/
def isPrintable (c : Char) : Bool := ' ' ≤ c && c ≤ '~'

/-- The host that a text names in a URL with any other scheme. -/
def parseOpaque (text : List Char) : Except Error Host :=
  if text.head? = some '[' then bracketed text
  else if text.any isForbiddenOpaque then .error .badHostCharacter
  else .ok (.name (Percent.encode isPrintable text))

/-- The **printed form** of a host. -/
def print : Host → List Char
  | name text => text
  | ipv4 address => printIpv4 address
  | ipv6 pieces => '[' :: printIpv6 pieces ++ [']']

end Host

end StackDeploy.Url
