import RailsNavigator.Text.Digit
import RailsNavigator.Text.Quoted

/-!
# Hosts of URIs

What may stand between the two slashes and the path of a URI. Brackets hold an address of version
six, or of a version to come. A user may come before them, and after them nothing that a colon does
not divide from them. A host must not hold characters that other programs take for those that divide
a URI.
-/

namespace RailsNavigator.Uri

/-- Why a text is not a host. -/
inductive HostError where
  /-- Brackets are not paired, or not where they belong. -/
  | badBrackets
  /-- The address of a version to come is malformed. -/
  | badFutureAddress
  /-- What stands in brackets is not an address. -/
  | notAnAddress (text : List Char)
  /-- Only addresses of version six may stand in brackets. -/
  | bracketedVersionFour
  /-- The host holds a character that could be taken for one that divides a URI. -/
  | disguised (host : List Char)
  deriving DecidableEq, Repr

/-- The wording of what is wrong with a host. -/
def HostError.message : HostError → String
  | badBrackets => "Invalid IPv6 URL"
  | badFutureAddress => "IPvFuture address is invalid"
  | notAnAddress text =>
      String.ofList (Text.quoted text) ++ " does not appear to be an IPv4 or IPv6 address"
  | bracketedVersionFour => "An IPv4 address cannot be in brackets"
  | disguised host =>
      "netloc '" ++ String.ofList host ++ "' contains invalid characters under NFKC normalization"

/-- Splits a text at the first occurrence of a character, which is dropped. Without it all of the
text comes before. -/
def cut (character : Char) (text : List Char) : List Char × List Char :=
  (text.takeWhile (· != character), (text.dropWhile (· != character)).tail)

/-- The parts of a text between the occurrences of a character, `part` being what has been read of
the first one, in reverse. -/
def partsFrom (character : Char) (part : List Char) : List Char → List (List Char)
  | [] => [part.reverse]
  | next :: rest =>
      if next = character then part.reverse :: partsFrom character [] rest
      else partsFrom character (next :: part) rest

/-- The parts of a text between the occurrences of a character. -/
def parts (character : Char) (text : List Char) : List (List Char) :=
  partsFrom character [] text

/-- Whether a text is a number below 256 without leading zeros. -/
def isOctet (text : List Char) : Bool :=
  let value := text.foldl (fun value digit => value * 10 + (digit.toNat - 0x30)) 0
  !text.isEmpty && text.length ≤ 3 && text.all Char.isDigit
    && (text.length == 1 || text.head? != some '0') && value ≤ 255

/-- Whether a text is an address of version four. -/
def isVersionFour (text : List Char) : Bool :=
  let octets := parts '.' text
  octets.length == 4 && octets.all isOctet

/-- Whether a text is a group of an address of version six. -/
def isHextet (text : List Char) : Bool :=
  text.length ≤ 4 && text.all fun digit => (Text.asciiDigit? 16 digit).isSome

/-- The groups of an address of version six. An address of version four at its end stands for two of
them. -/
def groups? (text : List Char) : Option (List (List Char)) :=
  let groups := parts ':' text
  if groups.length < 3 then none
  else match groups.getLast? with
    | some last =>
        if !last.contains '.' then some groups
        else if isVersionFour last then some (groups.dropLast ++ [['0'], ['0']])
        else none
    | none => none

/-- Whether groups make up an address. An empty group between others, of which there is one at most,
stands for the groups that are left out; the first and the last group may be empty only beside
it. -/
def areGroups (groups : List (List Char)) : Bool :=
  let inner := (groups.drop 1).dropLast
  match inner.countP List.isEmpty with
  | 0 => groups.length == 8 && groups.all fun group => !group.isEmpty && isHextet group
  | 1 =>
      let place := inner.findIdx List.isEmpty + 1
      let before := groups.take place
      let after := groups.drop (place + 1)
      let fits (side : List (List Char)) := side == [[]] || side.all fun group => !group.isEmpty
      fits before && fits after && groups.all isHextet
        && groups.countP (fun group => !group.isEmpty) < 8
  | _ => false

/-- Whether a text is an address of version six, possibly with the name of a scope. -/
def isVersionSix (text : List Char) : Bool :=
  let (address, scope) := cut '%' text
  let isScope := !text.contains '%' || (!scope.isEmpty && !scope.contains '%')
  isScope && (groups? address).any areGroups

/-- Whether a text is an address of a version to come: its number in hexadecimal, a dot and more. -/
def isFuture : List Char → Bool
  | 'v' :: rest =>
      let (version, address) := cut '.' rest
      !version.isEmpty && (version.all fun digit => (Text.asciiDigit? 16 digit).isSome)
        && !address.isEmpty
  | _ => false

/-- Checks what stands in brackets. -/
def checkAddress (text : List Char) : Except HostError Unit :=
  if text.head? = some 'v' then
    if isFuture text then .ok () else .error .badFutureAddress
  else if isVersionFour text then .error .bracketedVersionFour
  else if isVersionSix text then .ok ()
  else .error (.notAnAddress text)

/-- The part of a host after the user. -/
def withoutUser (host : List Char) : List Char :=
  (host.reverse.takeWhile (· != '@')).reverse

/-- Checks a host that holds brackets. -/
def checkBracketed (host : List Char) : Except HostError Unit :=
  let host := withoutUser host
  if !host.contains '[' then checkAddress (cut ':' host).1
  else
    let (before, bracketed) := cut '[' host
    let (address, after) := cut ']' bracketed
    if !before.isEmpty || (!after.isEmpty && after.head? != some ':') then .error .badBrackets
    else checkAddress address

/-- The characters whose compatible forms hold a character that divides the parts of a URI. -/
def disguises : List Nat :=
  [0x2047, 0x2048, 0x2049, 0x2100, 0x2101, 0x2105, 0x2106, 0x2A74, 0xFE13, 0xFE16, 0xFE55, 0xFE56,
    0xFE5F, 0xFE6B, 0xFF03, 0xFF0F, 0xFF1A, 0xFF1F, 0xFF20]

/-- Checks the host of a URI. -/
def checkHost (host : List Char) : Except HostError Unit := do
  if host.contains '[' != host.contains ']' then .error .badBrackets
  if host.contains '[' then checkBracketed host
  if host.any fun character => disguises.contains character.toNat then .error (.disguised host)

end RailsNavigator.Uri
