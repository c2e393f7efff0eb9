import Montage.Text.Digit
import Montage.Text.Quoted

/-!
Addresses and their hosts. Every path can be taken for an address: after a scheme, if there is one,
what stands between two slashes and the next one is a host.
-/

namespace Montage

/-- What is wrong with the host of an address. -/
inductive HostFault where
  /-- A bracket stands without one of the other kind. -/
  | unmatched
  /-- What is in brackets starts like a later version of numbers but is not written like one. -/
  | futureVersion
  | notNumeric (host : String)
  | versionFour
  /-- A character stands for several, among them a mark of addresses. -/
  | compound (host : String)
  deriving DecidableEq, Repr

/-- The wording of a fault of a host. -/
def HostFault.message : HostFault → String
  | unmatched => "Invalid IPv6 URL"
  | futureVersion => "IPvFuture address is invalid"
  | notNumeric host => Text.quote host ++ " does not appear to be an IPv4 or IPv6 address"
  | versionFour => "An IPv4 address cannot be in brackets"
  | compound host =>
    "netloc '" ++ host ++ "' contains invalid characters under NFKC normalization"

namespace Address

/-- The pieces of a text between marks. -/
def split (mark : Char) : List Char → List (List Char)
  | [] => [[]]
  | character :: rest =>
    if character == mark then [] :: split mark rest
    else
      match split mark rest with
      | [] => [[character]]
      | piece :: pieces => (character :: piece) :: pieces

/-- A text as an address: blanks and controls at its start, tabs and ends of lines do not count. -/
def clean (text : String) : List Char :=
  (text.toList.dropWhile (·.toNat ≤ 32)).filter fun character =>
    character != '\t' && character != '\n' && character != '\r'

/-- A scheme is made of letters, digits and some marks, and starts with a letter. -/
def isScheme (text : List Char) : Bool :=
  text.head?.any Char.isAlpha && text.all fun character =>
    character.isAlphanum || character == '+' || character == '-' || character == '.'

/-- A host ends at a slash, a question mark or a number sign. -/
def endsHost (character : Char) : Bool :=
  character == '/' || character == '?' || character == '#'

/-- The host of an address, empty if there is none. -/
def host (address : List Char) : List Char :=
  let scheme := address.takeWhile (· != ':')
  let rest := address.drop scheme.length
  let rest := if rest.isEmpty || !isScheme scheme then address else rest.drop 1
  match rest with
  | '/' :: '/' :: after => after.takeWhile (!endsHost ·)
  | _ => []

/-- A number up to 255 without needless zeros. -/
def isOctet (text : List Char) : Bool :=
  !text.isEmpty && text.all Char.isDigit && text.length ≤ 3 &&
    (text == ['0'] || text.head? != some '0') && Text.digitsValue text ≤ 255

/-- Four numbers with dots between them. -/
def isVersionFour (text : List Char) : Bool :=
  let octets := split '.' text
  octets.length == 4 && octets.all isOctet

/-- A digit of a hexadecimal number. -/
def isHexDigit (character : Char) : Bool :=
  character.isDigit || "abcdefABCDEF".toList.contains character

/-- Up to four hexadecimal digits. -/
def isGroup (text : List Char) : Bool :=
  !text.isEmpty && text.length ≤ 4 && text.all isHexDigit

/-- Groups before or after those left out; if there are none, a colon stands for them. -/
def isSide (groups : List (List Char)) : Bool :=
  groups == [[]] || groups.all isGroup

/-- How many groups there are before or after those left out. -/
def sideSize (groups : List (List Char)) : Nat :=
  if groups == [[]] then 0 else groups.length

/-- Eight groups, or fewer with those in one place left out. -/
def areGroups (groups : List (List Char)) : Bool :=
  let inner := (groups.drop 1).dropLast
  match inner.countP List.isEmpty with
  | 0 => groups.length == 8 && groups.all isGroup
  | 1 =>
    let before := groups.take (1 + inner.findIdx List.isEmpty)
    let after := groups.drop (before.length + 1)
    isSide before && isSide after && sideSize before + sideSize after ≤ 7
  | _ => false

/-- Groups, the last two of which can be written as four numbers. -/
def isNumeric (text : List Char) : Bool :=
  let groups := split ':' text
  let last := groups.getLast?.getD []
  3 ≤ groups.length &&
    if last.contains '.' then
      isVersionFour last && areGroups (groups.dropLast ++ [['0'], ['0']])
    else areGroups groups

/-- Groups, after which a zone can stand behind a percent sign. -/
def isVersionSix (text : List Char) : Bool :=
  isNumeric (text.takeWhile (· != '%')) &&
    match text.dropWhile (· != '%') with
    | [] => true
    | _ :: zone => !zone.isEmpty && !zone.contains '%'

/-- A number of a later version, behind the letter for it. -/
def isFutureVersion (text : List Char) : Bool :=
  match text.dropWhile isHexDigit with
  | '.' :: rest => (text.head?.any isHexDigit) && !rest.isEmpty
  | _ => false

/-- What is in brackets has to be numeric. -/
def checkBracketed (text : List Char) : Except HostFault Unit :=
  match text with
  | 'v' :: version => if isFutureVersion version then .ok () else .error .futureVersion
  | _ =>
    if isVersionFour text then .error .versionFour
    else if isVersionSix text then .ok ()
    else .error (.notNumeric (String.ofList text))

/-- Characters that stand for several, among them a mark of addresses. -/
def compounds : List Nat :=
  [0x2047, 0x2048, 0x2049, 0x2100, 0x2101, 0x2105, 0x2106, 0x2A74, 0xFE13, 0xFE16, 0xFE55, 0xFE56,
   0xFE5F, 0xFE6B, 0xFF03, 0xFF0F, 0xFF1A, 0xFF1F, 0xFF20]

/-- Checks a host. -/
def checkHost (host : List Char) : Except HostFault Unit := do
  if host.contains '[' != host.contains ']' then throw .unmatched
  if host.contains '[' then
    checkBracketed (((host.dropWhile (· != '[')).drop 1).takeWhile (· != ']'))
  if host.any fun character => compounds.contains character.toNat then
    throw (.compound (String.ofList host))

/-- Checks the host of a text that is taken for an address. -/
def check (text : String) : Except HostFault Unit := checkHost (host (clean text))

end Address

end Montage
