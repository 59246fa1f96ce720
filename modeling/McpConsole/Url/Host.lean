import McpConsole.Text.Decimal
import McpConsole.Url.Idna
import McpConsole.Url.Percent

/-!
# Hosts

The host of a URL is a domain name, an IPv4 address or an IPv6 address. A name whose last label is
a number is an IPv4 address, in up to four parts, each decimal, octal or hexadecimal. Text in
square brackets is an IPv6 address.

A URL with a special scheme has its host in ASCII. Any other URL keeps the text of its host, which
is encoded but not understood.
-/

namespace McpConsole.Url

open McpConsole.Text

/-- Why a text is no URL. -/
inductive Error where
  | relativeWithoutBase
  | emptyHost
  | invalidPort
  | invalidIpv4
  | invalidIpv6
  | invalidDomain
  | invalidDomainCharacter
  deriving DecidableEq, Repr

/-- The text of a cause. -/
def Error.message : Error → String
  | .relativeWithoutBase => "relative URL without a base"
  | .emptyHost => "empty host"
  | .invalidPort => "invalid port number"
  | .invalidIpv4 => "invalid IPv4 address"
  | .invalidIpv6 => "invalid IPv6 address"
  | .invalidDomain => "invalid international domain name"
  | .invalidDomainCharacter => "invalid domain character"

/-- The host of a URL. An IPv6 address has eight pieces of 16 bits. -/
inductive Host where
  | domain (name : String)
  | ipv4 (address : Nat)
  | ipv6 (pieces : List Nat)
  deriving DecidableEq, Repr

/-! ### IPv4 -/

/-- The pieces of a text between points, without an empty last one. -/
def ipv4Parts (cs : List Char) : List (List Char) :=
  let parts := Idna.labels cs
  if parts.getLast? = some [] then parts.dropLast else parts

/-- The value of digits in a base. -/
def valueIn? (base : Nat) (cs : List Char) : Option Nat :=
  cs.foldlM (fun n c => do
    let digit ← hexValue? c
    if digit < base then some (base * n + digit) else none) 0

/-- The number that a part of an IPv4 address writes. -/
def ipv4Number? : List Char → Option Nat
  | [] => none
  | ['0'] => some 0
  | '0' :: c :: cs => if c = 'x' ∨ c = 'X' then valueIn? 16 cs else valueIn? 8 (c :: cs)
  | cs => valueIn? 10 cs

/-- Whether a domain name can only be an IPv4 address: its last label is a number. -/
def endsInNumber (cs : List Char) : Bool :=
  match (ipv4Parts cs).getLast? with
  | none => false
  | some last => !last.isEmpty && (last.all Char.isDigit || (ipv4Number? last).isSome)

/-- The address of up to four numbers. All but the last are octets, and the last one fills what
remains. -/
def ipv4OfNumbers? (numbers : List Nat) : Option Nat :=
  let octets := numbers.dropLast
  let last := numbers.getLast?.getD 0
  let rest := Nat.pow 256 (4 - octets.length)
  if numbers.length ≤ 4 ∧ octets.all (· < 256) ∧ last < rest then
    some (octets.foldl (fun n octet => 256 * n + octet) 0 * rest + last)
  else none

/-- The IPv4 address that a domain name is. -/
def ipv4? (cs : List Char) : Option Nat :=
  ((ipv4Parts cs).mapM ipv4Number?).bind ipv4OfNumbers?

/-- The text of an IPv4 address. -/
def ipv4Text (address : Nat) : List Char :=
  List.intercalate ['.'] ([24, 16, 8, 0].map fun shift =>
    Decimal.digits (address / Nat.pow 2 shift % 256))

/-! ### IPv6 -/

/-- What has been read of an IPv6 address: the pieces before the double colon, and those after it
if it has occurred. -/
structure Ipv6Draft where
  before : List Nat
  after : Option (List Nat)

/-- The number of pieces read. -/
def Ipv6Draft.size (draft : Ipv6Draft) : Nat :=
  draft.before.length + (draft.after.getD []).length

/-- The draft with more pieces. -/
def Ipv6Draft.push (draft : Ipv6Draft) (pieces : List Nat) : Ipv6Draft :=
  match draft.after with
  | none => { draft with before := draft.before ++ pieces }
  | some after => { draft with after := some (after ++ pieces) }

/-- The eight pieces of a draft that is complete; a double colon stands for one zero at least. -/
def Ipv6Draft.pieces? (draft : Ipv6Draft) : Option (List Nat) :=
  match draft.after with
  | none => if draft.before.length = 8 then some draft.before else none
  | some after =>
    if draft.size < 8 then some (draft.before ++ List.replicate (8 - draft.size) 0 ++ after)
    else none

/-- An octet in decimal, without leading zeros. -/
def octet? (cs : List Char) : Option Nat :=
  if cs.isEmpty || cs.length > 3 || !cs.all Char.isDigit || (cs.length > 1 && cs.head? == some '0')
  then none
  else
    let n := Decimal.value cs
    if n < 256 then some n else none

/-- The two last pieces of an IPv6 address, written like an IPv4 address. -/
def embedded? (cs : List Char) : Option (List Nat) :=
  match (Idna.labels cs).mapM octet? with
  | some [a, b, c, d] => some [256 * a + b, 256 * c + d]
  | _ => none

/-- The rest of an IPv6 address, after some digits of a piece. -/
def ipv6From (draft : Ipv6Draft) (digits : List Char) : List Char → Option (List Nat)
  | [] =>
    if digits.isEmpty ∨ 8 ≤ draft.size then none
    else (draft.push [(valueIn? 16 digits).getD 0]).pieces?
  | c :: cs =>
    if digits.length < 4 ∧ (hexValue? c).isSome then ipv6From draft (digits ++ [c]) cs
    else if c = '.' then
      if digits.isEmpty ∨ 6 < draft.size then none
      else (embedded? (digits ++ c :: cs)).bind fun pieces => (draft.push pieces).pieces?
    else if c ≠ ':' ∨ digits.isEmpty ∨ 8 ≤ draft.size then none
    else
      let draft := draft.push [(valueIn? 16 digits).getD 0]
      match cs with
      | [] => none
      | ':' :: rest =>
        if draft.after.isSome ∨ 8 ≤ draft.size then none
        else
          let draft := { draft with after := some [] }
          if rest.isEmpty then draft.pieces? else ipv6From draft [] rest
      | d :: rest => ipv6From draft [] (d :: rest)

/-- The IPv6 address that a text in brackets is. -/
def ipv6? : List Char → Option (List Nat)
  | [':', ':'] => (Ipv6Draft.mk [] (some [])).pieces?
  | ':' :: ':' :: cs => ipv6From ⟨[], some []⟩ [] cs
  | cs => ipv6From ⟨[], none⟩ [] cs

/-- The length of the run of zeros at the beginning of pieces. -/
def zeroRun (pieces : List Nat) : Nat :=
  (pieces.takeWhile (· == 0)).length

/-- Where the first of the longest runs of at least two zeros is, and its length. -/
def longestRun (pieces : List Nat) : Nat × Nat :=
  (List.range pieces.length).foldl (fun best start =>
    let run := zeroRun (pieces.drop start)
    if best.2 < run ∧ 1 < run then (start, run) else best) (0, 0)

/-- Pieces with colons between them. -/
def piecesText (pieces : List Nat) : List Char :=
  List.intercalate [':'] (pieces.map (Nat.toDigits 16))

/-- The text of an IPv6 address. -/
def ipv6Text (pieces : List Nat) : List Char :=
  let (start, run) := longestRun pieces
  if run = 0 then piecesText pieces
  else piecesText (pieces.take start) ++ [':', ':'] ++ piecesText (pieces.drop (start + run))

/-! ### Hosts -/

/-- The text in brackets that a text is, if it begins with a bracket. -/
def bracketed? (cs : List Char) : Option (Except Error Host) :=
  if cs.head? = some '[' then
    some <|
      if cs.getLast? = some ']' ∧ 1 < cs.length then
        match ipv6? (cs.drop 1).dropLast with
        | some pieces => .ok (.ipv6 pieces)
        | none => .error .invalidIpv6
      else .error .invalidIpv6
  else none

/-- The host that a domain name in ASCII is. -/
def hostOfDomain (name : List Char) : Except Error Host :=
  if name.isEmpty then .error .emptyHost
  else if endsInNumber name then
    match ipv4? name with
    | some address => .ok (.ipv4 address)
    | none => .error .invalidIpv4
  else .ok (.domain (String.ofList name))

/-- The host of a URL with a special scheme. -/
def specialHost (cs : List Char) : Except Error Host :=
  (bracketed? cs).getD <|
    match (textOfOctets? (decode cs)).bind fun name => Idna.toAscii? name.toList with
    | none => .error .invalidDomain
    | some name => hostOfDomain name

/-- The characters that are not in any host. -/
def isNoHostChar (c : Char) : Bool :=
  ['\x00', '\t', '\n', '\r', ' ', '#', '/', ':', '<', '>', '?', '@', '[', '\\', ']', '^',
    '|'].contains c

/-- The host of any other URL. -/
def opaqueHost (cs : List Char) : Except Error Host :=
  (bracketed? cs).getD <|
    if cs.any isNoHostChar then .error .invalidDomainCharacter
    else .ok (.domain (String.ofList (encode isControl cs)))

/-- The text of a host. -/
def Host.text : Host → String
  | .domain name => name
  | .ipv4 address => String.ofList (ipv4Text address)
  | .ipv6 pieces => String.ofList ('[' :: ipv6Text pieces ++ [']'])

end McpConsole.Url
