/-!
# Percent encoding

A character that may not stand for itself is written as its UTF-8 octets, each as a percent sign
and two hexadecimal digits. Which ASCII characters may not stand for themselves depends on the
part of the URL. Other characters never may.
-/

namespace McpConsole.Url

/-- A hexadecimal digit in capitals. -/
def hexDigit (n : Nat) : Char :=
  (Nat.digitChar n).toUpper

/-- The value of a hexadecimal digit. -/
def hexValue? (c : Char) : Option Nat :=
  if '0' ≤ c ∧ c ≤ '9' then some (c.toNat - '0'.toNat)
  else if 'a' ≤ c ∧ c ≤ 'f' then some (c.toNat - 'a'.toNat + 10)
  else if 'A' ≤ c ∧ c ≤ 'F' then some (c.toNat - 'A'.toNat + 10)
  else none

/-- An octet as it is written. -/
def encodeOctet (octet : UInt8) : List Char :=
  ['%', hexDigit (octet.toNat / 16), hexDigit (octet.toNat % 16)]

/-- A character, encoded if it is not ASCII or in a class. -/
def encodeChar (isEncoded : Char → Bool) (c : Char) : List Char :=
  if c.toNat < 0x80 && !isEncoded c then [c]
  else (String.utf8EncodeChar c).flatMap encodeOctet

/-- A text with the characters of a class encoded. -/
def encode (isEncoded : Char → Bool) (cs : List Char) : List Char :=
  cs.flatMap (encodeChar isEncoded)

/-- The octets of a text in which encoded octets stand for themselves. A percent sign without two
digits after it is an octet like any other. -/
def decode : List Char → List UInt8
  | [] => []
  | '%' :: a :: b :: cs =>
    match hexValue? a, hexValue? b with
    | some high, some low => UInt8.ofNat (16 * high + low) :: decode cs
    | _, _ => String.utf8EncodeChar '%' ++ decode (a :: b :: cs)
  | c :: cs => String.utf8EncodeChar c ++ decode cs
termination_by cs => cs.length

/-- The text of octets, if they are UTF-8. -/
def textOfOctets? (octets : List UInt8) : Option String :=
  String.fromUTF8? octets.toByteArray

/-- Whether a character is a control character. -/
def isControl (c : Char) : Bool :=
  c.toNat < 0x20 || c.toNat == 0x7F

/-- The characters that are encoded in a fragment. -/
def isEncodedInFragment (c : Char) : Bool :=
  isControl c || [' ', '"', '<', '>', '\x60'].contains c

/-- The characters that are encoded in a path. -/
def isEncodedInPath (c : Char) : Bool :=
  isEncodedInFragment c || ['#', '?', '{', '}'].contains c

/-- The characters that are encoded in a user name or password. -/
def isEncodedInUser (c : Char) : Bool :=
  isEncodedInPath c || ['/', ':', ';', '=', '@', '[', '\\', ']', '^', '|'].contains c

/-- The characters that are encoded in a query; an apostrophe only if the scheme is special. -/
def isEncodedInQuery (isSpecial : Bool) (c : Char) : Bool :=
  isControl c || [' ', '"', '#', '<', '>'].contains c || (isSpecial && c == '\x27')

/-- The characters that are encoded when a text becomes one segment of a path: also what would
end the segment, and the percent sign. -/
def isEncodedInSegment (c : Char) : Bool :=
  isEncodedInPath c || c == '%' || c == '/'

end McpConsole.Url
