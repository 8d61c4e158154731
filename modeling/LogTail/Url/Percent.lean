import LogTail.Number.Digits
import LogTail.Text.Decoding

/-!
Percent encoding: a byte that may not stand for itself is written as a percent sign and two
hexadecimal digits. The parameters of a query are encoded in this way too, except that a blank is
written as a plus sign.
-/
namespace LogTail.Url

open LogTail.Number

def hexDigit (n : Nat) : Char :=
  if n < 10 then Char.ofNat ('0'.toNat + n) else Char.ofNat ('A'.toNat + n - 10)

def escapeByte (b : UInt8) : List Char :=
  ['%', hexDigit (b.toNat / 16), hexDigit (b.toNat % 16)]

def escapeChar (c : Char) : List Char :=
  (String.utf8EncodeChar c).flatMap escapeByte

/-- Encodes the characters for which `escaped` holds, and all outside the basic ones. -/
def percentEncode (escaped : Char → Bool) (cs : List Char) : List Char :=
  cs.flatMap fun c => if escaped c || 0x7F ≤ c.toNat then escapeChar c else [c]

/-- The bytes that an encoded text stands for. A percent sign without two digits stands for
itself. -/
def percentDecode : List Char → List UInt8
  | '%' :: a :: b :: rest =>
    match digit? 16 a, digit? 16 b with
    | some high, some low => UInt8.ofNat (16 * high + low) :: percentDecode rest
    | _, _ => 0x25 :: percentDecode (a :: b :: rest)
  | c :: rest => String.utf8EncodeChar c ++ percentDecode rest
  | [] => []

def isFormSafe (c : Char) : Bool :=
  c.isAlphanum || c == '*' || c == '-' || c == '.' || c == '_'

def formEncode (s : String) : List Char :=
  s.toList.flatMap fun c =>
    if c == ' ' then ['+'] else if isFormSafe c then [c] else escapeChar c

def formText (params : List (String × String)) : String :=
  String.ofList (['&'].intercalate (params.map fun (k, v) => formEncode k ++ '=' :: formEncode v))

def formDecode (cs : List Char) : String :=
  String.ofList (Text.decodeUtf8 (percentDecode (cs.map fun c => if c == '+' then ' ' else c)))

def splitAt (separator : Char) : List Char → List (List Char)
  | [] => [[]]
  | c :: rest =>
    match splitAt separator rest with
    | [] => [[c]]
    | part :: parts => if c = separator then [] :: part :: parts else (c :: part) :: parts

def formParams (text : String) : List (String × String) :=
  ((splitAt '&' text.toList).filter (!·.isEmpty)).map fun part =>
    (formDecode (part.takeWhile (· != '=')), formDecode ((part.dropWhile (· != '=')).drop 1))

end LogTail.Url
