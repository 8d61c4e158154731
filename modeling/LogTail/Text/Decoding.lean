/-!
Text from bytes. Malformed bytes never fail: each malformed part becomes one replacement
character. A byte order mark at the start chooses between the three encodings and is not part of
the text.
-/
namespace LogTail.Text

def replacement : Char := '\ufffd'

/-- A character of several bytes of which some were read: its number so far, how many bytes are
missing, and between which values the next one lies. -/
structure Partial where
  point : Nat
  missing : Nat
  low : Nat
  high : Nat
  deriving DecidableEq, Repr

def firstByte (b : Nat) : Option Partial × List Char :=
  if b < 0x80 then (none, [Char.ofNat b])
  else if 0xC2 ≤ b ∧ b ≤ 0xDF then (some ⟨b - 0xC0, 1, 0x80, 0xBF⟩, [])
  else if 0xE0 ≤ b ∧ b ≤ 0xEF then
    (some ⟨b - 0xE0, 2, if b = 0xE0 then 0xA0 else 0x80, if b = 0xED then 0x9F else 0xBF⟩, [])
  else if 0xF0 ≤ b ∧ b ≤ 0xF4 then
    (some ⟨b - 0xF0, 3, if b = 0xF0 then 0x90 else 0x80, if b = 0xF4 then 0x8F else 0xBF⟩, [])
  else (none, [replacement])

/-- Takes a byte in UTF-8. A byte that does not go on with the character begun begins
another. -/
def utf8Step (state : Option Partial) (b : Nat) : Option Partial × List Char :=
  match state with
  | none => firstByte b
  | some p =>
    if p.low ≤ b ∧ b ≤ p.high then
      let point := p.point * 64 + (b - 0x80)
      if p.missing = 1 then (none, [Char.ofNat point])
      else (some ⟨point, p.missing - 1, 0x80, 0xBF⟩, [])
    else
      let (next, chars) := firstByte b
      (next, replacement :: chars)

def decodeUtf8From (state : Option Partial) : List UInt8 → List Char
  | [] => if state.isSome then [replacement] else []
  | b :: rest =>
    let (next, chars) := utf8Step state b.toNat
    chars ++ decodeUtf8From next rest

def decodeUtf8 (bytes : List UInt8) : List Char :=
  decodeUtf8From none bytes

def unitsOf (lowFirst : Bool) : List UInt8 → List Nat × Bool
  | a :: b :: rest =>
    let (units, odd) := unitsOf lowFirst rest
    ((if lowFirst then a.toNat + 256 * b.toNat else 256 * a.toNat + b.toNat) :: units, odd)
  | [_] => ([], true)
  | [] => ([], false)

def decodeUnits (lead : Option Nat) : List Nat → List Char × Bool
  | [] => ([], lead.isSome)
  | u :: rest =>
    match lead with
    | some high =>
      if 0xDC00 ≤ u ∧ u ≤ 0xDFFF then
        let (chars, pending) := decodeUnits none rest
        (Char.ofNat (0x10000 + (high - 0xD800) * 0x400 + (u - 0xDC00)) :: chars, pending)
      else if 0xD800 ≤ u ∧ u ≤ 0xDBFF then
        let (chars, pending) := decodeUnits (some u) rest
        (replacement :: chars, pending)
      else
        let (chars, pending) := decodeUnits none rest
        (replacement :: Char.ofNat u :: chars, pending)
    | none =>
      if 0xD800 ≤ u ∧ u ≤ 0xDBFF then decodeUnits (some u) rest
      else if 0xDC00 ≤ u ∧ u ≤ 0xDFFF then
        let (chars, pending) := decodeUnits none rest
        (replacement :: chars, pending)
      else
        let (chars, pending) := decodeUnits none rest
        (Char.ofNat u :: chars, pending)

/-- Decodes UTF-16. What is incomplete at the end becomes one replacement character. -/
def decodeUtf16 (lowFirst : Bool) (bytes : List UInt8) : List Char :=
  let (units, odd) := unitsOf lowFirst bytes
  let (chars, pending) := decodeUnits none units
  chars ++ (if odd || pending then [replacement] else [])

def decode : List UInt8 → List Char
  | 0xEF :: 0xBB :: 0xBF :: rest => decodeUtf8 rest
  | 0xFF :: 0xFE :: rest => decodeUtf16 true rest
  | 0xFE :: 0xFF :: rest => decodeUtf16 false rest
  | bytes => decodeUtf8 bytes

def encodeUtf8 (cs : List Char) : List UInt8 :=
  cs.flatMap String.utf8EncodeChar

end LogTail.Text
