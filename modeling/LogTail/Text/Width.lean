import LogTail.Text.Blank
import LogTail.Text.Marks
import LogTail.Text.WideChars
import LogTail.Text.Pictographs

/-!
The number of terminal columns a text fills. Most characters fill one column, wide ones two and
marks none. A few sequences fill fewer columns than their characters do apart: emoji sequences,
flags, and ligatures of some scripts. They are found by reading the text from its end, keeping
in a `Tail` what the characters already read may merge with.
-/
namespace LogTail.Text

/-- What the text already read begins with, as far as the character before it is concerned. -/
inductive TailKind
  | plain
  | lineFeed
  | emoji
  | skinTone
  | flagLetter
  | flagLetters
  | joinedEmoji
  | joinedKeycap
  | joinedFlagLetter
  | joinedFlagEven
  | joinedFlagOdd
  | tagEnd
  | tagDigits (count : Nat)
  | tagLetters (count : Nat)
  | vowelE
  | vowelAi
  | alef
  | lamed (joined : Bool)
  | ya (joined : Bool)
  | vowelIYa
  | berber (joined : Bool)
  | berberPair
  | lisuTone
  | orkhonI (joined : Bool)
  | khmerLetter
  deriving DecidableEq, Repr

namespace TailKind

/-- Kinds that begin a ligature of letters; a variation selector does not undo them. -/
def isLigature : TailKind → Bool
  | alef | lamed _ | ya _ | vowelIYa | berber _ | berberPair | lisuTone | orkhonI _
  | khmerLetter => true
  | _ => false

/-- Ligatures through which invisible marks and joiners may stand. -/
def isTransparent : TailKind → Bool
  | alef => false
  | k => k.isLigature

def join : TailKind → TailKind
  | lamed _ => lamed true
  | ya _ => ya true
  | berber _ => berber true
  | orkhonI _ => orkhonI true
  | k => k

end TailKind

/-- What was read so far, with the variation selectors that apply to the next character. -/
structure Tail where
  kind : TailKind
  asEmoji : Bool := false
  asText : Bool := false
  deriving DecidableEq, Repr

namespace Tail

def ofKind (k : TailKind) : Tail := { kind := k }

def plain : Tail := ofKind .plain

def chooseEmoji (t : Tail) : Tail :=
  if t.kind.isLigature then { t with asEmoji := true }
  else match t.kind with
    | .joinedEmoji | .joinedKeycap => { t with asEmoji := true }
    | _ => { kind := .plain, asEmoji := true }

def chooseText (t : Tail) : Tail :=
  if t.kind.isLigature then { t with asText := true } else { kind := .plain, asText := true }

def dropEmoji (t : Tail) : Tail :=
  if t.kind.isLigature then { t with asEmoji := false } else plain

def dropText (t : Tail) : Tail :=
  if t.kind.isLigature then { t with asText := false } else plain

end Tail

def between (c : Char) (first last : Nat) : Bool :=
  first ≤ c.toNat && c.toNat ≤ last

/-- Arabic letters that join a following alef into one column. -/
def isLam (c : Char) : Bool :=
  c.toNat == 0x644 || between c 0x6B5 0x6B8 || c.toNat == 0x76A || c.toNat == 0x8A6 ||
    c.toNat == 0x8C7

/-- Arabic letters of the alef group. -/
def isAlef (c : Char) : Bool :=
  between c 0x622 0x623 || c.toNat == 0x625 || c.toNat == 0x627 || between c 0x671 0x673 ||
    c.toNat == 0x675 || between c 0x773 0x774 || between c 0x870 0x882

def isBerberLetter (c : Char) : Bool :=
  between c 0x2D31 0x2D65 || c.toNat == 0x2D6F

/-- Khmer letters that are written below the one before them. -/
def isKhmerLetter (c : Char) : Bool :=
  between c 0x1780 0x1782 || between c 0x1784 0x1787 || between c 0x1789 0x178C ||
    between c 0x178E 0x1793 || between c 0x1795 0x1798 || between c 0x179B 0x179D ||
    c.toNat == 0x17A0 || c.toNat == 0x17A2 || c.toNat == 0x17A7 || between c 0x17AB 0x17AC ||
    c.toNat == 0x17AF

/-- Regional indicators, two of which make a flag. -/
def isFlagLetter (c : Char) : Bool :=
  between c 0x1F1E6 0x1F1FF

def isZeroWidth (c : Char) : Bool :=
  c.toNat != 0x2D7F && c.toNat != 0x115F &&
  (graphemeExtenders.contains c || defaultIgnorable.contains c ||
    between c 0x1160 0x11FF || between c 0xD7B0 0xD7C6 || between c 0xD7CB 0xD7FB ||
    c.toNat == 0x605 || c.toNat == 0x70F || between c 0x890 0x891 || c.toNat == 0x8E2 ||
    c.toNat == 0xA8FA)

/-- Invisible combining marks and the zero width joiner: they may stand inside a ligature. -/
def isInvisibleMark (c : Char) : Bool :=
  c.toNat == 0x34F || between c 0x17B4 0x17B5 || between c 0x180B 0x180D || c.toNat == 0x180F ||
    c.toNat == 0x200D || between c 0xFE00 0xFE0F || between c 0xE0100 0xE01EF

def glyph (c : Char) : Nat × Tail :=
  let n := c.toNat
  if between c 0xA4FC 0xA4FD then (1, .ofKind .lisuTone)
  else if n == 0xFE0F then (0, Tail.plain.chooseEmoji)
  else if n == 0xFE0E then (0, Tail.plain.chooseText)
  else if n == 0x10C03 then (1, .ofKind (.orkhonI false))
  else if n == 0x16D68 then (1, .ofKind .vowelE)
  else if n == 0x16D69 then (1, .ofKind .vowelAi)
  else if n == 0x1A10 then (1, .ofKind (.ya false))
  else if isFlagLetter c then (1, .ofKind .flagLetter)
  else if between c 0x1F3FB 0x1F3FF then (2, .ofKind .skinTone)
  else if isBerberLetter c then (1, .ofKind (.berber false))
  else if n == 0x5DC then (1, .ofKind (.lamed false))
  else if isAlef c then (1, .ofKind .alef)
  else if isKhmerLetter c then (1, .ofKind .khmerLetter)
  else if n == 0x17D8 then (3, .plain)
  else if emojiByDefault.contains c then (2, .ofKind .emoji)
  else if isZeroWidth c then (0, .plain)
  else if wide.contains c then (2, .plain)
  else (1, .plain)

/-- The columns that a character adds before a tail it merges with, and the tail of both; nothing
where the two do not merge. -/
def merge (c : Char) (k : TailKind) : Option (Int × Tail) :=
  let n := c.toNat
  let digit := between c 0xE0030 0xE0039
  match k with
  | .alef =>
    if isLam c then some (0, .plain)
    else if isZeroWidth c && !nonJoiningMarks.contains c then some (0, .ofKind .alef)
    else none
  | .lamed true => if n == 0x5D0 then some (0, .plain) else none
  | .khmerLetter => if n == 0x17D2 then some (-1, .plain) else none
  | .ya true => if n == 0x1A17 then some (0, .ofKind .vowelIYa) else none
  | .vowelIYa => if n == 0x1A15 then some (0, .plain) else none
  | .berber joined =>
    if n == 0x2D7F then some (1, .ofKind .berberPair)
    else if joined && isBerberLetter c then some (0, .plain)
    else none
  | .berberPair => if isBerberLetter c then some (-1, .plain) else none
  | .lisuTone => if between c 0xA4F8 0xA4FB then some (0, .plain) else none
  | .orkhonI true => if n == 0x10C32 then some (0, .plain) else none
  | .skinTone =>
    if modifierBases.contains c then some (0, .ofKind .emoji)
    else if n == 0x200D then some (0, .ofKind .joinedEmoji)
    else none
  | .flagLetter => if isFlagLetter c then some (1, .ofKind .flagLetters) else none
  | .flagLetters =>
    if isFlagLetter c then some (1, .ofKind .flagLetters)
    else if n == 0x200D then some (0, .ofKind .joinedEmoji)
    else none
  | .emoji => if n == 0x200D then some (0, .ofKind .joinedEmoji) else none
  | .joinedEmoji =>
    if n == 0x20E3 then some (0, .ofKind .joinedKeycap)
    else if isFlagLetter c then some (1, .ofKind .joinedFlagLetter)
    else if between c 0x1F3FB 0x1F3FF then some (0, .ofKind .skinTone)
    else if n == 0xE007F then some (0, .ofKind .tagEnd)
    else if (glyph c).2 == .ofKind .emoji then some (0, .ofKind .emoji)
    else none
  | .joinedFlagLetter =>
    if isFlagLetter c then some (-1, .ofKind .joinedFlagEven)
    else if n == 0x200D then some (0, .ofKind .joinedEmoji)
    else none
  | .joinedFlagOdd => if isFlagLetter c then some (-1, .ofKind .joinedFlagEven) else none
  | .joinedFlagEven =>
    if n == 0x200D then some (0, .ofKind .joinedEmoji)
    else if isFlagLetter c then some (3, .ofKind .joinedFlagOdd)
    else none
  | .tagEnd =>
    if between c 0xE0061 0xE007A then some (0, .ofKind (.tagLetters 1))
    else if digit then some (0, .ofKind (.tagDigits 1))
    else none
  | .tagLetters count =>
    if between c 0xE0061 0xE007A && count < 6 then some (0, .ofKind (.tagLetters (count + 1)))
    else if digit && count ≤ 4 then some (0, .ofKind (.tagDigits 1))
    else if n == 0x1F3F4 && 3 ≤ count then some (0, .ofKind .emoji)
    else none
  | .tagDigits count =>
    if digit && count < 3 then some (0, .ofKind (.tagDigits (count + 1)))
    else if n == 0x1F3F4 && count == 3 then some (0, .ofKind .emoji)
    else none
  | .vowelE =>
    if n == 0x16D63 then some (0, .plain)
    else if n == 0x16D67 then some (0, .ofKind .vowelAi)
    else if n == 0x16D68 then some (1, .ofKind .vowelE)
    else if n == 0x16D69 then some (0, .plain)
    else none
  | .vowelAi => if n == 0x16D63 then some (0, .plain) else none
  | _ => none

def advanceText (c : Char) (t : Tail) : Int × Tail :=
  let alone : Int × Tail := ((glyph c).1, (glyph c).2)
  if c.toNat ≤ 0xA0 then
    if c == '\n' then (1, .ofKind .lineFeed)
    else if c == '\r' && t == .ofKind .lineFeed then (0, .plain)
    else (1, .plain)
  else if t == .plain then alone
  else if c.toNat == 0xFE0F then (0, t.chooseEmoji)
  else if c.toNat == 0xFE0E then (0, t.chooseText)
  else if t.asText && emojiByDefault.contains c && presentationBases.contains c &&
      !between c 0x1F200 0x1F2FF then (1, .plain)
  else
    let t := if t.asText then t.dropText else t
    if t.kind.isTransparent && c.toNat == 0x200D then (0, { t with kind := t.kind.join })
    else if t.kind.isTransparent && isInvisibleMark c then (0, t)
    else (merge c t.kind).getD alone

/-- The columns a character adds in front of a tail, and the tail that both make. -/
def advance (c : Char) (t : Tail) : Int × Tail :=
  if t.asEmoji then
    if presentationBases.contains c then
      (if t.kind == .joinedEmoji || t.kind == .joinedKeycap then 0 else 2, .ofKind .emoji)
    else advanceText c t.dropEmoji
  else advanceText c t

/-- The columns that a text fills. A control character counts as one column. -/
def width (cs : List Char) : Nat :=
  (cs.foldr (fun c (sum, tail) => (sum + (advance c tail).1, (advance c tail).2))
    ((0, .plain) : Int × Tail)).1.toNat

/-- The columns of a character on its own; a control character has no width. -/
def charWidth (c : Char) : Option Nat :=
  if isControl c then none else some (glyph c).1

end LogTail.Text
