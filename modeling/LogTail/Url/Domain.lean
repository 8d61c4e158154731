import LogTail.Text.CharSet
import LogTail.Text.Lower
import LogTail.Url.Percent
import LogTail.Url.Punycode

/-!
Domains in ASCII, for the program that runs. The rule for them is one of tables: which characters
stand for others, which are composed, and which a domain may have, in which places. Reading a URL
therefore takes the rule as a parameter, and what is here is only a part of it. It lowers capitals,
narrows wide forms, leaves out what is invisible, and refuses what can be no letter; it maps and
composes nothing else and has no tables of what is allowed. For a domain in ASCII without encoded
labels that is the whole rule.
-/
namespace LogTail.Url

def invisible : Text.CharSet :=
  ⟨[(0xAD, 0xAD), (0x34F, 0x34F), (0x180B, 0x180D), (0x180F, 0x180F), (0x200B, 0x200B),
    (0x2060, 0x2060), (0x2064, 0x2064), (0xFE00, 0xFE0F), (0xFEFF, 0xFEFF), (0x1BCA0, 0x1BCA3),
    (0xE0100, 0xE01EF)]⟩

/-- Controls, the sign for what cannot be read, and what is kept for private use or is no
character. -/
def noLetters : Text.CharSet :=
  ⟨[(0x80, 0x9F), (0x200E, 0x200F), (0x2028, 0x202E), (0x2061, 0x2063), (0x2065, 0x206F),
    (0xD7FC, 0xF8FF), (0xFDD0, 0xFDEF), (0xFFEF, 0xFFFF), (0x1FFFE, 0x1FFFF), (0x2FFFE, 0x2FFFF),
    (0x3FFFE, 0x10FFFF)]⟩

def usualForm (c : Char) : List Char :=
  if invisible.contains c then []
  else if ['\u3002', '\uff0e', '\uff61'].contains c then ['.']
  else if 0xFF01 ≤ c.toNat ∧ c.toNat ≤ 0xFF5E then
    Text.lowerChar (Char.ofNat (c.toNat - 0xFEE0))
  else Text.lowerChar c

def isBasic (label : List Char) : Bool :=
  label.all (·.toNat < 0x80)

def encodedSign : List Char := ['x', 'n', '-', '-']

/-- A label in ASCII. One that is marked as the encoding of another has to be that. -/
def label? (label : List Char) : Option (List Char) :=
  if label.any noLetters.contains then none
  else if !isBasic label then some (encodedSign ++ Punycode.encode label)
  else if encodedSign.isPrefixOf label then
    match Punycode.decode? (label.drop 4) with
    | some decoded =>
      if isBasic decoded || decoded.any noLetters.contains || decoded.flatMap usualForm != decoded
      then none
      else some label
    | none => none
  else some label

def domain? (cs : List Char) : Option (List Char) :=
  ((splitAt '.' (cs.flatMap usualForm)).mapM label?).map ['.'].intercalate

end LogTail.Url
