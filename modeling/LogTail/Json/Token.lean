import LogTail.Number.Digits

/-!
The tokens of JSON text. Text is cut into tokens by a `Lexer` that takes one character at a time;
a number is kept as it was written, and a string as the characters it stands for.
-/
namespace LogTail.Json

open LogTail.Number

/-- A number as written: its digits before and after the point, and its exponent. An integer has
neither fraction nor exponent. -/
structure NumberText where
  negative : Bool
  whole : List Nat
  fraction : List Nat
  exponent : Option (Bool × List Nat)
  deriving DecidableEq, Repr

/-- A lexical unit. A string whose escapes do not make up characters has no content. -/
inductive Token
  | openArray
  | closeArray
  | openObject
  | closeObject
  | colon
  | comma
  | null
  | bool (value : Bool)
  | number (text : NumberText)
  | string (content : Option String)
  deriving DecidableEq, Repr

def leadingDigits (cs : List Char) : List Nat :=
  (cs.takeWhile Char.isDigit).filterMap (digit? 10)

def afterDigits (cs : List Char) : List Char :=
  cs.dropWhile Char.isDigit

namespace NumberText

/-- Reads the exponent that a number ends in, `some none` if there is none. -/
def exponentOf? : List Char → Option (Option (Bool × List Nat))
  | [] => some none
  | c :: rest =>
    if c = 'e' ∨ c = 'E' then
      let (negative, cs) := match rest with
        | '-' :: cs => (true, cs)
        | '+' :: cs => (false, cs)
        | cs => (false, cs)
      if leadingDigits cs = [] ∨ afterDigits cs ≠ [] then none
      else some (some (negative, leadingDigits cs))
    else none

def tailOf? (negative : Bool) (whole : List Nat) : List Char → Option NumberText
  | '.' :: rest =>
    if leadingDigits rest = [] then none
    else (exponentOf? (afterDigits rest)).map (⟨negative, whole, leadingDigits rest, ·⟩)
  | rest => (exponentOf? rest).map (⟨negative, whole, [], ·⟩)

/-- Reads a number without its sign. A leading zero stands alone. -/
def unsignedOf? (negative : Bool) (cs : List Char) : Option NumberText :=
  match leadingDigits cs with
  | [] => none
  | 0 :: _ :: _ => none
  | whole => tailOf? negative whole (afterDigits cs)

def ofChars? : List Char → Option NumberText
  | '-' :: rest => unsignedOf? true rest
  | cs => unsignedOf? false cs

end NumberText

inductive StringPart
  | char (c : Char)
  | unit (n : Nat)
  deriving DecidableEq, Repr

/-- The characters that the parts of a string make up. Two escapes may form a surrogate pair; a
surrogate outside a pair makes up nothing. -/
def joinParts : List StringPart → Option (List Char)
  | [] => some []
  | .char c :: rest => (joinParts rest).map (c :: ·)
  | .unit high :: .unit low :: rest =>
    if 0xD800 ≤ high ∧ high < 0xDC00 ∧ 0xDC00 ≤ low ∧ low < 0xE000 then
      (joinParts rest).map
        (Char.ofNat (0x10000 + (high - 0xD800) * 0x400 + (low - 0xDC00)) :: ·)
    else if 0xD800 ≤ high ∧ high < 0xE000 then none
    else (joinParts (.unit low :: rest)).map (Char.ofNat high :: ·)
  | .unit n :: rest =>
    if 0xD800 ≤ n ∧ n < 0xE000 then none else (joinParts rest).map (Char.ofNat n :: ·)

/-- Where a lexer stands: between tokens or inside one, whose text so far is kept backwards. -/
inductive LexMode
  | between
  | number (text : List Char)
  | word (text : List Char)
  | string (parts : List StringPart)
  | escape (parts : List StringPart)
  | unicode (parts : List StringPart) (digits : List Nat)
  deriving DecidableEq, Repr

structure Lexer where
  mode : LexMode
  tokens : List Token
  deriving DecidableEq, Repr

def isNumberChar (c : Char) : Bool :=
  c.isDigit || c == '-' || c == '+' || c == '.' || c == 'e' || c == 'E'

def isJsonBlank (c : Char) : Bool :=
  c == ' ' || c == '\n' || c == '\r' || c == '\t'

def wordToken? (text : List Char) : Option Token :=
  if text = ['n', 'u', 'l', 'l'] then some .null
  else if text = ['t', 'r', 'u', 'e'] then some (.bool true)
  else if text = ['f', 'a', 'l', 's', 'e'] then some (.bool false)
  else none

def punctuation? (c : Char) : Option Token :=
  if c = '[' then some .openArray
  else if c = ']' then some .closeArray
  else if c = '\x7b' then some .openObject
  else if c = '\x7d' then some .closeObject
  else if c = ':' then some .colon
  else if c = ',' then some .comma
  else none

def shortEscape? (c : Char) : Option Char :=
  if c = '"' then some '"'
  else if c = '\\' then some '\\'
  else if c = '/' then some '/'
  else if c = 'b' then some '\x08'
  else if c = 'f' then some '\x0c'
  else if c = 'n' then some '\n'
  else if c = 'r' then some '\r'
  else if c = 't' then some '\t'
  else none

namespace Lexer

def start : Lexer := ⟨.between, []⟩

def begin (l : Lexer) (c : Char) : Option Lexer :=
  if isJsonBlank c then some { l with mode := .between }
  else if c = '"' then some { l with mode := .string [] }
  else if c = '-' ∨ c.isDigit then some { l with mode := .number [c] }
  else if 'a' ≤ c ∧ c ≤ 'z' then some { l with mode := .word [c] }
  else (punctuation? c).map fun t => ⟨.between, t :: l.tokens⟩

def close (l : Lexer) : Option Lexer :=
  match l.mode with
  | .between => some l
  | .number text =>
    (NumberText.ofChars? text.reverse).map fun n => ⟨.between, .number n :: l.tokens⟩
  | .word text => (wordToken? text.reverse).map fun t => ⟨.between, t :: l.tokens⟩
  | _ => none

def step (l : Lexer) (c : Char) : Option Lexer :=
  match l.mode with
  | .between => l.begin c
  | .number text =>
    if isNumberChar c then some { l with mode := .number (c :: text) }
    else l.close.bind (·.begin c)
  | .word text =>
    if 'a' ≤ c ∧ c ≤ 'z' then some { l with mode := .word (c :: text) }
    else l.close.bind (·.begin c)
  | .string parts =>
    if c = '"' then
      some ⟨.between, .string ((joinParts parts.reverse).map String.ofList) :: l.tokens⟩
    else if c = '\\' then some { l with mode := .escape parts }
    else if c.toNat < 0x20 then none
    else some { l with mode := .string (.char c :: parts) }
  | .escape parts =>
    if c = 'u' then some { l with mode := .unicode parts [] }
    else (shortEscape? c).map fun e => { l with mode := .string (.char e :: parts) }
  | .unicode parts digits =>
    (digit? 16 c).map fun d =>
      if digits.length = 3 then
        { l with mode := .string (.unit (ofDigits 16 (digits.reverse ++ [d])) :: parts) }
      else { l with mode := .unicode parts (d :: digits) }

end Lexer

def tokens? (cs : List Char) : Option (List Token) :=
  ((cs.foldlM Lexer.step Lexer.start).bind Lexer.close).map (·.tokens.reverse)

end LogTail.Json
