import LogTail.Number.Digits
import LogTail.Settings

/-!
Settings files: lines with a key, an equals sign and a value, which is a whole number or a string
in one of four quotations, and comments.
-/
namespace LogTail.Settings.File

open LogTail.Number

inductive Item
  | integer (n : Int)
  | text (s : String)
  deriving DecidableEq, Repr

def isSpace (c : Char) : Bool :=
  c == ' ' || c == '\t'

def isText (c : Char) : Bool :=
  c == '\t' || (0x20 ≤ c.toNat && c.toNat != 0x7F)

def isBare (c : Char) : Bool :=
  c.isAlphanum || c == '_' || c == '-'

/-- A number whose digits may be separated by single underscores; `isFirst` asks for a digit. -/
def number? (base : Nat) (isFirst : Bool) (n : Nat) : List Char → Option Nat
  | [] => if isFirst then none else some n
  | '_' :: rest => if isFirst then none else number? base true n rest
  | c :: rest => (digit? base c).bind fun d => number? base false (base * n + d) rest

def decimal? : List Char → Option Nat
  | '0' :: _ :: _ => none
  | cs => number? 10 true 0 cs

def integer? : List Char → Option Int
  | '+' :: rest => (decimal? rest).map Int.ofNat
  | '-' :: rest => (decimal? rest).map fun n => -(n : Int)
  | '0' :: 'x' :: rest => (number? 16 true 0 rest).map Int.ofNat
  | '0' :: 'o' :: rest => (number? 8 true 0 rest).map Int.ofNat
  | '0' :: 'b' :: rest => (number? 2 true 0 rest).map Int.ofNat
  | cs => (decimal? cs).map Int.ofNat

def shortEscape? (c : Char) : Option Char :=
  if c = 'b' then some '\x08'
  else if c = 't' then some '\t'
  else if c = 'n' then some '\n'
  else if c = 'f' then some '\x0c'
  else if c = 'r' then some '\r'
  else if c = '"' then some '"'
  else if c = '\\' then some '\\'
  else none

def scalar? (digits : List Char) : Option Char := do
  let n ← natural? 16 digits
  if n.isValidChar then some (Char.ofNat n) else none

abbrev Taken := Option (List Char × List Char)

def before (c : Char) : Taken → Taken :=
  Option.map fun (cs, rest) => (c :: cs, rest)

def quoted : List Char → Taken
  | '"' :: rest => some ([], rest)
  | '\\' :: 'u' :: a :: b :: c :: d :: rest =>
    (scalar? [a, b, c, d]).bind fun x => before x (quoted rest)
  | '\\' :: 'U' :: a :: b :: c :: d :: e :: f :: g :: h :: rest =>
    (scalar? [a, b, c, d, e, f, g, h]).bind fun x => before x (quoted rest)
  | '\\' :: c :: rest => (shortEscape? c).bind fun x => before x (quoted rest)
  | c :: rest => if isText c then before c (quoted rest) else none
  | [] => none

def literal : List Char → Taken
  | '\'' :: rest => some ([], rest)
  | c :: rest => if isText c then before c (literal rest) else none
  | [] => none

def endsLine (cs : List Char) : Bool :=
  match cs.dropWhile isSpace with
  | '\n' :: _ | '\r' :: '\n' :: _ => true
  | _ => false

/-- The rest of a string in three double quotes, which may go over several lines; `skipping` a
line end and the blanks around it. Up to two quotes may stand before the closing ones. -/
def quotedLines (skipping : Bool) : List Char → Taken
  | '"' :: '"' :: '"' :: '"' :: '"' :: rest => some (['"', '"'], rest)
  | '"' :: '"' :: '"' :: '"' :: rest => some (['"'], rest)
  | '"' :: '"' :: '"' :: rest => some ([], rest)
  | '\\' :: 'u' :: a :: b :: c :: d :: rest =>
    (scalar? [a, b, c, d]).bind fun x => before x (quotedLines false rest)
  | '\\' :: 'U' :: a :: b :: c :: d :: e :: f :: g :: h :: rest =>
    (scalar? [a, b, c, d, e, f, g, h]).bind fun x => before x (quotedLines false rest)
  | '\\' :: c :: rest =>
    if endsLine (c :: rest) then quotedLines true (c :: rest)
    else (shortEscape? c).bind fun x => before x (quotedLines false rest)
  | '\r' :: '\n' :: rest =>
    if skipping then quotedLines true rest else before '\n' (quotedLines false rest)
  | '\n' :: rest =>
    if skipping then quotedLines true rest else before '\n' (quotedLines false rest)
  | c :: rest =>
    if skipping && isSpace c then quotedLines true rest
    else if isText c then before c (quotedLines false rest)
    else none
  | [] => none

def literalLines : List Char → Taken
  | '\'' :: '\'' :: '\'' :: '\'' :: '\'' :: rest => some (['\'', '\''], rest)
  | '\'' :: '\'' :: '\'' :: '\'' :: rest => some (['\''], rest)
  | '\'' :: '\'' :: '\'' :: rest => some ([], rest)
  | '\r' :: '\n' :: rest => before '\n' (literalLines rest)
  | '\n' :: rest => before '\n' (literalLines rest)
  | c :: rest => if isText c then before c (literalLines rest) else none
  | [] => none

def afterLineEnd : List Char → List Char
  | '\r' :: '\n' :: rest => rest
  | '\n' :: rest => rest
  | rest => rest

def string? : List Char → Taken
  | '"' :: '"' :: '"' :: rest => quotedLines false (afterLineEnd rest)
  | '\'' :: '\'' :: '\'' :: rest => literalLines (afterLineEnd rest)
  | '"' :: rest => quoted rest
  | '\'' :: rest => literal rest
  | _ => none

def item? (cs : List Char) : Option (Item × List Char) :=
  match string? cs with
  | some (s, rest) => some (.text (String.ofList s), rest)
  | none =>
    let word := cs.takeWhile fun c => isBare c || c == '+' || c == '.' || c == ':'
    (integer? word).map fun n => (.integer n, cs.drop word.length)

def key? : List Char → Taken
  | '"' :: rest => quoted rest
  | '\'' :: rest => literal rest
  | cs =>
    let word := cs.takeWhile isBare
    if word.isEmpty then none else some (word, cs.drop word.length)

def afterLine (cs : List Char) : Option (List Char) :=
  let rest := cs.dropWhile isSpace
  let rest := if rest.head? = some '#' then rest.dropWhile isText else rest
  match rest with
  | [] => some []
  | '\n' :: rest | '\r' :: '\n' :: rest => some rest
  | _ => none

def line? (cs : List Char) : Option (Option (String × Item) × List Char) :=
  match afterLine cs with
  | some rest => some (none, rest)
  | none => do
    let (key, cs) ← key? (cs.dropWhile isSpace)
    match cs.dropWhile isSpace with
    | '=' :: cs =>
      let (item, cs) ← item? (cs.dropWhile isSpace)
      let rest ← afterLine cs
      some (some (String.ofList key, item), rest)
    | _ => none

def items? : Nat → List Char → Option (List (String × Item))
  | _, [] => some []
  | 0, _ => none
  | fuel + 1, cs => do
    let (item, rest) ← line? cs
    let items ← items? fuel rest
    some (item.toList ++ items)

/-- The first natural number that does not fit 63 bits. -/
def integerBound : Nat := 9223372036854775808

def whole? : Item → Option Nat
  | .integer (.ofNat n) => if n < integerBound then some n else none
  | _ => none

def text? : Item → Option String
  | .text s => some s
  | _ => none

def set? (s : FileSettings) (entry : String × Item) : Option FileSettings :=
  let (key, item) := entry
  if key = "base_url" then (text? item).map fun v => { s with baseUrl := some v }
  else if key = "poll_interval_ms" then (whole? item).map fun v => { s with pollMs := some v }
  else if key = "request_timeout_ms" then
    (whole? item).map fun v => { s with timeoutMs := some v }
  else if key = "capacity" then (whole? item).map fun v => { s with capacity := some v }
  else if key = "full_load_limit" then (whole? item).map fun v => { s with limit := some v }
  else if key = "level" then (text? item).map fun v => { s with level := some v }
  else if key = "pin_threshold_rows" then (whole? item).map fun v => { s with pinRows := some v }
  else none

def repeats : List (String × Item) → Bool
  | [] => false
  | (key, _) :: rest => rest.any (·.1 == key) || repeats rest

def read (text : String) : Except SettingsError FileSettings :=
  let cs := match text.toList with
    | '\ufeff' :: rest => rest
    | cs => cs
  match items? (cs.length + 1) cs with
  | none => .error .malformed
  | some items =>
    if repeats items then .error .malformed
    else
      match items.foldlM set? {} with
      | some s => .ok s
      | none => .error .malformed

end LogTail.Settings.File
