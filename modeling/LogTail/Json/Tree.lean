import LogTail.Json.Token

/-!
The syntax tree of JSON text. Tokens are put together by a `Builder` that keeps the containers
still open on a stack, so a text may nest to any depth.
-/
namespace LogTail.Json

/-- A JSON text with its numbers and strings as they were written. -/
inductive Tree
  | null
  | bool (value : Bool)
  | number (text : NumberText)
  | string (content : Option String)
  | array (items : List Tree)
  | object (fields : List (Option String × Tree))

inductive Frame
  | array (items : List Tree)
  | object (fields : List (Option String × Tree))
  | field (fields : List (Option String × Tree)) (key : Option String)

inductive Expected
  | value
  | valueOrClose
  | key
  | keyOrClose
  | colon
  | commaOrClose
  | nothing
  deriving DecidableEq, Repr

structure Builder where
  frames : List Frame
  next : Expected
  result : Option Tree

namespace Builder

def start : Builder := ⟨[], .value, none⟩

def deliver (t : Tree) : List Frame → Option Builder
  | [] => some ⟨[], .nothing, some t⟩
  | .array items :: rest => some ⟨.array (t :: items) :: rest, .commaOrClose, none⟩
  | .field fields key :: rest =>
    some ⟨.object ((key, t) :: fields) :: rest, .commaOrClose, none⟩
  | .object _ :: _ => none

def takesValue (b : Builder) : Bool :=
  b.next == .value || b.next == .valueOrClose

def step (b : Builder) : Token → Option Builder
  | .null => if b.takesValue then deliver .null b.frames else none
  | .bool v => if b.takesValue then deliver (.bool v) b.frames else none
  | .number n => if b.takesValue then deliver (.number n) b.frames else none
  | .string s =>
    if b.takesValue then deliver (.string s) b.frames
    else match b.next, b.frames with
      | .key, .object fields :: rest | .keyOrClose, .object fields :: rest =>
        some ⟨.field fields s :: rest, .colon, none⟩
      | _, _ => none
  | .openArray =>
    if b.takesValue then some ⟨.array [] :: b.frames, .valueOrClose, none⟩ else none
  | .openObject =>
    if b.takesValue then some ⟨.object [] :: b.frames, .keyOrClose, none⟩ else none
  | .colon => if b.next = .colon then some { b with next := .value } else none
  | .comma =>
    match b.next, b.frames with
    | .commaOrClose, .array _ :: _ => some { b with next := .value }
    | .commaOrClose, .object _ :: _ => some { b with next := .key }
    | _, _ => none
  | .closeArray =>
    match b.next, b.frames with
    | .commaOrClose, .array items :: rest | .valueOrClose, .array items :: rest =>
      deliver (.array items.reverse) rest
    | _, _ => none
  | .closeObject =>
    match b.next, b.frames with
    | .commaOrClose, .object fields :: rest | .keyOrClose, .object fields :: rest =>
      deliver (.object fields.reverse) rest
    | _, _ => none

end Builder

def Tree.ofTokens? (ts : List Token) : Option Tree :=
  (ts.foldlM Builder.step Builder.start).bind (·.result)

def Tree.parse? (cs : List Char) : Option Tree :=
  (tokens? cs).bind Tree.ofTokens?

end LogTail.Json
