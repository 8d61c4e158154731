import LogTail.Json.Tree

/-!
Every tree is put together from its own tokens. A builder that takes a value goes through the tokens of a
tree and ends as if the finished tree had been delivered at once; what is on the stack below stays as it
is.
-/
namespace LogTail.Json

namespace Tree

mutual

def tokens : Tree → List Token
  | .null => [.null]
  | .bool b => [.bool b]
  | .number n => [.number n]
  | .string s => [.string s]
  | .array [] => [.openArray, .closeArray]
  | .array (t :: rest) => .openArray :: tokens t ++ itemTokens rest ++ [.closeArray]
  | .object [] => [.openObject, .closeObject]
  | .object ((k, t) :: rest) =>
    .openObject :: .string k :: .colon :: tokens t ++ fieldTokens rest ++ [.closeObject]

def itemTokens : List Tree → List Token
  | [] => []
  | t :: rest => .comma :: tokens t ++ itemTokens rest

def fieldTokens : List (Option String × Tree) → List Token
  | [] => []
  | (k, t) :: rest => .comma :: .string k :: .colon :: tokens t ++ fieldTokens rest

end

end Tree

namespace Builder

section Steps

variable (items : List Tree) (fields : List (Option String × Tree)) (frames : List Frame)
  (t : Tree) (key : Option String)

@[simp]
theorem deliver_array : deliver t (.array items :: frames) =
    some ⟨.array (t :: items) :: frames, .commaOrClose, none⟩ :=
  rfl

@[simp]
theorem deliver_field : deliver t (.field fields key :: frames) =
    some ⟨.object ((key, t) :: fields) :: frames, .commaOrClose, none⟩ :=
  rfl

theorem step_openArray {b : Builder} (hb : b.takesValue = true) :
    step b .openArray = some ⟨.array [] :: b.frames, .valueOrClose, none⟩ :=
  if_pos hb

theorem step_openObject {b : Builder} (hb : b.takesValue = true) :
    step b .openObject = some ⟨.object [] :: b.frames, .keyOrClose, none⟩ :=
  if_pos hb

@[simp]
theorem step_comma_array : step ⟨.array items :: frames, .commaOrClose, none⟩ .comma =
    some ⟨.array items :: frames, .value, none⟩ :=
  rfl

@[simp]
theorem step_comma_object : step ⟨.object fields :: frames, .commaOrClose, none⟩ .comma =
    some ⟨.object fields :: frames, .key, none⟩ :=
  rfl

@[simp]
theorem step_firstKey : step ⟨.object fields :: frames, .keyOrClose, none⟩ (.string key) =
    some ⟨.field fields key :: frames, .colon, none⟩ :=
  rfl

@[simp]
theorem step_key : step ⟨.object fields :: frames, .key, none⟩ (.string key) =
    some ⟨.field fields key :: frames, .colon, none⟩ :=
  rfl

@[simp]
theorem step_colon : step ⟨frames, .colon, none⟩ .colon = some ⟨frames, .value, none⟩ :=
  rfl

@[simp]
theorem step_closeArray_first : step ⟨.array items :: frames, .valueOrClose, none⟩ .closeArray =
    deliver (.array items.reverse) frames :=
  rfl

@[simp]
theorem step_closeArray : step ⟨.array items :: frames, .commaOrClose, none⟩ .closeArray =
    deliver (.array items.reverse) frames :=
  rfl

@[simp]
theorem step_closeObject_first : step ⟨.object fields :: frames, .keyOrClose, none⟩ .closeObject =
    deliver (.object fields.reverse) frames :=
  rfl

@[simp]
theorem step_closeObject : step ⟨.object fields :: frames, .commaOrClose, none⟩ .closeObject =
    deliver (.object fields.reverse) frames :=
  rfl

end Steps

mutual

/-- A builder that takes a value has the whole tree delivered in the end. -/
theorem tokens_steps (t : Tree) {b : Builder} (hb : b.takesValue = true) :
    t.tokens.foldlM step b = deliver t b.frames := by
  cases t with
  | null => simp [Tree.tokens, step, hb]
  | bool v => simp [Tree.tokens, step, hb]
  | number n => simp [Tree.tokens, step, hb]
  | string s => simp [Tree.tokens, step, hb]
  | array items =>
    cases items with
    | nil => simp [Tree.tokens, step_openArray hb]
    | cons t rest =>
      -- the first item is taken without a comma, the others by `itemTokens_steps`
      have hfirst := tokens_steps t (b := ⟨.array [] :: b.frames, .valueOrClose, none⟩) rfl
      have hrest := itemTokens_steps rest [t] b.frames
      simp [Tree.tokens, step_openArray hb, hfirst, hrest]
  | object fields =>
    cases fields with
    | nil => simp [Tree.tokens, step_openObject hb]
    | cons field rest =>
      obtain ⟨key, t⟩ := field
      have hfirst := tokens_steps t (b := ⟨.field [] key :: b.frames, .value, none⟩) rfl
      have hrest := fieldTokens_steps rest [(key, t)] b.frames
      simp [Tree.tokens, step_openObject hb, hfirst, hrest]

/-- The tokens of further items put these items into the array that is open. -/
theorem itemTokens_steps (items done : List Tree) (frames : List Frame) :
    (Tree.itemTokens items).foldlM step ⟨.array done :: frames, .commaOrClose, none⟩ =
      some ⟨.array (items.reverse ++ done) :: frames, .commaOrClose, none⟩ := by
  cases items with
  | nil => rfl
  | cons t rest =>
    have hfirst := tokens_steps t (b := ⟨.array done :: frames, .value, none⟩) rfl
    have hrest := itemTokens_steps rest (t :: done) frames
    simp [Tree.itemTokens, hfirst, hrest]

/-- The tokens of further fields put these fields into the object that is open. -/
theorem fieldTokens_steps (fields done : List (Option String × Tree)) (frames : List Frame) :
    (Tree.fieldTokens fields).foldlM step ⟨.object done :: frames, .commaOrClose, none⟩ =
      some ⟨.object (fields.reverse ++ done) :: frames, .commaOrClose, none⟩ := by
  cases fields with
  | nil => rfl
  | cons field rest =>
    obtain ⟨key, t⟩ := field
    have hfirst := tokens_steps t (b := ⟨.field done key :: frames, .value, none⟩) rfl
    have hrest := fieldTokens_steps rest ((key, t) :: done) frames
    simp [Tree.fieldTokens, hfirst, hrest]

end

end Builder

theorem Tree.ofTokens?_tokens (t : Tree) : ofTokens? t.tokens = some t := by
  rw [ofTokens?, Builder.tokens_steps t rfl]
  rfl

end LogTail.Json
