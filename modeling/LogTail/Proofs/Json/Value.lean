import Mathlib.Data.Int.Notation
import LogTail.Proofs.Json.Building
import LogTail.Proofs.Json.Lexing

/-!
Values are read back from their text. A reader makes only values of a certain form: integers fit 64 bits,
keys are in order and none stands twice, and no more containers are open at once than there is room for.
Every value of that form without floats is what its own text is read as.
-/
namespace LogTail.Json

section Fields

variable {α : Type} {key : String} {value : α} {fields : List (String × α)} {f : String × α}

def Ordered (fields : List (String × α)) : Prop :=
  fields.Pairwise (·.1 < ·.1)

theorem mem_insertField (h : f ∈ insertField key value fields) : f = (key, value) ∨ f ∈ fields := by
  induction fields with
  | nil => exact .inl (List.mem_singleton.mp h)
  | cons g rest ih =>
    obtain ⟨k, v⟩ := g
    rw [insertField] at h
    split at h
    case isTrue => exact List.mem_cons.mp h
    split at h
    case isTrue => exact (List.mem_cons.mp h).imp_right (List.mem_cons_of_mem _)
    case isFalse =>
      rcases List.mem_cons.mp h with rfl | hrest
      · exact .inr List.mem_cons_self
      · exact (ih hrest).imp_right (List.mem_cons_of_mem _)

/-- Inserting keeps fields in the order of their keys, also where a key is there already. -/
theorem Ordered.insertField (h : Ordered fields) (key : String) (value : α) :
    Ordered (insertField key value fields) := by
  induction fields with
  | nil => exact List.pairwise_singleton _ _
  | cons g rest ih =>
    obtain ⟨k, v⟩ := g
    obtain ⟨hfirst, hrest⟩ := List.pairwise_cons.mp h
    rw [Json.insertField]
    split
    case isTrue hless =>
      refine List.pairwise_cons.mpr ⟨fun g hg => ?_, h⟩
      rcases List.mem_cons.mp hg with rfl | hg
      · exact hless
      · exact String.lt_trans hless (hfirst g hg)
    case isFalse hless =>
      split
      case isTrue heq => exact List.pairwise_cons.mpr ⟨fun g hg => heq ▸ hfirst g hg, hrest⟩
      case isFalse hne =>
        refine List.pairwise_cons.mpr ⟨fun g hg => ?_, ih hrest⟩
        rcases mem_insertField hg with rfl | hg
        · exact Std.lt_of_le_of_ne (String.not_lt.mp hless) (Ne.symm hne)
        · exact hfirst g hg

/-- A key beyond all others goes to the end. -/
theorem insertField_last (h : ∀ f ∈ fields, f.1 < key) :
    insertField key value fields = fields ++ [(key, value)] := by
  induction fields with
  | nil => rfl
  | cons g rest ih =>
    obtain ⟨k, v⟩ := g
    have hless : k < key := h (k, v) List.mem_cons_self
    have hne : key ≠ k := fun heq => String.lt_irrefl k (heq ▸ hless)
    rw [insertField, if_neg (String.lt_asymm hless), if_neg hne,
      ih fun g hg => h g (List.mem_cons_of_mem _ hg), List.cons_append]

/-- Fields come out in order, however they were written. -/
theorem orderFields_ordered (fields : List (String × α)) : Ordered (orderFields fields) := by
  have hall (done : List (String × α)) (hdone : Ordered done) :
      Ordered (fields.foldl (fun done f => insertField f.1 f.2 done) done) := by
    induction fields generalizing done with
    | nil => exact hdone
    | cons g rest ih => exact ih _ (hdone.insertField g.1 g.2)
  exact hall [] .nil

theorem mem_orderFields (h : f ∈ orderFields fields) : f ∈ fields := by
  have hall (done rest : List (String × α))
      (hf : f ∈ rest.foldl (fun done f => insertField f.1 f.2 done) done) :
      f ∈ done ∨ f ∈ rest := by
    induction rest generalizing done with
    | nil => exact .inl hf
    | cons g rest ih =>
      rcases ih (insertField g.1 g.2 done) hf with hdone | hrest
      · rcases mem_insertField hdone with rfl | hdone
        · exact .inr List.mem_cons_self
        · exact .inl hdone
      · exact .inr (List.mem_cons_of_mem g hrest)
  exact (hall [] fields h).resolve_left List.not_mem_nil

/-- Fields that are in order already stay as they are. -/
theorem Ordered.orderFields (h : Ordered fields) : orderFields fields = fields := by
  have hall (done rest : List (String × α)) (hdone : Ordered (done ++ rest)) :
      rest.foldl (fun done f => Json.insertField f.1 f.2 done) done = done ++ rest := by
    induction rest generalizing done with
    | nil => exact (List.append_nil done).symm
    | cons g rest ih =>
      have hlast : ∀ f ∈ done, f.1 < g.1 := fun f hf =>
        (List.pairwise_append.mp hdone).2.2 f hf g List.mem_cons_self
      have hstep : Json.insertField g.1 g.2 done = done ++ [g] := insertField_last hlast
      rw [← List.singleton_append, ← List.append_assoc] at hdone ⊢
      show rest.foldl _ (Json.insertField g.1 g.2 done) = _
      rw [hstep, ih (done ++ [g]) hdone]
  exact hall [] fields h

end Fields

namespace Value

/-- The values that are read where at most `room` containers may be open at once. -/
inductive Readable : ℕ → Value → Prop
  | null {room : ℕ} : Readable room .null
  | bool {room : ℕ} (b : Bool) : Readable room (.bool b)
  | integer {room : ℕ} {i : ℤ} (hlow : -9223372036854775808 ≤ i) (hhigh : i ≤ greatestWord) :
    Readable room (.integer i)
  | float {room : ℕ} (negative : Bool) (x : Number.Magnitude) : Readable room (.float negative x)
  | string {room : ℕ} (s : String) : Readable room (.string s)
  | array {room : ℕ} {items : List Value} (h : ∀ v ∈ items, Readable room v) :
    Readable (room + 1) (.array items)
  | object {room : ℕ} {fields : List (String × Value)} (hkeys : Ordered fields)
    (h : ∀ f ∈ fields, Readable room f.2) : Readable (room + 1) (.object fields)

mutual

def floatFree : Value → Bool
  | .float _ _ => false
  | .array items => itemsFloatFree items
  | .object fields => fieldsFloatFree fields
  | _ => true

def itemsFloatFree : List Value → Bool
  | [] => true
  | v :: rest => floatFree v && itemsFloatFree rest

def fieldsFloatFree : List (String × Value) → Bool
  | [] => true
  | (_, v) :: rest => floatFree v && fieldsFloatFree rest

end

theorem floatFree_array_iff {items : List Value} :
    (Value.array items).floatFree = true ↔ ∀ v ∈ items, v.floatFree = true := by
  rw [floatFree]
  induction items with
  | nil => simp [itemsFloatFree]
  | cons v rest ih => simp [itemsFloatFree, ih]

theorem floatFree_object_iff {fields : List (String × Value)} :
    (Value.object fields).floatFree = true ↔ ∀ f ∈ fields, f.2.floatFree = true := by
  rw [floatFree]
  induction fields with
  | nil => simp [fieldsFloatFree]
  | cons f rest ih => simp [fieldsFloatFree, ih]

end Value

open Number Value

theorem float?_cases {n : NumberText} {v : Value} (h : float? n = some v) :
    ∃ negative x, v = .float negative x := by
  have hmap {m : Option Magnitude} (hm : m.map (.float n.negative) = some v) :
      ∃ negative x, v = .float negative x := by
    obtain ⟨x, -, rfl⟩ := Option.map_eq_some_iff.mp hm
    exact ⟨n.negative, x, rfl⟩
  unfold float? at h
  dsimp only at h
  split at h
  case h_1 => exact hmap h
  split at h
  case isFalse => exact hmap h
  split at h
  case isTrue => cases h
  case isFalse => cases h; exact ⟨n.negative, _, rfl⟩

/-- A number is read as an integer of 64 bits or as a float. -/
theorem number?_cases {n : NumberText} {v : Value} (h : number? n = some v) :
    (∃ i : ℤ, -9223372036854775808 ≤ i ∧ i ≤ greatestWord ∧ v = .integer i) ∨
      ∃ negative x, v = .float negative x := by
  unfold number? at h
  dsimp only at h
  split at h
  case isFalse => exact .inr (float?_cases h)
  split at h
  case isTrue =>
    split at h
    case isTrue => cases h; exact .inl ⟨_, by omega, by omega, rfl⟩
    case isFalse => exact .inr (float?_cases h)
  case isFalse =>
    split at h
    case isTrue => cases h; exact .inl ⟨_, by omega, by omega, rfl⟩
    case isFalse => exact .inr (float?_cases h)

theorem number?_readable {n : NumberText} {v : Value} (h : number? n = some v) (room : ℕ) :
    v.Readable room := by
  rcases number?_cases h with ⟨i, hlow, hhigh, rfl⟩ | ⟨negative, x, rfl⟩
  · exact .integer hlow hhigh
  · exact .float negative x

/-- An integer of 64 bits is read back as that integer. -/
theorem number?_integerText {i : ℤ} (hlow : -9223372036854775808 ≤ i) (hhigh : i ≤ greatestWord) :
    number? (integerText i) = some (.integer i) := by
  rw [number?, integerText]
  dsimp only
  rw [if_pos ⟨rfl, rfl⟩, ofDigits_decimal]
  by_cases hneg : i < 0
  · have hfits : 0 < i.natAbs ∧ i.natAbs ≤ 9223372036854775808 := by omega
    have habs : -(i.natAbs : ℤ) = i := by omega
    rw [if_neg (by simp [hneg]), if_pos hfits, habs]
  · have hfits : i.natAbs ≤ greatestWord := by omega
    have habs : (i.natAbs : ℤ) = i := by omega
    rw [if_pos (by simp [hneg]), if_pos hfits, habs]

namespace Tree

theorem value?_array (room : ℕ) (items : List Tree) :
    (Tree.array items).value? (room + 1) = (values? room items).map .array := by
  rw [value?, if_neg (Nat.succ_ne_zero room), Nat.add_sub_cancel]

theorem value?_object (room : ℕ) (fields : List (Option String × Tree)) :
    (Tree.object fields).value? (room + 1) =
      (fields? room fields).map fun fs => .object (orderFields fs) := by
  rw [value?, if_neg (Nat.succ_ne_zero room), Nat.add_sub_cancel]

mutual

/-- Whatever is made of a tree has the form of what is read. -/
theorem value?_readable {room : ℕ} (t : Tree) {v : Value} (h : t.value? room = some v) :
    v.Readable room := by
  cases t with
  | null => cases h; exact .null
  | bool b => cases h; exact .bool b
  | number n => exact number?_readable h room
  | string s =>
    obtain ⟨s, -, rfl⟩ := Option.map_eq_some_iff.mp h
    exact .string s
  | array items =>
    cases room with
    | zero => cases h
    | succ room =>
      rw [value?_array] at h
      obtain ⟨vs, hvs, rfl⟩ := Option.map_eq_some_iff.mp h
      exact .array (values?_readable items hvs)
  | object fields =>
    cases room with
    | zero => cases h
    | succ room =>
      rw [value?_object] at h
      obtain ⟨fs, hfs, rfl⟩ := Option.map_eq_some_iff.mp h
      have hall := fields?_readable fields hfs
      -- of the values of one key only the last is kept
      exact .object (orderFields_ordered fs) fun f hf => hall f (mem_orderFields hf)

/-- Items are read with the room that is left for them. -/
theorem values?_readable {room : ℕ} (ts : List Tree) {vs : List Value} (h : values? room ts = some vs) :
    ∀ v ∈ vs, v.Readable room := by
  cases ts with
  | nil => cases h; exact fun v hv => absurd hv List.not_mem_nil
  | cons t rest =>
    obtain ⟨v, hv, hrest⟩ := Option.bind_eq_some_iff.mp h
    obtain ⟨vs, hvs, rfl⟩ := Option.map_eq_some_iff.mp hrest
    exact List.forall_mem_cons.mpr ⟨value?_readable t hv, values?_readable rest hvs⟩

/-- Fields are read with the room that is left for them. -/
theorem fields?_readable {room : ℕ} (fields : List (Option String × Tree)) {fs : List (String × Value)}
    (h : fields? room fields = some fs) : ∀ f ∈ fs, f.2.Readable room := by
  cases fields with
  | nil => cases h; exact fun f hf => absurd hf List.not_mem_nil
  | cons field rest =>
    obtain ⟨key, t⟩ := field
    obtain ⟨k, -, h⟩ := Option.bind_eq_some_iff.mp h
    obtain ⟨v, hv, h⟩ := Option.bind_eq_some_iff.mp h
    obtain ⟨fs, hfs, rfl⟩ := Option.map_eq_some_iff.mp h
    exact List.forall_mem_cons.mpr ⟨value?_readable t hv, fields?_readable rest hfs⟩

end

/-- Only strings are read as strings, and only objects as objects. -/
theorem value?_shape {room : ℕ} {t : Tree} {v : Value} (h : t.value? room = some v) :
    match v with
    | .string s => t = .string (some s)
    | .object _ => ∃ fs, t = .object fs
    | _ => True := by
  cases t with
  | null => cases h; trivial
  | bool b => cases h; trivial
  | number n =>
    rcases number?_cases h with ⟨i, -, -, rfl⟩ | ⟨negative, x, rfl⟩
    · trivial
    · trivial
  | string content =>
    obtain ⟨s, rfl, rfl⟩ := Option.map_eq_some_iff.mp h
    rfl
  | array items =>
    cases room with
    | zero => cases h
    | succ room =>
      rw [value?_array] at h
      obtain ⟨vs, -, rfl⟩ := Option.map_eq_some_iff.mp h
      trivial
  | object fields =>
    cases room with
    | zero => cases h
    | succ room =>
      rw [value?_object] at h
      obtain ⟨fs, -, rfl⟩ := Option.map_eq_some_iff.mp h
      exact ⟨fields, rfl⟩

end Tree

theorem Tree.parse?_of_lexes {cs : List Char} {t : Tree} (h : Lexes cs t.tokens) :
    Tree.parse? cs = some t := by
  rw [Tree.parse?, h.tokens?, Option.bind_some, Tree.ofTokens?_tokens]

/-- A text that is read as a value where `room` containers may be open at once. -/
def Spells (room : ℕ) (cs : List Char) (v : Value) : Prop :=
  ∃ t : Tree, Lexes cs t.tokens ∧ t.value? room = some v

namespace Value

theorem printItems_head (vs : List Value) : ∀ c ∈ (printItems vs).head?, (punctuation? c).isSome := by
  cases vs with
  | nil => exact fun c hc => absurd hc (by simp [printItems])
  | cons v rest => simp [printItems, punctuation?]

theorem printFields_head (fields : List (String × Value)) :
    ∀ c ∈ (printFields fields).head?, (punctuation? c).isSome := by
  cases fields with
  | nil => exact fun c hc => absurd hc (by simp [printFields])
  | cons f rest => simp [printFields, punctuation?]

/-- Items that are each read back are read back in a row. -/
theorem printItems_spells {room : ℕ} {vs : List Value} (h : ∀ v ∈ vs, Spells room v.print v) :
    ∃ ts, Lexes (printItems vs) (Tree.itemTokens ts) ∧ Tree.values? room ts = some vs := by
  induction vs with
  | nil => exact ⟨[], .nil, rfl⟩
  | cons v rest ih =>
    obtain ⟨hfirst, hrest⟩ := List.forall_mem_cons.mp h
    obtain ⟨t, hlex, hread⟩ := hfirst
    obtain ⟨ts, hlexes, hreads⟩ := ih hrest
    refine ⟨t :: ts, (hlex.cons rfl).append hlexes (printItems_head rest), ?_⟩
    rw [Tree.values?, hread, Option.bind_some, hreads, Option.map_some]

theorem printField_lexes (key : String) {v : Value} {ts : List Token} (h : Lexes v.print ts) :
    Lexes (printString key ++ ':' :: v.print) (.string key :: .colon :: ts) :=
  (Lexes.string key).append (h.cons rfl) (by simp [punctuation?])

/-- Fields whose values are each read back are read back in a row, with their keys. -/
theorem printFields_spells {room : ℕ} {fields : List (String × Value)}
    (h : ∀ f ∈ fields, Spells room f.2.print f.2) :
    ∃ fs, Lexes (printFields fields) (Tree.fieldTokens fs) ∧ Tree.fields? room fs = some fields := by
  induction fields with
  | nil => exact ⟨[], .nil, rfl⟩
  | cons f rest ih =>
    obtain ⟨key, v⟩ := f
    obtain ⟨hfirst, hrest⟩ := List.forall_mem_cons.mp h
    obtain ⟨t, hlex, hread⟩ := hfirst
    obtain ⟨fs, hlexes, hreads⟩ := ih hrest
    have hfield : Lexes (',' :: printString key ++ ':' :: v.print)
        (.comma :: .string key :: .colon :: t.tokens) := (printField_lexes key hlex).cons rfl
    refine ⟨(some key, t) :: fs, hfield.append hlexes (printFields_head rest), ?_⟩
    rw [Tree.fields?, Option.bind_some, hread, Option.bind_some, hreads, Option.map_some]

/-- The text of an array is that of a tree of its items. -/
theorem print_array {room : ℕ} {items : List Value} (h : ∀ v ∈ items, Spells room v.print v) :
    ∃ ts, Lexes (Value.array items).print (Tree.array ts).tokens ∧
      Tree.values? room ts = some items := by
  cases items with
  | nil => exact ⟨[], (Lexes.nil.cons rfl).cons rfl, rfl⟩
  | cons v rest =>
    obtain ⟨hfirst, hrest⟩ := List.forall_mem_cons.mp h
    obtain ⟨t, hlex, hread⟩ := hfirst
    obtain ⟨ts, hlexes, hreads⟩ := printItems_spells hrest
    have hitems : Lexes ('[' :: v.print ++ printItems rest)
        (.openArray :: t.tokens ++ Tree.itemTokens ts) :=
      (hlex.cons rfl).append hlexes (printItems_head rest)
    refine ⟨t :: ts, hitems.append (Lexes.nil.cons rfl) (by simp [punctuation?]), ?_⟩
    rw [Tree.values?, hread, Option.bind_some, hreads, Option.map_some]

/-- The text of an object is that of a tree of its fields. -/
theorem print_object {room : ℕ} {fields : List (String × Value)}
    (h : ∀ f ∈ fields, Spells room f.2.print f.2) :
    ∃ fs, Lexes (Value.object fields).print (Tree.object fs).tokens ∧
      Tree.fields? room fs = some fields := by
  cases fields with
  | nil => exact ⟨[], (Lexes.nil.cons rfl).cons rfl, rfl⟩
  | cons f rest =>
    obtain ⟨key, v⟩ := f
    obtain ⟨hfirst, hrest⟩ := List.forall_mem_cons.mp h
    obtain ⟨t, hlex, hread⟩ := hfirst
    obtain ⟨fs, hlexes, hreads⟩ := printFields_spells hrest
    have hfield : Lexes ('\x7b' :: printString key ++ ':' :: v.print)
        (.openObject :: .string key :: .colon :: t.tokens) := (printField_lexes key hlex).cons rfl
    have hfields : Lexes ('\x7b' :: printString key ++ ':' :: v.print ++ printFields rest)
        (.openObject :: .string key :: .colon :: t.tokens ++ Tree.fieldTokens fs) :=
      hfield.append hlexes (printFields_head rest)
    refine ⟨(some key, t) :: fs, hfields.append (Lexes.nil.cons rfl) (by simp [punctuation?]), ?_⟩
    rw [Tree.fields?, Option.bind_some, hread, Option.bind_some, hreads, Option.map_some]

/-- A value of the form of what is read, without floats, is read back from its text. -/
theorem print_spells {room : ℕ} {v : Value} (h : v.Readable room) (hfree : v.floatFree = true) :
    Spells room v.print v := by
  -- the form of the value gives the room that its items and fields have
  induction h with
  | null => exact ⟨.null, .null, rfl⟩
  | bool b => exact ⟨.bool b, .bool b, rfl⟩
  | @integer _ i hlow hhigh =>
    exact ⟨.number (integerText i), .integer i, number?_integerText hlow hhigh⟩
  | float => cases hfree
  | string s => exact ⟨.string s, .string s, rfl⟩
  | @array room items h ih =>
    rw [floatFree_array_iff] at hfree
    obtain ⟨ts, hlex, hread⟩ := print_array fun v hv => ih v hv (hfree v hv)
    exact ⟨.array ts, hlex, by rw [Tree.value?_array, hread, Option.map_some]⟩
  | @object room fields hkeys h ih =>
    rw [floatFree_object_iff] at hfree
    obtain ⟨fs, hlex, hread⟩ := print_object fun f hf => ih f hf (hfree f hf)
    refine ⟨.object fs, hlex, ?_⟩
    rw [Tree.value?_object, hread, Option.map_some, hkeys.orderFields]

end Value

end LogTail.Json
