import Mathlib.Data.List.Nodup
import LogTail.Json.Fields
import LogTail.Proofs.Json.Value

/-!
The parts of an object that was read. Where no key stands twice and all are known, the parts by name are the
fields of the object, and each is read from its own tree.
-/
namespace LogTail.Json

namespace Tree

/-- The fields of an object by name, and what each is read as. -/
theorem keyed?_of_fields? {room : ℕ} {fs : List (Option String × Tree)}
    {fields : List (String × Value)} (h : fields? room fs = some fields) :
    ∃ parts, keyed? fs = some parts ∧ parts.map (·.1) = fields.map (·.1) ∧
      ∀ name, (parts.lookup name).map (value? room) = (fields.lookup name).map some := by
  induction fs generalizing fields with
  | nil => cases h; exact ⟨[], rfl, rfl, fun _ => rfl⟩
  | cons f rest ih =>
    obtain ⟨key, t⟩ := f
    obtain ⟨k, rfl, hvalue⟩ := Option.bind_eq_some_iff.mp h
    obtain ⟨v, hv, hrest⟩ := Option.bind_eq_some_iff.mp hvalue
    obtain ⟨fields, hfields, rfl⟩ := Option.map_eq_some_iff.mp hrest
    obtain ⟨parts, hkeyed, hkeys, hlookup⟩ := ih hfields
    -- keys are kept as they are, so both lists are searched in the same steps
    refine ⟨(k, t) :: parts, ?_, by rw [List.map_cons, List.map_cons, hkeys], fun name => ?_⟩
    · rw [keyed?] at hkeyed ⊢
      rw [List.mapM_cons, hkeyed]
      rfl
    · rw [List.lookup_cons, List.lookup_cons]
      split
      · rw [Option.map_some, hv, Option.map_some]
      · exact hlookup name

/-- Where the keys are distinct none is given twice. -/
theorem repeats_eq_false {parts : List (String × Tree)} (h : (parts.map (·.1)).Nodup)
    (name : String) : repeats parts name = false := by
  have hcount : (parts.filter (·.1 == name)).length = (parts.map (·.1)).count name := by
    rw [← List.countP_eq_length_filter, List.count, List.countP_map]
    rfl
  have hle : (parts.map (·.1)).count name ≤ 1 := List.nodup_iff_count_le_one.mp h name
  rw [repeats, hcount]
  exact decide_eq_false (by omega)

/-- An object with some of the names, each at most once and in order, has those parts. -/
theorem parts?_object {names : List String} {fs : List (Option String × Tree)}
    {parts : List (String × Tree)} (hkeyed : keyed? fs = some parts)
    (hkeys : (parts.map (·.1)).Sublist names) (hnames : names.Nodup) :
    parts? names (.object fs) = some ⟨parts, false⟩ := by
  have hrepeats : names.any (repeats parts) = false :=
    List.any_eq_false.mpr fun name _ => by simp [repeats_eq_false (hkeys.nodup hnames)]
  have hknown : parts.filter (names.contains ·.1) = parts :=
    List.filter_eq_self.mpr fun part hpart =>
      List.contains_iff_mem.mpr (hkeys.subset (List.mem_map_of_mem hpart))
  rw [parts?, hkeyed, Option.bind_some, hrepeats, hknown]
  rfl

theorem text?_of_value? {room : ℕ} {t : Tree} {s : String}
    (h : t.value? room = some (.string s)) : t.text? = some s := by
  rw [value?_shape h, text?]

theorem text?_eq_some_iff {t : Tree} {s : String} : t.text? = some s ↔ t = .string (some s) := by
  cases t <;> simp [text?]

theorem list?_eq_some {α : Type} {read : Tree → Option α} {t : Tree} {xs : List α}
    (h : t.list? read = some xs) : ∃ items, t = .array items ∧ items.mapM read = some xs := by
  cases t with
  | array items => exact ⟨items, rfl, h⟩
  | _ => cases h

theorem nullable?_eq_some {α : Type} {read : Tree → Option α} {t : Tree} {x : Option α}
    (h : t.nullable? read = some x) : (t = .null ∧ x = none) ∨ ∃ y, read t = some y ∧ x = some y := by
  unfold nullable? at h
  split at h
  case h_1 => exact .inl ⟨rfl, (Option.some.inj h).symm⟩
  case h_2 =>
    obtain ⟨y, hy, rfl⟩ := Option.map_eq_some_iff.mp h
    exact .inr ⟨y, hy, rfl⟩

end Tree

namespace Parts

variable {α : Type} {p : Parts} {name : String} {room : ℕ} {read : Tree → Option α} {x missing : α}

/-- A part that was written is read where it is required. -/
theorem required?_given {v : Value} (h : (p.get? name).map (Tree.value? room) = some (some v))
    (hread : ∀ t : Tree, t.value? room = some v → read t = some x) :
    p.required? name read = some x := by
  obtain ⟨t, ht, hv⟩ := Option.map_eq_some_iff.mp h
  rw [required?, ht, Option.bind_some, hread t hv]

/-- A part that was written is read where it may be missing. -/
theorem optional?_given {v : Value} (h : (p.get? name).map (Tree.value? room) = some (some v))
    (hread : ∀ t : Tree, t.value? room = some v → read t = some x) :
    p.optional? name missing read = some x := by
  obtain ⟨t, ht, hv⟩ := Option.map_eq_some_iff.mp h
  rw [optional?, ht]
  exact hread t hv

theorem optional?_missing (h : (p.get? name).map (Tree.value? room) = none) :
    p.optional? name missing read = some missing := by
  rw [optional?, Option.map_eq_none_iff.mp h]

/-- An optional part is the default or was read. -/
theorem optional?_cases (h : p.optional? name missing read = some x) :
    x = missing ∨ ∃ t, read t = some x := by
  rw [optional?] at h
  split at h
  · exact .inl (Option.some.inj h).symm
  · exact .inr ⟨_, h⟩

/-- What may be null is read from a part that is given and is not null, or it is nothing. -/
theorem optional?_nullable {y : Option α}
    (h : p.optional? name none (Tree.nullable? read) = some y) :
    ((p.get? name = none ∨ p.get? name = some .null) ∧ y = none) ∨
      ∃ t z, p.get? name = some t ∧ read t = some z ∧ y = some z := by
  rw [optional?] at h
  split at h
  case h_1 hmissing => exact .inl ⟨.inl hmissing, (Option.some.inj h).symm⟩
  case h_2 t hgiven =>
    rcases Tree.nullable?_eq_some h with ⟨rfl, hy⟩ | ⟨z, hz, hy⟩
    · exact .inl ⟨.inr hgiven, hy⟩
    · exact .inr ⟨t, z, hgiven, hz, hy⟩

/-- A part that must be there reads as one that need not be, where there is something to read. -/
theorem optional?_of_required? {y : α} (h : p.required? name read = some y) :
    p.optional? name missing read = some y := by
  obtain ⟨t, ht, hread⟩ := Option.bind_eq_some_iff.mp h
  rw [optional?, ht]
  exact hread

end Parts

end LogTail.Json
