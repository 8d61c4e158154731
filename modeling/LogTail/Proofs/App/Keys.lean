import Mathlib.Data.List.Nodup
import LogTail.App

/-!
What the keys do. No context binds a key twice, so a key does what stands beside it in the table of its
context. Some actions belong to one context only: the log viewer alone asks whether the log is to be
cleared and opens the filter input, and an open question has four keys and no others.
-/
namespace LogTail

theorem lookup_eq_some_iff_mem {α β : Type*} [BEq α] [LawfulBEq α] {table : List (α × β)}
    (distinct : (table.map Prod.fst).Nodup) {k : α} {x : β} :
    table.lookup k = some x ↔ (k, x) ∈ table := by
  induction table with
  | nil => simp
  | cons entry rest ih =>
    obtain ⟨key, value⟩ := entry
    obtain ⟨hnew, hrest⟩ := List.nodup_cons.mp distinct
    rw [List.lookup_cons, List.mem_cons, Prod.mk.injEq]
    by_cases hkey : k = key
    · subst hkey
      -- the key is not in the rest of the table
      have hnone : (k, x) ∉ rest := fun hmem => hnew (List.mem_map.mpr ⟨_, hmem, rfl⟩)
      simp [hnone, eq_comm]
    · have hother : (k == key) = false := beq_eq_false_iff_ne.mpr hkey
      simp [hother, hkey, ih hrest]

/-- A key types a character just when it is the key of the character, with or without shift. -/
theorem Key.typed_eq_some_iff {k : Key} {c : Char} :
    k.typed? = some c ↔ k.binding = KeyContext.plain c := by
  obtain ⟨code, shift, control, alt⟩ := k
  cases code with
  | char d => cases control <;> cases alt <;> simp [Key.typed?, Key.binding, KeyContext.plain]
  | _ => simp [Key.typed?, Key.binding, KeyContext.plain]

/-- Bindings tell the keys without a character apart by all that is held down with them. -/
theorem Key.binding_eq_named_iff {k : Key} {code : KeyCode} (hcode : ∀ c, code ≠ .char c) :
    k.binding = KeyContext.named code ↔ k = KeyContext.named code := by
  obtain ⟨own, shift, control, alt⟩ := k
  cases own with
  | char d => simp [Key.binding, KeyContext.named, (hcode d).symm]
  | _ => rfl

namespace KeyContext

theorem nodup_bindings (context : KeyContext) : (context.bindings.map Prod.fst).Nodup := by
  cases context <;> decide

theorem bound?_eq_some_iff {context : KeyContext} {k : Key} {x : Action} :
    context.bound? k = some x ↔ (k.binding, x) ∈ context.bindings :=
  lookup_eq_some_iff_mem context.nodup_bindings

theorem bound?_eq_none_iff {context : KeyContext} {k : Key} :
    context.bound? k = none ↔ ∀ x, (k.binding, x) ∉ context.bindings := by
  simp only [Option.eq_none_iff_forall_ne_some, ne_eq, bound?_eq_some_iff]

/-- Where the action of a key comes from. -/
theorem mem_bindings_of_action? {context : KeyContext} {k : Key} {x : Action}
    (h : context.action? k = some x) :
    (k.binding, x) ∈ context.bindings ∨
    (context = .logViewer ∧ (k.binding, x) ∈ global.bindings) ∨
    (context = .filterInput ∧ ∃ c, k.typed? = some c ∧ x = .searchInput c) := by
  cases context with
  | global =>
    have hbound : global.bound? k = some x := by
      unfold action? at h
      cases hk : global.bound? k <;> simp_all
    exact .inl (bound?_eq_some_iff.mp hbound)
  | logViewer =>
    unfold action? at h
    cases hk : logViewer.bound? k with
    | none =>
      simp only [hk] at h
      exact .inr (.inl ⟨rfl, bound?_eq_some_iff.mp h⟩)
    | some y =>
      simp only [hk, Option.some.injEq] at h
      exact .inl (bound?_eq_some_iff.mp (h ▸ hk))
  | filterInput =>
    unfold action? at h
    cases hk : filterInput.bound? k with
    | none =>
      simp only [hk, Option.map_eq_some_iff] at h
      obtain ⟨c, htyped, rfl⟩ := h
      exact .inr (.inr ⟨rfl, c, htyped, rfl⟩)
    | some y =>
      simp only [hk, Option.some.injEq] at h
      exact .inl (bound?_eq_some_iff.mp (h ▸ hk))
  | confirmClear => exact .inl (bound?_eq_some_iff.mp h)

/-- Only the log viewer asks a question or opens the filter input. -/
theorem eq_logViewer_of_opener {context : KeyContext} {k : Key} {x : Action}
    (h : context.action? k = some x) (hx : x = .requestClear ∨ x = .openSearch) :
    context = .logViewer := by
  rcases mem_bindings_of_action? h with hmem | ⟨hcontext, -⟩ | ⟨-, c, -, rfl⟩
  · rcases hx with rfl | rfl <;> cases context <;> simp [bindings] at hmem ⊢
  · exact hcontext
  · simp at hx

/-- The keys of an open question. -/
theorem action?_confirmClear_iff {k : Key} {x : Action} :
    confirmClear.action? k = some x ↔
      x = .confirmClear ∧ (k.typed? = some 'y' ∨ k.typed? = some 'Y') ∨
      x = .cancelClear ∧ (k.typed? = some 'n' ∨ k = named .escape) := by
  have hbound : confirmClear.action? k = confirmClear.bound? k := rfl
  have hescape : k.binding = named .escape ↔ k = named .escape :=
    Key.binding_eq_named_iff (by simp)
  rw [hbound, bound?_eq_some_iff]
  simp only [bindings, List.mem_cons, Prod.mk.injEq, List.not_mem_nil, or_false,
    Key.typed_eq_some_iff, ← hescape]
  tauto

/-- A clear is confirmed, and a question is turned down, only where it is asked. -/
theorem eq_confirmClear_of_answer {context : KeyContext} {k : Key} {x : Action}
    (h : context.action? k = some x) (hx : x = .confirmClear ∨ x = .cancelClear) :
    context = .confirmClear := by
  rcases mem_bindings_of_action? h with hmem | ⟨-, hmem⟩ | ⟨-, c, -, rfl⟩
  · rcases hx with rfl | rfl <;> cases context <;> simp [bindings] at hmem ⊢
  · rcases hx with rfl | rfl <;> simp [bindings] at hmem
  · simp at hx

/-- Every character that is typed goes into the filter input, also one that is bound elsewhere. -/
theorem action?_filterInput_of_typed {k : Key} {c : Char} (h : k.typed? = some c) :
    filterInput.action? k = some (.searchInput c) := by
  have hnone : filterInput.bound? k = none := by
    rw [bound?_eq_none_iff, Key.typed_eq_some_iff.mp h]
    simp [bindings, plain, named, control]
  simp only [action?, hnone, h, Option.map_some]

theorem action?_filterInput_of_bound {k : Key} {x : Action}
    (h : (k.binding, x) ∈ filterInput.bindings) : filterInput.action? k = some x := by
  simp only [action?, bound?_eq_some_iff.mpr h]

theorem action?_logViewer_of_bound {k : Key} {x : Action}
    (h : (k.binding, x) ∈ logViewer.bindings) : logViewer.action? k = some x := by
  simp only [action?, bound?_eq_some_iff.mpr h]

end KeyContext

end LogTail
