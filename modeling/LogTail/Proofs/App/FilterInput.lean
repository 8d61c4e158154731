import LogTail.Proofs.App.Run

/-!
The filter input. While it is open the keys of characters, backspace and control with `u` edit its text,
and the text that was there before is kept for the reader who leaves without applying the new one.
-/
namespace LogTail

inductive Stroke
  | type (c : Char)
  | backspace
  | wipe

namespace Stroke

def apply (text : String) : Stroke → String
  | type c => text.push c
  | backspace => String.ofList text.toList.dropLast
  | wipe => ""

def action : Stroke → Action
  | type c => .searchInput c
  | backspace => .searchBackspace
  | wipe => .searchClear

/-- Characters that are typed one after another stand behind the text in their order. -/
theorem foldl_apply_type (text : String) (cs : List Char) :
    (cs.map type).foldl apply text = text ++ String.ofList cs := by
  induction cs generalizing text with
  | nil => simp
  | cons c cs ih =>
    have hpush : text.push c ++ String.ofList cs = text ++ String.ofList (c :: cs) := by
      rw [← String.toList_inj]
      simp
    rw [List.map_cons, List.foldl_cons, ih]
    exact hpush

end Stroke

namespace Key

def stroke? (k : Key) : Option Stroke :=
  match k.typed? with
  | some c => some (.type c)
  | none =>
    if k = KeyContext.named .backspace then some .backspace
    else if k.binding = KeyContext.control 'u' then some .wipe
    else none

/-- Whether a key leaves the filter input and gives up what is in it. -/
def Cancels (k : Key) : Prop :=
  k = KeyContext.named .escape ∨ k.binding = KeyContext.control 'c'

def Leaves (k : Key) : Prop :=
  k = KeyContext.named .enter ∨ k.Cancels

variable {k : Key}

theorem stroke?_of_typed {c : Char} (h : k.typed? = some c) : k.stroke? = some (.type c) := by
  rw [stroke?, h]

theorem not_leaves_of_typed {c : Char} (h : k.typed? = some c) : ¬ k.Leaves := by
  have hbinding := typed_eq_some_iff.mp h
  rintro (rfl | rfl | hcontrol)
  · cases h
  · cases h
  · rw [hbinding] at hcontrol
    simp [KeyContext.plain, KeyContext.control] at hcontrol

/-- Each stroke is bound in the filter input to the action that carries it out. -/
theorem action?_filterInput_of_stroke {s : Stroke} (h : k.stroke? = some s) :
    KeyContext.filterInput.action? k = some s.action := by
  unfold stroke? at h
  split at h
  case h_1 c htyped =>
    obtain rfl := Option.some.inj h
    exact KeyContext.action?_filterInput_of_typed htyped
  case h_2 =>
    apply KeyContext.action?_filterInput_of_bound
    split_ifs at h with hback hwipe
    · obtain rfl := Option.some.inj h
      rw [hback]
      decide
    · obtain rfl := Option.some.inj h
      rw [hwipe]
      decide

theorem action?_filterInput_of_cancels (h : k.Cancels) :
    KeyContext.filterInput.action? k = some .closeSearch := by
  apply KeyContext.action?_filterInput_of_bound
  rcases h with rfl | hcontrol
  · decide
  · rw [hcontrol]
    decide

/-- The filter input has no use for the other keys. -/
theorem action?_filterInput_of_other (hstay : ¬ k.Leaves) (hnone : k.stroke? = none) :
    KeyContext.filterInput.action? k = none := by
  obtain ⟨henter, hescape, hcancel⟩ :
      k ≠ KeyContext.named .enter ∧ k ≠ KeyContext.named .escape ∧
        k.binding ≠ KeyContext.control 'c' := by
    simpa only [Leaves, Cancels, not_or] using hstay
  unfold stroke? at hnone
  split at hnone
  case h_1 => cases hnone
  case h_2 htyped =>
    split_ifs at hnone with hback hwipe
    have hnamed {code : KeyCode} (hcode : ∀ c, code ≠ .char c) (h : k ≠ KeyContext.named code) :
        k.binding ≠ KeyContext.named code :=
      fun heq => h ((binding_eq_named_iff hcode).mp heq)
    have hbound : KeyContext.filterInput.bound? k = none := by
      rw [KeyContext.bound?_eq_none_iff]
      simp [KeyContext.bindings, hnamed _ henter, hnamed _ hescape, hnamed _ hback, hcancel, hwipe]
    simp only [KeyContext.action?, hbound, htyped, Option.map_none]

end Key

namespace App

variable {a : App} {old text : String} {k : Key}

/-- The filter input is open on a text, and another text is kept from before. -/
structure Editing (old text : String) (a : App) : Prop where
  confirmClear_eq : a.confirmClear = false
  searchActive_eq : a.searchActive = true
  previous_eq : a.searchPrevious = old
  input_eq : a.searchInput = text
  text_eq : a.view.filter.text = text

namespace Editing

theorem context_eq (h : a.Editing old text) : a.context = .filterInput :=
  context_eq_filterInput_iff.mpr ⟨h.confirmClear_eq, h.searchActive_eq⟩

theorem press_slash (hcontext : a.context = .logViewer) (hslash : k.typed? = some '/') :
    a.press k = a.act .openSearch := by
  apply press_of_some
  rw [hcontext]
  apply KeyContext.action?_logViewer_of_bound
  rw [Key.typed_eq_some_iff.mp hslash]
  decide

/-- The key that opens the filter input keeps the text there is. -/
theorem of_slash (hcontext : a.context = .logViewer) (hslash : k.typed? = some '/') :
    (a.press k).1.Editing a.view.filter.text a.view.filter.text := by
  rw [press_slash hcontext hslash]
  exact ⟨(context_eq_logViewer_iff.mp hcontext).1, rfl, rfl, rfl, rfl⟩

/-- What does not touch the question and the filter input does not disturb the editing. -/
theorem undisturbed {b : App} (h : a.Editing old text) (same : a.Undisturbed b) :
    b.Editing old text where
  confirmClear_eq := same.confirmClear_eq.trans h.confirmClear_eq
  searchActive_eq := same.searchActive_eq.trans h.searchActive_eq
  previous_eq := same.searchPrevious_eq.trans h.previous_eq
  input_eq := same.searchInput_eq.trans h.input_eq
  text_eq := same.text_eq.trans h.text_eq

theorem press_stroke {s : Stroke} (h : a.Editing old text) (hstroke : k.stroke? = some s) :
    a.press k = a.act s.action := by
  apply press_of_some
  rw [h.context_eq]
  exact Key.action?_filterInput_of_stroke hstroke

/-- A key that is no stroke and does not leave is not bound here. -/
theorem press_other (h : a.Editing old text) (hstay : ¬ k.Leaves) (hnone : k.stroke? = none) :
    a.press k = (a, none) := by
  apply press_of_none
  rw [h.context_eq]
  exact Key.action?_filterInput_of_other hstay hnone

theorem press_cancel (h : a.Editing old text) (hk : k.Cancels) : a.press k = a.act .closeSearch := by
  apply press_of_some
  rw [h.context_eq]
  exact Key.action?_filterInput_of_cancels hk

/-- One stroke edits the text by what the stroke does, and keeps the old text for a way back. -/
theorem stroke {s : Stroke} (h : a.Editing old text) (hstroke : k.stroke? = some s) :
    (a.press k).1.Editing old (s.apply text) := by
  have hinput : (a.act s.action).1.searchInput = s.apply text := by
    rw [← h.input_eq]
    cases s <;> rfl
  have htext : (a.act s.action).1.view.filter.text = s.apply text := by
    rw [act_text (h.text_eq.trans h.input_eq.symm), hinput]
  rw [h.press_stroke hstroke]
  refine ⟨?_, ?_, ?_, hinput, htext⟩
  · rw [act_confirmClear, ← h.confirmClear_eq]
    cases s <;> rfl
  · rw [act_searchActive, ← h.searchActive_eq]
    cases s <;> rfl
  · rw [← h.previous_eq]
    cases s <;> rfl

/-- The text is what the keys make of it, whatever happens between them. -/
theorem after {hs : List Happening} (h : a.Editing old text)
    (hstay : ∀ k ∈ pressed hs, ¬ k.Leaves) :
    (a.after hs).Editing old (((pressed hs).filterMap Key.stroke?).foldl Stroke.apply text) := by
  induction hs generalizing a text with
  | nil => exact h
  | cons e rest ih =>
    cases hkey : e.key? with
    | none =>
      have hrest : pressed (e :: rest) = pressed rest := List.filterMap_cons_none hkey
      rw [hrest] at hstay ⊢
      rw [after_cons]
      exact ih (h.undisturbed (undisturbed_of_no_key hkey)) hstay
    | some k =>
      obtain rfl : e = .key k := by
        cases e <;> simp_all [Happening.key?]
      have hrest : pressed (.key k :: rest) = k :: pressed rest := List.filterMap_cons_some rfl
      rw [hrest] at hstay ⊢
      obtain ⟨hk, hothers⟩ := List.forall_mem_cons.mp hstay
      cases hstroke : k.stroke? with
      | none =>
        have hsame : (a.meet (.key k)).1 = a := congrArg Prod.fst (h.press_other hk hstroke)
        rw [List.filterMap_cons_none hstroke, after_cons, hsame]
        exact ih h hothers
      | some s =>
        rw [List.filterMap_cons_some hstroke, List.foldl_cons, after_cons]
        exact ih (h.stroke hstroke) hothers

/-- Giving up closes the input, and the old text is looked for again. -/
theorem cancel (h : a.Editing old text) (hk : k.Cancels) :
    (a.press k).1.context = .logViewer ∧ (a.press k).1.view.filter.text = old := by
  rw [h.press_cancel hk, context_eq_logViewer_iff]
  refine ⟨⟨h.confirmClear_eq, rfl⟩, ?_⟩
  rw [← h.previous_eq]
  exact editSearch_text _ _

/-- Enter closes the input, and the text in it stays in effect. -/
theorem keep (h : a.Editing old text) :
    (a.press (KeyContext.named .enter)).1.context = .logViewer ∧
    (a.press (KeyContext.named .enter)).1.view.filter.text = text := by
  have haction : a.context.action? (KeyContext.named .enter) = some .applyFilter := by
    rw [h.context_eq]
    decide
  rw [press_of_some haction, context_eq_logViewer_iff]
  exact ⟨⟨h.confirmClear_eq, rfl⟩, h.text_eq⟩

end Editing

/-- The keys of characters stay in the filter input, and type them. -/
theorem typing {keys : List Key} {cs : List Char} (h : keys.map Key.typed? = cs.map some) :
    (∀ k ∈ keys, ¬ k.Leaves) ∧ keys.filterMap Key.stroke? = cs.map Stroke.type := by
  induction keys generalizing cs with
  | nil =>
    obtain rfl : cs = [] := List.map_eq_nil_iff.mp h.symm
    simp
  | cons k keys ih =>
    obtain ⟨c, others, rfl, hc, hothers⟩ := List.map_eq_cons_iff.mp h.symm
    obtain ⟨hstay, hstrokes⟩ := ih hothers.symm
    refine ⟨List.forall_mem_cons.mpr ⟨Key.not_leaves_of_typed hc.symm, hstay⟩, ?_⟩
    rw [List.filterMap_cons_some (Key.stroke?_of_typed hc.symm), hstrokes, List.map_cons]

/-- The view looks for the text in the filter input at all times. The characters typed after the key
that opens the input are added to the text there was. Whatever the keys made of it, a reader who gives
it up has the text there was, and one who applies it keeps it. -/
theorem input_is_faithful (url : String) (snapshot : Snapshot) (threshold : PinThreshold)
    (past : List Happening) :
    let a := (opened url snapshot threshold).after past
    a.view.filter.text = a.searchInput ∧
    ∀ slash, a.context = .logViewer → slash.typed? = some '/' → ∀ typed : List Happening,
      let b := (a.press slash).1.after typed
      let c := (b.press (KeyContext.named .enter)).1
      (∀ s : String, (pressed typed).map Key.typed? = s.toList.map some →
        b.view.filter.text = a.view.filter.text ++ s) ∧
      ((∀ k ∈ pressed typed, ¬ k.Leaves) →
        b.view.filter.text =
          ((pressed typed).filterMap Key.stroke?).foldl Stroke.apply a.view.filter.text ∧
        (∀ k, k.Cancels →
          (b.press k).1.context = .logViewer ∧ (b.press k).1.view.filter.text = a.view.filter.text) ∧
        c.context = .logViewer ∧ c.view.filter.text = b.view.filter.text) := by
  intro a
  have hsound := (opened_sound url snapshot threshold).after past
  refine ⟨hsound.text_eq, ?_⟩
  intro slash hcontext hslash typed b c
  have hopen := Editing.of_slash hcontext hslash
  constructor
  · intro s hs
    obtain ⟨hstay, hstrokes⟩ := typing hs
    have hedited := hopen.after hstay
    rw [hstrokes, Stroke.foldl_apply_type, String.ofList_toList] at hedited
    exact hedited.text_eq
  · intro hstay
    have hedited := hopen.after hstay
    refine ⟨hedited.text_eq, fun k hk => hedited.cancel hk, ?_⟩
    rw [hedited.text_eq]
    exact hedited.keep

def narrowed : List Happening :=
  [.key (KeyContext.plain '/'), .key (KeyContext.plain 'a'), .key (KeyContext.named .enter)]

def widened : List Happening :=
  [.key (KeyContext.plain 'q'), .refresh (.ofEngine (.new 5 none)),
    .key ⟨.char 'N', true, false, false⟩]

/-- Characters that have another use in the log viewer are typed, and can be given up. -/
theorem input_is_faithful_narrowed :
    let a := (opened "http://localhost" (.ofEngine (.new 5 none)) .usual).after narrowed
    let b := (a.press (KeyContext.plain '/')).1.after widened
    b.view.filter.text = "aqN" ∧
    (b.press (KeyContext.named .escape)).1.view.filter.text = "a" ∧
    (b.press (KeyContext.named .enter)).1.view.filter.text = "aqN" := by
  dsimp only
  have htext :
      ((opened "http://localhost" (.ofEngine (.new 5 none)) .usual).after narrowed).view.filter.text =
        "a" := by decide
  have hkeys : (pressed widened).map Key.typed? = ['q', 'N'].map some := by decide
  obtain ⟨-, hinput⟩ :=
    input_is_faithful "http://localhost" (.ofEngine (.new 5 none)) .usual narrowed
  obtain ⟨htyped, hleft⟩ := hinput (KeyContext.plain '/') (by decide) (by decide) widened
  obtain ⟨-, hcancel, -, hkept⟩ := hleft (typing hkeys).1
  have hadded := htyped "qN" (by decide)
  rw [htext] at hadded
  refine ⟨hadded, ?_, ?_⟩
  · rw [← htext]
    exact (hcancel (KeyContext.named .escape) (.inl rfl)).2
  · rw [hkept]
    exact hadded

end App

end LogTail
