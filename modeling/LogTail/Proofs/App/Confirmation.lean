import Mathlib.Data.List.Induction
import LogTail.Proofs.App.Run

/-!
The log is cleared by a confirmed question only. A question is opened by the key for it, stands until it
is answered, and is answered once. While it stands the keyboard has its four keys and no others.
-/
namespace LogTail.App

variable {a start : App}

def actions (a : App) : List Happening → List Action
  | [] => []
  | h :: rest => (a.action? h).toList ++ actions (a.meet h).1 rest

def requests (a : App) : List Happening → List Request
  | [] => []
  | h :: rest => (a.meet h).2.toList ++ requests (a.meet h).1 rest

/-- Whether a question that a key opened in a run has stood ever since. -/
def Standing (start : App) (past : List Happening) : Prop :=
  ∃ before opener between, past = before ++ .key opener :: between ∧
    (start.after before).context.action? opener = some .requestClear ∧
    ∀ more, more <+: between → (start.after (before ++ .key opener :: more)).confirmClear = true

/-- Only an action of the application opens or answers the question; whatever else happens leaves it
as it was. -/
theorem confirmClear_meet (a : App) (h : Happening) :
    (a.meet h).1.confirmClear = match a.action? h with
      | some .requestClear => true
      | some .confirmClear => false
      | some .cancelClear => false
      | _ => a.confirmClear := by
  cases hx : a.action? h with
  | none => exact (meet_of_quiet hx).1.confirmClear_eq
  | some x =>
    rw [meet_of_action hx, act_confirmClear]
    cases x <;> rfl

/-- The session is asked to clear its log by the answer yes, and by nothing else. -/
theorem request_meet_eq_clear_iff {h : Happening} :
    (a.meet h).2 = some .clear ↔ a.action? h = some .confirmClear := by
  cases hx : a.action? h with
  | none => simp [(meet_of_quiet hx).2]
  | some x => rw [meet_of_action hx, act_request_eq_clear_iff, Option.some.injEq]

/-- A question is open because it was, or because a key opens it now. -/
theorem confirmClear_or_key_of_meet {h : Happening} (hopen : (a.meet h).1.confirmClear = true) :
    a.confirmClear = true ∨ ∃ k, h = .key k ∧ a.context.action? k = some .requestClear := by
  rw [confirmClear_meet] at hopen
  cases hx : a.action? h with
  | none => exact .inl (by simpa [hx] using hopen)
  | some x =>
    -- every action but this one leaves a question as it was or closes it
    by_cases hrequest : x = .requestClear
    · subst hrequest
      cases h with
      | key k => exact .inr ⟨k, rfl, hx⟩
      | unreadable message => simp [action?] at hx
      | _ => cases hx
    · rw [hx] at hopen
      cases x <;> simp_all

/-- Every open question was asked. -/
theorem standing_iff (closed : start.confirmClear = false) (past : List Happening) :
    start.Standing past ↔ (start.after past).confirmClear = true := by
  constructor
  · rintro ⟨before, opener, between, rfl, -, hopen⟩
    exact hopen between (List.prefix_refl between)
  · -- by induction on the end of the run: the key that opens a question last is the one
    intro hopen
    induction past using List.reverseRecOn with
    | nil => simp [after, closed] at hopen
    | append_singleton hs h ih =>
      rw [after_concat] at hopen
      rcases confirmClear_or_key_of_meet hopen with hwas | ⟨k, rfl, hkey⟩
      · -- it was open before, and what happens now comes after the key that opened it
        obtain ⟨before, opener, between, rfl, hopener, hstands⟩ := ih hwas
        refine ⟨before, opener, between ++ [h], by simp, hopener, ?_⟩
        intro more hmore
        rcases List.prefix_concat_iff.mp hmore with rfl | hearlier
        · rw [← after_concat] at hopen
          simpa using hopen
        · exact hstands more hearlier
      · refine ⟨hs, k, [], rfl, hkey, ?_⟩
        intro more hmore
        rw [List.prefix_nil.mp hmore, after_concat]
        exact hopen

theorem count_toList {α : Type*} [DecidableEq α] (o : Option α) (x : α) :
    o.toList.count x = if o = some x then 1 else 0 := by
  cases o with
  | none => simp
  | some y => simp [List.count_singleton]

/-- A question is opened where none is open and answered where one is. -/
theorem count_meet (a : App) (h : Happening) :
    (a.meet h).2.toList.count .clear + (a.action? h).toList.count .cancelClear +
        (a.meet h).1.confirmClear.toNat =
      a.confirmClear.toNat + (a.action? h).toList.count .requestClear := by
  simp only [count_toList, request_meet_eq_clear_iff, confirmClear_meet]
  cases hx : a.action? h with
  | none => simp
  | some x =>
    cases x with
    | requestClear =>
      have hclosed := (nothing_open_of_opener hx (.inl rfl)).1
      simp [hclosed]
    | confirmClear =>
      have hopen := confirmClear_of_answer hx (.inl rfl)
      simp [hopen]
    | cancelClear =>
      have hopen := confirmClear_of_answer hx (.inr rfl)
      simp [hopen]
    | _ => simp

/-- Questions that are asked are answered or still open. -/
theorem count_clears (a : App) (hs : List Happening) :
    (a.requests hs).count .clear + (a.actions hs).count .cancelClear +
        (a.after hs).confirmClear.toNat =
      a.confirmClear.toNat + (a.actions hs).count .requestClear := by
  induction hs generalizing a with
  | nil => simp [requests, actions, after]
  | cons h rest ih =>
    have hstep := a.count_meet h
    have hrest := ih (a.meet h).1
    simp only [requests, actions, List.count_append, after_cons]
    omega

/-- An open question takes no other key than its own. -/
theorem press_of_other (hopen : a.confirmClear = true) {k : Key} (hy : k.typed? ≠ some 'y')
    (hY : k.typed? ≠ some 'Y') (hn : k.typed? ≠ some 'n')
    (hescape : k ≠ KeyContext.named .escape) : a.press k = (a, none) := by
  apply press_of_none
  rw [context_eq_confirmClear_iff.mpr hopen, Option.eq_none_iff_forall_ne_some]
  intro x hx
  rcases KeyContext.action?_confirmClear_iff.mp hx with ⟨-, hkey | hkey⟩ | ⟨-, hkey | hkey⟩
  · exact hy hkey
  · exact hY hkey
  · exact hn hkey
  · exact hescape hkey

/-- The key that has the log cleared. -/
theorem request_eq_clear_iff_key {h : Happening} :
    (a.meet h).2 = some .clear ↔
      a.confirmClear = true ∧ ∃ k, h = .key k ∧ (k.typed? = some 'y' ∨ k.typed? = some 'Y') := by
  rw [request_meet_eq_clear_iff]
  constructor
  · intro hx
    have hopen := confirmClear_of_answer hx (.inl rfl)
    cases h with
    | key k =>
      rw [action?, context_eq_confirmClear_iff.mpr hopen] at hx
      rcases KeyContext.action?_confirmClear_iff.mp hx with ⟨-, hkey⟩ | ⟨hother, -⟩
      · exact ⟨hopen, k, rfl, hkey⟩
      · cases hother
    | unreadable message => simp [action?] at hx
    | _ => cases hx
  · rintro ⟨hopen, k, rfl, hkey⟩
    rw [action?, context_eq_confirmClear_iff.mpr hopen]
    exact KeyContext.action?_confirmClear_iff.mpr (.inl ⟨rfl, hkey⟩)

/-- Nothing but a `y` to a question that a key opened, and that has stood since, has the log cleared,
and no question has it cleared twice. The other keys do nothing while it stands, and the filter input
is closed. -/
theorem clear_is_confirmed (url : String) (snapshot : Snapshot) (threshold : PinThreshold)
    (past : List Happening) :
    let start := opened url snapshot threshold
    let a := start.after past
    (∀ h, (a.meet h).2 = some .clear ↔
      start.Standing past ∧ ∃ k, h = .key k ∧ (k.typed? = some 'y' ∨ k.typed? = some 'Y')) ∧
    (start.requests past).count .clear + (start.actions past).count .cancelClear +
      a.confirmClear.toNat = (start.actions past).count .requestClear ∧
    (a.confirmClear = true → ∀ k, k.typed? ≠ some 'y' → k.typed? ≠ some 'Y' →
      k.typed? ≠ some 'n' → k ≠ KeyContext.named .escape → a.press k = (a, none)) ∧
    ¬ (a.confirmClear = true ∧ a.searchActive = true) := by
  intro start a
  have hclosed : start.confirmClear = false := rfl
  refine ⟨?_, ?_, ?_, ((opened_sound url snapshot threshold).after past).one_mode⟩
  · intro h
    rw [request_eq_clear_iff_key, standing_iff hclosed]
  · have hcount := start.count_clears past
    rw [hclosed] at hcount
    simpa using hcount
  · intro hopen k hy hY hn hescape
    exact press_of_other hopen hy hY hn hescape

/-- A question is asked. A snapshot and keys of the log viewer come after it. -/
def asked : List Happening :=
  [.key ⟨.char 'C', true, false, false⟩, .refresh (.ofEngine (.new 5 none)),
    .key (KeyContext.plain 'r'), .key (KeyContext.control 'y')]

/-- The question stands: another letter does nothing, and a `Y` with shift has the log cleared. -/
theorem clear_is_confirmed_asked :
    let a := (opened "http://localhost" (.ofEngine (.new 5 none)) .usual).after asked
    a.press (KeyContext.plain 'q') = (a, none) ∧
    (a.meet (.key ⟨.char 'Y', true, false, false⟩)).2 = some .clear := by
  intro a
  obtain ⟨hclear, -, hother, -⟩ :=
    clear_is_confirmed "http://localhost" (.ofEngine (.new 5 none)) .usual asked
  have hopen : a.confirmClear = true := by decide
  constructor
  · exact hother hopen _ (by decide) (by decide) (by decide) (by decide)
  · rw [hclear, standing_iff rfl]
    exact ⟨hopen, _, rfl, .inr (by decide)⟩

end LogTail.App
