import LogTail.Display.LogScreen
import LogTail.Proofs.App.Keys
import LogTail.Proofs.View.Cache

/-!
Runs of the application. The reader presses keys; in between the view takes snapshots, clears of the log
come to an end and the screen is drawn. A key has an action performed in the context in which it is
pressed. Whatever else happens leaves the question, the filter input and the text filter alone.
-/
namespace LogTail.App

inductive Happening
  | key (k : Key)
  | refresh (latest : Snapshot)
  | clearDone (failure : Option String) (latest : Snapshot)
  | ended
  | unreadable (message : String)
  | outdated
  | drawn (screen : Screen.Area)

/-- What comes of it, and what the application wants of the session then. -/
def meet (a : App) : Happening → App × Option Request
  | .key k => a.press k
  | .refresh latest => (a.refresh latest, none)
  | .clearDone failure latest => (a.clearDone failure latest, none)
  | .ended => ({ a with quit := true }, none)
  | .unreadable message => a.act (.showError message)
  | .outdated => ({ a with dirty := true }, none)
  | .drawn screen => ({ Display.fitted a screen with dirty := false }, none)

def after (a : App) (hs : List Happening) : App :=
  hs.foldl (fun a h => (a.meet h).1) a

theorem after_cons (a : App) (h : Happening) (hs : List Happening) :
    a.after (h :: hs) = (a.meet h).1.after hs := by
  rw [after, List.foldl_cons]
  rfl

theorem after_append (a : App) (hs more : List Happening) :
    a.after (hs ++ more) = (a.after hs).after more :=
  List.foldl_append

theorem after_concat (a : App) (hs : List Happening) (h : Happening) :
    a.after (hs ++ [h]) = ((a.after hs).meet h).1 :=
  a.after_append hs [h]

def Happening.key? : Happening → Option Key
  | key k => some k
  | _ => none

def pressed (hs : List Happening) : List Key :=
  hs.filterMap Happening.key?

def action? (a : App) : Happening → Option Action
  | .key k => a.context.action? k
  | .unreadable message => some (.showError message)
  | _ => none

def opened (url : String) (snapshot : Snapshot) (threshold : PinThreshold) : App :=
  .new url ((View.ofSnapshot snapshot).withThreshold threshold)

variable {a : App}

theorem context_eq_logViewer_iff :
    a.context = .logViewer ↔ a.confirmClear = false ∧ a.searchActive = false := by
  unfold context
  cases a.confirmClear <;> cases a.searchActive <;> simp

theorem context_eq_confirmClear_iff : a.context = .confirmClear ↔ a.confirmClear = true := by
  unfold context
  cases a.confirmClear <;> cases a.searchActive <;> simp

theorem context_eq_filterInput_iff :
    a.context = .filterInput ↔ a.confirmClear = false ∧ a.searchActive = true := by
  unfold context
  cases a.confirmClear <;> cases a.searchActive <;> simp

theorem press_of_none {k : Key} (h : a.context.action? k = none) : a.press k = (a, none) := by
  rw [press, h]

theorem press_of_some {k : Key} {x : Action} (h : a.context.action? k = some x) :
    a.press k = a.act x := by
  rw [press, h]

/-- To dismiss something changes nothing but what is shown beside the log. -/
theorem act_dismissError (a : App) :
    ∃ help error, a.act .dismissError =
      ({ a with dirty := true, helpVisible := help, errorMessage := error }, none) := by
  unfold act perform
  dsimp only
  split
  · exact ⟨false, a.errorMessage, rfl⟩
  · exact ⟨a.helpVisible, none, rfl⟩

/-- Three actions touch the question: one asks it, and the two answers take it back. -/
theorem act_confirmClear (a : App) (x : Action) :
    (a.act x).1.confirmClear = match x with
      | .requestClear => true
      | .confirmClear => false
      | .cancelClear => false
      | _ => a.confirmClear := by
  cases x with
  | dismissError =>
    obtain ⟨help, error, hact⟩ := a.act_dismissError
    rw [hact]
  | _ => rfl

/-- The filter input is opened by one action and closed by two. -/
theorem act_searchActive (a : App) (x : Action) :
    (a.act x).1.searchActive = match x with
      | .openSearch => true
      | .closeSearch => false
      | .applyFilter => false
      | _ => a.searchActive := by
  cases x with
  | dismissError =>
    obtain ⟨help, error, hact⟩ := a.act_dismissError
    rw [hact]
  | _ => rfl

theorem setLevel_request (a : App) (level : LevelFilter) : (a.setLevel level).2 ≠ some .clear := by
  unfold setLevel
  dsimp only
  cases (a.view.setLevel level).2 <;> simp

/-- Only the answer to the question has the log cleared. -/
theorem act_request_eq_clear_iff (a : App) (x : Action) :
    (a.act x).2 = some .clear ↔ x = .confirmClear := by
  cases x with
  | cycleLevel => exact iff_of_false (setLevel_request _ _) (by simp)
  | cycleLevelBack => exact iff_of_false (setLevel_request _ _) (by simp)
  | dismissError =>
    obtain ⟨help, error, hact⟩ := a.act_dismissError
    simp [hact]
  | _ => simp [act, perform]

@[simp] theorem editSearch_text (a : App) (text : String) :
    (a.editSearch text).view.filter.text = text :=
  congrArg View.Inputs.text (a.view.setText_inputs text)

@[simp] theorem setLevel_text (a : App) (level : LevelFilter) :
    (a.setLevel level).1.view.filter.text = a.view.filter.text :=
  congrArg View.Inputs.text (a.view.setLevel_inputs level)

@[simp] theorem refresh_text (a : App) (latest : Snapshot) :
    (a.refresh latest).view.filter.text = a.view.filter.text :=
  congrArg View.Inputs.text (a.view.refresh_inputs latest)

/-- The view looks for the text in the filter input, whatever is done. -/
theorem act_text (h : a.view.filter.text = a.searchInput) (x : Action) :
    (a.act x).1.view.filter.text = (a.act x).1.searchInput := by
  cases x with
  | dismissError =>
    obtain ⟨help, error, hact⟩ := a.act_dismissError
    rw [hact]
    exact h
  | cycleLevel => exact (setLevel_text _ _).trans h
  | cycleLevelBack => exact (setLevel_text _ _).trans h
  | openSearch => rfl
  | closeSearch => exact editSearch_text _ _
  | searchInput c => exact editSearch_text _ _
  | searchBackspace => exact editSearch_text _ _
  | searchClear => exact editSearch_text _ _
  | clearFilter => exact editSearch_text _ _
  | _ => exact h

/-- Whether the reader finds the question and the filter input as they were. -/
structure Undisturbed (a b : App) : Prop where
  confirmClear_eq : b.confirmClear = a.confirmClear
  searchActive_eq : b.searchActive = a.searchActive
  searchInput_eq : b.searchInput = a.searchInput
  searchPrevious_eq : b.searchPrevious = a.searchPrevious
  text_eq : b.view.filter.text = a.view.filter.text

theorem meet_of_action {h : Happening} {x : Action} (hx : a.action? h = some x) :
    a.meet h = a.act x := by
  cases h with
  | key k => exact press_of_some hx
  | unreadable message =>
    rw [← Option.some.inj hx]
    rfl
  | _ => cases hx

/-- What has no action performed disturbs nothing and asks for nothing. -/
theorem meet_of_quiet {h : Happening} (quiet : a.action? h = none) :
    a.Undisturbed (a.meet h).1 ∧ (a.meet h).2 = none := by
  cases h with
  | key k =>
    rw [meet, press_of_none quiet]
    exact ⟨⟨rfl, rfl, rfl, rfl, rfl⟩, rfl⟩
  | refresh latest => exact ⟨⟨rfl, rfl, rfl, rfl, a.refresh_text latest⟩, rfl⟩
  | clearDone failure latest =>
    have htext := congrArg View.Inputs.text (a.view.refresh_inputs latest)
    cases failure <;> exact ⟨⟨rfl, rfl, rfl, rfl, htext⟩, rfl⟩
  | unreadable message => cases quiet
  | _ => exact ⟨⟨rfl, rfl, rfl, rfl, rfl⟩, rfl⟩

/-- What happens without a key leaves the question and the filter input as they were. -/
theorem undisturbed_of_no_key {e : Happening} (hkey : e.key? = none) :
    a.Undisturbed (a.meet e).1 := by
  cases e with
  | key k => cases hkey
  | unreadable message => exact ⟨rfl, rfl, rfl, rfl, rfl⟩
  | _ => exact (meet_of_quiet rfl).1

/-- An action that opens something finds nothing open. -/
theorem nothing_open_of_opener {h : Happening} {x : Action} (hx : a.action? h = some x)
    (opener : x = .requestClear ∨ x = .openSearch) :
    a.confirmClear = false ∧ a.searchActive = false := by
  cases h with
  | key k => exact context_eq_logViewer_iff.mp (KeyContext.eq_logViewer_of_opener hx opener)
  | unreadable message =>
    rw [← Option.some.inj hx] at opener
    simp at opener
  | _ => cases hx

/-- An answer is only given to a question that stands. -/
theorem confirmClear_of_answer {h : Happening} {x : Action} (hx : a.action? h = some x)
    (answer : x = .confirmClear ∨ x = .cancelClear) : a.confirmClear = true := by
  cases h with
  | key k => exact context_eq_confirmClear_iff.mp (KeyContext.eq_confirmClear_of_answer hx answer)
  | unreadable message =>
    rw [← Option.some.inj hx] at answer
    simp at answer
  | _ => cases hx

/-- What holds of the application at all times. -/
structure Sound (a : App) : Prop where
  one_mode : ¬ (a.confirmClear = true ∧ a.searchActive = true)
  text_eq : a.view.filter.text = a.searchInput

theorem opened_sound (url : String) (snapshot : Snapshot) (threshold : PinThreshold) :
    (opened url snapshot threshold).Sound where
  one_mode := fun h => Bool.noConfusion h.1
  text_eq := congrArg View.Inputs.text (View.ofSnapshot_inputs snapshot)

namespace Sound

/-- One happening keeps the question and the filter input apart, and the view looking for what is in
the input. -/
theorem meet (h : a.Sound) (e : Happening) : (a.meet e).1.Sound := by
  cases hx : a.action? e with
  | none =>
    obtain ⟨hsame, -⟩ := meet_of_quiet hx
    refine ⟨?_, ?_⟩
    · rw [hsame.confirmClear_eq, hsame.searchActive_eq]
      exact h.one_mode
    · rw [hsame.text_eq, hsame.searchInput_eq]
      exact h.text_eq
  | some x =>
    rw [meet_of_action hx]
    refine ⟨?_, act_text h.text_eq x⟩
    have hopener := nothing_open_of_opener hx
    have hmode := h.one_mode
    rw [act_confirmClear, act_searchActive]
    -- an action that opens one mode finds the other closed, and the rest open nothing
    cases x <;> simp_all

/-- The same of a whole run, by induction on its happenings. -/
theorem after (h : a.Sound) (hs : List Happening) : (a.after hs).Sound := by
  induction hs generalizing a with
  | nil => exact h
  | cons e rest ih =>
    rw [after_cons]
    exact ih (h.meet e)

end Sound

end LogTail.App
