import LogTail.Proofs.Session.Level
import LogTail.Proofs.View.Reader

/-!
The level in a view and in its session. A view shows another level at once and sends the session a
command for it; the command waits until the session takes it up, and by then the view may show yet
another level. The level of the view is at all times the one that the session will have when nothing
waits any more, as long as no one else names levels to the session.
-/
namespace LogTail

theorem View.setLevel_wanted (v : View) (level : LevelFilter) :
    (v.setLevel level).2 = if v.level = level then none else some level := by
  unfold setLevel
  split <;> rfl

namespace Reader

def Deed.level? : Deed → Option LevelFilter
  | .setLevel level => some level
  | _ => none

/-- Whether a deed names no level to the session, unless the view does it. -/
def Deed.Own : Deed → Prop
  | .move m => m.level? = none
  | _ => True

def Deed.KeepsLevel (d : Deed) : Prop :=
  d.Own ∧ d.level? = none

def queries (r : Reader) : Deed → List Ticket
  | .move m => (r.session.move m).2.filterMap Effect.ticket?
  | _ => []

/-- Whether the session has not ended, and will have the level of the view. -/
structure Agrees (r : Reader) : Prop where
  live : r.session.engine.phase ≠ .closed
  level_eq : r.view.level = r.session.eventualLevel

variable {r : Reader}

/-- Only a deed that says so gives the view another level. -/
theorem view_level_step (r : Reader) (d : Deed) :
    (r.step d).view.level = d.level?.getD r.view.level := by
  cases d with
  | move m => rfl
  | refresh => exact congrArg View.Inputs.level (r.view.refresh_inputs r.session.published)
  | setLevel level => exact congrArg View.Inputs.level (r.view.setLevel_inputs level)
  | setText text => exact congrArg View.Inputs.level (r.view.setText_inputs text)
  | setHeight height => rfl
  | withThreshold threshold => rfl
  | scroll g => rfl

/-- The view keeps its level as long as no deed names one. -/
theorem view_level_after {deeds : List Deed} (kept : ∀ d ∈ deeds, d.KeepsLevel) :
    (r.after deeds).view.level = r.view.level := by
  induction deeds generalizing r with
  | nil => rfl
  | cons d rest ih =>
    obtain ⟨⟨-, hnone⟩, hrest⟩ := List.forall_mem_cons.mp kept
    have hstep : (r.step d).view.level = r.view.level := by
      rw [view_level_step, hnone]
      rfl
    exact (ih hrest).trans hstep

theorem pendingLevels_step {d : Deed} (kept : d.KeepsLevel) (none_waits : r.session.pendingLevels = []) :
    (r.step d).session.pendingLevels = [] := by
  obtain ⟨hown, hnone⟩ := kept
  cases d with
  | move m =>
    exact Session.pendingLevels_move_nil none_waits hown
  | setLevel level => cases hnone
  | _ => exact none_waits

theorem pendingLevels_after {deeds : List Deed} (kept : ∀ d ∈ deeds, d.KeepsLevel)
    (none_waits : r.session.pendingLevels = []) : (r.after deeds).session.pendingLevels = [] := by
  induction deeds generalizing r with
  | nil => exact none_waits
  | cons d rest ih =>
    obtain ⟨hfirst, hrest⟩ := List.forall_mem_cons.mp kept
    exact ih hrest (pendingLevels_step hfirst none_waits)

/-- A view that changes its level tells the session of it; one that has the level already need not. -/
theorem Agrees.setLevel (h : r.Agrees) (level : LevelFilter) : (r.step (.setLevel level)).Agrees := by
  have hview : (r.step (.setLevel level)).view.level = level := r.view_level_step (.setLevel level)
  have hsession : (r.step (.setLevel level)).session =
      inform r.session (if r.view.level = level then none else some level) := by
    rw [← View.setLevel_wanted]
    rfl
  by_cases hsame : r.view.level = level
  · rw [if_pos hsame] at hsession
    refine ⟨?_, ?_⟩
    · rw [hsession]
      exact h.live
    · rw [hsession, hview, ← hsame]
      exact h.level_eq
  · rw [if_neg hsame] at hsession
    refine ⟨?_, ?_⟩
    · rw [hsession]
      exact h.live
    · -- the new command is the last of those that wait
      have hlast : (r.session.send (.setLevel level)).pendingLevels =
          r.session.pendingLevels ++ [level] := by
        simp [Session.pendingLevels, Session.send, Command.level?]
      rw [hsession, hview, inform, Option.elim_some, Session.eventualLevel, hlast,
        List.getLast?_concat]
      rfl

/-- One deed keeps view and session in agreement, since a level that the view takes on is the last
one named to the session. -/
theorem Agrees.step (h : r.Agrees) {d : Deed} (own : d.Own)
    (still : (r.step d).session.isOpen = true) : (r.step d).Agrees := by
  have hview := r.view_level_step d
  cases d with
  | move m =>
    refine ⟨Session.live_move h.live still, ?_⟩
    have hsession : (r.step (.move m)).session.eventualLevel = r.session.eventualLevel := by
      have hmove := Session.eventualLevel_move h.live still
      rw [own] at hmove
      exact hmove
    rw [hsession]
    exact h.level_eq
  | setLevel level => exact h.setLevel level
  | _ => exact ⟨h.live, hview.trans h.level_eq⟩

theorem isOpen_of_step {d : Deed} (still : (r.step d).session.isOpen = true) :
    r.session.isOpen = true := by
  cases d with
  | move m => exact Session.isOpen_of_move still
  | setLevel level =>
    have hinform : (inform r.session (r.view.setLevel level).2).isOpen = r.session.isOpen := by
      cases (r.view.setLevel level).2 <;> rfl
    exact hinform.symm.trans still
  | _ => exact still

/-- As long as the session takes events, it will have the level of the view. -/
theorem agrees_after (h : r.session.isOpen = true → r.Agrees) {deeds : List Deed}
    (own : ∀ d ∈ deeds, d.Own) (still : (r.after deeds).session.isOpen = true) :
    (r.after deeds).Agrees := by
  induction deeds generalizing r with
  | nil => exact h still
  | cons d rest ih =>
    obtain ⟨hfirst, hrest⟩ := List.forall_mem_cons.mp own
    refine ih ?_ hrest still
    intro hopen
    exact (h (isOpen_of_step hopen)).step hfirst hopen

/-- A view opened on a current session without waiting commands agrees with it. -/
theorem onto_agrees {s : Session} (current : s.Current) (live : s.engine.phase ≠ .closed)
    (none_waits : s.pendingLevels = []) : (onto s).Agrees := by
  refine ⟨live, ?_⟩
  have hview : (onto s).view.level = s.published.level :=
    congrArg View.Inputs.level (View.ofSnapshot_inputs s.published)
  have hsession : (onto s).session.eventualLevel = s.engine.level :=
    Session.eventualLevel_of_nil none_waits
  rw [hview, hsession, current.published_eq]
  rfl

/-- So does a view opened on any session that has been named no level. -/
theorem opened_agrees (capacity : ℕ) (limit : Option ℕ) (level : LevelFilter) {moves : List Move}
    (unnamed : ∀ m ∈ moves, m.level? = none)
    (still : (opened capacity limit level moves).session.isOpen = true) :
    (opened capacity limit level moves).Agrees := by
  have hcurrent := (Session.start_current capacity limit level).after moves
  have hlive : (Session.start capacity limit level).1.engine.phase ≠ .closed := Phase.noConfusion
  have hnone := Session.pendingLevels_after_nil (s := (Session.start capacity limit level).1) rfl unnamed
  exact onto_agrees hcurrent (Session.live_after hlive still) hnone

/-- If no level waits after a query was made, the query asks for the level of the view. -/
theorem query_level (h : r.session.isOpen = true → r.Agrees) {d : Deed} (own : d.Own)
    {ticket : Ticket} (hticket : ticket ∈ r.queries d)
    (none_waits : (r.step d).session.pendingLevels = []) :
    ticket.query.level = (r.step d).view.level := by
  cases d with
  | move m =>
    have hopen : (r.step (.move m)).session.isOpen = true := Session.isOpen_of_query hticket
    have hagrees : (r.step (.move m)).Agrees := (h (isOpen_of_step hopen)).step own hopen
    have hengine := Session.eventualLevel_of_nil none_waits
    calc ticket.query.level
      _ = (r.step (.move m)).session.engine.level := Session.query_level_move hticket
      _ = (r.step (.move m)).session.eventualLevel := hengine.symm
      _ = (r.step (.move m)).view.level := hagrees.level_eq.symm
  | _ => cases hticket

/-- A view and its session agree on the level. A view has the level it was given last. As long as the
session takes events, that is the one named last by a command that waits, or that of the engine where
none does. A query after which no level waits asks for the level of the view; so when none waits, and
until the view gets another level, all queries ask for that of the view. And whatever the session has
loaded by then, the view shows only records of its own level. -/
theorem view_and_session_agree (capacity : ℕ) (limit : Option ℕ) (level : LevelFilter)
    (moves : List Move) (deeds : List Deed) (unnamed : ∀ m ∈ moves, m.level? = none)
    (own : ∀ d ∈ deeds, d.Own) :
    let r := (opened capacity limit level moves).after deeds
    (∀ d, (r.step d).view.level = d.level?.getD r.view.level) ∧
    (r.session.isOpen = true →
      r.view.level = r.session.pendingLevels.getLast?.getD r.session.engine.level) ∧
    (∀ d, d.Own → ∀ ticket ∈ r.queries d, (r.step d).session.pendingLevels = [] →
      ticket.query.level = (r.step d).view.level) ∧
    (r.session.pendingLevels = [] → ∀ more d, (∀ d' ∈ more, d'.KeepsLevel) → d.KeepsLevel →
      ∀ ticket ∈ (r.after more).queries d, ticket.query.level = r.view.level) ∧
    ∀ x ∈ r.view.visible, r.view.level.passes x.record.level = true := by
  intro r
  have hopened := opened_agrees capacity limit level unnamed
  have hr : r.session.isOpen = true → r.Agrees := agrees_after hopened own
  refine ⟨r.view_level_step, ?_, ?_, ?_, ?_⟩
  · intro live
    exact (hr live).level_eq
  · intro d hd ticket hticket
    exact query_level hr hd hticket
  · intro none_waits more d hmore hd ticket hticket
    have hafter : (r.after more).session.isOpen = true → (r.after more).Agrees :=
      agrees_after hr fun d' hd' => (hmore d' hd').1
    have hnone : ((r.after more).step d).session.pendingLevels = [] :=
      pendingLevels_step hd (pendingLevels_after hmore none_waits)
    have hview : ((r.after more).step d).view.level = (r.after more).view.level := by
      rw [view_level_step, hd.2]
      rfl
    rw [query_level hafter hd.1 hticket hnone, hview, view_level_after hmore]
  · intro x hx
    have hsound : r.Sound := (opened_sound capacity limit level moves).after deeds
    rw [hsound.coherent.visible_eq, TextFilter.apply, List.mem_filter] at hx
    exact (Bool.and_eq_true_iff.mp hx.2).1

/-- A view changes its level and changes it back, and the session has taken up the first command only. -/
def toggled : List Deed :=
  [.setLevel (some .error), .setLevel none, .move .take]

/-- While the second command waits the two have different levels. The query for it asks for the level of
the view, and so does that of a reload after it. -/
theorem view_and_session_agree_toggled :
    let r := (opened 5 none none []).after toggled
    let reloading := (r.step (.move .take)).step (.move (.send .reload))
    (r.session.engine.level = some .error ∧ r.session.pendingLevels = [none] ∧
      r.view.level = none) ∧
    (∃ ticket ∈ r.queries (.move .take), ticket.query.level = (r.step (.move .take)).view.level) ∧
    ∃ ticket ∈ reloading.queries (.move .take),
      ticket.query.level = (r.step (.move .take)).view.level := by
  intro r reloading
  have hown : ∀ d ∈ toggled, d.Own := by simp [toggled, Deed.Own, Move.level?]
  have hall : ∀ d ∈ toggled ++ [.move .take], d.Own := by simp [toggled, Deed.Own, Move.level?]
  have hbegun : ∀ m ∈ ([] : List Move), m.level? = none := by simp
  have hlive : r.session.isOpen = true := by decide
  obtain ⟨-, hlevel, hquery, -, -⟩ :=
    view_and_session_agree 5 none none [] toggled hbegun hown
  obtain ⟨-, -, -, hlater, -⟩ :=
    view_and_session_agree 5 none none [] (toggled ++ [.move .take]) hbegun hall
  have hreload : (Deed.move (.send .reload)).KeepsLevel := ⟨rfl, rfl⟩
  refine ⟨⟨by decide, by decide, ?_⟩, ?_, ?_⟩
  · rw [hlevel hlive]
    decide
  · have hmade : (⟨3, .full, .full none none⟩ : Ticket) ∈ r.queries (.move .take) := by decide
    exact ⟨_, hmade, hquery (.move .take) rfl _ hmade (by decide)⟩
  · have hmade : (⟨4, .full, .full none none⟩ : Ticket) ∈ reloading.queries (.move .take) := by decide
    have hkept : ∀ d ∈ [Deed.move (.send .reload)], d.KeepsLevel := by
      intro d hd
      rw [List.mem_singleton.mp hd]
      exact hreload
    exact ⟨_, hmade, hlater (by decide) [.move (.send .reload)] (.move .take) hkept ⟨rfl, rfl⟩ _ hmade⟩

end Reader

end LogTail
