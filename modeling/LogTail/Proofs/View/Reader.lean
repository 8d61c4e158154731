import LogTail.Proofs.Session.Published
import LogTail.Proofs.View.Cache

/-!
A session and a view of it, opened at some moment, while both go on. The view pulls snapshots when
it likes and shows another level before the session has heard of it. Its records are kept under the
generation of a snapshot, and so they are right only because no two states of the engine have one
generation and other records.
-/
namespace LogTail

open Engine

structure Reader where
  session : Session
  view : View
  /-- What the view was given last, written down apart from it. -/
  given : View.Inputs

namespace Reader

inductive Deed
  | move (m : Move)
  | refresh
  | setLevel (level : LevelFilter)
  | setText (text : String)
  | setHeight (height : ℕ)
  | withThreshold (threshold : PinThreshold)
  | scroll (g : Scroll.Gesture)

def inform (s : Session) (wanted : Option LevelFilter) : Session :=
  wanted.elim s fun level => s.send (.setLevel level)

def step (r : Reader) : Deed → Reader
  | .move m => { r with session := (r.session.move m).1 }
  | .refresh =>
    { r with
      view := (r.view.refresh r.session.published).1
      given := { r.given with snapshot := r.session.published } }
  | .setLevel level =>
    { session := inform r.session (r.view.setLevel level).2
      view := (r.view.setLevel level).1
      given := { r.given with level := level } }
  | .setText text =>
    { r with view := r.view.setText text, given := { r.given with text := text } }
  | .setHeight height =>
    { r with view := r.view.setHeight height, given := { r.given with height := height } }
  | .withThreshold threshold => { r with view := r.view.withThreshold threshold }
  | .scroll g => { r with view := r.view.scrollBy (·.follow g) }

def after (r : Reader) (deeds : List Deed) : Reader :=
  deeds.foldl step r

def onto (s : Session) : Reader :=
  ⟨s, .ofSnapshot s.published, ⟨s.published, s.published.level, "", 0⟩⟩

def opened (capacity : ℕ) (limit : Option ℕ) (level : LevelFilter) (moves : List Move) : Reader :=
  onto ((Session.start capacity limit level).1.after moves)

/-- Whether the view is right, and its snapshot is one of those that the session has had. -/
structure Sound (r : Reader) : Prop where
  current : r.session.Current
  pulled : ∃ e, r.given.snapshot = .ofEngine e ∧ e.Precedes r.session.engine
  inputs_eq : r.view.inputs = r.given
  coherent : r.view.Coherent

/-- A view is right when it is opened on a current session. -/
theorem onto_sound {s : Session} (h : s.Current) : (onto s).Sound where
  current := h
  pulled := ⟨s.engine, h.published_eq, .refl s.engine⟩
  inputs_eq := View.ofSnapshot_inputs _
  coherent := View.coherent_ofSnapshot _

theorem opened_sound (capacity : ℕ) (limit : Option ℕ) (level : LevelFilter) (moves : List Move) :
    (opened capacity limit level moves).Sound :=
  onto_sound ((Session.start_current capacity limit level).after moves)

namespace Sound

variable {r : Reader}

theorem inform_current (h : r.Sound) (wanted : Option LevelFilter) :
    (inform r.session wanted).Current := by
  cases wanted with
  | none => exact h.current
  | some level => exact h.current.move (.send (.setLevel level))

theorem inform_engine (s : Session) (wanted : Option LevelFilter) :
    (inform s wanted).engine = s.engine := by
  cases wanted <;> rfl

/-- What the view shows is a state that the session may have come from. -/
theorem snapshot_eq (h : r.Sound) :
    ∃ e, r.view.snapshot = .ofEngine e ∧ e.Precedes r.session.engine := by
  obtain ⟨e, hpulled, hprecedes⟩ := h.pulled
  have hgiven : r.view.snapshot = r.given.snapshot := congrArg View.Inputs.snapshot h.inputs_eq
  exact ⟨e, hgiven.trans hpulled, hprecedes⟩

/-- A snapshot published later has other records only under another generation. -/
theorem published_records (h : r.Sound)
    (same : r.session.published.generation = r.view.snapshot.generation) :
    r.session.published.records = r.view.snapshot.records := by
  obtain ⟨e, hsnapshot, hprecedes⟩ := h.snapshot_eq
  rw [h.current.published_eq, hsnapshot] at same ⊢
  have hstore : r.session.engine.store = e.store := hprecedes.store_eq same
  exact congrArg Store.entries hstore

/-- A snapshot published later that passes for the one in place is that one. -/
theorem published_eq_of_sameAs (h : r.Sound)
    (same : r.view.snapshot.sameAs r.session.published = true) :
    r.session.published = r.view.snapshot := by
  obtain ⟨e, hsnapshot, hprecedes⟩ := h.snapshot_eq
  rw [h.current.published_eq, hsnapshot] at same ⊢
  exact Snapshot.eq_of_sameAs hprecedes same

theorem move (h : r.Sound) (m : Move) : (r.step (.move m)).Sound := by
  -- the view stays behind, with a snapshot of an engine that this one has come from
  obtain ⟨e, hpulled, hprecedes⟩ := h.pulled
  have hengine := hprecedes.trans (r.session.precedes_move m)
  exact ⟨h.current.move m, ⟨e, hpulled, hengine⟩, h.inputs_eq, h.coherent⟩

theorem refresh (h : r.Sound) : (r.step .refresh).Sound where
  current := h.current
  -- what is pulled now is of the engine as it is now
  pulled := ⟨r.session.engine, h.current.published_eq, .refl _⟩
  inputs_eq := by
    rw [step, View.refresh_inputs, h.inputs_eq]
  coherent := h.coherent.refresh h.published_records

theorem setLevel (h : r.Sound) (level : LevelFilter) : (r.step (.setLevel level)).Sound where
  current := h.inform_current _
  pulled := by
    -- the session has not taken up the command yet
    rw [step, inform_engine]
    exact h.pulled
  inputs_eq := by
    rw [step, View.setLevel_inputs, h.inputs_eq]
  coherent := h.coherent.setLevel level

/-- What is done to the view alone leaves the session and the snapshot as they are. -/
theorem look (h : r.Sound) {view : View} {given : View.Inputs} (hgiven : view.inputs = given)
    (hsnapshot : given.snapshot = r.given.snapshot) (hview : view.Coherent) :
    Sound { r with view := view, given := given } := by
  refine ⟨h.current, ?_, hgiven, hview⟩
  change ∃ e, given.snapshot = _ ∧ _
  rw [hsnapshot]
  exact h.pulled

/-- One deed, by its cases. -/
theorem step (h : r.Sound) (d : Deed) : (r.step d).Sound := by
  cases d with
  -- these change the session, or what the view has of it
  | move m => exact h.move m
  | refresh => exact h.refresh
  | setLevel level => exact h.setLevel level
  -- these change the view alone
  | setText text =>
    refine h.look ?_ rfl (h.coherent.setText text)
    rw [View.setText_inputs, h.inputs_eq]
  | setHeight height =>
    refine h.look ?_ rfl (h.coherent.setHeight height)
    rw [View.setHeight_inputs, h.inputs_eq]
  | withThreshold threshold =>
    refine h.look ?_ rfl (h.coherent.withThreshold threshold)
    rw [View.withThreshold_inputs, h.inputs_eq]
  | scroll g =>
    refine h.look ?_ rfl (h.coherent.follow g)
    rw [View.follow_inputs, h.inputs_eq]

theorem after (h : r.Sound) (deeds : List Deed) : (r.after deeds).Sound := by
  induction deeds generalizing r with
  | nil => exact h
  | cons d rest ih => exact ih (h.step d)

end Sound

/-- Whatever happens to the session and in whatever order the view is used, it shows the records of
the snapshot pulled last that pass the filters as they are now. -/
theorem visible_is_filtered (capacity : ℕ) (limit : Option ℕ) (level : LevelFilter)
    (moves : List Move) (deeds : List Deed) :
    let r := (opened capacity limit level moves).after deeds
    r.view.visible = TextFilter.apply ⟨r.given.text⟩ r.given.level r.given.snapshot.records ∧
    r.view.visible = r.given.snapshot.records.filter (fun s =>
      r.given.level.all (s.record.level == ·) && TextFilter.passes ⟨r.given.text⟩ none s.record) ∧
    r.view.scroll.content = r.view.visible.length ∧
    r.view.scroll.offset ≤ r.view.visible.length - r.given.height ∧
    r.view.window.length = min r.given.height r.view.visible.length ∧
    ∃ above below, r.view.visible = above ++ r.view.window ++ below ∧
      above.length = r.view.scroll.offset := by
  intro r
  have hsound : r.Sound := (opened_sound capacity limit level moves).after deeds
  have hview := hsound.coherent
  have hheight : r.view.scroll.viewport = r.given.height :=
    congrArg View.Inputs.height hsound.inputs_eq
  have hvisible :
      r.view.visible = TextFilter.apply ⟨r.given.text⟩ r.given.level r.given.snapshot.records := by
    rw [← hsound.inputs_eq]
    exact hview.visible_eq
  rw [← hheight]
  exact ⟨hvisible, hvisible.trans (TextFilter.apply_eq_filter _ _ _), hview.content_eq,
    hview.offset_le, hview.length_window, hview.visible_split⟩

/-- Two records, of which the view shows one as soon as it is asked to; the session has not yet
heard of the level, and the other record is still in the snapshot. -/
example :
    let up : Record := ⟨"t1", .info, "up", none, none, []⟩
    let down : Record := ⟨"t2", .error, "down", none, none, []⟩
    let page : Page := ⟨[up, down], .ofToken "t2"⟩
    let r := (opened 5 none none []).after [.setHeight 1,
      .move (.fetched ⟨0, 1, .full, .full none none⟩ (.ok page)), .refresh, .setLevel (some .error)]
    r.view.visible.map (·.seq) = [1] ∧ r.given.snapshot.records.map (·.seq) = [0, 1] ∧
      r.session.engine.level = none := by
  decide

/-- Nothing changes unseen. The generation tells apart all contents of the buffer that a run has,
and what two snapshots are compared by tells them apart in whole; so what a session has published is
what its engine holds now, and a view that finds nothing new in it shows what it showed before. -/
theorem changes_are_seen (capacity : ℕ) (limit : Option ℕ) :
    (∀ (acts : List Act) (i j : ℕ),
      let e := (Engine.new capacity limit).after (acts.take i)
      let e' := (Engine.new capacity limit).after (acts.take j)
      e.generation = e'.generation → e.store = e'.store) ∧
    (∀ (level : LevelFilter) (moves : List Move) (i j : ℕ),
      let s := (Session.start capacity limit level).1.after (moves.take i)
      let s' := (Session.start capacity limit level).1.after (moves.take j)
      (Snapshot.ofEngine s.engine).sameAs (.ofEngine s'.engine) = true →
        Snapshot.ofEngine s.engine = .ofEngine s'.engine) ∧
    (∀ (level : LevelFilter) (moves : List Move),
      let s := (Session.start capacity limit level).1.after moves
      s.published = .ofEngine s.engine ∧
        ∀ l, s.published.counts.get l = s.published.records.countP (·.record.level = l)) ∧
    ∀ (level : LevelFilter) (moves : List Move) (deeds : List Deed),
      let r := (opened capacity limit level moves).after deeds
      (r.view.refresh r.session.published).2 = false →
        (r.view.refresh r.session.published).1 = r.view := by
  refine ⟨?_, ?_, ?_, ?_⟩
  · intro acts i j
    exact (Engine.new capacity limit).store_eq_of_generation_eq acts i j
  · intro level moves i j
    exact (Session.start capacity limit level).1.snapshot_eq_of_sameAs moves i j
  · intro level moves s
    have hcurrent : s.Current := (Session.start_current capacity limit level).after moves
    rw [hcurrent.published_eq]
    exact ⟨rfl, hcurrent.counted⟩
  · intro level moves deeds r unchanged
    have hsound : r.Sound := (opened_sound capacity limit level moves).after deeds
    exact hsound.coherent.refresh_of_unchanged unchanged hsound.published_eq_of_sameAs

def quietPoll : List Move :=
  [.fetched ⟨0, 1, .full, .full none none⟩
      (.ok ⟨[⟨"t1", .info, "up", none, none, []⟩], .ofToken "t1"⟩),
    .tick,
    .fetched ⟨2, 1, .incremental, .incremental none (.ofToken "t1")⟩ (.ok ⟨[], .ofToken "t2"⟩)]

/-- Between the first and the last of these moments the position moves on and nothing else changes;
nor does anything change for a log that is cleared and then closed. -/
theorem changes_are_seen_quiet :
    ((Engine.new 5 none).after [.ask (.start none), .clearSucceeded]).store =
      ((Engine.new 5 none).after [.ask (.start none), .clearSucceeded, .close]).store ∧
    let s := (Session.start 5 none none).1.after (quietPoll.take 1)
    let s' := (Session.start 5 none none).1.after (quietPoll.take 3)
    let r := (opened 5 none none (quietPoll.take 1)).after ((quietPoll.drop 1).map .move)
    (s.engine.cursor ≠ s'.engine.cursor ∧ Snapshot.ofEngine s.engine = .ofEngine s'.engine) ∧
    r.view.visible.length = 1 ∧ (r.view.refresh r.session.published).1 = r.view := by
  obtain ⟨hstore, hsnapshot, -, hview⟩ := changes_are_seen 5 none
  refine ⟨?_, ⟨by decide, ?_⟩, by decide, ?_⟩
  · exact hstore [.ask (.start none), .clearSucceeded, .close] 2 3 (by decide)
  · exact hsnapshot none quietPoll 1 3 (by decide)
  · exact hview none (quietPoll.take 1) ((quietPoll.drop 1).map .move) (by decide)

end Reader

end LogTail
