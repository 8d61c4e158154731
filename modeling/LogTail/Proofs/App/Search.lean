import LogTail.Proofs.App.FilterInput
import LogTail.Proofs.App.Redraw
import LogTail.Proofs.View.Search

/-!
A search that the reader gives up. The keys between the opening of the filter input and its closing have
the view look for one text after another, and last for the text there was before. That text is looked for
again faithfully, but the place of the window is not kept: it is carried from each text to the next by the
first record in view.
-/
namespace LogTail

def Stroke.texts (text : String) : List Stroke → List String
  | [] => []
  | s :: rest => s.apply text :: texts (s.apply text) rest

namespace View

variable {v : View}

theorem Coherent.refresh_same (h : v.Coherent) : (v.refresh v.snapshot).1 = v :=
  congrArg Prod.fst (recompute_of_fresh h.key_eq)

/-- A coherent view of a reader who does not follow the log is not changed when it is given the
height it has. -/
theorem Coherent.setHeight_same (h : v.Coherent) (hpinned : v.scroll.pinned = false) :
    v.setHeight v.scroll.viewport = v := by
  have hsettled : v.scroll.settle.1 = v.scroll := by
    have hoffset : min v.scroll.offset v.scroll.maxOffset = v.scroll.offset := Nat.min_eq_left h.inRange
    rw [Scroll.settle, if_neg (by simp [hpinned]), hoffset]
  exact congrArg (fun scroll => { v with scroll := scroll }) hsettled

end View

namespace App

variable {a : App} {old text : String}

/-- Whether the view has the same snapshot and the same height all through a run. -/
def Still (a : App) (hs : List Happening) : Prop :=
  ∀ before, before <+: hs →
    (a.after before).view.snapshot = a.view.snapshot ∧
    (a.after before).view.scroll.viewport = a.view.scroll.viewport

/-- What happens without a key and leaves the snapshot and the height alone leaves the view alone. -/
theorem view_meet_of_no_key {e : Happening} (hkey : e.key? = none) (hv : a.view.Coherent)
    (hpinned : a.view.scroll.pinned = false)
    (hsnapshot : (a.meet e).1.view.snapshot = a.view.snapshot)
    (hviewport : (a.meet e).1.view.scroll.viewport = a.view.scroll.viewport) :
    (a.meet e).1.view = a.view := by
  have hrefreshed {latest : Snapshot} (h : (a.view.refresh latest).1.snapshot = a.view.snapshot) :
      (a.view.refresh latest).1 = a.view := by
    have hlatest : (a.view.refresh latest).1.snapshot = latest :=
      congrArg View.Inputs.snapshot (a.view.refresh_inputs latest)
    rw [← hlatest, h]
    exact hv.refresh_same
  cases e with
  | key k => cases hkey
  | refresh latest => exact hrefreshed hsnapshot
  | clearDone failure latest => cases failure <;> exact hrefreshed hsnapshot
  | drawn screen =>
    rw [scroll_drawn, Scroll.setViewport_viewport] at hviewport
    exact (congrArg a.view.setHeight hviewport).trans (hv.setHeight_same hpinned)
  | ended => rfl
  | unreadable message => rfl
  | outdated => rfl

theorem view_act_stroke (h : a.Editing old text) (s : Stroke) :
    (a.act s.action).1.view = a.view.setText (s.apply text) := by
  rw [← h.input_eq]
  cases s <;> rfl

/-- What holds all through a run holds through the rest of it. -/
theorem Still.tail {e : Happening} {rest : List Happening} (h : a.Still (e :: rest))
    (hview : (a.meet e).1.view.snapshot = a.view.snapshot ∧
      (a.meet e).1.view.scroll.viewport = a.view.scroll.viewport) : (a.meet e).1.Still rest := by
  intro before hbefore
  rw [hview.1, hview.2]
  exact h (e :: before) (List.cons_prefix_cons.mpr ⟨rfl, hbefore⟩)

/-- While the snapshot and the height stay the same, the view looks for one text after another and does
nothing else. -/
theorem Editing.view_after {hs : List Happening} (h : a.Editing old text) (hv : a.view.Coherent)
    (hpinned : a.view.scroll.pinned = false) (hstay : ∀ k ∈ pressed hs, ¬ k.Leaves)
    (hstill : a.Still hs) :
    (a.after hs).view = a.view.search (Stroke.texts text ((pressed hs).filterMap Key.stroke?)) := by
  -- on the run: a happening without a key, a key that edits nothing, or one stroke more
  induction hs generalizing a text with
  | nil => rfl
  | cons e rest ih =>
    have hnow := hstill [e] (List.cons_prefix_cons.mpr ⟨rfl, List.nil_prefix⟩)
    have hrest := hstill.tail hnow
    rw [after_cons]
    cases hkey : e.key? with
    | none =>
      have hpressed : pressed (e :: rest) = pressed rest := List.filterMap_cons_none hkey
      have hview := view_meet_of_no_key hkey hv hpinned hnow.1 hnow.2
      rw [hpressed] at hstay ⊢
      rw [← hview] at hv hpinned ⊢
      exact ih (h.undisturbed (undisturbed_of_no_key hkey)) hv hpinned hstay hrest
    | some k =>
      obtain rfl : e = .key k := by
        cases e <;> simp_all [Happening.key?]
      have hpressed : pressed (.key k :: rest) = k :: pressed rest := List.filterMap_cons_some rfl
      rw [hpressed] at hstay ⊢
      obtain ⟨hk, hothers⟩ := List.forall_mem_cons.mp hstay
      cases hstroke : k.stroke? with
      | none =>
        have hsame : (a.meet (.key k)).1 = a := congrArg Prod.fst (h.press_other hk hstroke)
        rw [hsame] at hrest ⊢
        rw [List.filterMap_cons_none hstroke]
        exact ih h hv hpinned hothers hrest
      | some s =>
        have hview : (a.meet (.key k)).1.view = a.view.setText (s.apply text) :=
          (congrArg (·.1.view) (h.press_stroke hstroke)).trans (view_act_stroke h s)
        have hnext := (View.Alongside.self hv hpinned).setText (s.apply text)
        rw [← hview] at hnext
        rw [List.filterMap_cons_some hstroke]
        calc ((a.meet (.key k)).1.after rest).view
            = (a.meet (.key k)).1.view.search
                (Stroke.texts (s.apply text) ((pressed rest).filterMap Key.stroke?)) :=
              ih (h.stroke hstroke) hnext.coherent hnext.pinned_eq hothers hrest
          _ = a.view.search (Stroke.texts text (s :: (pressed rest).filterMap Key.stroke?)) := by
              rw [hview]
              rfl

theorem Editing.view_cancel {k : Key} (h : a.Editing old text) (hk : k.Cancels) :
    (a.press k).1.view = a.view.setText old := by
  rw [h.press_cancel hk, ← h.previous_eq]
  rfl

/-- A reader who does not follow the log opens the filter input, types, and leaves it without applying
what was typed, while the snapshot and the height of the view stay the same. The visible records are the
ones there were before. The window is the one there was before just where the first record in view when
the input is left leads back to it; with nothing in view it is so only for a window at the top of the log.
Texts that all keep the first record in view, and enough records after it, lead back. -/
theorem cancelled_search_place (capacity : ℕ) (limit : Option ℕ) (level : LevelFilter)
    (moves : List Move) (deeds : List Reader.Deed) (a : App)
    (hview : a.view = ((Reader.opened capacity limit level moves).after deeds).view)
    (hcontext : a.context = .logViewer) (hpinned : a.view.scroll.pinned = false)
    (hheight : 0 < a.view.scroll.viewport) (slash leave : Key) (hslash : slash.typed? = some '/')
    (hleave : leave.Cancels) (typed : List Happening) (hstay : ∀ k ∈ pressed typed, ¬ k.Leaves)
    (hstill : (a.press slash).1.Still typed) :
    let b := (a.press slash).1.after typed
    let c := (b.press leave).1
    let texts := Stroke.texts a.view.filter.text ((pressed typed).filterMap Key.stroke?)
    c.view.visible = a.view.visible ∧ c.view.scroll.viewport = a.view.scroll.viewport ∧
    (c.view.window = a.view.window ↔ a.view.LedBack b.view.window.head?) ∧
    (b.view.visible = [] → (c.view.window = a.view.window ↔ a.view.scroll.offset = 0)) ∧
    ∀ top, a.view.window.head? = some top → (∀ text ∈ texts, a.view.Keeps top text) →
      c.view.window = a.view.window := by
  intro b c texts
  let r := (Reader.opened capacity limit level moves).after deeds
  have hsound : r.Sound := (Reader.opened_sound capacity limit level moves).after deeds
  have hpaired : r.Paired := (Reader.opened_paired capacity limit level moves).after
    (Reader.opened_sound capacity limit level moves) deeds
  have hcoherent : a.view.Coherent := by
    rw [hview]
    exact hsound.coherent
  have hrise : a.view.snapshot.records.Pairwise (·.seq < ·.seq) := by
    obtain ⟨s, -, hrecords, hs, -⟩ := hpaired.pulled
    have hgiven : r.view.snapshot = r.given.snapshot :=
      congrArg View.Inputs.snapshot hsound.inputs_eq
    rw [hview, hgiven, hrecords]
    exact hs.ascending
  have hopen := Editing.of_slash hcontext hslash
  have hopened : (a.press slash).1.view = a.view :=
    congrArg (·.1.view) (Editing.press_slash hcontext hslash)
  have hb : b.view = a.view.search texts := by
    have hsearched := hopen.view_after (by rwa [hopened]) (by rwa [hopened]) hstay hstill
    rwa [hopened] at hsearched
  have hc : c.view = b.view.setText a.view.filter.text := (hopen.after hstay).view_cancel hleave
  rw [hc, hb]
  exact View.search_given_up hcoherent hpinned hrise hheight texts

/-- A full load of five records, of which a reader of two at once sees the third and the fourth. -/
def fiveRounds : List Move :=
  [.fetched ⟨0, 1, .full, .full none none⟩
    (.ok ⟨["round 1", "round 2", "round 3", "round 4", "round 5"].map (Reader.lineAt "t"),
      .ofToken "t"⟩)]

def readingRounds : App :=
  .new "http://localhost" ((Reader.opened 5 none none fiveRounds).after
    [.setHeight 2, .withThreshold (.units 1), .scroll (.up 1)]).view

/-- A text that all records have leads back, also when the screen is out of date and a snapshot comes
that is not new. -/
theorem cancelled_search_place_found :
    let typed : List Happening := [.key (KeyContext.plain 'r'), .outdated,
      .refresh readingRounds.view.snapshot, .key (KeyContext.plain 'o')]
    let b := (readingRounds.press (KeyContext.plain '/')).1.after typed
    b.view.filter.text = "ro" ∧
    (b.press (KeyContext.named .escape)).1.view.window = readingRounds.view.window ∧
    readingRounds.view.window.map (·.seq) = [2, 3] := by
  intro typed b
  have hstill : (readingRounds.press (KeyContext.plain '/')).1.Still typed := by
    intro before hbefore
    have hmem : before ∈ typed.inits := (List.mem_inits _ _).mpr hbefore
    simp only [typed, List.inits, List.map_cons, List.map_nil, List.mem_cons, List.not_mem_nil,
      or_false] at hmem
    rcases hmem with rfl | rfl | rfl | rfl | rfl <;> exact ⟨rfl, rfl⟩
  have hkeys : (pressed typed).map Key.typed? = ['r', 'o'].map some := by decide
  obtain ⟨-, -, -, -, hkept⟩ := cancelled_search_place 5 none none fiveRounds
    [.setHeight 2, .withThreshold (.units 1), .scroll (.up 1)] readingRounds rfl rfl rfl (by decide)
    (KeyContext.plain '/') (KeyContext.named .escape) (by decide) (.inl rfl) typed
    (typing hkeys).1 hstill
  have hkeeps : ∀ text ∈ ["r", "ro"],
      readingRounds.view.Keeps ⟨2, Reader.lineAt "t" "round 3"⟩ text := by
    intro text htext
    refine ⟨readingRounds.view.snapshot.records.take 2, readingRounds.view.snapshot.records.drop 3, ?_,
      by decide⟩
    rcases List.mem_pair.mp htext with rfl | rfl <;> rfl
  exact ⟨by decide, hkept _ rfl hkeeps, by decide⟩

/-- A text that no record has leads to the top of the log, and leaving the filter input does not lead
back. -/
theorem cancelled_search_moves :
    let b := (readingRounds.press (KeyContext.plain '/')).1.after [.key (KeyContext.plain 'x')]
    let c := (b.press (KeyContext.named .escape)).1
    readingRounds.view.scroll.pinned = false ∧ readingRounds.view.scroll.viewport = 2 ∧
    b.view.snapshot = readingRounds.view.snapshot ∧ b.view.scroll.viewport = 2 ∧
    c.view.filter.text = readingRounds.view.filter.text ∧
    readingRounds.view.window.map (·.seq) = [2, 3] ∧ c.view.window.map (·.seq) = [0, 1] := by
  refine ⟨rfl, by decide, rfl, by decide, by decide, by decide, by decide⟩

end App

end LogTail
