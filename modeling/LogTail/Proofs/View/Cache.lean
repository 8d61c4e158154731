import LogTail.Proofs.Scroll
import LogTail.View

/-!
The visible records of a view are kept, and made anew only when the key says so. `Coherent` says
that the kept ones are right and that the window is on them. Every operation of a view keeps it, but
for a new snapshot there is a condition: under the same generation it must have the same records.
-/
namespace LogTail

/-- Filtering by level and text at once is filtering by both. -/
theorem TextFilter.apply_eq_filter (f : TextFilter) (level : LevelFilter) (records : List Stored) :
    f.apply level records =
      records.filter fun s => level.all (s.record.level == ·) && f.passes Option.none s.record := by
  refine List.filter_congr ?_
  intro s _
  cases level <;> rfl

namespace View

def currentKey (v : View) : ViewKey :=
  ⟨v.snapshot.generation, v.level, v.filter.text⟩

def regained (v : View) (visible : List Stored) : Scroll :=
  match v.anchor with
  | none => (v.scroll.setContent visible.length).1
  | some seq =>
    (v.scroll.setContent visible.length).1.anchorAt (visible.takeWhile (·.seq < seq)).length

theorem recompute_of_fresh {v : View} (h : v.key = some v.currentKey) : v.recompute = (v, false) :=
  if_pos h

/-- Only a viewport that does not follow the log has an anchor, so that is all there is to ask. -/
theorem regained_eq (v : View) (visible : List Stored) :
    (match (v.scroll.setContent visible.length).2, v.anchor with
      | .hold, some seq =>
        (v.scroll.setContent visible.length).1.anchorAt (visible.takeWhile (·.seq < seq)).length
      | _, _ => (v.scroll.setContent visible.length).1) = v.regained visible := by
  unfold regained
  cases hpinned : v.scroll.pinned with
  | true =>
    -- the viewport goes to the bottom, and there is no anchor to bring it back to
    have hanchor : v.anchor = none := if_pos hpinned
    rw [hanchor]
    cases (v.scroll.setContent visible.length).2 <;> rfl
  | false =>
    have hhold : (v.scroll.setContent visible.length).2 = .hold := by
      unfold Scroll.setContent Scroll.settle
      rw [hpinned]
      rfl
    rw [hhold]
    cases v.anchor <;> rfl

/-- Where something has changed, the visible records are made anew and the window goes back to its
anchor. -/
theorem recompute_of_stale {v : View} (h : v.key ≠ some v.currentKey) :
    v.recompute = ({ v with
      visible := v.filter.apply v.level v.snapshot.records
      key := some v.currentKey
      scroll := v.regained (v.filter.apply v.level v.snapshot.records) }, true) := by
  rw [← regained_eq]
  exact if_neg h

theorem regained_content (v : View) (visible : List Stored) :
    (v.regained visible).content = visible.length := by
  unfold regained
  split
  · exact v.scroll.setContent_content _
  · exact v.scroll.setContent_content _

/-- The window is on the new records, wherever the anchor was. -/
theorem regained_inRange (v : View) (visible : List Stored) : (v.regained visible).InRange := by
  unfold regained
  split
  · exact v.scroll.setContent_inRange _
  · exact Scroll.anchorAt_inRange _ _

/-- Whether the kept records are those of the snapshot that pass, and the window is on them. -/
structure Coherent (v : View) : Prop where
  key_eq : v.key = some v.currentKey
  visible_eq : v.visible = v.filter.apply v.level v.snapshot.records
  content_eq : v.scroll.content = v.visible.length
  inRange : v.scroll.InRange

/-- Making the records anew is right if the kept ones are right wherever their key is. -/
theorem coherent_recompute {v : View}
    (hvisible : v.key = some v.currentKey → v.visible = v.filter.apply v.level v.snapshot.records)
    (hcontent : v.scroll.content = v.visible.length) (hrange : v.scroll.InRange) :
    v.recompute.1.Coherent := by
  by_cases hkey : v.key = some v.currentKey
  · -- nothing is done, so what is kept has to be right already
    rw [recompute_of_fresh hkey]
    exact ⟨hkey, hvisible hkey, hcontent, hrange⟩
  · rw [recompute_of_stale hkey]
    exact ⟨rfl, rfl, v.regained_content _, v.regained_inRange _⟩

theorem coherent_ofSnapshot (snapshot : Snapshot) : (ofSnapshot snapshot).Coherent :=
  coherent_recompute (fun h => nomatch h) rfl (Scroll.new_inRange _)

structure Inputs where
  snapshot : Snapshot
  level : LevelFilter
  text : String
  height : Nat

def inputs (v : View) : Inputs :=
  ⟨v.snapshot, v.level, v.filter.text, v.scroll.viewport⟩

theorem regained_viewport (v : View) (visible : List Stored) :
    (v.regained visible).viewport = v.scroll.viewport := by
  unfold regained
  split
  · exact v.scroll.setContent_viewport _
  · exact v.scroll.setContent_viewport _

/-- Making the records anew changes nothing that was given. -/
theorem recompute_inputs (v : View) : v.recompute.1.inputs = v.inputs := by
  by_cases hkey : v.key = some v.currentKey
  · rw [recompute_of_fresh hkey]
  · rw [recompute_of_stale hkey, inputs, regained_viewport]
    rfl

theorem ofSnapshot_inputs (snapshot : Snapshot) :
    (ofSnapshot snapshot).inputs = ⟨snapshot, snapshot.level, "", 0⟩ :=
  recompute_inputs _

theorem setLevel_inputs (v : View) (level : LevelFilter) :
    (v.setLevel level).1.inputs = { v.inputs with level := level } := by
  unfold setLevel
  split
  case isTrue same => rw [← same]; rfl
  case isFalse => exact recompute_inputs _

theorem setText_inputs (v : View) (text : String) :
    (v.setText text).inputs = { v.inputs with text := text } := by
  unfold setText
  split
  case isTrue same => rw [← same]; rfl
  case isFalse => exact recompute_inputs _

theorem refresh_inputs (v : View) (latest : Snapshot) :
    (v.refresh latest).1.inputs = { v.inputs with snapshot := latest } :=
  recompute_inputs _

theorem setHeight_inputs (v : View) (height : Nat) :
    (v.setHeight height).inputs = { v.inputs with height := height } := by
  have hviewport : (v.setHeight height).scroll.viewport = height :=
    v.scroll.setViewport_viewport height
  rw [inputs, hviewport]
  rfl

theorem withThreshold_inputs (v : View) (threshold : PinThreshold) :
    (v.withThreshold threshold).inputs = v.inputs := by
  have hviewport : (v.withThreshold threshold).scroll.viewport = v.scroll.viewport :=
    (Scroll.setContent_viewport _ _).trans (Scroll.setViewport_viewport _ _)
  rw [inputs, hviewport]
  rfl

theorem follow_inputs (v : View) (g : Scroll.Gesture) :
    (v.scrollBy (·.follow g)).inputs = v.inputs := by
  have hviewport : (v.scrollBy (·.follow g)).scroll.viewport = v.scroll.viewport :=
    v.scroll.follow_viewport g
  rw [inputs, hviewport]
  rfl

namespace Coherent

variable {v : View}

/-- A view of another level is coherent again. -/
theorem setLevel (h : v.Coherent) (level : LevelFilter) : (v.setLevel level).1.Coherent := by
  unfold View.setLevel
  split
  case isTrue => exact h
  case isFalse hne =>
    refine coherent_recompute ?_ h.content_eq h.inRange
    -- the key in place is for the level before
    intro hkey
    have hlevel := congrArg ViewKey.level (Option.some.inj (h.key_eq.symm.trans hkey))
    exact absurd hlevel hne

/-- So is a view that looks for another text. -/
theorem setText (h : v.Coherent) (text : String) : (v.setText text).Coherent := by
  unfold View.setText
  split
  case isTrue => exact h
  case isFalse hne =>
    refine coherent_recompute ?_ h.content_eq h.inRange
    intro hkey
    have htext := congrArg ViewKey.text (Option.some.inj (h.key_eq.symm.trans hkey))
    exact absurd htext hne

/-- A snapshot with the same generation as the last must have the same records. -/
theorem refresh (h : v.Coherent) {latest : Snapshot}
    (hrecords : latest.generation = v.snapshot.generation → latest.records = v.snapshot.records) :
    (v.refresh latest).1.Coherent := by
  refine coherent_recompute ?_ h.content_eq h.inRange
  -- of the three parts of the key only the generation can have changed
  intro hkey
  have hgeneration :=
    congrArg ViewKey.generation (Option.some.inj (h.key_eq.symm.trans hkey))
  rw [hrecords hgeneration.symm]
  exact h.visible_eq

/-- Moving the viewport leaves the records alone. -/
theorem scrollBy (h : v.Coherent) {f : Scroll → Scroll}
    (hcontent : (f v.scroll).content = v.scroll.content) (hrange : (f v.scroll).InRange) :
    (v.scrollBy f).Coherent :=
  ⟨h.key_eq, h.visible_eq, hcontent.trans h.content_eq, hrange⟩

theorem setHeight (h : v.Coherent) (height : Nat) : (v.setHeight height).Coherent :=
  h.scrollBy (v.scroll.setViewport_content height) (v.scroll.setViewport_inRange height)

theorem follow (h : v.Coherent) (g : Scroll.Gesture) : (v.scrollBy (·.follow g)).Coherent :=
  h.scrollBy (v.scroll.follow_content g) (v.scroll.follow_inRange g)

theorem withThreshold (h : v.Coherent) (threshold : PinThreshold) :
    (v.withThreshold threshold).Coherent :=
  ⟨h.key_eq, h.visible_eq, Scroll.setContent_content _ _, Scroll.setContent_inRange _ _⟩

theorem offset_le (h : v.Coherent) :
    v.scroll.offset ≤ v.visible.length - v.scroll.viewport := by
  rw [← h.content_eq]
  exact h.inRange

/-- A coherent window is full, or shows all that is visible. -/
theorem length_window (h : v.Coherent) :
    v.window.length = min v.scroll.viewport v.visible.length := by
  have hoffset := h.offset_le
  rw [window, List.length_take, List.length_drop]
  omega

/-- The visible records are those above the window, those in it and those below. -/
theorem visible_split (h : v.Coherent) :
    ∃ above below, v.visible = above ++ v.window ++ below ∧ above.length = v.scroll.offset := by
  have hoffset := h.offset_le
  refine ⟨v.visible.take v.scroll.offset,
    v.visible.drop (v.scroll.offset + v.scroll.viewport), ?_, ?_⟩
  · rw [window, List.append_assoc, ← List.drop_drop, List.take_append_drop,
      List.take_append_drop]
  · rw [List.length_take]
    omega

/-- A refresh that reports no change has taken a snapshot with the key of the last. -/
theorem refresh_of_unchanged (h : v.Coherent) {latest : Snapshot}
    (unchanged : (v.refresh latest).2 = false)
    (hsnapshot : v.snapshot.sameAs latest = true → latest = v.snapshot) :
    (v.refresh latest).1 = v := by
  have hstatus : v.snapshot.sameAs latest = true := by
    unfold View.refresh at unchanged
    cases hsame : v.snapshot.sameAs latest with
    | true => rfl
    | false => simp [hsame] at unchanged
  have hlatest := hsnapshot hstatus
  subst hlatest
  exact congrArg Prod.fst (recompute_of_fresh h.key_eq)

end Coherent

end View

end LogTail
