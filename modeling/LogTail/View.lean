import LogTail.Session.Snapshot
import LogTail.TextFilter
import LogTail.Scroll

/-!
The log as one reader sees it: the records of a snapshot that pass the reader's filters, and the
window on them. One record is one unit of scrolling.
-/
namespace LogTail

structure ViewKey where
  generation : Nat
  level : LevelFilter
  text : String
  deriving DecidableEq

structure View where
  snapshot : Snapshot
  level : LevelFilter
  filter : TextFilter
  scroll : Scroll
  visible : List Stored
  /-- What `visible` was made from. -/
  key : Option ViewKey

namespace View

/-- The number of the first record in the window of a reader who does not follow the log. -/
def anchor (v : View) : Option Nat :=
  if v.scroll.pinned then none else (v.visible[v.scroll.offset]?).map (·.seq)

/-- Makes the visible records anew if anything they depend on has changed, and says whether it
did. A reader who does not follow the log is kept at the first record that was in view, or at the
next one still there. -/
def recompute (v : View) : View × Bool :=
  let key : ViewKey := ⟨v.snapshot.generation, v.level, v.filter.text⟩
  if v.key = some key then (v, false)
  else
    let visible := v.filter.apply v.level v.snapshot.records
    let (scroll, directive) := v.scroll.setContent visible.length
    let scroll := match directive, v.anchor with
      | .hold, some seq => scroll.anchorAt (visible.takeWhile (·.seq < seq)).length
      | _, _ => scroll
    ({ v with visible := visible, key := some key, scroll := scroll }, true)

def ofSnapshot (snapshot : Snapshot) : View :=
  (recompute ⟨snapshot, snapshot.level, .none, .new .usual, [], none⟩).1

def withThreshold (v : View) (threshold : PinThreshold) : View :=
  let scroll := ((Scroll.new threshold).setViewport v.scroll.viewport).setContent v.visible.length
  { v with scroll := scroll.1 }

/-- Shows another level, and says what the session has to be told, if anything. Records of other
levels disappear at once. -/
def setLevel (v : View) (level : LevelFilter) : View × Option LevelFilter :=
  if v.level = level then (v, none)
  else ({ v with level := level }.recompute.1, some level)

def setText (v : View) (text : String) : View :=
  if v.filter.text = text then v else { v with filter := ⟨text⟩ }.recompute.1

def refresh (v : View) (latest : Snapshot) : View × Bool :=
  let statusChanged := !v.snapshot.sameAs latest
  let (v, contentChanged) := { v with snapshot := latest }.recompute
  (v, statusChanged || contentChanged)

def scrollBy (v : View) (f : Scroll → Scroll) : View :=
  { v with scroll := f v.scroll }

def setHeight (v : View) (height : Nat) : View :=
  v.scrollBy (·.setViewport height)

def window (v : View) : List Stored :=
  (v.visible.drop v.scroll.offset).take v.scroll.viewport

end View

end LogTail
