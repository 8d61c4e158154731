import LogTail.Console
import LogTail.Proofs.App.Run

/-!
The application at a terminal. What is typed there, time that passes and a change of size are runs of
happenings for the application, with the keys that were typed and no others. So what holds of the
application in all runs holds at the terminal.
-/
namespace LogTail

namespace Console

open App (Happening pressed)

variable {c : Console}

def news (c : Console) : List Happening :=
  let session := c.sim.settle.session
  let latest := session.published
  (if session.version = c.seen then [] else [.refresh latest]) ++
    c.sim.settle.replies.map (fun r => .clearDone (failure r.2) latest) ++
    (if session.isOpen then [] else [.ended]) ++ [.drawn c.area]

/-- What the application learns before it is drawn presses no key. -/
theorem pressed_news (c : Console) : pressed c.news = [] := by
  have hanswers (latest : Snapshot) :
      pressed (c.sim.settle.replies.map fun r => .clearDone (failure r.2) latest) = [] := by
    rw [pressed, List.filterMap_map, List.filterMap_eq_nil_iff]
    intro r _
    rfl
  simp only [news, pressed, List.filterMap_append] at hanswers ⊢
  rw [hanswers]
  split_ifs <;> rfl

/-- Letting the application see what has happened is a run of the application. -/
theorem settle_app (c : Console) : c.settle.app = c.app.after c.news := by
  simp only [news, App.after_append]
  unfold settle
  dsimp only
  have hanswers (a : App) (latest : Snapshot) :
      a.after (c.sim.settle.replies.map fun r => .clearDone (failure r.2) latest) =
        c.sim.settle.replies.foldl (fun a r => a.clearDone (failure r.2) latest) a :=
    List.foldl_map
  rw [hanswers]
  split_ifs <;> rfl

/-- Whether the application gets from one state to another by a run in which some of the keys, in their
order, are pressed and no others. -/
def Leads (keys : List Key) (a b : App) : Prop :=
  ∃ hs, (pressed hs).Sublist keys ∧ b = a.after hs

theorem Leads.trans {keys more : List Key} {a b d : App} (h : Leads keys a b) (h' : Leads more b d) :
    Leads (keys ++ more) a d := by
  obtain ⟨hs, hkeys, rfl⟩ := h
  obtain ⟨hs', hmore, rfl⟩ := h'
  refine ⟨hs ++ hs', ?_, (a.after_append hs hs').symm⟩
  rw [pressed, List.filterMap_append]
  exact hkeys.append hmore

theorem leads_settle (c : Console) : Leads [] c.app c.settle.app :=
  ⟨c.news, List.sublist_nil.mpr c.pressed_news, c.settle_app⟩

/-- A key at the terminal is that key, pressed in a run of the application. -/
theorem leads_press (c : Console) (k : Key) : Leads [k] c.app (c.press k).app := by
  unfold press
  split_ifs with hquit
  · exact ⟨[], List.nil_sublist _, rfl⟩
  · have hkey : Leads [k] c.app (c.app.press k).1 := ⟨[.key k], List.Sublist.refl _, rfl⟩
    exact hkey.trans (leads_settle _)

/-- A text sent by the terminal presses the keys that it is read as, in their order. -/
theorem leads_type (c : Console) (text : String) :
    Leads (Input.keys text) c.app (c.type text).app := by
  have hkeys (keys : List Key) (c : Console) : Leads keys c.app (keys.foldl press c).app := by
    induction keys generalizing c with
    | nil => exact ⟨[], List.nil_sublist _, rfl⟩
    | cons k keys ih => exact (c.leads_press k).trans (ih (c.press k))
  exact c.leads_settle.trans (hkeys (Input.keys text) c.settle)

inductive Deed
  | type (text : String)
  | wait (ms : ℕ)
  | resize (width height : ℕ)

def Deed.keys : Deed → List Key
  | type text => Input.keys text
  | _ => []

def perform (c : Console) : Deed → Console
  | .type text => c.type text
  | .wait ms => c.wait ms
  | .resize width height => c.resize width height

/-- Whatever is done at a terminal presses some of the keys of that deed in a run of the
application. -/
theorem leads_perform (c : Console) (d : Deed) : Leads d.keys c.app (c.perform d).app := by
  cases d with
  | type text => exact c.leads_type text
  | wait ms => exact leads_settle { c with sim := c.sim.wait ms }
  | resize width height => exact leads_settle { c with width := width, height := height }

theorem leads_foldl_perform (c : Console) (ds : List Deed) :
    Leads (ds.flatMap Deed.keys) c.app (ds.foldl perform c).app := by
  induction ds generalizing c with
  | nil => exact ⟨[], List.nil_sublist _, rfl⟩
  | cons d ds ih => exact (c.leads_perform d).trans (ih (c.perform d))

/-- At a terminal, too, there is one mode at a time, and the view looks for the text in the filter
input. -/
theorem sound_at_terminal (url : String) (threshold : PinThreshold) (sim : Simulation)
    (width height : ℕ) (ds : List Deed) :
    (ds.foldl perform (start url threshold sim width height)).app.Sound := by
  obtain ⟨hs, -, happ⟩ := leads_foldl_perform (start url threshold sim width height) ds
  rw [happ]
  exact (App.opened_sound url sim.session.published threshold).after hs

end Console

end LogTail
