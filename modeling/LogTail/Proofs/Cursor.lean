import Mathlib.Data.String.Basic
import Mathlib.Order.WithBot
import LogTail.Cursor
import LogTail.Proofs.Text.Utf8

/-!
Positions as an order: advancing goes to the later of two positions, and a position once known is
never lost by it. Tokens sort by their bytes, and no position at all comes before any token.
-/
namespace LogTail.Cursor

theorem eq_of_token {c d : Cursor} (h : c.token = d.token) : c = d := by
  cases c
  cases d
  simpa using h

theorem eq_absent_of_isAbsent {c : Cursor} (h : c.isAbsent = true) : c = absent := by
  apply eq_of_token
  exact Option.isNone_iff_eq_none.mp h

theorem isAbsent_eq_false_iff {c : Cursor} : c.isAbsent = false ↔ ∃ t, c.token = some t := by
  rw [isAbsent, Option.isNone_eq_false_iff, Option.isSome_iff_exists]

theorem isAbsent_ofToken {t : String} : (ofToken t).isAbsent = true ↔ t = "" := by
  unfold ofToken
  by_cases h : t = ""
  · rw [dif_pos h]
    exact ⟨fun _ => h, fun _ => rfl⟩
  · rw [dif_neg h]
    exact ⟨fun hsome => Bool.noConfusion hsome, fun ht => absurd ht h⟩

/-- A position that is none gives way to any. -/
@[simp] theorem absent_advance (next : Cursor) : absent.advance next = next := by
  unfold advance precedes
  cases h : next.token with
  | none => exact (eq_absent_of_isAbsent (by rw [isAbsent, h]; rfl)).symm
  | some t => rfl

/-- Where there is no new position, the old one stays. -/
theorem advance_of_isAbsent (c : Cursor) {next : Cursor} (h : next.isAbsent = true) :
    c.advance next = c := by
  rw [eq_absent_of_isAbsent h]
  unfold advance precedes
  cases c.token <;> rfl

theorem advance_of_le {c next : Cursor} {t u : String} (ht : c.token = some t)
    (hu : next.token = some u) (h : t ≤ u) : c.advance next = next := by
  unfold advance precedes
  rw [ht, hu]
  by_cases hlt : t < u
  · exact if_pos (decide_eq_true hlt)
  · have heq : t = u := le_antisymm h (not_lt.mp hlt)
    rw [if_neg (by simpa only [decide_eq_true_eq] using hlt)]
    exact eq_of_token (by rw [ht, hu, heq])

/-- After an advance there is a position if there was one before or the advance brought one. -/
theorem isAbsent_advance (c next : Cursor) :
    (c.advance next).isAbsent = (c.isAbsent && next.isAbsent) := by
  cases hn : next.isAbsent with
  | true => rw [advance_of_isAbsent c hn, Bool.and_true]
  | false =>
    cases hc : c.isAbsent with
    | true => rw [eq_absent_of_isAbsent hc, absent_advance, hn, Bool.true_and]
    | false =>
      unfold advance
      split
      · exact hn
      · exact hc

def place (c : Cursor) : WithBot (List ℕ) :=
  c.token.map Text.bytes

@[simp] theorem place_absent : absent.place = ⊥ :=
  rfl

theorem eq_absent_of_place {c : Cursor} (h : c.place = ⊥) : c = absent :=
  eq_of_token (Option.map_eq_none_iff.mp h)

theorem token_ofToken (t : String) : (ofToken t).token = if t = "" then none else some t := by
  unfold ofToken
  split <;> rfl

/-- Positions of tokens lie as the tokens sort. The empty token is the least of all. -/
theorem place_ofToken_lt_iff (s t : String) : (ofToken s).place < (ofToken t).place ↔ s < t := by
  unfold place
  rw [token_ofToken, token_ofToken]
  by_cases ht : t = ""
  · have hleast : ¬ s < "" := mt String.lt_iff_toList_lt.mp (List.not_lt_nil s.toList)
    rw [if_pos ht, ht]
    exact ⟨fun h => absurd h not_lt_bot, fun h => absurd h hleast⟩
  · rw [if_neg ht]
    by_cases hs : s = ""
    · have hlater : "" < t := by
        obtain ⟨c, rest, hchars⟩ := List.exists_cons_of_ne_nil (mt String.toList_eq_nil_iff.mp ht)
        rw [String.lt_iff_toList_lt, hchars]
        exact List.nil_lt_cons c rest
      rw [if_pos hs, hs]
      exact ⟨fun _ => hlater, fun _ => WithBot.bot_lt_coe _⟩
    · rw [if_neg hs]
      exact WithBot.coe_lt_coe.trans Text.bytes_strictMono.lt_iff_lt

/-- The comparison of two cursors is that of their places, where the lack of a position comes before
all positions. -/
theorem precedes_iff (c next : Cursor) : c.precedes next = true ↔ c.place < next.place := by
  unfold precedes place
  cases c.token with
  | none =>
    cases next.token with
    | none => exact ⟨fun h => Bool.noConfusion h, fun h => absurd h (lt_irrefl _)⟩
    | some u => exact ⟨fun _ => WithBot.bot_lt_coe _, fun _ => rfl⟩
  | some t =>
    cases next.token with
    | none => exact ⟨fun h => Bool.noConfusion h, fun h => absurd h not_lt_bot⟩
    | some u =>
      refine decide_eq_true_iff.trans ?_
      exact Text.bytes_strictMono.lt_iff_lt.symm.trans WithBot.coe_lt_coe.symm

/-- An advance goes to the later of two positions. -/
theorem place_advance (c next : Cursor) : (c.advance next).place = max c.place next.place := by
  unfold advance
  split
  case isTrue h => exact (max_eq_right ((precedes_iff c next).mp h).le).symm
  case isFalse h => exact (max_eq_left (not_lt.mp (mt (precedes_iff c next).mpr h))).symm

/-- Advancing makes up no position. -/
theorem advance_eq_or (c next : Cursor) : c.advance next = c ∨ c.advance next = next := by
  unfold advance
  split
  · exact .inr rfl
  · exact .inl rfl

/-- Going through positions one after another ends at the latest of them. -/
theorem place_le_foldl (cs : List Cursor) (c : Cursor) :
    c.place ≤ (cs.foldl advance c).place ∧
      ∀ d ∈ cs, d.place ≤ (cs.foldl advance c).place := by
  induction cs generalizing c with
  | nil => exact ⟨le_refl _, fun _ hd => nomatch hd⟩
  | cons next rest ih =>
    obtain ⟨hstart, hrest⟩ := ih (c.advance next)
    rw [place_advance] at hstart
    refine ⟨(le_max_left _ _).trans hstart, ?_⟩
    intro d hd
    rcases List.mem_cons.mp hd with rfl | hd
    · exact (le_max_right _ _).trans hstart
    · exact hrest d hd

/-- Neither does advancing along a list of positions. -/
theorem foldl_advance_mem (cs : List Cursor) (c : Cursor) :
    cs.foldl advance c = c ∨ cs.foldl advance c ∈ cs := by
  induction cs generalizing c with
  | nil => exact .inl rfl
  | cons next rest ih =>
    rw [List.foldl_cons]
    rcases ih (c.advance next) with hstart | hmem
    · rw [hstart]
      rcases c.advance_eq_or next with h | h
      · exact .inl h
      · rw [h]
        exact .inr List.mem_cons_self
    · exact .inr (List.mem_cons_of_mem next hmem)

/-- From no position one comes to one of those gone through, if there were any. -/
theorem foldl_advance_absent_mem {cs : List Cursor} (h : cs ≠ []) :
    cs.foldl advance absent ∈ cs := by
  rcases foldl_advance_mem cs absent with habsent | hmem
  · obtain ⟨c, rest, rfl⟩ := List.exists_cons_of_ne_nil h
    -- then all of them were none, and so was the first
    have hle := (place_le_foldl (c :: rest) absent).2 c List.mem_cons_self
    rw [habsent, place_absent, le_bot_iff] at hle
    rw [habsent, ← eq_absent_of_place hle]
    exact List.mem_cons_self
  · exact hmem

end LogTail.Cursor
