import Mathlib.Data.String.Basic
import LogTail.Service.Reply

/-!
The log of a service that nobody clears. It only grows, and its timestamps rise from record to
record; so what it holds up to a position that it has reached stays the same for ever, however much
comes later. `FullPage` and `NewPage` say which pages a service may answer with that holds such
a log.
-/
namespace LogTail

def Ascending (log : List Record) : Prop :=
  log.Pairwise (·.timestamp < ·.timestamp)

def Reaches (log : List Record) (c : String) : Prop :=
  ∃ r ∈ log, c ≤ r.timestamp

def ofLevel (level : LevelFilter) (log : List Record) : List Record :=
  log.filter fun r => level.passes r.level

def upTo (level : LevelFilter) (c : String) (log : List Record) : List Record :=
  (ofLevel level log).filter fun r => r.timestamp ≤ c

def after (level : LevelFilter) (c : String) (log : List Record) : List Record :=
  (ofLevel level log).filter fun r => c < r.timestamp

def between (level : LevelFilter) (b c : String) (log : List Record) : List Record :=
  (after level b log).filter fun r => r.timestamp ≤ c

/-- The pages that answer a full load: the newest records, with a cursor that lies neither before
the last of them nor beyond the log. -/
structure FullPage (level : LevelFilter) (log : List Record) (page : Page) : Prop where
  records_suffix : page.records <:+ ofLevel level log
  empty_of_no_cursor : page.next.token = none → log = []
  cursor_within : ∀ c, page.next.token = some c →
    (∀ r ∈ page.records, r.timestamp ≤ c) ∧ Reaches log c

/-- The pages that answer a poll: all records later than a position, with a cursor that lies neither
before it nor before the last of them, and not beyond both it and the log. -/
structure NewPage (level : LevelFilter) (since : String) (log : List Record) (page : Page) :
    Prop where
  records_eq : page.records = after level since log
  cursor_within : ∃ c, page.next.token = some c ∧ since ≤ c ∧
    (∀ r ∈ page.records, r.timestamp ≤ c) ∧ (c ≤ since ∨ Reaches log c)

structure GrowingLog where
  held : ℕ → List Record
  grows : ∀ m n, m ≤ n → held m <+: held n
  ascending : ∀ n, Ascending (held n)

variable {level : LevelFilter} {log older : List Record} {b c d : String}

theorem Reaches.of_grown (h : Reaches older c) (hp : older <+: log) : Reaches log c := by
  obtain ⟨r, hr, hle⟩ := h
  exact ⟨r, hp.subset hr, hle⟩

theorem Reaches.of_le (h : Reaches log d) (hle : c ≤ d) : Reaches log c := by
  obtain ⟨r, hr, hd⟩ := h
  exact ⟨r, hr, hle.trans hd⟩

theorem Ascending.of_grown (h : Ascending log) (hp : older <+: log) : Ascending older :=
  h.sublist hp.sublist

theorem Ascending.ofLevel (h : Ascending log) (level : LevelFilter) :
    Ascending (ofLevel level log) :=
  List.Pairwise.filter _ h

/-- An ascending log falls apart at a position into what lies before and what lies after it. -/
theorem Ascending.filter_le_append_filter_lt (h : Ascending log) (c : String) :
    log.filter (·.timestamp ≤ c) ++ log.filter (c < ·.timestamp) = log := by
  induction log with
  | nil => rfl
  | cons r rest ih =>
    obtain ⟨hlater, hrest⟩ := List.pairwise_cons.mp h
    by_cases hle : r.timestamp ≤ c
    · have hgt : ¬ c < r.timestamp := not_lt.mpr hle
      rw [List.filter_cons_of_pos (by simpa using hle),
        List.filter_cons_of_neg (by simpa using hgt), List.cons_append, ih hrest]
    · -- nothing after a record that lies beyond the position lies before it again
      have hgt : c < r.timestamp := not_le.mp hle
      have hnone : rest.filter (·.timestamp ≤ c) = [] := by
        apply List.filter_eq_nil_iff.mpr
        intro s hs
        have hs' : c < s.timestamp := hgt.trans (hlater s hs)
        simpa using hs'
      have hall : rest.filter (c < ·.timestamp) = rest := by
        apply List.filter_eq_self.mpr
        intro s hs
        have hs' : c < s.timestamp := hgt.trans (hlater s hs)
        simpa using hs'
      rw [List.filter_cons_of_neg (by simpa using hle),
        List.filter_cons_of_pos (by simpa using hgt), hnone, hall, List.nil_append]

theorem upTo_append_after (h : Ascending log) (level : LevelFilter) (c : String) :
    upTo level c log ++ after level c log = ofLevel level log :=
  (h.ofLevel level).filter_le_append_filter_lt c

/-- What lies up to a position is what lies up to an earlier one and what lies between them. -/
theorem upTo_append_between (h : Ascending log) (hle : b ≤ c) :
    upTo level b log ++ between level b c log = upTo level c log := by
  have hcut : (upTo level b log).filter (·.timestamp ≤ c) = upTo level b log := by
    apply List.filter_eq_self.mpr
    intro r hr
    have hb := of_decide_eq_true (List.mem_filter.mp hr).2
    exact decide_eq_true (hb.trans hle)
  calc upTo level b log ++ between level b c log
      = (upTo level b log).filter (·.timestamp ≤ c) ++ between level b c log := by rw [hcut]
    _ = (upTo level b log ++ after level b log).filter (·.timestamp ≤ c) := by
        rw [List.filter_append, between]
    _ = upTo level c log := by rw [upTo_append_after h, upTo]

/-- Two stretches of the log that meet make up one. -/
theorem between_append_between (h : Ascending log) (hbc : b ≤ c) (hcd : c ≤ d) :
    between level b c log ++ between level c d log = between level b d log := by
  have hwhole : upTo level b log ++ between level b d log = upTo level d log :=
    upTo_append_between h (hbc.trans hcd)
  rw [← upTo_append_between h hcd, ← upTo_append_between h hbc, List.append_assoc] at hwhole
  exact (List.append_cancel_left hwhole).symm

theorem between_self (level : LevelFilter) (c : String) (log : List Record) :
    between level c c log = [] := by
  apply List.filter_eq_nil_iff.mpr
  intro r hr hle
  have hlt := of_decide_eq_true (List.mem_filter.mp hr).2
  exact absurd (of_decide_eq_true hle) (not_le.mpr hlt)

/-- What is later than one position is no later than another that covers it. -/
theorem between_eq_after (hcovers : ∀ r ∈ after level b log, r.timestamp ≤ c) :
    between level b c log = after level b log := by
  apply List.filter_eq_self.mpr
  intro r hr
  exact decide_eq_true (hcovers r hr)

/-- What a log holds up to a position that it has reached does not change when the log grows. -/
theorem upTo_eq_of_grown (h : Ascending log) (hp : older <+: log) (hreach : Reaches older c) :
    upTo level c log = upTo level c older := by
  obtain ⟨newer, rfl⟩ := hp
  obtain ⟨r, hr, hle⟩ := hreach
  obtain ⟨-, -, hlater⟩ := List.pairwise_append.mp h
  have hnone : upTo level c newer = [] := by
    apply List.filter_eq_nil_iff.mpr
    intro s hs hs'
    have hlt : c < s.timestamp := hle.trans_lt (hlater r hr s (List.mem_of_mem_filter hs))
    exact absurd (of_decide_eq_true hs') (not_le.mpr hlt)
  have hsplit : upTo level c (older ++ newer) = upTo level c older ++ upTo level c newer := by
    rw [upTo, ofLevel, List.filter_append, List.filter_append]
    rfl
  rw [hsplit, hnone, List.append_nil]

/-- The records between two positions that the log had reached are the same ever after. -/
theorem between_eq_of_grown (h : Ascending log) (hp : older <+: log) (hle : b ≤ c)
    (hreach : Reaches older c) : between level b c log = between level b c older := by
  have hwhole : upTo level c log = upTo level c older := upTo_eq_of_grown h hp hreach
  rw [← upTo_append_between h hle, ← upTo_append_between (h.of_grown hp) hle,
    upTo_eq_of_grown h hp (hreach.of_le hle)] at hwhole
  exact List.append_cancel_left hwhole

/-- The newest records are the newest up to any position that covers them. -/
theorem suffix_upTo {rs : List Record} (hrs : rs <:+ ofLevel level log)
    (hcovers : ∀ r ∈ rs, r.timestamp ≤ c) : rs <:+ upTo level c log := by
  have hself : rs.filter (·.timestamp ≤ c) = rs := by
    apply List.filter_eq_self.mpr
    intro r hr
    exact decide_eq_true (hcovers r hr)
  rw [← hself]
  exact hrs.filter _

end LogTail
