import LogTail.Proofs.Json.Printable
import LogTail.Proofs.View.Printer
import LogTail.Record.Wire

/-!
Records and the lines they are printed on. Four texts of a record and the keys of its attributes come into
its line as they are: a timestamp that cannot be read, the message, the logger and the caller. A line feed
in one of them ends the line before the record does, and what follows may pass for the line of another
record. The values of attributes are written as JSON and a timestamp that can be read is shown as a time
of day, so that nothing in these ends a line.
-/
namespace LogTail

theorem mem_intercalate_iff {α : Type*} {sep : List α} {x : α} (hsep : x ∉ sep) (ls : List (List α)) :
    x ∈ sep.intercalate ls ↔ ∃ l ∈ ls, x ∈ l := by
  induction ls with
  | nil => simp
  | cons l rest ih =>
    cases rest with
    | nil => simp
    | cons l' others =>
      rw [List.intercalate_cons_cons, List.mem_append, List.mem_append, ih]
      simp [hsep]

/-- A text has one line more than it has line ends. -/
theorem length_splitOn {α : Type*} [BEq α] [LawfulBEq α] (x : α) (xs : List α) :
    (xs.splitOn x).length = xs.count x + 1 := by
  induction xs with
  | nil => rfl
  | cons y rest ih =>
    rw [List.splitOn, List.splitOnP_cons_eq_if_modifyHead, List.count_cons]
    rw [List.splitOn] at ih
    split
    · rw [List.length_cons, ih]
    · rw [List.length_modifyHead, ih]

/-- A clock has no control characters. -/
theorem Time.clock_printable (s : Stamp) : Printable s.clock.toList := by
  unfold Stamp.clock
  rw [String.toList_ofList]
  have hcolon : 0x20 ≤ ':'.toNat := by decide
  have hpoint : 0x20 ≤ '.'.toNat := by decide
  have hpadded (width n : ℕ) : Printable (Number.padded width n) := .padded width n
  exact (((hpadded _ _).append (.cons hcolon (hpadded _ _))).append
    (.cons hcolon (hpadded _ _))).append (.cons hpoint (hpadded _ _))

namespace Plain

/-- Whether a character stands in a text of a record that comes into its line as it is. -/
def Spills (r : Record) (showAttributes : Bool) (c : Char) : Prop :=
  (Time.Stamp.parse? r.timestamp = none ∧ c ∈ r.timestamp.toList) ∨
  (∃ s ∈ r.logger, c ∈ s.toList) ∨ c ∈ r.message.toList ∨
  (showAttributes = true ∧ ∃ f ∈ r.attributes, c ∈ f.1.toList) ∨ ∃ s ∈ r.caller, c ∈ s.toList

variable {c : Char}

/-- Control characters come through a timestamp only if it cannot be read. -/
theorem mem_displayStamp_iff (hc : c.toNat < 0x20) (text : String) :
    c ∈ (Time.displayStamp text).toList ↔ Time.Stamp.parse? text = none ∧ c ∈ text.toList := by
  unfold Time.displayStamp
  cases Time.Stamp.parse? text with
  | none => simp
  | some s =>
    simp [(Time.clock_printable s).not_mem hc]

/-- Of attributes only the keys bring in control characters, since values are written escaped. -/
theorem mem_attributesInline_iff (hc : c.toNat < 0x20) (r : Record) :
    c ∈ r.attributesInline.toList ↔ ∃ f ∈ r.attributes, c ∈ f.1.toList := by
  have hblank : Printable " ".toList := by decide
  have hequals : Printable "=".toList := by decide
  have hpair (f : String × Json.Value) :
      c ∈ (f.1 ++ "=" ++ f.2.render).toList ↔ c ∈ f.1.toList := by
    have hvalue : c ∉ f.2.render.toList := by
      rw [Json.Value.render, String.toList_ofList]
      exact f.2.print_printable.not_mem hc
    rw [String.toList_append, String.toList_append, List.mem_append, List.mem_append]
    simp only [hequals.not_mem hc, hvalue, or_false]
  rw [Record.attributesInline, String.toList_intercalate, mem_intercalate_iff (hblank.not_mem hc)]
  constructor
  · rintro ⟨cs, hcs, hmem⟩
    simp only [List.map_map, List.mem_map] at hcs
    obtain ⟨f, hf, rfl⟩ := hcs
    exact ⟨f, hf, (hpair f).mp hmem⟩
  · rintro ⟨f, hf, hmem⟩
    exact ⟨_, List.mem_map_of_mem (List.mem_map_of_mem hf), (hpair f).mpr hmem⟩

/-- A text that may be missing, between two that are written with it. -/
theorem mem_between_iff {before after : String} (hbefore : Printable before.toList)
    (hafter : Printable after.toList) (hc : c.toNat < 0x20) (o : Option String) :
    c ∈ ((o.map fun s => before ++ s ++ after).getD "").toList ↔ ∃ s ∈ o, c ∈ s.toList := by
  cases o with
  | none => simp
  | some s =>
    rw [Option.map_some, Option.getD_some, String.toList_append, String.toList_append, List.mem_append,
      List.mem_append]
    simp [hbefore.not_mem hc, hafter.not_mem hc]

theorem levelColumn_printable (l : Level) : Printable (levelColumn l).toList := by
  cases l <;> decide

/-- A control character comes into a line from one of the texts that are not escaped, or not at all. -/
theorem mem_line_iff (hc : c.toNat < 0x20) (r : Record) (showAttributes : Bool) :
    c ∈ (line r showAttributes).toList ↔ Spills r showAttributes c := by
  have hblank : Printable " ".toList := by decide
  have hlogger : c ∈ ((r.logger.map fun s => " [" ++ s ++ "]").getD "").toList ↔
      ∃ s ∈ r.logger, c ∈ s.toList := mem_between_iff (by decide) (by decide) hc _
  have hcaller : c ∈ ((r.caller.map fun s => " (" ++ s ++ ")").getD "").toList ↔
      ∃ s ∈ r.caller, c ∈ s.toList := mem_between_iff (by decide) (by decide) hc _
  have hattributes : c ∈ (if showAttributes && !r.attributes.isEmpty then
      " " ++ r.attributesInline else "").toList ↔
        showAttributes = true ∧ ∃ f ∈ r.attributes, c ∈ f.1.toList := by
    cases showAttributes with
    | false => simp
    | true =>
      cases hempty : r.attributes.isEmpty with
      | true => simp [List.isEmpty_iff.mp hempty]
      | false =>
        have hshown : (true && !false) = true := rfl
        rw [if_pos hshown, String.toList_append, List.mem_append, mem_attributesInline_iff hc]
        simp only [hblank.not_mem hc, false_or, true_and]
  unfold line Spills
  simp only [String.toList_append, List.mem_append, hlogger, hcaller, hattributes, hblank.not_mem hc,
    (levelColumn_printable r.level).not_mem hc, mem_displayStamp_iff hc, or_false, or_assoc]

def written (lines : List String) : String :=
  String.join (lines.map (· ++ "\n"))

theorem toList_written_cons (l : String) (rest : List String) :
    (written (l :: rest)).toList = l.toList ++ '\n' :: (written rest).toList := by
  simp [written]

theorem toList_written (lines : List String) :
    (written lines).toList = ['\n'].intercalate (lines.map String.toList ++ [[]]) := by
  induction lines with
  | nil => rfl
  | cons l rest ih =>
    obtain ⟨next, others, hrest⟩ := List.exists_cons_of_ne_nil
      (List.append_ne_nil_of_right_ne_nil (rest.map String.toList) (List.cons_ne_nil [] []))
    rw [toList_written_cons, ih, List.map_cons, List.cons_append, hrest, List.intercalate_cons_cons,
      List.append_assoc, List.singleton_append]

/-- Line feeds of the printed text: one after each line, and those inside the lines. -/
theorem count_written (lines : List String) :
    (written lines).toList.count '\n' =
      lines.length + (lines.flatMap String.toList).count '\n' := by
  induction lines with
  | nil => rfl
  | cons l rest ih =>
    rw [toList_written_cons, List.count_append, List.count_cons_self, ih, List.length_cons,
      List.flatMap_cons, List.count_append]
    omega

/-- Lines are found again in what is printed just where none of them has a line feed in it. -/
theorem splitOn_written_iff (lines : List String) :
    (written lines).toList.splitOn '\n' = lines.map String.toList ++ [[]] ↔
      ∀ l ∈ lines, '\n' ∉ l.toList := by
  constructor
  · intro hsplit
    -- each line feed inside a line would make one line more
    have hlength := congrArg List.length hsplit
    rw [length_splitOn, count_written, List.length_append, List.length_map] at hlength
    have hnone : (lines.flatMap String.toList).count '\n' = 0 := by
      simp only [List.length_singleton] at hlength
      omega
    intro l hl hmem
    exact List.count_eq_zero.mp hnone (List.mem_flatMap.mpr ⟨l, hl, hmem⟩)
  · intro hlines
    rw [toList_written]
    apply List.splitOn_intercalate
    · intro cs hcs
      rcases List.mem_append.mp hcs with hcs | hcs
      · obtain ⟨l, hl, rfl⟩ := List.mem_map.mp hcs
        exact hlines l hl
      · rw [List.mem_singleton.mp hcs]
        exact List.not_mem_nil
    · exact List.append_ne_nil_of_right_ne_nil _ (List.cons_ne_nil _ _)

/-- Of the control characters a line has those that its record has in a timestamp that cannot be read, in
its logger, its message, its caller or the key of an attribute that is shown. So in all that a run prints
every line is a record and every record a line just where none of the records has a line feed there. -/
theorem lines_are_records_iff (capacity : ℕ) (limit : Option ℕ) (level : LevelFilter)
    (threshold : PinThreshold) (turns : List Printer.Turn) :
    let p := (Printer.begun capacity limit level threshold).after turns
    (∀ (r : Record) (showAttributes : Bool) (c : Char), c.toNat < 0x20 →
      (c ∈ (line r showAttributes).toList ↔ Spills r showAttributes c)) ∧
    p.lines = p.printed.map (fun x => line x.record true) ∧
    ((written p.lines).toList.splitOn '\n' =
        p.printed.map (fun x => (line x.record true).toList) ++ [[]] ↔
      ∀ x ∈ p.printed, ¬ Spills x.record true '\n') := by
  intro p
  have hlines : p.lines = p.printed.map (fun x => line x.record true) :=
    ((Printer.begun_faithful capacity limit level threshold).after turns).lines_eq
  have hfeed : '\n'.toNat < 0x20 := by decide
  refine ⟨fun r showAttributes c hc => mem_line_iff hc r showAttributes, hlines, ?_⟩
  have hmap : p.printed.map (fun x => (line x.record true).toList) = p.lines.map String.toList := by
    rw [hlines, List.map_map]
    rfl
  rw [hmap, splitOn_written_iff, hlines, List.forall_mem_map]
  simp only [mem_line_iff hfeed]

/-- Line feeds in the value of an attribute and in a timestamp that can be read all the same. -/
theorem lines_are_records_iff_escaped :
    let r : Record := ⟨"2024-01-15T10:30:00\n+0800", .info, "up", none, none,
      [("note", .string "a\nb")]⟩
    '\n'.toNat < 0x20 ∧ '\n' ∉ (line r true).toList ∧
      line r true = "02:30:00.000 INFO  up note=\"a\\nb\"" := by
  intro r
  have hparse : Time.Stamp.parse? r.timestamp ≠ none := by decide
  have hnone : ¬ Spills r true '\n' := by
    rintro (⟨h, -⟩ | ⟨s, h, -⟩ | h | ⟨-, f, h, hkey⟩ | ⟨s, h, -⟩)
    · exact hparse h
    · cases h
    · exact absurd h (by decide)
    · rw [List.mem_singleton.mp h] at hkey
      exact absurd hkey (by decide)
    · cases h
  have hline := (lines_are_records_iff 5 none none .usual []).1 r true '\n' (by decide)
  exact ⟨by decide, fun hmem => hnone (hline.mp hmem), by decide⟩

/-- A record that is read from its JSON form and printed as two other records are. -/
theorem message_forges_line :
    ∃ forged first second, Record.parse? ("\x7b\"timestamp\":\"t1\",\"level\":\"info\"," ++
        "\"message\":\"up\\nt2 ERROR down\"\x7d") = some forged ∧
      written [line forged true] = written [line first true, line second true] ∧
      first.message = "up" ∧ second.level = .error ∧ second.message = "down" := by
  have hread : Record.parse? ("\x7b\"timestamp\":\"t1\",\"level\":\"info\"," ++
      "\"message\":\"up\\nt2 ERROR down\"\x7d") =
        some ⟨"t1", .info, "up\nt2 ERROR down", none, none, []⟩ := by
    rfl
  refine ⟨_, ⟨"t1", .info, "up", none, none, []⟩, ⟨"t2", .error, "down", none, none, []⟩, hread, ?_, rfl,
    rfl, rfl⟩
  decide

end Plain

end LogTail
