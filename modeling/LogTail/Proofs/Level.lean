import LogTail.Proofs.Text.Words
import LogTail.Record.Wire

/-!
The spellings of a level. A text names a level if and only if, without the white space around it, it is one of
the spellings of the level but for capitals. Everything that reads a level agrees on that: a reader that has
to have one refuses all other texts, a filter takes two more that stand for all levels, and a record whose
level is none that is known counts as an informative one.
-/
namespace LogTail

open LogTail.Text LevelFilter

def trimmed (text : String) : String :=
  String.ofList (trim text.toList)

theorem trimmed_trimmed (text : String) : trimmed (trimmed text) = trimmed text := by
  rw [trimmed, trimmed, String.toList_ofList, trim_trim]

namespace Level

/-- The documented spellings, written out apart from the table that the readers search. -/
def documented : Level → List String
  | debug => ["debug", "dbg", "debg", "trace"]
  | info => ["info", "inf", "information"]
  | warn => ["warn", "warning", "wrn"]
  | error => ["error", "err", "erro"]
  | fatal => ["fatal", "panic", "dpanic", "critical", "crit", "ftl"]

/-- Whether a text, without the white space around it, is a documented spelling of a level but for the case
of its letters. -/
def Spelled (l : Level) (text : String) : Prop :=
  ∃ word ∈ l.documented, sameWord (trimmed text) word = true

variable {l m : Level} {text word : String}

theorem spellings_eq (l : Level) : l.spellings = l.documented := by
  cases l <;> rfl

theorem mem_all (l : Level) : l ∈ all := by
  cases l <;> decide

theorem spellings_apart (hl : word ∈ l.spellings) (hm : word ∈ m.spellings) : l = m := by
  have hall : ∀ l ∈ all, ∀ m ∈ all, ∀ word ∈ l.spellings, word ∈ m.spellings → l = m := by
    decide
  exact hall l l.mem_all m m.mem_all word hl hm

/-- The spellings are words of letters that have no other small forms, and none stands for all levels. -/
theorem isWordLetter_of_mem_spellings (h : word ∈ l.spellings) :
    (∀ c ∈ word.toList, IsWordLetter c) ∧ word ≠ "" ∧ sameWord word "all" = false := by
  have hall : ∀ l ∈ all, ∀ word ∈ l.spellings,
      (word.toList.all fun c => decide (IsWordLetter c)) = true ∧ word ≠ "" ∧
        sameWord word "all" = false := by
    decide
  obtain ⟨hletters, hrest⟩ := hall l l.mem_all word h
  exact ⟨fun c hc => of_decide_eq_true (List.all_eq_true.mp hletters c hc), hrest⟩

theorem sameWord_iff {a b : String} :
    sameWord a b = true ↔ a.toList.map Char.toLower = b.toList.map Char.toLower :=
  beq_iff_eq

/-- A text is lowered to a spelling if and only if it is that spelling but for capitals. -/
theorem ofList_lower_eq_iff (h : word ∈ l.spellings) (cs : List Char) :
    String.ofList (lower cs) = word ↔ sameWord (String.ofList cs) word = true := by
  have hletters := (isWordLetter_of_mem_spellings h).1
  have hsmall : word.toList.map Char.toLower = word.toList.map id :=
    List.map_congr_left fun c hc => toLower_of_isWordLetter (hletters c hc)
  rw [sameWord_iff, hsmall, List.map_id, String.toList_ofList, ← lower_eq_word_iff hletters,
    ← String.toList_inj, String.toList_ofList]

/-- The reader finds a level exactly where the text spells it: the table has each spelling once. -/
theorem parse?_eq_some_iff : parse? text = some l ↔ l.Spelled text := by
  have hword : (String.ofList (lower (trim text.toList)) ∈ l.spellings) ↔ l.Spelled text := by
    rw [Spelled, ← spellings_eq]
    constructor
    · intro h
      exact ⟨_, h, (ofList_lower_eq_iff h _).mp rfl⟩
    · rintro ⟨word, h, hsame⟩
      exact (ofList_lower_eq_iff h _).mpr hsame ▸ h
  rw [← hword, parse?]
  generalize String.ofList (lower (trim text.toList)) = word
  constructor
  · intro hfind
    simpa using List.find?_some hfind
  · intro hmem
    cases hfind : all.find? fun m => m.spellings.contains word with
    | none =>
      have hnone := List.find?_eq_none.mp hfind l l.mem_all
      simp [hmem] at hnone
    | some m =>
      have hm : word ∈ m.spellings := by simpa using List.find?_some hfind
      rw [spellings_apart hm hmem]

theorem parse?_eq_none_iff : parse? text = none ↔ ∀ l : Level, ¬ l.Spelled text := by
  simp only [← parse?_eq_some_iff, Option.eq_none_iff_forall_ne_some, ne_eq]

theorem read_eq_ok_iff : read text = .ok l ↔ l.Spelled text := by
  rw [← parse?_eq_some_iff, read]
  cases parse? text <;> simp

theorem read_eq_error_iff {e : UnknownLevel} :
    read text = .error e ↔ (∀ l : Level, ¬ l.Spelled text) ∧ e = ⟨text⟩ := by
  rw [← parse?_eq_none_iff, read]
  cases parse? text <;> simp [eq_comm]

theorem spelled_trimmed_iff : l.Spelled (trimmed text) ↔ l.Spelled text := by
  rw [Spelled, trimmed_trimmed, Spelled]

/-- What stands for all levels spells none. -/
theorem not_spelled (h : trimmed text = "" ∨ sameWord (trimmed text) "all" = true) :
    ¬ l.Spelled text := by
  rintro ⟨word, hword, hsame⟩
  rw [← spellings_eq] at hword
  obtain ⟨-, hempty, hall⟩ := isWordLetter_of_mem_spellings hword
  rw [sameWord_iff] at hsame
  rcases h with h | h
  · rw [h] at hsame
    exact hempty (String.toList_inj.mp (List.map_eq_nil_iff.mp hsame.symm))
  · rw [sameWord_iff, hsame, ← sameWord_iff, hall] at h
    exact Bool.false_ne_true h

/-- In a record, whatever spells no level stands for info. -/
theorem ofText_eq_iff :
    ofText text = l ↔ l.Spelled text ∨ (∀ m : Level, ¬ m.Spelled text) ∧ l = .info := by
  rw [← parse?_eq_some_iff, ← parse?_eq_none_iff, ofText]
  cases parse? text with
  | none => simp [unstated, eq_comm]
  | some m => simp

/-- Whatever text stands there for its level, a record is read. -/
theorem ofTree?_of_level (room : ℕ) (timestamp text : String) :
    Record.ofTree? room (.object [(some "timestamp", .string (some timestamp)),
      (some "level", .string (some text))]) =
      some { timestamp := timestamp, level := ofText text, message := "" } :=
  rfl

end Level

namespace LevelFilter

variable {text : String}

theorem read_of_all (h : trimmed text = "" ∨ sameWord (trimmed text) "all" = true) :
    read text = .ok none := by
  rw [read, if_pos]
  simpa [trimmed] using h

theorem read_of_not_all (h : ¬ (trimmed text = "" ∨ sameWord (trimmed text) "all" = true)) :
    read text = (Level.read (trimmed text)).map some := by
  rw [read, if_neg]
  · rfl
  · simpa [trimmed] using h

end LevelFilter

namespace Level

/-- A text is read as a level if and only if it is one of its documented spellings, whatever the case of its
letters and the white space around it, by every reader of levels alike. Of the texts that spell none a filter
takes the empty one and the word for all levels, without white space around them, and refuses the others by
what it was given; a record takes any of them as informative. -/
theorem readers_agree (text : String) :
    (∀ l, parse? text = some l ↔ l.Spelled text) ∧
    (∀ l, read text = .ok l ↔ l.Spelled text) ∧
    (∀ e, read text = .error e ↔ (∀ l : Level, ¬ l.Spelled text) ∧ e = ⟨text⟩) ∧
    (LevelFilter.read text = .ok none ↔
      trimmed text = "" ∨ sameWord (trimmed text) "all" = true) ∧
    (∀ l, LevelFilter.read text = .ok (some l) ↔ l.Spelled text) ∧
    (∀ e, LevelFilter.read text = .error e ↔
      ¬ (trimmed text = "" ∨ sameWord (trimmed text) "all" = true) ∧
        (∀ l : Level, ¬ l.Spelled text) ∧ e = ⟨trimmed text⟩) ∧
    (∀ l, ofText text = l ↔ l.Spelled text ∨ (∀ m : Level, ¬ m.Spelled text) ∧ l = .info) ∧
    ∀ room timestamp, Record.ofTree? room (.object [(some "timestamp", .string (some timestamp)),
      (some "level", .string (some text))]) =
      some { timestamp := timestamp, level := ofText text, message := "" } := by
  refine ⟨fun l => parse?_eq_some_iff, fun l => read_eq_ok_iff, fun e => read_eq_error_iff, ?_, ?_, ?_,
    fun l => ofText_eq_iff, fun room timestamp => ofTree?_of_level room timestamp text⟩
  all_goals by_cases hall : trimmed text = "" ∨ sameWord (trimmed text) "all" = true
  · exact iff_of_true (read_of_all hall) hall
  · rw [read_of_not_all hall]
    refine iff_of_false ?_ hall
    cases read (trimmed text) <;> simp [Except.map]
  · intro l
    rw [read_of_all hall]
    exact iff_of_false (by simp) (not_spelled hall)
  · intro l
    rw [read_of_not_all hall, ← spelled_trimmed_iff, ← read_eq_ok_iff]
    cases read (trimmed text) <;> simp [Except.map]
  · intro e
    rw [read_of_all hall]
    exact iff_of_false (by simp) fun h => h.1 hall
  · intro e
    have hspelled : (∀ l : Level, ¬ l.Spelled text) ↔ ∀ l : Level, ¬ l.Spelled (trimmed text) :=
      forall_congr' fun l => not_congr spelled_trimmed_iff.symm
    rw [read_of_not_all hall, hspelled, ← read_eq_error_iff]
    cases read (trimmed text) <;> simp [Except.map, hall]

/-- An alias with white space around it and a level in capitals are read by all, the word for all levels by a
filter alone, and an unknown word by none, which a record takes as informative. -/
theorem readers_agree_on_aliases :
    (parse? " Warning\t" = some .warn ∧ read "dpanic" = .ok .fatal ∧
      LevelFilter.read "INFO\n" = .ok (some .info) ∧ ofText "Trace" = .debug) ∧
    LevelFilter.read " All" = .ok none ∧ parse? "verbose" = none ∧
      read "verbose" = .error ⟨"verbose"⟩ ∧ ofText "verbose" = .info := by
  have hwarn : Spelled .warn " Warning\t" := ⟨"warning", by decide, by decide⟩
  have hfatal : Spelled .fatal "dpanic" := ⟨"dpanic", by decide, by decide⟩
  have hinfo : Spelled .info "INFO\n" := ⟨"info", by decide, by decide⟩
  have hdebug : Spelled .debug "Trace" := ⟨"trace", by decide, by decide⟩
  have hnone : ∀ l : Level, ¬ l.Spelled "verbose" := by
    intro l
    cases l <;> (unfold Spelled; decide)
  obtain ⟨hparse, -, -, -, -, -, -, -⟩ := readers_agree " Warning\t"
  obtain ⟨-, hread, -, -, -, -, -, -⟩ := readers_agree "dpanic"
  obtain ⟨-, -, -, -, hfilter, -, -, -⟩ := readers_agree "INFO\n"
  obtain ⟨-, -, -, -, -, -, hrecord, -⟩ := readers_agree "Trace"
  obtain ⟨-, -, -, hall, -, -, -, -⟩ := readers_agree " All"
  obtain ⟨-, -, hrefused, -, -, -, hrecord', -⟩ := readers_agree "verbose"
  exact ⟨⟨(hparse _).mpr hwarn, (hread _).mpr hfatal, (hfilter _).mpr hinfo, (hrecord _).mpr (.inl hdebug)⟩,
    hall.mpr (.inr (by decide)), parse?_eq_none_iff.mpr hnone, (hrefused _).mpr ⟨hnone, rfl⟩,
    (hrecord' _).mpr (.inr ⟨hnone, rfl⟩)⟩

end Level

end LogTail
