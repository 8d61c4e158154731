import LogTail.Proofs.Level
import LogTail.Settings

/-!
The settings in effect. What the command line gives takes the place of what the file says, key by key and
before anything is looked at, so a fault of the file under a key that the command line gives is none. Of
the values in effect three numbers have to be positive, and the text for the level has to name a filter;
these are checked in turn, and the first check that fails is the one that is told.
-/
namespace LogTail

namespace LevelFilter

def Named (text : String) : LevelFilter → Prop
  | none => trimmed text = "" ∨ sameWord (trimmed text) "all" = true
  | some l => l.Spelled text

variable {text : String}

/-- A text is read as a filter exactly where it names it. -/
theorem read_eq_ok_iff {f : LevelFilter} : read text = .ok f ↔ Named text f := by
  by_cases hall : trimmed text = "" ∨ sameWord (trimmed text) "all" = true
  · rw [read_of_all hall]
    cases f with
    | none => exact iff_of_true rfl hall
    | some l => exact iff_of_false (by simp) (Level.not_spelled hall)
  · rw [read_of_not_all hall]
    cases f with
    | none =>
      refine iff_of_false ?_ hall
      cases Level.read (trimmed text) <;> simp [Except.map]
    | some l =>
      rw [Named, ← Level.spelled_trimmed_iff, ← Level.read_eq_ok_iff]
      cases Level.read (trimmed text) <;> simp [Except.map]

/-- A text that names no filter is reported without the white space around it. -/
theorem read_eq_error_iff {e : UnknownLevel} :
    read text = .error e ↔ (¬ ∃ f, Named text f) ∧ e = ⟨trimmed text⟩ := by
  cases hread : read text with
  | ok f => exact iff_of_false (by simp) fun h => h.1 ⟨f, read_eq_ok_iff.mp hread⟩
  | error e' =>
    have hnone : ¬ ∃ f, Named text f := by
      rintro ⟨f, hf⟩
      rw [read_eq_ok_iff.mpr hf] at hread
      cases hread
    have hall : ¬ (trimmed text = "" ∨ sameWord (trimmed text) "all" = true) :=
      fun h => hnone ⟨none, h⟩
    -- the text is told without the white space around it
    have htold : e' = ⟨trimmed text⟩ := by
      rw [read_of_not_all hall] at hread
      cases hlevel : Level.read (trimmed text) with
      | ok l => rw [hlevel] at hread; cases hread
      | error e'' =>
        rw [hlevel] at hread
        exact (Except.error.inj hread).symm.trans (Level.read_eq_error_iff.mp hlevel).2
    rw [htold]
    simp [hnone, eq_comm]

end LevelFilter

namespace FileSettings

def overlaid (file : FileSettings) (given : Overrides) : FileSettings where
  baseUrl := given.baseUrl <|> file.baseUrl
  pollMs := given.pollMs <|> file.pollMs
  timeoutMs := given.timeoutMs <|> file.timeoutMs
  capacity := given.capacity <|> file.capacity
  limit := given.limit <|> file.limit
  level := given.level <|> file.level
  pinRows := file.pinRows

/-- Whether two files say the same under every key that the command line does not give. -/
structure AgreeBeside (given : Overrides) (file other : FileSettings) : Prop where
  baseUrl : given.baseUrl = none → file.baseUrl = other.baseUrl
  pollMs : given.pollMs = none → file.pollMs = other.pollMs
  timeoutMs : given.timeoutMs = none → file.timeoutMs = other.timeoutMs
  capacity : given.capacity = none → file.capacity = other.capacity
  limit : given.limit = none → file.limit = other.limit
  level : given.level = none → file.level = other.level
  pinRows : file.pinRows = other.pinRows

/-- What the command line gives hides what the file says. -/
theorem AgreeBeside.overlaid_eq {given : Overrides} {file other : FileSettings}
    (h : AgreeBeside given file other) : file.overlaid given = other.overlaid given := by
  have hkey {α : Type} {g a b : Option α} (hab : g = none → a = b) : (g <|> a) = (g <|> b) := by
    cases g with
    | none => exact hab rfl
    | some x => rfl
  simp only [overlaid, hkey h.baseUrl, hkey h.pollMs, hkey h.timeoutMs, hkey h.capacity,
    hkey h.limit, hkey h.level, h.pinRows]

def session (file : FileSettings) : SessionConfig :=
  let usual : SessionConfig := {}
  { capacity := file.capacity.getD usual.capacity
    pollMs := file.pollMs.getD usual.pollMs
    timeoutMs := file.timeoutMs.getD usual.timeoutMs
    limit := file.limit }

/-- The text for the level; no text is as good as an empty one. -/
def levelText (file : FileSettings) : String :=
  file.level.getD ""

/-- What has to hold of a file, and what is told if it does not, in the order of the checks. -/
def checks (file : FileSettings) : List (Prop × SettingsError) :=
  [(file.session.pollMs ≠ 0, .zero "poll_interval_ms"),
    (file.session.timeoutMs ≠ 0, .zero "request_timeout_ms"),
    (file.session.capacity ≠ 0, .zero "capacity"),
    (∃ f, LevelFilter.Named file.levelText f, .level ⟨trimmed file.levelText⟩)]

theorem forall_checks_iff {file : FileSettings} :
    (∀ check ∈ file.checks, check.1) ↔ file.session.pollMs ≠ 0 ∧ file.session.timeoutMs ≠ 0 ∧
      file.session.capacity ≠ 0 ∧ ∃ f, LevelFilter.Named file.levelText f := by
  simp only [checks, List.forall_mem_cons, List.not_mem_nil, false_implies, implies_true, and_true]

structure Gives (file : FileSettings) (s : Settings) : Prop where
  baseUrl : s.baseUrl = file.baseUrl.getD Settings.usualUrl
  session : s.session = file.session
  level : LevelFilter.Named file.levelText s.level
  pinRows : s.pinRows = file.pinRows.getD Settings.usualPinRows

end FileSettings

namespace Settings

def FirstFailing (e : SettingsError) : List (Prop × SettingsError) → Prop
  | [] => False
  | (holds, fault) :: rest => (¬ holds ∧ e = fault) ∨ (holds ∧ FirstFailing e rest)

section Checks

variable {α : Type} {key : String} {n : Option ℕ} {next : Except SettingsError α}

/-- A check for zero in front of further checks; the usual value passes it. -/
theorem positive_next {usual : ℕ} (husual : usual ≠ 0) :
    (positive key n >>= fun _ => next) =
      if n.getD usual ≠ 0 then next else .error (.zero key) := by
  have hzero : n = some 0 ↔ n.getD usual = 0 := by
    cases n with
    | none => exact iff_of_false (by simp) husual
    | some k => exact Option.some_inj
  rw [positive]
  by_cases h : n = some 0
  · rw [if_pos h, if_neg (not_not.mpr (hzero.mp h))]
    rfl
  · rw [if_neg h, if_pos (mt hzero.mpr h)]
    rfl

theorem positive_next_ok_iff {usual : ℕ} (husual : usual ≠ 0) {a : α} :
    (positive key n >>= fun _ => next) = .ok a ↔ n.getD usual ≠ 0 ∧ next = .ok a := by
  rw [positive_next husual]
  split
  case isTrue h => exact (and_iff_right h).symm
  case isFalse h => exact iff_of_false (by simp) fun hok => h hok.1

theorem positive_next_error_iff {usual : ℕ} (husual : usual ≠ 0) {e : SettingsError} :
    (positive key n >>= fun _ => next) = .error e ↔
      (¬ n.getD usual ≠ 0 ∧ e = .zero key) ∨ (n.getD usual ≠ 0 ∧ next = .error e) := by
  rw [positive_next husual]
  split
  case isTrue h => rw [or_iff_right fun hzero => hzero.1 h, and_iff_right h]
  case isFalse h =>
    rw [or_iff_left fun hnext => h hnext.1, and_iff_right h, Except.error.injEq, eq_comm]

end Checks

theorem named_empty_iff {f : LevelFilter} : LevelFilter.Named "" f ↔ f = none := by
  have hempty : trimmed "" = "" := rfl
  cases f with
  | none => exact iff_of_true (.inl hempty) rfl
  | some l => exact iff_of_false (Level.not_spelled (.inl hempty)) (by simp)

/-- No text for the level reads like an empty one. -/
theorem readLevel_eq_ok_iff {text : Option String} {f : LevelFilter} :
    readLevel text = .ok f ↔ LevelFilter.Named (text.getD "") f := by
  cases text with
  | none => rw [Option.getD_none, named_empty_iff, readLevel, Except.ok.injEq, eq_comm]
  | some text =>
    rw [Option.getD_some, ← LevelFilter.read_eq_ok_iff, readLevel]
    cases LevelFilter.read text <;> simp [Except.mapError]

theorem readLevel_eq_error_iff {text : Option String} {e : SettingsError} :
    readLevel text = .error e ↔
      (¬ ∃ f, LevelFilter.Named (text.getD "") f) ∧ e = .level ⟨trimmed (text.getD "")⟩ := by
  cases text with
  | none =>
    refine iff_of_false (by simp [readLevel]) fun h => h.1 ⟨none, ?_⟩
    exact named_empty_iff.mpr rfl
  | some text =>
    have hread {e' : UnknownLevel} : LevelFilter.read text = .error e' ↔
        (¬ ∃ f, LevelFilter.Named text f) ∧ e' = ⟨trimmed text⟩ :=
      LevelFilter.read_eq_error_iff
    rw [Option.getD_some, readLevel]
    cases hresult : LevelFilter.read text with
    | ok f =>
      have hnamed := LevelFilter.read_eq_ok_iff.mp hresult
      exact iff_of_false (by simp [Except.mapError]) fun h => h.1 ⟨f, hnamed⟩
    | error e' =>
      obtain ⟨hnone, rfl⟩ := hread.mp hresult
      simp [Except.mapError, hnone, eq_comm]

def conclude (file : FileSettings) : Except SettingsError Settings := do
  let level ← readLevel file.level
  return ⟨file.baseUrl.getD usualUrl, file.session, level, file.pinRows.getD usualPinRows⟩

/-- Once the numbers are right, the settings are those of the file whose level is named. -/
theorem conclude_eq_ok_iff {file : FileSettings} {s : Settings} :
    conclude file = .ok s ↔ file.Gives s := by
  rw [conclude]
  cases hread : readLevel file.level with
  | error e =>
    have hnone := (readLevel_eq_error_iff.mp hread).1
    exact iff_of_false (by simp [bind, Except.bind]) fun h => hnone ⟨_, h.level⟩
  | ok level =>
    have hnamed := readLevel_eq_ok_iff.mp hread
    constructor
    · intro h
      obtain rfl := Except.ok.inj h
      exact ⟨rfl, rfl, hnamed, rfl⟩
    · intro h
      have hsame := readLevel_eq_ok_iff.mpr h.level
      rw [hread] at hsame
      obtain ⟨url, session, level', rows⟩ := s
      obtain ⟨rfl, rfl, -, rfl⟩ := h
      rw [Except.ok.inj hsame]
      rfl

theorem conclude_eq_error_iff {file : FileSettings} {e : SettingsError} :
    conclude file = .error e ↔ (¬ ∃ f, LevelFilter.Named file.levelText f) ∧
      e = .level ⟨trimmed file.levelText⟩ := by
  rw [FileSettings.levelText, ← readLevel_eq_error_iff, conclude]
  cases readLevel file.level <;> simp [bind, Except.bind, pure, Except.pure]

/-- The checks in their order, and what comes of them. -/
theorem resolve_eq (file : FileSettings) (given : Overrides) :
    resolve file given = (do
      let file := file.overlaid given
      positive "poll_interval_ms" file.pollMs
      positive "request_timeout_ms" file.timeoutMs
      positive "capacity" file.capacity
      conclude file) :=
  rfl

theorem usual_positive :
    ({} : SessionConfig).pollMs ≠ 0 ∧ ({} : SessionConfig).timeoutMs ≠ 0 ∧
      ({} : SessionConfig).capacity ≠ 0 := by
  decide

variable {file : FileSettings} {given : Overrides}

/-- There are settings exactly where every check passes, and they are those of the overlaid file. -/
theorem resolve_eq_ok_iff {s : Settings} :
    resolve file given = .ok s ↔
      (∀ check ∈ (file.overlaid given).checks, check.1) ∧ (file.overlaid given).Gives s := by
  obtain ⟨hpoll, htimeout, hcapacity⟩ := usual_positive
  rw [resolve_eq]
  dsimp only
  rw [FileSettings.forall_checks_iff, positive_next_ok_iff hpoll, positive_next_ok_iff htimeout,
    positive_next_ok_iff hcapacity, conclude_eq_ok_iff]
  constructor
  · rintro ⟨hp, ht, hc, hgives⟩
    exact ⟨⟨hp, ht, hc, _, hgives.level⟩, hgives⟩
  · rintro ⟨⟨hp, ht, hc, -⟩, hgives⟩
    exact ⟨hp, ht, hc, hgives⟩

/-- Otherwise the first check that fails is reported. -/
theorem resolve_eq_error_iff {e : SettingsError} :
    resolve file given = .error e ↔ FirstFailing e (file.overlaid given).checks := by
  obtain ⟨hpoll, htimeout, hcapacity⟩ := usual_positive
  rw [resolve_eq]
  dsimp only
  rw [positive_next_error_iff hpoll, positive_next_error_iff htimeout,
    positive_next_error_iff hcapacity, conclude_eq_error_iff]
  simp only [FileSettings.checks, FirstFailing, and_false, or_false]
  rfl

/-- Where every check holds the settings are there. -/
theorem exists_resolve_iff :
    (∃ s, resolve file given = .ok s) ↔ ∀ check ∈ (file.overlaid given).checks, check.1 := by
  constructor
  · rintro ⟨s, h⟩
    exact (resolve_eq_ok_iff.mp h).1
  · intro hchecks
    obtain ⟨-, -, -, level, hlevel⟩ := FileSettings.forall_checks_iff.mp hchecks
    exact ⟨⟨_, _, level, _⟩, resolve_eq_ok_iff.mpr ⟨hchecks, rfl, rfl, hlevel, rfl⟩⟩

/-- The command line overlays the file key by key: what comes of both is what comes of the file with the
keys that the command line gives put into it, settings and errors alike, and what the file says under those
keys does not matter. There are settings if and only if the interval, the timeout and the capacity in effect
are not zero and the text for the level in effect is empty, the word for all levels, or a spelling of one;
otherwise the first of these checks that fails is told. -/
theorem command_line_overlays_file (file : FileSettings) (given : Overrides) :
    resolve file given = resolve (file.overlaid given) {} ∧
    (∀ other, FileSettings.AgreeBeside given file other →
      resolve other given = resolve file given) ∧
    ((∃ s, resolve file given = .ok s) ↔ ∀ check ∈ (file.overlaid given).checks, check.1) ∧
    (∀ s, resolve file given = .ok s ↔
      (∀ check ∈ (file.overlaid given).checks, check.1) ∧ (file.overlaid given).Gives s) ∧
    ∀ e, resolve file given = .error e ↔ FirstFailing e (file.overlaid given).checks := by
  have hoverlaid (file : FileSettings) : resolve file given = resolve (file.overlaid given) {} := rfl
  refine ⟨hoverlaid file, fun other hother => ?_, exists_resolve_iff,
    fun s => resolve_eq_ok_iff, fun e => resolve_eq_error_iff⟩
  rw [hoverlaid other, hoverlaid file, hother.overlaid_eq]

/-- Faults of the file under keys that the command line gives are none, and a level may be given by any of its
spellings. With a number that is zero the level is not looked at any more. -/
theorem command_line_overlays_file_with_faults :
    let file : FileSettings := { pollMs := some 0, level := some "loud", limit := some 250 }
    let other : FileSettings := { limit := some 250 }
    let given : Overrides := { pollMs := some 500, level := some " Warning" }
    FileSettings.AgreeBeside given file other ∧ resolve other given = resolve file given ∧
      resolve file given = .ok ⟨usualUrl, { pollMs := 500, limit := some 250 }, some .warn, 1⟩ ∧
      resolve file {} = .error (.zero "poll_interval_ms") ∧
      resolve file { pollMs := some 500 } = .error (.level ⟨"loud"⟩) := by
  intro file other given
  have hagree : FileSettings.AgreeBeside given file other :=
    ⟨fun _ => rfl, by simp [given], fun _ => rfl, fun _ => rfl, fun _ => rfl, by simp [given], rfl⟩
  have hspelled : Level.Spelled .warn " Warning" := ⟨"warning", by decide, by decide⟩
  have hnone : ¬ ∃ f, LevelFilter.Named "loud" f := by
    rintro ⟨f, hf⟩
    cases f with
    | none => exact absurd hf (by unfold LevelFilter.Named; decide)
    | some l => cases l <;> exact absurd hf (by unfold LevelFilter.Named Level.Spelled; decide)
  obtain ⟨-, hbeside, -, hok, -⟩ := command_line_overlays_file file given
  obtain ⟨-, -, -, -, hzero⟩ := command_line_overlays_file file {}
  obtain ⟨-, -, -, -, hlevel⟩ := command_line_overlays_file file { pollMs := some 500 }
  refine ⟨hagree, hbeside other hagree, (hok _).mpr ⟨?_, rfl, rfl, hspelled, rfl⟩, (hzero _).mpr ?_,
    (hlevel _).mpr ?_⟩
  · exact FileSettings.forall_checks_iff.mpr ⟨by decide, by decide, by decide, some .warn, hspelled⟩
  · exact .inl ⟨by decide, rfl⟩
  · exact .inr ⟨by decide, .inr ⟨by decide, .inr ⟨by decide, .inl ⟨hnone, by decide⟩⟩⟩⟩

end Settings

end LogTail
