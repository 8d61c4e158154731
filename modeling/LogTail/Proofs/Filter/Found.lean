import LogTail.Proofs.Filter.Ranges
import LogTail.Proofs.Text.Lower

/-!
Which records are found. A record is found in its texts as they are lowered in running text, and marked
where they match with each character lowered on its own. Both the text looked for and the text of a
record may have a capital sigma, and then finding and marking differ where one of a record closes a word,
and a verbatim part of a record is missed where its last letters read otherwise alone.
-/
namespace LogTail

def Record.Holds (r : Record) (text : String) : Prop :=
  text.toList <:+: r.message.toList ∨
    (∃ s ∈ r.logger, text.toList <:+: s.toList) ∨ ∃ s ∈ r.caller, text.toList <:+: s.toList

theorem Record.Holds.of_append {r : Record} {text more : String} (h : r.Holds (text ++ more)) :
    r.Holds text := by
  have hbegins : text.toList <:+: (text ++ more).toList := by
    rw [String.toList_append]
    exact (List.prefix_append _ _).isInfix
  refine h.imp hbegins.trans (Or.imp ?_ ?_)
  · exact fun ⟨s, hs, hin⟩ => ⟨s, hs, hbegins.trans hin⟩
  · exact fun ⟨s, hs, hin⟩ => ⟨s, hs, hbegins.trans hin⟩

namespace TextFilter

variable {f : TextFilter} {r : Record} {text : String}

theorem containsFolded_iff {needle : List Char} :
    containsFolded text needle = true ↔ needle <:+: Text.lower text.toList :=
  occursIn_iff_infix

/-- A record passes if the lower-case needle stands in the lower-case form of one of its three
texts. -/
theorem passes_iff :
    f.passes Option.none r = true ↔
      f.needle = [] ∨ f.needle <:+: Text.lower r.message.toList ∨
        (∃ s ∈ r.logger, f.needle <:+: Text.lower s.toList) ∨
        ∃ s ∈ r.caller, f.needle <:+: Text.lower s.toList := by
  have hlevel : LevelFilter.passes Option.none r.level = true := rfl
  rw [passes, recordMatches, hlevel, Bool.true_and]
  simp only [Bool.or_eq_true, List.isEmpty_iff, Option.any_eq_true, containsFolded_iff, or_assoc]
  rfl

theorem needle_eq_nil_iff : f.needle = [] ↔ f.text = "" := by
  rw [needle, Text.lower_eq_lowerBy, Text.lowerBy_eq_nil_iff, String.toList_eq_nil_iff]

/-- A record that says nothing but its message is found by its message. -/
theorem passes_message_iff {timestamp : String} {level : Level} {message : String}
    {attributes : List (String × Json.Value)} (h : f.text ≠ "") :
    f.passes Option.none ⟨timestamp, level, message, Option.none, Option.none, attributes⟩ = true ↔
      f.needle <:+: Text.lower message.toList := by
  rw [passes_iff]
  simp [needle_eq_nil_iff, h]

theorem ranges_ne_nil_iff (h : f.text ≠ "") :
    f.ranges text ≠ [] ↔ f.needle <:+: Text.lowerEach text.toList := by
  rw [Ne, ranges_eq_nil_iff, needle_eq_nil_iff]
  simp [h]

/-- Whatever the filter, a message is marked if and only if it is found, as long as no capital sigma in it
closes a word, and only then; and whatever the message, a filter without a small sigma marks what it
finds. -/
theorem found_as_marked_iff (timestamp : String) (level : Level)
    (attributes : List (String × Json.Value)) :
    (∀ message : String,
      (∀ f : TextFilter, f.text ≠ "" →
        (f.passes Option.none ⟨timestamp, level, message, Option.none, Option.none, attributes⟩ = true ↔
          f.ranges message ≠ [])) ↔
      ∀ before after, message.toList = before ++ 'Σ' :: after →
        Text.closesWord before.reverse after = false) ∧
    ∀ f : TextFilter, f.text ≠ "" → 'σ' ∉ f.needle → 'ς' ∉ f.needle → ∀ message : String,
      (f.passes Option.none ⟨timestamp, level, message, Option.none, Option.none, attributes⟩ = true ↔
        f.ranges message ≠ []) := by
  constructor
  · intro message
    rw [← Text.lower_eq_lowerEach_iff]
    constructor
    · intro hagree
      -- the message itself is the filter that tells
      let whole : TextFilter := ⟨message⟩
      by_cases hempty : message = ""
      · rw [hempty]
        rfl
      · have hfound : whole.needle <:+: Text.lower message.toList := List.infix_refl _
        have hmarked : whole.needle <:+: Text.lowerEach message.toList := by
          rw [← ranges_ne_nil_iff hempty, ← hagree whole hempty, passes_message_iff hempty]
          exact hfound
        refine hmarked.eq_of_length ?_
        change (Text.lower message.toList).length = _
        rw [Text.lower_eq_lowerBy, Text.length_lowerBy]
    · intro hlower f hf
      rw [passes_message_iff hf, ranges_ne_nil_iff hf, hlower]
  · intro f hf hsmall hfinal message
    rw [passes_message_iff hf, ranges_ne_nil_iff hf]
    exact Text.infix_lower_iff hsmall hfinal

/-- A sigma within a word is found and marked, and so is another letter of a word that ends in one. -/
theorem found_as_marked_iff_in_word :
    let within : TextFilter := ⟨"σα"⟩
    let other : TextFilter := ⟨"Α"⟩
    (within.passes Option.none ⟨"t", .info, "ΑΣΑ", Option.none, Option.none, []⟩ = true ∧
      within.ranges "ΑΣΑ" ≠ []) ∧
    other.passes Option.none ⟨"t", .info, "ΑΣ", Option.none, Option.none, []⟩ = true ∧
      other.ranges "ΑΣ" ≠ [] := by
  intro within other
  obtain ⟨hmessages, hfilters⟩ := found_as_marked_iff "t" .info []
  have hopen : ∀ before after, "ΑΣΑ".toList = before ++ 'Σ' :: after →
      Text.closesWord before.reverse after = false :=
    Text.lower_eq_lowerEach_iff.mp (by decide)
  have hwithin :
      within.passes Option.none ⟨"t", .info, "ΑΣΑ", Option.none, Option.none, []⟩ = true := by decide
  have hother :
      other.passes Option.none ⟨"t", .info, "ΑΣ", Option.none, Option.none, []⟩ = true := by decide
  refine ⟨⟨hwithin, ?_⟩, hother, ?_⟩
  · exact ((hmessages "ΑΣΑ").mpr hopen within (by decide)).mp hwithin
  · exact (hfilters other (by decide) (by decide) (by decide) "ΑΣ").mp hother

/-- A text that closes with a sigma is found and not marked. -/
theorem found_unmarked :
    let f : TextFilter := ⟨"ΑΣ"⟩
    f.passes Option.none ⟨"t", .info, "ΑΣ", Option.none, Option.none, []⟩ = true ∧
      f.ranges "ΑΣ" = [] := by
  decide +kernel

/-- A text finds all the records that hold it if it is self-contained, and only then. So typing on hides no
record as long as what is typed is self-contained. -/
theorem verbatim_found_iff (text : String) :
    ((∀ r : Record, r.Holds text → passes ⟨text⟩ Option.none r = true) ↔
      Text.SelfContained text.toList) ∧
    ∀ (r : Record) (more : String), Text.SelfContained text.toList → r.Holds (text ++ more) →
      passes ⟨text⟩ Option.none r = true := by
  have hfound (h : Text.SelfContained text.toList) (r : Record) (hr : r.Holds text) :
      passes ⟨text⟩ Option.none r = true := by
    have hlower {s : String} (hin : text.toList <:+: s.toList) :
        Text.lower text.toList <:+: Text.lower s.toList := by
      obtain ⟨left, right, hs⟩ := hin
      rw [← hs]
      exact h.lower_infix left right
    rw [passes_iff]
    refine .inr (hr.imp hlower (Or.imp ?_ ?_))
    · exact fun ⟨s, hs, hin⟩ => ⟨s, hs, hlower hin⟩
    · exact fun ⟨s, hs, hin⟩ => ⟨s, hs, hlower hin⟩
  refine ⟨⟨?_, hfound⟩, ?_⟩
  · intro hall
    rw [Text.selfContained_iff]
    intro left right
    -- a record with nothing but the text in this context
    let message := String.ofList (left ++ text.toList ++ right)
    have hmessage : message.toList = left ++ text.toList ++ right := String.toList_ofList
    let r : Record := ⟨"", .info, message, Option.none, Option.none, []⟩
    have hholds : r.Holds text := .inl ⟨left, right, hmessage.symm⟩
    rcases passes_iff.mp (hall r hholds) with hnil | hin | ⟨s, hs, -⟩ | ⟨s, hs, -⟩
    · have hneedle : Text.lower text.toList = [] := hnil
      rw [hneedle]
      exact List.nil_infix
    · rw [← hmessage]
      exact hin
    · cases hs
    · cases hs
  · intro r more hself hr
    exact hfound hself r hr.of_append

/-- A logger is found by a part of its name in which a sigma stands before a full stop. -/
theorem verbatim_found_iff_typed :
    let r : Record := ⟨"t", .info, "up", some "ΑΣ.ΒΓ", Option.none, []⟩
    Text.SelfContained "ΑΣ.Β".toList ∧ r.Holds ("ΑΣ.Β" ++ "Γ") ∧
      passes ⟨"ΑΣ.Β"⟩ Option.none r = true := by
  intro r
  have hself : Text.SelfContained "ΑΣ.Β".toList := by decide
  have hholds : r.Holds ("ΑΣ.Β" ++ "Γ") := .inr (.inl ⟨"ΑΣ.ΒΓ", rfl, List.infix_refl _⟩)
  exact ⟨hself, hholds, (verbatim_found_iff "ΑΣ.Β").2 r "Γ" hself hholds⟩

/-- A record is hidden while the name of its logger is typed. -/
theorem verbatim_hidden :
    let r : Record := ⟨"t", .info, "up", some "ΑΣΑ", Option.none, []⟩
    r.Holds "ΑΣ" ∧ passes ⟨"Α"⟩ Option.none r = true ∧ passes ⟨"ΑΣ"⟩ Option.none r = false ∧
      passes ⟨"ΑΣΑ"⟩ Option.none r = true :=
  ⟨.inr (.inl ⟨"ΑΣΑ", rfl, [], ['Α'], rfl⟩), by decide⟩

end TextFilter

end LogTail
