import LogTail.Proofs.Json.Fields
import LogTail.Record.Wire

/-!
Records are read back from their text. However a record came to be, whatever its text left out, added,
repeated or spelled in another way, what it was read as is written in one form; and that form is read as
the same record, unless a number among its attributes is a float.
-/
namespace LogTail

open LogTail.Json

theorem Level.ofText_name (l : Level) : Level.ofText l.name = l := by
  cases l <;> rfl

namespace Record

structure Readable (r : Record) : Prop where
  logger : r.logger ≠ some ""
  caller : r.caller ≠ some ""
  attributes : (Value.object r.attributes).Readable (nesting - 1)

/-- No label is read as the empty text. -/
theorem label?_ne_empty {t : Tree} {s : Option String} (h : label? t = some s) : s ≠ some "" := by
  obtain ⟨s', -, rfl⟩ := Option.map_eq_some_iff.mp h
  intro hempty
  have hne := (Option.filter_eq_some_iff.mp hempty).2
  exact absurd hne (by decide)

/-- Attributes that were read make up an object that is read. -/
theorem attributes?_readable {room : ℕ} {t : Tree} {attributes : List (String × Value)}
    (h : attributes? (room + 1) t = some attributes) :
    (Value.object attributes).Readable (room + 1) := by
  unfold attributes? at h
  split at h
  case h_1 => cases h; exact .object .nil fun f hf => absurd hf List.not_mem_nil
  case h_2 =>
    split at h
    case h_1 hv => cases h; exact Tree.value?_readable _ hv
    case h_2 => cases h
  case h_3 => cases h

/-- What is read as a record has no empty label, and attributes that are read. -/
theorem parse?_readable {text : String} {r : Record} (h : parse? text = some r) : r.Readable := by
  obtain ⟨t, -, h⟩ := Option.bind_eq_some_iff.mp h
  simp only [ofTree?, Option.bind_eq_bind, Option.bind_eq_some_iff, Option.pure_def,
    Option.some_inj] at h
  obtain ⟨p, -, timestamp, -, level, -, message, -, logger, hlogger, caller, hcaller, attributes,
    hattributes, rfl⟩ := h
  -- timestamp, level and message may be anything
  have hlabel {name : String} {s : Option String} (hs : p.optional? name none label? = some s) :
      s ≠ some "" := by
    rcases Parts.optional?_cases hs with rfl | ⟨t, ht⟩
    · exact nofun
    · exact label?_ne_empty ht
  refine ⟨hlabel hlogger, hlabel hcaller, ?_⟩
  rcases Parts.optional?_cases hattributes with rfl | ⟨t, ht⟩
  · exact .object .nil fun f hf => absurd hf List.not_mem_nil
  · exact attributes?_readable ht

theorem fields_keys (r : Record) : (r.fields.map (·.1)).Sublist partNames := by
  obtain ⟨timestamp, level, message, logger, caller, attributes⟩ := r
  cases logger <;> cases caller <;> cases attributes <;> simp [fields, partNames]

/-- What is written of a record, part by part. -/
theorem fields_lookup (r : Record) :
    r.fields.lookup "timestamp" = some (.string r.timestamp) ∧
    r.fields.lookup "level" = some (.string r.level.name) ∧
    r.fields.lookup "message" = some (.string r.message) ∧
    r.fields.lookup "logger" = r.logger.map .string ∧
    r.fields.lookup "caller" = r.caller.map .string ∧
    r.fields.lookup "extra" =
      if r.attributes.isEmpty then none else some (.object r.attributes) := by
  obtain ⟨timestamp, level, message, logger, caller, attributes⟩ := r
  cases logger <;> cases caller <;> cases attributes <;>
    simp [fields, List.lookup_cons]

/-- Every part that is written of a record is read back as its value, provided its attributes have
no floats. -/
theorem fields_spell {r : Record} (h : r.Readable)
    (hfree : (Value.object r.attributes).floatFree = true) :
    ∀ f ∈ r.fields, Spells (nesting - 1) f.2.print f.2 := by
  have hstring (s : String) : Spells (nesting - 1) (Value.string s).print (.string s) :=
    Value.print_spells (.string s) rfl
  have hobject := Value.print_spells h.attributes hfree
  intro f hf
  simp only [fields, List.mem_append, List.mem_cons, List.not_mem_nil, or_false, Option.mem_toList,
    Option.map_eq_some_iff] at hf
  rcases hf with (((rfl | rfl | rfl) | ⟨s, -, rfl⟩) | ⟨s, -, rfl⟩) | hextra
  · exact hstring r.timestamp
  · exact hstring r.level.name
  · exact hstring r.message
  · exact hstring s
  · exact hstring s
  · split at hextra
    · exact absurd hextra List.not_mem_nil
    · rw [List.mem_singleton.mp hextra]
      exact hobject

theorem label?_string {t : Tree} {room : ℕ} {s : String} (hs : some s ≠ some "")
    (h : t.value? room = some (.string s)) : label? t = some (some s) := by
  have hne : s ≠ "" := fun hempty => hs (congrArg some hempty)
  have hkept : (some s).filter (· ≠ "") = some s := Option.filter_some_pos (by simpa using hne)
  rw [Tree.value?_shape h]
  exact congrArg some hkept

theorem attributes?_object {t : Tree} {room : ℕ} {attributes : List (String × Value)}
    (h : t.value? room = some (.object attributes)) : attributes? room t = some attributes := by
  obtain ⟨fs, rfl⟩ := Tree.value?_shape h
  rw [attributes?, h]

/-- A record that may be read is what its own text is read as. -/
theorem parse?_render {r : Record} (h : r.Readable)
    (hfree : (Value.object r.attributes).floatFree = true) : parse? r.render = some r := by
  -- the fields are not in the order of their keys, so the text is taken as a tree and not as a value
  obtain ⟨fs, hlex, hread⟩ := Value.print_object (fields_spell h hfree)
  obtain ⟨parts, hkeyed, hkeys, hlookup⟩ := Tree.keyed?_of_fields? hread
  have hparts : Tree.parts? partNames (.object fs) = some ⟨parts, false⟩ :=
    Tree.parts?_object hkeyed (hkeys ▸ r.fields_keys) (by decide)
  have hget (name : String) : ((⟨parts, false⟩ : Parts).get? name).map (Tree.value? (nesting - 1)) =
      (r.fields.lookup name).map some := hlookup name
  obtain ⟨htimestamp, hlevel, hmessage, hlogger, hcaller, hextra⟩ := r.fields_lookup
  -- what is left out comes back as its default
  have hlabel {name : String} {s : Option String} (hs : s ≠ some "")
      (hfield : r.fields.lookup name = s.map .string) :
      (⟨parts, false⟩ : Parts).optional? name none label? = some s := by
    cases s with
    | none => exact Parts.optional?_missing (by rw [hget, hfield]; rfl)
    | some s =>
      exact Parts.optional?_given (by rw [hget, hfield]; rfl) fun t ht => label?_string hs ht
  have hattributes : (⟨parts, false⟩ : Parts).optional? "extra" [] (attributes? (nesting - 1)) =
      some r.attributes := by
    split at hextra
    case isTrue hempty =>
      rw [List.isEmpty_iff.mp hempty]
      exact Parts.optional?_missing (by rw [hget, hextra]; rfl)
    case isFalse =>
      exact Parts.optional?_given (by rw [hget, hextra]; rfl) fun t ht => attributes?_object ht
  have htext {name s : String} (hfield : r.fields.lookup name = some (.string s)) :
      (⟨parts, false⟩ : Parts).required? name Tree.text? = some s :=
    Parts.required?_given (by rw [hget, hfield]; rfl) fun t ht => Tree.text?_of_value? ht
  have hoptional : (⟨parts, false⟩ : Parts).optional? "message" "" Tree.text? = some r.message :=
    Parts.optional?_given (by rw [hget, hmessage]; rfl) fun t ht => Tree.text?_of_value? ht
  have htree : Tree.parse? r.render.toList = some (.object fs) := by
    rw [render, Value.render, String.toList_ofList]
    exact Tree.parse?_of_lexes hlex
  rw [parse?, htree, Option.bind_some, ofTree?, hparts]
  simp only [Option.bind_eq_bind, Option.bind_some, htext htimestamp, htext hlevel, hoptional,
    hlabel h.logger hlogger, hlabel h.caller hcaller, hattributes, Level.ofText_name,
    Option.pure_def]

/-- Whatever text a record was read from, its own text is read as the same record and written in the same
way again, if no number that it keeps among its attributes is a float. -/
theorem wire_form_round_trips {text : String} {r : Record} (hread : parse? text = some r)
    (hfree : (Value.object r.attributes).floatFree = true) :
    parse? r.render = some r ∧ (parse? r.render).map render = some r.render := by
  have hback : parse? r.render = some r := parse?_render (parse?_readable hread) hfree
  exact ⟨hback, by rw [hback, Option.map_some]⟩

/-- An object with an unknown part, another spelling of the level, an empty part, an escape and a key that
is there twice. -/
theorem wire_form_round_trips_nested :
    ∃ r, parse? ("\x7b\"x\":[1.5,\x7b\"y\":null\x7d],\"level\":\" WRN\",\"timestamp\":\"t1\"," ++
        "\"logger\":\"\",\"extra\":\x7b\"b\":-3,\"a\":\"q\\\"\\u0041\",\"b\":[true,\x7b\x7d]\x7d\x7d") =
        some r ∧
      r.render = "\x7b\"timestamp\":\"t1\",\"level\":\"warn\",\"message\":\"\"," ++
        "\"extra\":\x7b\"a\":\"q\\\"A\",\"b\":[true,\x7b\x7d]\x7d\x7d" ∧
      parse? r.render = some r := by
  have hback {text written : String}
      (h : (parse? text).map (fun r => (r.render, (Value.object r.attributes).floatFree)) =
        some (written, true)) :
      ∃ r, parse? text = some r ∧ r.render = written ∧ parse? r.render = some r := by
    obtain ⟨r, hread, heq⟩ := Option.map_eq_some_iff.mp h
    obtain ⟨hrender, hfree⟩ := Prod.mk.inj heq
    exact ⟨r, hread, hrender, (wire_form_round_trips hread hfree).1⟩
  exact hback (by decide +kernel)

end Record

end LogTail
