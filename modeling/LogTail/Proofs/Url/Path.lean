import LogTail.Proofs.Url.Steps

/-!
The paths of URLs. Reading a path leaves names in which there is nothing left to do: no slash, nothing to
be escaped, no step up or to the same place, and a drive, if a file has one, in its usual form. So a path
that is written and read again is the same path.
-/
namespace LogTail.Url

open LogTail.Number LogTail.Text

/-- Whether a name is as it is left by reading a path. -/
structure SettledName (scheme : String) (name : List Char) : Prop where
  kept : ∀ c ∈ name, Kept escapedInPath c
  whole : ∀ c ∈ name, isSlash scheme c = false
  moves : staysHere name = false ∧ stepsUp name = false

/-- Whether a name can be the first of a path: if it is a drive of files, then in its usual form. -/
def MayBeFirst (scheme : String) (name : List Char) : Prop :=
  scheme = "file" → isDrive name = true → name.getLast? = some ':'

/-- Whether the names of a path are as they are left by reading it. -/
structure SettledPath (scheme : String) (path : List String) : Prop where
  names : ∀ name ∈ path, SettledName scheme name.toList
  first : ∀ name ∈ path.head?, MayBeFirst scheme name.toList

variable {scheme : String} {path : List String} {segment : List Char}
  {ascii? : List Char → Option (List Char)}

theorem SettledName.nil (scheme : String) : SettledName scheme [] where
  kept := fun _ h => by cases h
  whole := fun _ h => by cases h
  moves := ⟨rfl, rfl⟩

theorem SettledPath.nil (scheme : String) : SettledPath scheme [] where
  names := fun _ h => by cases h
  first := fun _ h => by cases h

/-- A path can be continued with a settled name, if it has none with one that may be first. -/
theorem SettledPath.concat (h : SettledPath scheme path) {name : String}
    (hname : SettledName scheme name.toList) (hfirst : path = [] → MayBeFirst scheme name.toList) :
    SettledPath scheme (path ++ [name]) where
  names := by
    intro x hx
    rcases List.mem_append.mp hx with hx | hx
    · exact h.names x hx
    · exact List.mem_singleton.mp hx ▸ hname
  first := by
    intro x hx
    cases path with
    | nil => exact Option.mem_some.mp hx ▸ hfirst rfl
    | cons y rest => exact h.first x hx

theorem SettledPath.concat_empty (h : SettledPath scheme path) : SettledPath scheme (path ++ [""]) :=
  h.concat (.nil scheme) fun _ _ hdrive => by cases hdrive

theorem SettledPath.dropLast (h : SettledPath scheme path) : SettledPath scheme path.dropLast where
  names := fun x hx => h.names x ((List.dropLast_sublist path).subset hx)
  first := by
    intro x hx
    rw [List.head?_dropLast] at hx
    split at hx
    · exact h.first x hx
    · cases hx

/-- A step up keeps a path settled. -/
theorem SettledPath.up (h : SettledPath scheme path) (isFile : Bool) :
    SettledPath scheme (up isFile path) := by
  unfold Url.up
  split
  · exact h
  · exact h.dropLast

theorem isSlash_eq_false {c : Char} (h : c ≠ '/' ∧ c ≠ '\\') (scheme : String) :
    isSlash scheme c = false := by
  simp [isSlash, h.1, h.2]

theorem ne_slash_of_isFormSafe {c : Char} (h : c = '%' ∨ isFormSafe c = true) :
    c ≠ '/' ∧ c ≠ '\\' := by
  rcases h with rfl | h
  · decide
  · exact ⟨ne_of_isFormSafe h rfl, ne_of_isFormSafe h rfl⟩

/-- A segment that moves nowhere becomes a name that stays as it is. -/
theorem settledName_percentEncode (hwhole : ∀ c ∈ segment, isSlash scheme c = false)
    (hmoves : staysHere segment = false ∧ stepsUp segment = false) :
    SettledName scheme (percentEncode escapedInPath segment) where
  kept := fun c hc => leavesEncoded_escapedInPath.kept_of_mem hc
  whole := by
    intro c hc
    rcases mem_percentEncode hc with ⟨hmem, -⟩ | hsafe
    · exact hwhole c hmem
    · exact isSlash_eq_false (ne_slash_of_isFormSafe hsafe) scheme
  moves := by
    obtain ⟨hhere, hup⟩ := steps_percentEncode segment
    rw [hhere, hup]
    exact hmoves

theorem isDrive_iff {cs : List Char} : isDrive cs = true ↔
    ∃ letter sign, cs = [letter, sign] ∧ letter.isAlpha = true ∧ (sign = ':' ∨ sign = '|') := by
  match cs with
  | [] => simp [isDrive]
  | [_] => simp [isDrive]
  | [letter, sign] => simp [isDrive]
  | _ :: _ :: _ :: _ => simp [isDrive]

theorem isFormSafe_of_isAlpha {c : Char} (h : c.isAlpha = true) : isFormSafe c = true := by
  simp [isFormSafe, Char.isAlphanum, h]

/-- What names a drive when it is encoded names it before. -/
theorem isDrive_of_percentEncode (h : isDrive (percentEncode escapedInPath segment) = true) :
    isDrive segment = true := by
  obtain ⟨letter, sign, henc, hletter, hsign⟩ := isDrive_iff.mp h
  have hsign' : sign ≠ '%' := by rcases hsign with rfl | rfl <;> decide
  have hletter' : letter ≠ '%' := ne_of_isFormSafe (isFormSafe_of_isAlpha hletter) rfl
  obtain ⟨cs, rfl, hcs⟩ := percentEncode_eq_cons hletter' henc
  obtain ⟨cs', rfl, hcs'⟩ := percentEncode_eq_cons hsign' hcs
  obtain rfl : cs' = [] := by
    have hsame := percentDecode_percentEncode leavesEncoded_escapedInPath cs'
    rw [hcs'] at hsame
    exact percentDecode_eq_nil hsame.symm
  exact isDrive_iff.mpr ⟨letter, sign, rfl, hletter, hsign⟩

/-- A drive in its usual form is a name that stays as it is. -/
theorem settledName_drive {letter : Char} (h : letter.isAlpha = true) : SettledName scheme [letter, ':'] where
  kept := by
    have hletter := isFormSafe_of_isAlpha h
    have hkept : Kept escapedInPath letter := leavesEncoded_escapedInPath.kept (.inr hletter)
    have hsign : Kept escapedInPath ':' := ⟨rfl, by decide⟩
    simp [hkept, hsign]
  whole := by
    have hletter := isSlash_eq_false (ne_slash_of_isFormSafe (.inr (isFormSafe_of_isAlpha h))) scheme
    have hsign : isSlash scheme ':' = false := isSlash_eq_false (by decide) scheme
    simp [hletter, hsign]
  moves := by
    have hsign : Char.toLower ':' = ':' := rfl
    simp [staysHere, stepsUp, hsign]

/-- One segment keeps a path settled, whatever stands in it: it stays, steps up, or adds its name
escaped. -/
theorem SettledPath.walk (h : SettledPath scheme path) (hwhole : ∀ c ∈ segment, isSlash scheme c = false)
    (isLast : Bool) : SettledPath scheme (walk (scheme == "file") path segment isLast) := by
  -- a step at the end of a path leaves an empty name behind it
  have hplace {path' : List String} (h' : SettledPath scheme path') :
      SettledPath scheme (path' ++ (if isLast then [""] else [])) := by
    cases isLast with
    | true => exact h'.concat_empty
    | false => exact (List.append_nil path').symm ▸ h'
  unfold Url.walk
  split
  case isTrue => exact hplace (h.up _)
  case isFalse hup =>
    split
    case isTrue => exact hplace h
    case isFalse hhere =>
      have hname := settledName_percentEncode hwhole ⟨Bool.eq_false_of_not_eq_true hhere,
        Bool.eq_false_of_not_eq_true hup⟩
      dsimp only
      split
      case isTrue hfirst =>
        obtain ⟨letter, sign, rfl, hletter, -⟩ := isDrive_iff.mp (Bool.and_eq_true_iff.mp hfirst).2
        have hkept := leavesEncoded_escapedInPath.kept (.inr (isFormSafe_of_isAlpha hletter))
        rw [percentEncode_cons_of_kept hkept]
        refine h.concat (String.toList_ofList.symm ▸ settledName_drive hletter) fun _ _ _ => ?_
        rw [String.toList_ofList]
        rfl
      case isFalse hlater =>
        refine h.concat (String.toList_ofList.symm ▸ hname) ?_
        -- were the first name of a file a drive now, it would have been one before it was encoded
        rintro rfl rfl hdrive
        rw [String.toList_ofList] at hdrive
        exact absurd (isDrive_of_percentEncode hdrive) (by simpa using hlater)

/-- The same of all segments of a text. -/
theorem SettledPath.walkAll {segments : List (List Char)} (h : SettledPath scheme path)
    (hwhole : ∀ segment ∈ segments, ∀ c ∈ segment, isSlash scheme c = false) :
    SettledPath scheme (walkAll (scheme == "file") path segments) := by
  induction segments generalizing path with
  | nil => exact h
  | cons segment rest ih =>
    have hfirst := hwhole segment List.mem_cons_self
    cases rest with
    | nil => exact h.walk hfirst true
    | cons next rest => exact ih (h.walk hfirst false) fun s hs => hwhole s (List.mem_cons_of_mem segment hs)

/-- The parts of a text have its characters and no separators. -/
theorem mem_of_mem_splitAt {d : Char} {cs part : List Char} (hpart : part ∈ splitAt d cs) :
    ∀ c ∈ part, c ∈ cs ∧ c ≠ d := by
  induction cs generalizing part with
  | nil =>
    obtain rfl := List.mem_singleton.mp hpart
    exact fun c hc => by cases hc
  | cons x rest ih =>
    by_cases hx : x = d
    · subst hx
      rw [splitAt_cons] at hpart
      rcases List.mem_cons.mp hpart with rfl | hpart
      · exact fun c hc => by cases hc
      · exact fun c hc => ⟨List.mem_cons_of_mem x (ih hpart c hc).1, (ih hpart c hc).2⟩
    · obtain ⟨first, parts, hrest⟩ := List.exists_cons_of_ne_nil (splitAt_ne_nil d rest)
      rw [splitAt_cons_of_ne hx hrest] at hpart
      intro c hc
      rcases List.mem_cons.mp hpart with rfl | hpart
      · rcases List.mem_cons.mp hc with rfl | hc
        · exact ⟨List.mem_cons_self, hx⟩
        · have hfirst := ih (hrest ▸ List.mem_cons_self) c hc
          exact ⟨List.mem_cons_of_mem x hfirst.1, hfirst.2⟩
      · have hlater := ih (hrest ▸ List.mem_cons_of_mem first hpart) c hc
        exact ⟨List.mem_cons_of_mem x hlater.1, hlater.2⟩

theorem whole_of_mem_segmentsOf {cs : List Char} (h : segment ∈ segmentsOf scheme cs) :
    ∀ c ∈ segment, isSlash scheme c = false := by
  intro c hc
  obtain ⟨hmem, hne⟩ := mem_of_mem_splitAt h c hc
  obtain ⟨x, -, hx⟩ := List.mem_map.mp hmem
  split at hx
  · exact absurd hx.symm hne
  · exact hx ▸ Bool.eq_false_of_not_eq_true ‹_›

/-- What is read is settled. -/
theorem readPath_settled {cs : List Char} {names : List String}
    (h : readPath scheme cs = .segments names) : SettledPath scheme names := by
  unfold readPath at h
  split at h
  · exact UrlPath.segments.inj h ▸ .nil scheme
  · rw [← UrlPath.segments.inj h]
    exact (SettledPath.nil scheme).walkAll fun _ => whole_of_mem_segmentsOf

/-- A settled name is added as it is. -/
theorem walk_of_settled {name : String} (h : SettledName scheme name.toList)
    (hfirst : path = [] → MayBeFirst scheme name.toList) (isLast : Bool) :
    walk (scheme == "file") path name.toList isLast = path ++ [name] := by
  rw [Url.walk, h.moves.1, h.moves.2, percentEncode_of_kept h.kept, if_neg Bool.false_ne_true,
    if_neg Bool.false_ne_true]
  dsimp only
  split
  case isTrue hdrive =>
    simp only [Bool.and_eq_true, beq_iff_eq, List.isEmpty_iff] at hdrive
    obtain ⟨⟨hscheme, hpath⟩, hdrive⟩ := hdrive
    have hsign := hfirst hpath hscheme hdrive
    obtain ⟨letter, sign, hname, -⟩ := isDrive_iff.mp hdrive
    rw [hname] at hsign ⊢
    obtain rfl : sign = ':' := Option.some.inj hsign
    change path ++ [String.ofList [letter, ':']] = path ++ [name]
    rw [← hname, String.ofList_toList]
  case isFalse => rw [String.ofList_toList]

/-- Names that are settled are gone along as they are. -/
theorem walkAll_of_settled {names : List String} (h : SettledPath scheme (path ++ names)) :
    walkAll (scheme == "file") path (names.map String.toList) = path ++ names := by
  induction names generalizing path with
  | nil => exact (List.append_nil path).symm
  | cons name rest ih =>
    have hwalk : ∀ isLast, walk (scheme == "file") path name.toList isLast = path ++ [name] :=
      walk_of_settled (h.names name (by simp)) (by rintro rfl; exact h.first name rfl)
    cases rest with
    | nil => exact hwalk true
    | cons next rest =>
      rw [List.append_cons] at h ⊢
      rw [← ih h, ← hwalk false]
      rfl

def pathChars (names : List String) : List Char :=
  names.flatMap fun name => '/' :: name.toList

theorem toList_join_slash (names : List String) :
    (String.join (names.map ("/" ++ ·))).toList = pathChars names := by
  rw [String.toList_join, List.flatMap_map]
  refine List.flatMap_congr fun name _ => ?_
  exact String.toList_append

/-- The names are found again between the slashes. -/
theorem splitAt_pathChars {names : List String} (h : ∀ name ∈ names, ∀ c ∈ name.toList, c ≠ '/') :
    splitAt '/' (pathChars names) = [] :: names.map String.toList := by
  induction names with
  | nil => rfl
  | cons name rest ih =>
    have hrest := ih fun x hx => h x (List.mem_cons_of_mem name hx)
    have hname := splitAt_append (h name List.mem_cons_self) hrest
    rw [List.append_nil] at hname
    rw [pathChars, List.flatMap_cons, List.cons_append, splitAt_cons]
    exact congrArg ([] :: ·) hname

theorem SettledPath.ne_slash (h : SettledPath scheme path) :
    ∀ name ∈ path, ∀ c ∈ name.toList, c ≠ '/' := by
  rintro name hname c hc rfl
  exact Bool.noConfusion ((h.names name hname).whole _ hc)

/-- Two settled paths that are written alike are the same. -/
theorem pathChars_injective {names : List String} (h : SettledPath scheme path)
    (h' : SettledPath scheme names) (heq : pathChars path = pathChars names) : path = names := by
  have hsplit := splitAt_pathChars h.ne_slash
  rw [heq, splitAt_pathChars h'.ne_slash] at hsplit
  exact List.map_injective_iff.mpr (fun _ _ => String.toList_injective) (List.cons.inj hsplit).2.symm

/-- No character of a settled path has to be escaped. -/
theorem SettledPath.kept (h : SettledPath scheme path) : ∀ c ∈ pathChars path, Kept escapedInPath c := by
  intro c hc
  obtain ⟨name, hname, hc⟩ := List.mem_flatMap.mp hc
  rcases List.mem_cons.mp hc with rfl | hc
  · exact ⟨rfl, by decide⟩
  · exact (h.names name hname).kept c hc

theorem SettledPath.slashes (h : SettledPath scheme path) :
    ∀ c ∈ pathChars path, c = '/' ∨ isSlash scheme c = false := by
  intro c hc
  obtain ⟨name, hname, hc⟩ := List.mem_flatMap.mp hc
  exact (List.mem_cons.mp hc).imp_right ((h.names name hname).whole c)

theorem unbroken_of_kept {cs : List Char} (h : ∀ c ∈ cs, Kept escapedInPath c) : unbroken cs = cs := by
  refine List.filter_eq_self.mpr fun c hc => ?_
  have hne {d : Char} (hd : escapedInPath d = true) : c ≠ d := by
    rintro rfl
    exact Bool.noConfusion ((h c hc).1.symm.trans hd)
  have htab : c ≠ '\t' := hne rfl
  have hline : c ≠ '\n' := hne rfl
  have hreturn : c ≠ '\r' := hne rfl
  simp [htab, hline, hreturn]

/-- Where no backslash counts as a slash, a text is split at its slashes. -/
theorem segmentsOf_of_slashes {cs : List Char} (h : ∀ c ∈ cs, c = '/' ∨ isSlash scheme c = false) :
    segmentsOf scheme cs = splitAt '/' cs := by
  refine congrArg (splitAt '/') ((List.map_congr_left fun c hc => ?_).trans cs.map_id)
  rcases h c hc with rfl | hc
  · rfl
  · exact if_neg (Bool.eq_false_iff.mp hc)

/-- A path that was read is read again as it is written. -/
theorem readPath_pathChars (h : SettledPath scheme path) (hne : path ≠ []) :
    readPath scheme (unbroken (pathChars path)) = .segments path := by
  obtain ⟨name, rest, rfl⟩ := List.exists_cons_of_ne_nil hne
  obtain ⟨cs, hcs⟩ : ∃ cs, pathChars (name :: rest) = '/' :: cs := ⟨_, rfl⟩
  have hsegments : segmentsOf scheme cs = (name :: rest).map String.toList := by
    have hslashes := h.slashes
    have hsplit := splitAt_pathChars h.ne_slash
    rw [hcs] at hslashes hsplit
    rw [splitAt_cons] at hsplit
    rw [segmentsOf_of_slashes fun c hc => hslashes c (List.mem_cons_of_mem _ hc)]
    exact (List.cons.inj hsplit).2
  have hwalk : walkAll (scheme == "file") [] ((name :: rest).map String.toList) = [] ++ name :: rest :=
    walkAll_of_settled h
  rw [unbroken_of_kept h.kept, hcs, readPath, if_neg (by simp)]
  change UrlPath.segments (walkAll (scheme == "file") [] (segmentsOf scheme cs)) = _
  rw [hsegments, hwalk]
  rfl

def SettledIn (scheme : String) (path : UrlPath) : Prop :=
  ∀ names, path = .segments names → SettledPath scheme names

def Reads (scheme : String) (result : Except UrlError Url) : Prop :=
  ∀ u, result = .ok u → u.scheme = scheme ∧ SettledIn scheme u.path

theorem settledIn_readPath (scheme : String) (cs : List Char) : SettledIn scheme (readPath scheme cs) :=
  fun _ => readPath_settled

theorem bind_eq_ok {α β : Type} {m : Except UrlError α} {f : α → Except UrlError β} {b : β}
    (h : (m >>= f) = .ok b) : ∃ a, m = .ok a ∧ f a = .ok b := by
  cases m with
  | error e => cases h
  | ok a => exact ⟨a, rfl, h⟩

theorem reads_bind {α : Type} {m : Except UrlError α} {f : α → Except UrlError Url}
    (h : ∀ a, Reads scheme (f a)) : Reads scheme (m >>= f) := by
  intro u hu
  obtain ⟨a, -, ha⟩ := bind_eq_ok hu
  exact h a u ha

theorem reads_ite {p : Prop} [Decidable p] {a b : Except UrlError Url} (ha : Reads scheme a)
    (hb : Reads scheme b) : Reads scheme (if p then a else b) := by
  split
  · exact ha
  · exact hb

theorem reads_ok {u : Url} (hscheme : u.scheme = scheme) (h : SettledIn scheme u.path) :
    Reads scheme (.ok u) := by
  intro v hv
  obtain rfl := Except.ok.inj hv
  exact ⟨hscheme, h⟩

/-- The authority has no say in the path. -/
theorem reads_authority {path : UrlPath} (h : SettledIn scheme path) (cs : List Char) :
    Reads scheme (readAuthority ascii? scheme cs path) := by
  unfold readAuthority
  dsimp only
  -- whichever way the host is read, a port follows, and then the URL is put together
  refine reads_ite (reads_bind fun _ => reads_ite ?_ ?_) (reads_ite ?_ ?_) <;>
    exact reads_bind fun _ => reads_bind fun _ => reads_ok rfl h

/-- A file has a settled path, with or without a host. -/
theorem reads_file (cs : List Char) : Reads "file" (readFile ascii? cs) := by
  have hpath := settledIn_readPath "file"
  unfold readFile
  dsimp only
  split
  case h_1 a b rest =>
    refine reads_ite (reads_ite (reads_ok rfl (hpath _)) (reads_ite ?_ ?_))
      (reads_ok rfl (hpath (a :: b :: rest))) <;>
      exact reads_bind fun _ => reads_ok rfl (hpath _)
  case h_2 => exact reads_ok rfl (hpath _)

/-- Whatever follows the scheme, the path that is read is settled. -/
theorem reads_rest (scheme : String) (cs : List Char) : Reads scheme (readRest ascii? scheme cs) := by
  have hpath := settledIn_readPath scheme
  unfold readRest
  split
  case isTrue hfile => exact hfile ▸ reads_file cs
  case isFalse =>
    refine reads_ite (reads_authority (hpath _) _) ?_
    split
    case h_1 => exact reads_authority (hpath _) _
    case h_2 rest _ => exact reads_ok rfl (hpath ('/' :: rest))
    case h_3 => exact reads_ok rfl fun _ h => by cases h

/-- What is read of a text has a settled path. -/
theorem settledIn_read {text : String} {u : Url} (h : Url.read ascii? text = .ok u) :
    SettledIn u.scheme u.path := by
  unfold Url.read at h
  obtain ⟨place, hplace, hu⟩ := bind_eq_ok h
  obtain rfl := Except.ok.inj hu
  unfold readPlace at hplace
  dsimp only at hplace
  split at hplace
  case h_2 => cases hplace
  case h_1 =>
    split at hplace
    case isFalse => cases hplace
    case isTrue =>
      obtain ⟨hscheme, hpath⟩ := reads_rest _ _ _ hplace
      exact hscheme ▸ hpath

end LogTail.Url
