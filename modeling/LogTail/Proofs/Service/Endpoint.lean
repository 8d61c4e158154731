import LogTail.Proofs.Url.Path
import LogTail.Service.Endpoint

/-!
The place where the service is reached lies below its base. A relative path takes the place of the last
name of the path that it leads on from, so the path of the base is first made to end in a slash; then no
name of it is lost, and it makes no difference whether the slash was there before.
-/
namespace LogTail

namespace Url

structure SamePlace (u v : Url) : Prop where
  scheme : u.scheme = v.scheme
  username : u.username = v.username
  password : u.password = v.password
  host : u.host = v.host
  port : u.port = v.port

def folderText (u : Url) : String :=
  if u.pathText.toList.getLast? = some '/' then u.pathText else u.pathText ++ "/"

structure IsEndpointOf (e u : Url) : Prop where
  place : e.SamePlace u
  rooted : e.isRootless = false
  path : e.pathText = u.folderText ++ "api/monitor"
  query : e.query = none
  fragment : e.fragment = none

theorem SamePlace.symm {u v : Url} (h : u.SamePlace v) : v.SamePlace u :=
  ⟨h.scheme.symm, h.username.symm, h.password.symm, h.host.symm, h.port.symm⟩

theorem SamePlace.trans {u v w : Url} (h : u.SamePlace v) (h' : v.SamePlace w) : u.SamePlace w :=
  ⟨h.scheme.trans h'.scheme, h.username.trans h'.username, h.password.trans h'.password,
    h.host.trans h'.host, h.port.trans h'.port⟩

/-- The names of a path without the empty one that a slash at its end leaves. -/
def trunk (names : List String) : List String :=
  if names.getLast? = some "" then names.dropLast else names

variable {scheme : String} {names : List String} {u : Url}

theorem pathChars_concat (names : List String) (name : String) :
    pathChars (names ++ [name]) = pathChars names ++ '/' :: name.toList := by
  rw [pathChars, List.flatMap_append, List.flatMap_singleton]
  rfl

theorem toList_pathText (h : u.path = .segments names) : u.pathText.toList = pathChars names := by
  rw [pathText, h]
  exact toList_join_slash names

/-- A path ends in a slash if and only if its last name is empty. -/
theorem getLast?_pathChars (h : SettledPath scheme names) :
    (pathChars names).getLast? = some '/' ↔ names.getLast? = some "" := by
  induction names using List.reverseRecOn with
  | nil => exact iff_of_false (by simp [pathChars]) (by simp)
  | append_singleton names name _ =>
    rw [pathChars_concat, List.getLast?_append_of_ne_nil _ (List.cons_ne_nil _ _), List.getLast?_concat]
    by_cases hname : name = ""
    · subst hname
      exact iff_of_true rfl rfl
    · have hne : name.toList ≠ [] := mt String.toList_eq_nil_iff.mp hname
      have hlast : name.toList.getLast? ≠ some '/' := fun hlast =>
        h.ne_slash name (by simp) '/' (List.mem_of_getLast? hlast) rfl
      rw [List.getLast?_cons_of_ne_nil hne]
      exact iff_of_false hlast fun h => hname (Option.some.inj h)

theorem trunk_concat (h : names.getLast? = some "") : trunk names ++ [""] = names := by
  rw [trunk, if_pos h]
  exact List.dropLast_append_getLast? "" h

theorem trunk_of_ne (h : names.getLast? ≠ some "") : trunk names = names :=
  if_neg h

/-- A path that is settled stays so without the slash at its end. -/
theorem SettledPath.trunk (h : SettledPath scheme names) : SettledPath scheme (trunk names) := by
  unfold Url.trunk
  split
  · exact h.dropLast
  · exact h

theorem toList_folderText (hsettled : SettledPath u.scheme names) (h : u.path = .segments names) :
    u.folderText.toList = pathChars (Url.trunk names ++ [""]) := by
  have hlast := getLast?_pathChars hsettled
  rw [← toList_pathText h] at hlast
  rw [folderText]
  split
  case isTrue hslash => rw [trunk_concat (hlast.mp hslash), toList_pathText h]
  case isFalse hslash =>
    rw [trunk_of_ne (mt hlast.mpr hslash), pathChars_concat, String.toList_append, toList_pathText h]
    rfl

/-- A folder has the same names, and then an empty one. -/
theorem asFolder_eq (hsettled : SettledPath u.scheme names) (h : u.path = .segments names) :
    u.asFolder = { u with path := .segments (Url.trunk names ++ [""]) } := by
  have hlast := getLast?_pathChars hsettled
  rw [← toList_pathText h] at hlast
  rw [asFolder]
  split
  case isTrue hslash => rw [trunk_concat (hlast.mp hslash), ← h]
  case isFalse hslash =>
    -- the path is read again together with the slash, which leaves its other names as they are
    have hchars : (u.pathText ++ "/").toList = pathChars (names ++ [""]) := by
      rw [String.toList_append, toList_pathText h, pathChars_concat]
      rfl
    have hrooted : ¬ u.isRootless = true := by simp [isRootless, h]
    rw [setPath, if_neg hrooted, hchars, readPath_pathChars hsettled.concat_empty (by simp),
      trunk_of_ne (mt hlast.mpr hslash)]

/-- Leaving the last name of a folder, which is empty, leads to the names before it. -/
theorem up_folder (isFile : Bool) (names : List String) : up isFile (names ++ [""]) = names := by
  have hdrive : (isFile && (names ++ [""]).length == 1 &&
      (names ++ [""]).any fun name => isDrive name.toList) = false := by
    cases names with
    | nil => cases isFile <;> rfl
    | cons name rest => simp
  rw [up, hdrive, if_neg Bool.false_ne_true, List.dropLast_concat]

/-- A name of letters, digits and a few signs is left as it is, unless it says to stay or to step
up. -/
theorem settledName_of_isFormSafe {name : List Char} (h : name.all isFormSafe = true)
    (hmoves : staysHere name = false ∧ stepsUp name = false) : SettledName scheme name where
  kept := fun c hc => leavesEncoded_escapedInPath.kept (.inr (List.all_eq_true.mp h c hc))
  whole := fun c hc => isSlash_eq_false (ne_slash_of_isFormSafe (.inr (List.all_eq_true.mp h c hc))) scheme
  moves := hmoves

/-- From a folder, the path of the endpoint leads on behind all its names. -/
theorem join_monitorPath (hsettled : SettledPath u.scheme names)
    (h : u.path = .segments (names ++ [""])) :
    u.join monitorPath = .ok { u with
      path := .segments (names ++ ["api", "monitor"])
      query := none
      fragment := none } := by
  have hslashes : ∀ c ∈ monitorPath.text, c = '/' ∨ isSlash u.scheme c = false := by
    intro c hc
    have hback : c ≠ '\\' := ne_of_mem_of_not_mem hc (by decide)
    exact (em (c = '/')).imp_right fun hslash => isSlash_eq_false ⟨hslash, hback⟩ u.scheme
  have hsegments : segmentsOf u.scheme monitorPath.text = ["api", "monitor"].map String.toList :=
    segmentsOf_of_slashes hslashes
  have hnext : SettledPath u.scheme (names ++ ["api", "monitor"]) := by
    have hapi : SettledName u.scheme "api".toList := settledName_of_isFormSafe (by decide) (by decide)
    have hmonitor : SettledName u.scheme "monitor".toList :=
      settledName_of_isFormSafe (by decide) (by decide)
    rw [List.append_cons]
    exact (hsettled.concat hapi fun _ _ => by decide).concat hmonitor fun _ _ => by decide
  rw [join, h]
  dsimp only
  -- the name that gives way is the empty one behind the slash
  rw [up_folder, hsegments, walkAll_of_settled hnext]

end Url

inductive NoBase (ascii? : List Char → Option (List Char)) (base : String) : String → Prop
  | unread {e : Url.UrlError} (h : Url.read ascii? base = .error e) : NoBase ascii? base e.message
  | rootless {u : Url} (h : Url.read ascii? base = .ok u) (hrootless : u.isRootless = true) :
      NoBase ascii? base "not a hierarchical url"

def Url.below (u : Url) (names : List String) : Url :=
  { u with
    path := .segments (Url.trunk names ++ ["api", "monitor"])
    query := none
    fragment := none }

variable {ascii? : List Char → Option (List Char)} {base : String} {u : Url} {names : List String}

/-- The endpoint of a base with names is below these names. -/
theorem endpoint_of_segments (hread : Url.read ascii? base = .ok u) (h : u.path = .segments names) :
    endpointBy ascii? base = .ok (u.below names) := by
  have hsettled := Url.settledIn_read hread names h
  have hrooted : ¬ u.isRootless = true := by simp [Url.isRootless, h]
  have hjoin : u.asFolder.join monitorPath = .ok (u.below names) := by
    rw [Url.asFolder_eq hsettled h]
    exact Url.join_monitorPath hsettled.trunk rfl
  rw [endpointBy, hread]
  dsimp only
  rw [if_neg hrooted, hjoin]
  rfl

/-- What is no base is reported with the text and the reason. -/
theorem NoBase.endpoint_eq {reason : String} (h : NoBase ascii? base reason) :
    endpointBy ascii? base = .error (.invalidUrl base reason) := by
  cases h with
  | unread hread => rw [endpointBy, hread]
  | rootless hread hrootless =>
    rw [endpointBy, hread]
    exact if_pos hrootless

/-- Every text is a URL with a path to build upon, or there is a reason why it is not. -/
theorem noBase_or_segments (ascii? : List Char → Option (List Char)) (base : String) :
    (∃ reason, NoBase ascii? base reason) ∨
      ∃ u names, Url.read ascii? base = .ok u ∧ u.path = .segments names := by
  cases hread : Url.read ascii? base with
  | error e => exact .inl ⟨e.message, .unread hread⟩
  | ok u =>
    cases hpath : u.path with
    | rootless text => exact .inl ⟨_, .rootless hread (by rw [Url.isRootless, hpath])⟩
    | segments names => exact .inr ⟨u, names, rfl, hpath⟩

/-- No endpoint is given exactly where the text is no base. -/
theorem endpoint_eq_error_iff {fault : Fault} :
    endpointBy ascii? base = .error fault ↔
      ∃ reason, NoBase ascii? base reason ∧ fault = .invalidUrl base reason := by
  constructor
  · intro h
    rcases noBase_or_segments ascii? base with ⟨reason, hreason⟩ | ⟨u, names, hread, hpath⟩
    · rw [hreason.endpoint_eq] at h
      exact ⟨reason, hreason, (Except.error.inj h).symm⟩
    · rw [endpoint_of_segments hread hpath] at h
      cases h
  · rintro ⟨reason, hreason, rfl⟩
    exact hreason.endpoint_eq

/-- Every endpoint comes about in one way, from the settled path of its base. -/
theorem below_of_endpoint {e : Url} (h : endpointBy ascii? base = .ok e) :
    ∃ u names, Url.read ascii? base = .ok u ∧ u.path = .segments names ∧
      Url.SettledPath u.scheme names ∧ e = u.below names := by
  rcases noBase_or_segments ascii? base with ⟨reason, hreason⟩ | ⟨u, names, hread, hpath⟩
  · rw [hreason.endpoint_eq] at h
    cases h
  · rw [endpoint_of_segments hread hpath] at h
    exact ⟨u, names, hread, hpath, Url.settledIn_read hread names hpath, (Except.ok.inj h).symm⟩

/-- What is below a URL is at the same place, has no query and no fragment, and continues the path.
-/
theorem Url.isEndpointOf_below (hsettled : SettledPath u.scheme names) (h : u.path = .segments names) :
    (u.below names).IsEndpointOf u where
  place := ⟨rfl, rfl, rfl, rfl, rfl⟩
  rooted := rfl
  path := by
    apply String.toList_injective
    rw [String.toList_append, toList_folderText hsettled h, pathChars_concat, toList_pathText rfl,
      List.append_cons, pathChars_concat, pathChars_concat, List.append_assoc, List.append_assoc]
    rfl
  query := rfl
  fragment := rfl

/-- Two folders that are written alike have the same names. -/
theorem Url.trunk_eq_of_folderText {v : Url} {names' : List String} (hplace : u.SamePlace v)
    (hu : SettledPath u.scheme names) (hv : SettledPath v.scheme names')
    (hupath : u.path = .segments names) (hvpath : v.path = .segments names')
    (h : u.folderText = v.folderText) : trunk names = trunk names' := by
  have hchars := congrArg String.toList h
  rw [toList_folderText hu hupath, toList_folderText hv hvpath] at hchars
  have hv' : SettledPath u.scheme (trunk names' ++ [""]) := hplace.scheme ▸ hv.trunk.concat_empty
  exact List.append_cancel_right (pathChars_injective hu.trunk.concat_empty hv' hchars)

/-- Whatever the rule for domains: the endpoint is at the place of its base, and the whole path of the base
stands before its own. A text has none only if it is no URL or if its path cannot be built upon. Of two bases,
the endpoints are the same if and only if they are at the same place and their paths differ at most in the
slash at the end. -/
theorem endpoint_keeps_path (ascii? : List Char → Option (List Char)) (base other : String) :
    (∀ fault, endpointBy ascii? base = .error fault ↔
      ∃ reason, NoBase ascii? base reason ∧ fault = .invalidUrl base reason) ∧
    (∀ e, endpointBy ascii? base = .ok e → ∃ u, Url.read ascii? base = .ok u ∧ e.IsEndpointOf u) ∧
    ∀ u v e f, Url.read ascii? base = .ok u → Url.read ascii? other = .ok v →
      endpointBy ascii? base = .ok e → endpointBy ascii? other = .ok f →
      (e = f ↔ u.SamePlace v ∧ u.folderText = v.folderText) := by
  refine ⟨fun fault => endpoint_eq_error_iff, fun e he => ?_, fun u v e f hu hv he hf => ?_⟩
  · obtain ⟨u, names, hread, hpath, hsettled, rfl⟩ := below_of_endpoint he
    exact ⟨u, hread, Url.isEndpointOf_below hsettled hpath⟩
  · obtain ⟨u', names, hread, hpath, hsettled, rfl⟩ := below_of_endpoint he
    obtain rfl := Except.ok.inj (hu.symm.trans hread)
    obtain ⟨v', names', hread', hpath', hsettled', rfl⟩ := below_of_endpoint hf
    obtain rfl := Except.ok.inj (hv.symm.trans hread')
    have hbelow := Url.isEndpointOf_below hsettled hpath
    have hbelow' := Url.isEndpointOf_below hsettled' hpath'
    constructor
    · intro heq
      rw [heq] at hbelow
      have htext := congrArg String.toList (hbelow.path.symm.trans hbelow'.path)
      rw [String.toList_append, String.toList_append] at htext
      exact ⟨hbelow.place.symm.trans hbelow'.place,
        String.toList_injective (List.append_cancel_right htext)⟩
    · rintro ⟨hplace, htext⟩
      have hnames := Url.trunk_eq_of_folderText hplace hsettled hsettled' hpath hpath' htext
      rw [Url.below, Url.below, hnames, hplace.scheme, hplace.username, hplace.password, hplace.host,
        hplace.port]

/-- A base with a user, a port, a path without a slash at its end, a query and a fragment has the same
endpoint as one with the slash and nothing behind it. A mail address is no base, and neither is a URL whose
host is no text. -/
theorem endpoint_keeps_path_beside_query :
    ∃ u v e f, Url.read Url.domain? "http://me:pw@H:8080/a b/%7e?x=1#f" = .ok u ∧
      Url.read Url.domain? "http://me:pw@h:8080/a b/%7e/" = .ok v ∧
      endpoint "http://me:pw@H:8080/a b/%7e?x=1#f" = .ok e ∧
      endpoint "http://me:pw@h:8080/a b/%7e/" = .ok f ∧
      e = f ∧ e.IsEndpointOf u ∧ e.render = "http://me:pw@h:8080/a%20b/%7e/api/monitor" ∧
      endpoint "mailto:me" = .error (.invalidUrl "mailto:me" "not a hierarchical url") ∧
      endpoint "http://%ff/" = .error (.invalidUrl "http://%ff/" "invalid international domain name") := by
  let u : Url :=
    ⟨"http", "me", "pw", some "h", some 8080, .segments ["a%20b", "%7e"], some "x=1", some "f"⟩
  let v : Url := ⟨"http", "me", "pw", some "h", some 8080, .segments ["a%20b", "%7e", ""], none, none⟩
  have hu : Url.read Url.domain? "http://me:pw@H:8080/a b/%7e?x=1#f" = .ok u := by decide +kernel
  have hv : Url.read Url.domain? "http://me:pw@h:8080/a b/%7e/" = .ok v := by decide +kernel
  have he := endpoint_of_segments hu rfl
  have hf := endpoint_of_segments hv rfl
  obtain ⟨-, hbelow, hsame⟩ := endpoint_keeps_path Url.domain? "http://me:pw@H:8080/a b/%7e?x=1#f"
    "http://me:pw@h:8080/a b/%7e/"
  obtain ⟨u', hread, hendpoint⟩ := hbelow _ he
  obtain rfl := Except.ok.inj (hu.symm.trans hread)
  have hplace : u.SamePlace v := ⟨rfl, rfl, rfl, rfl, rfl⟩
  have hfolder : u.folderText = v.folderText := by decide +kernel
  have hmail : NoBase Url.domain? "mailto:me" "not a hierarchical url" :=
    .rootless (u := ⟨"mailto", "", "", none, none, .rootless "me", none, none⟩) (by decide +kernel) rfl
  have hhost : NoBase Url.domain? "http://%ff/" "invalid international domain name" :=
    .unread (e := .invalidDomain) (by decide +kernel)
  obtain ⟨hrefused, -, -⟩ := endpoint_keeps_path Url.domain? "mailto:me" "mailto:me"
  obtain ⟨hrefused', -, -⟩ := endpoint_keeps_path Url.domain? "http://%ff/" "http://%ff/"
  exact ⟨u, v, _, _, hu, hv, he, hf, (hsame u v _ _ hu hv he hf).mpr ⟨hplace, hfolder⟩, hendpoint,
    by decide +kernel, (hrefused _).mpr ⟨_, hmail, rfl⟩, (hrefused' _).mpr ⟨_, hhost, rfl⟩⟩

end LogTail
