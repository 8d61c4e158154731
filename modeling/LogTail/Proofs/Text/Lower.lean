import Mathlib.Data.List.TakeWhile
import LogTail.Text.Lower

/-!
Lower case in context. All characters are lowered on their own but for the capital sigma, whose form
depends on the letters around it. So a part of a text may be lowered in another way than the same
characters alone, and it is only if one of its sigmas is not decided within the part.
-/
namespace LogTail.Text

def lowerBy (closes : List Char → List Char → Bool) (before : List Char) : List Char → List Char
  | [] => []
  | c :: rest =>
    (if c = 'Σ' then [if closes before rest then 'ς' else 'σ'] else lowerChar c) ++
      lowerBy closes (c :: before) rest

variable {f g : List Char → List Char → Bool} {before after cs : List Char}

theorem lowerChar_sigma : lowerChar 'Σ' = ['σ'] := by
  decide

/-- Lowering is one of a family, in which a sigma is final by some rule. -/
theorem lowerAfter_eq_lowerBy (before cs : List Char) :
    lowerAfter before cs = lowerBy closesWord before cs := by
  induction cs generalizing before with
  | nil => rfl
  | cons c rest ih => rw [lowerAfter, lowerBy, ih]

theorem lower_eq_lowerBy (cs : List Char) : lower cs = lowerBy closesWord [] cs :=
  lowerAfter_eq_lowerBy [] cs

/-- Lowering each character on its own is another one, in which no sigma is final. -/
theorem lowerEach_eq_lowerBy (before cs : List Char) :
    lowerEach cs = lowerBy (fun _ _ => false) before cs := by
  induction cs generalizing before with
  | nil => rfl
  | cons c rest ih =>
    have hhead : lowerChar c = if c = 'Σ' then ['σ'] else lowerChar c := by
      split
      case isTrue h => rw [h, lowerChar_sigma]
      case isFalse => rfl
    rw [lowerEach, List.flatMap_cons, ← lowerEach, ih (c :: before), hhead]
    rfl

/-- A text in two parts is lowered part by part, where the rule sees beyond them. -/
theorem lowerBy_append (before cs after : List Char) :
    lowerBy f before (cs ++ after) =
      lowerBy (fun x y => f x (y ++ after)) before cs ++ lowerBy f (cs.reverse ++ before) after := by
  induction cs generalizing before with
  | nil => rfl
  | cons c rest ih =>
    rw [List.cons_append, lowerBy, ih, lowerBy, List.append_assoc, List.reverse_cons,
      List.append_assoc, List.singleton_append]

theorem lowerBy_before (before further cs : List Char) :
    lowerBy f (before ++ further) cs = lowerBy (fun x y => f (x ++ further) y) before cs := by
  induction cs generalizing before with
  | nil => rfl
  | cons c rest ih => rw [lowerBy, lowerBy, ← ih, List.cons_append]

/-- The form of a sigma does not change how long a text gets. -/
theorem length_lowerBy (before cs : List Char) :
    (lowerBy f before cs).length = (lowerEach cs).length := by
  rw [lowerEach_eq_lowerBy before]
  induction cs generalizing before with
  | nil => rfl
  | cons c rest ih =>
    rw [lowerBy, lowerBy, List.length_append, List.length_append, ih]
    split <;> rfl

theorem lowerBy_eq_nil_iff : lowerBy f before cs = [] ↔ cs = [] := by
  cases cs with
  | nil => exact iff_of_true rfl rfl
  | cons c rest =>
    have hchar : lowerChar c ≠ [] := by
      unfold lowerChar
      split <;> exact List.cons_ne_nil _ _
    have hhead : (if c = 'Σ' then [if f before rest then 'ς' else 'σ'] else lowerChar c) ≠ [] := by
      split
      · exact List.cons_ne_nil _ _
      · exact hchar
    refine iff_of_false ?_ (List.cons_ne_nil c rest)
    exact List.append_ne_nil_of_left_ne_nil hhead _

/-- A sigma of `c :: rest` is the first character or one of `rest`. -/
theorem forall_sigma_cons {P : List Char → List Char → Prop} {c : Char} {rest : List Char} :
    (∀ x y, c :: rest = x ++ 'Σ' :: y → P x y) ↔
      (c = 'Σ' → P [] rest) ∧ ∀ x y, rest = x ++ 'Σ' :: y → P (c :: x) y := by
  constructor
  · intro h
    refine ⟨fun hc => h [] rest (by rw [hc]; rfl), ?_⟩
    intro x y hrest
    exact h (c :: x) y (by rw [hrest]; rfl)
  · rintro ⟨hfirst, hrest⟩ x y h
    cases x with
    | nil =>
      obtain ⟨rfl, rfl⟩ := List.cons.inj h
      exact hfirst rfl
    | cons d x =>
      obtain ⟨rfl, hcs⟩ := List.cons.inj h
      exact hrest x y hcs

/-- Two ways to lower a text come to the same if they agree on every sigma in it. -/
theorem lowerBy_eq_iff :
    lowerBy f before cs = lowerBy g before cs ↔
      ∀ x y, cs = x ++ 'Σ' :: y → f (x.reverse ++ before) y = g (x.reverse ++ before) y := by
  induction cs generalizing before with
  | nil => simp [lowerBy]
  | cons c rest ih =>
    have hforms : (if f before rest = true then 'ς' else 'σ') =
        (if g before rest = true then 'ς' else 'σ') ↔ f before rest = g before rest := by
      cases f before rest <;> cases g before rest <;> decide
    rw [forall_sigma_cons, lowerBy, lowerBy]
    simp only [List.reverse_cons, List.append_assoc, List.singleton_append, ← ih]
    by_cases hc : c = 'Σ'
    · simp [hc, hforms]
    · simp [hc]

/-- Where one way closes words at more sigmas than another, it writes fewer small sigmas and more final
ones. -/
theorem lowerBy_eq_or_count_lt
    (h : ∀ x y, cs = x ++ 'Σ' :: y →
      f (x.reverse ++ before) y = true → g (x.reverse ++ before) y = true) :
    lowerBy f before cs = lowerBy g before cs ∨
      (lowerBy g before cs).count 'σ' < (lowerBy f before cs).count 'σ' ∧
      (lowerBy f before cs).count 'ς' < (lowerBy g before cs).count 'ς' := by
  induction cs generalizing before with
  | nil => exact .inl rfl
  | cons c rest ih =>
    rw [forall_sigma_cons] at h
    obtain ⟨hfirst, hrest⟩ := h
    have htail := @ih (c :: before) (by simpa using hrest)
    simp only [lowerBy, List.count_append]
    by_cases hc : c = 'Σ'
    · have hhead := hfirst hc
      simp only [if_pos hc]
      -- the first sigma may go one way or be another; what follows is by induction
      cases hf : f before rest <;> cases hg : g before rest
      · exact htail.imp (congrArg _) (by simp)
      · right
        rcases htail with heq | hlt
        · simp [heq]
        · simp
          omega
      · simp [hf, hg] at hhead
      · exact htail.imp (congrArg _) (by simp)
    · simp only [if_neg hc]
      exact htail.imp (congrArg _) (fun hlt => by omega)

/-- A rule that takes one sigma more for final makes more of the one form and less of the other. -/
theorem count_lt_of_more {x y : List Char} (hmore : ∀ x y, f x y = true → g x y = true)
    (hcs : cs = x.reverse ++ 'Σ' :: y) (hf : f x y = false) (hg : g x y = true) :
    (lowerBy g [] cs).count 'σ' < (lowerBy f [] cs).count 'σ' ∧
      (lowerBy f [] cs).count 'ς' < (lowerBy g [] cs).count 'ς' := by
  refine (lowerBy_eq_or_count_lt fun x y _ => hmore _ _).resolve_left ?_
  intro heq
  have hsame := lowerBy_eq_iff.mp heq x.reverse y hcs
  rw [List.reverse_reverse, List.append_nil, hf, hg] at hsame
  cases hsame

/-- A text is lowered as its characters are if no capital sigma in it closes a word. -/
theorem lower_eq_lowerEach_iff :
    lower cs = lowerEach cs ↔
      ∀ before after, cs = before ++ 'Σ' :: after → closesWord before.reverse after = false := by
  rw [lower_eq_lowerBy, lowerEach_eq_lowerBy [], lowerBy_eq_iff]
  simp only [List.append_nil]

def plainSigma (c : Char) : Char :=
  if c = 'ς' then 'σ' else c

/-- But for the form of the sigma the rule makes no difference. -/
theorem map_plainSigma_lowerBy (before cs : List Char) :
    (lowerBy f before cs).map plainSigma = (lowerBy g before cs).map plainSigma := by
  induction cs generalizing before with
  | nil => rfl
  | cons c rest ih =>
    rw [lowerBy, lowerBy, List.map_append, List.map_append, ih]
    congr 1
    split
    · cases f before rest <;> cases g before rest <;> rfl
    · rfl

theorem map_plainSigma_of_not_mem (h : 'ς' ∉ cs) : cs.map plainSigma = cs := by
  have hsame : ∀ c ∈ cs, plainSigma c = id c := by
    intro c hc
    have hne : c ≠ 'ς' := fun hfinal => h (hfinal ▸ hc)
    exact if_neg hne
  rw [List.map_congr_left hsame, List.map_id]

/-- What has no small sigma of either form is found in a text as it is found in its characters. -/
theorem infix_lower_iff {needle : List Char} (hsmall : 'σ' ∉ needle) (hfinal : 'ς' ∉ needle) :
    needle <:+: lower cs ↔ needle <:+: lowerEach cs := by
  have hforms : (lower cs).map plainSigma = (lowerEach cs).map plainSigma := by
    rw [lower_eq_lowerBy, lowerEach_eq_lowerBy []]
    exact map_plainSigma_lowerBy [] cs
  have hkeep {xs ys : List Char} (hforms : xs.map plainSigma = ys.map plainSigma)
      (h : needle <:+: xs) : needle <:+: ys := by
    have hplain : needle <:+: ys.map plainSigma := by
      rw [← hforms, ← map_plainSigma_of_not_mem hfinal]
      exact h.map plainSigma
    obtain ⟨w, hw, hneedle⟩ := List.infix_map_iff.mp hplain
    -- a final sigma among these characters would be a small one in what is looked for
    have hnone : 'ς' ∉ w := by
      intro hmem
      have hmap : plainSigma 'ς' ∈ needle := hneedle ▸ List.mem_map_of_mem hmem
      exact hsmall hmap
    rw [hneedle, map_plainSigma_of_not_mem hnone]
    exact hw
  exact ⟨hkeep hforms, hkeep hforms.symm⟩

/-- What is lowered as a part of a text. -/
theorem lowerBy_infix_lower (left cs right : List Char) :
    lowerBy (fun x y => closesWord (x ++ left.reverse) (y ++ right)) [] cs <:+:
      lower (left ++ cs ++ right) := by
  have hshift : lowerBy (fun x y => closesWord (x ++ left.reverse) (y ++ right)) [] cs =
      lowerBy (fun x y => closesWord x (y ++ right)) left.reverse cs :=
    (lowerBy_before (f := fun x y => closesWord x (y ++ right)) [] left.reverse cs).symm
  rw [lower_eq_lowerBy, lowerBy_append, lowerBy_append, hshift, List.append_nil]
  exact List.infix_append _ _ _

theorem meetsCased_of_ignorable (h : cs.all caseIgnorable.contains = true) :
    meetsCased cs = false := by
  have hdrop : cs.dropWhile caseIgnorable.contains = [] := by
    rw [List.dropWhile_eq_nil_iff]
    exact List.all_eq_true.mp h
  rw [meetsCased, hdrop]

/-- What lies beyond counts only if everything up to there is passed over. -/
theorem meetsCased_append (cs after : List Char) :
    meetsCased (cs ++ after) =
      if cs.all caseIgnorable.contains = true then meetsCased after else meetsCased cs := by
  induction cs with
  | nil => rfl
  | cons c rest ih =>
    by_cases hc : caseIgnorable.contains c = true
    · have hskip (xs : List Char) : meetsCased (c :: xs) = meetsCased xs := by
        rw [meetsCased, List.dropWhile_cons_of_pos hc, ← meetsCased]
      rw [List.cons_append, hskip, hskip, ih, List.all_cons, hc, Bool.true_and]
    · have hstop (xs : List Char) : meetsCased (c :: xs) = cased.contains c := by
        rw [meetsCased, List.dropWhile_cons_of_neg hc]
      rw [List.cons_append, hstop, hstop, List.all_cons, if_neg]
      simp [hc]

/-- Whether it depends on what stands farther away if a sigma between these texts closes a word: on one
side there may be a letter still, and the other does not settle it. -/
def Undecided (before after : List Char) : Prop :=
  before.all caseIgnorable.contains = true ∧ meetsCased after = false ∨
    meetsCased before = true ∧ after.all caseIgnorable.contains = true

/-- Whether every capital sigma of a text has its form from the text alone. -/
def SelfContained (cs : List Char) : Prop :=
  ∀ before after, cs = before ++ 'Σ' :: after → ¬ Undecided before.reverse after

instance (before after : List Char) : Decidable (Undecided before after) :=
  inferInstanceAs (Decidable (_ ∧ _ ∨ _ ∧ _))

def decidedAfter (before : List Char) : List Char → Bool
  | [] => true
  | c :: rest => (c != 'Σ' || !decide (Undecided before rest)) && decidedAfter (c :: before) rest

/-- The computed check agrees with the property of every sigma in the text. -/
theorem decidedAfter_iff :
    decidedAfter before cs = true ↔
      ∀ x y, cs = x ++ 'Σ' :: y → ¬ Undecided (x.reverse ++ before) y := by
  induction cs generalizing before with
  | nil => simp [decidedAfter]
  | cons c rest ih =>
    rw [forall_sigma_cons, decidedAfter, Bool.and_eq_true, ih]
    refine and_congr ?_ (by simp)
    by_cases hc : c = 'Σ' <;> simp [hc]

instance : DecidablePred SelfContained := fun cs =>
  decidable_of_iff (decidedAfter [] cs = true) (by simp [decidedAfter_iff, SelfContained])

/-- A sigma that is decided has its form wherever the text stands. -/
theorem closesWord_of_decided (h : ¬ Undecided before after) (farther beyond : List Char) :
    closesWord (before ++ farther) (after ++ beyond) = closesWord before after := by
  have hbefore := @meetsCased_of_ignorable before
  have hafter := @meetsCased_of_ignorable after
  rw [closesWord, closesWord, meetsCased_append, meetsCased_append]
  unfold Undecided at h
  grind

/-- A self-contained text is lowered in every context as it is alone. -/
theorem SelfContained.lower_infix (h : SelfContained cs) (left right : List Char) :
    lower cs <:+: lower (left ++ cs ++ right) := by
  have halone : lower cs =
      lowerBy (fun x y => closesWord (x ++ left.reverse) (y ++ right)) [] cs := by
    rw [lower_eq_lowerBy, lowerBy_eq_iff]
    intro x y hsplit
    rw [List.append_nil]
    exact (closesWord_of_decided (h x y hsplit) _ _).symm
  rw [halone]
  exact lowerBy_infix_lower left cs right

/-- A sigma that a letter before the text closes and nothing in the text does. -/
theorem not_infix_of_letter_before (hbefore : before.all caseIgnorable.contains = true)
    (hafter : meetsCased after = false) :
    ¬ lower (before.reverse ++ 'Σ' :: after) <:+:
      lower ('A' :: (before.reverse ++ 'Σ' :: after)) := by
  intro hinfix
  set cs := before.reverse ++ 'Σ' :: after with hcs
  have hletter : meetsCased ['A'] = true := by decide
  have hlower : lower ('A' :: cs) = 'a' :: lowerBy (fun x y => closesWord (x ++ ['A']) y) [] cs := by
    rw [lower_eq_lowerBy, ← lowerBy_before]
    rfl
  -- behind the letter no fewer words are closed, and one more
  have hmore : ∀ x y, closesWord x y = true → closesWord (x ++ ['A']) y = true := by
    intro x y hclose
    rw [closesWord, Bool.and_eq_true] at hclose ⊢
    rw [meetsCased_append, hletter]
    exact ⟨by split <;> simp [hclose.1], hclose.2⟩
  have hopen : closesWord before after = false := by
    rw [closesWord, meetsCased_of_ignorable hbefore, Bool.false_and]
  have hclosed : closesWord (before ++ ['A']) after = true := by
    rw [closesWord, meetsCased_append, if_pos hbefore, hletter, hafter]
    rfl
  -- so a small sigma is missing, which a part of the text cannot have
  obtain ⟨hlt, -⟩ :=
    count_lt_of_more (g := fun x y => closesWord (x ++ ['A']) y) hmore hcs hopen hclosed
  have hcount := hinfix.sublist.count_le 'σ'
  rw [hlower, lower_eq_lowerBy, List.count_cons_of_ne (by decide)] at hcount
  omega

/-- A sigma that a letter behind the text keeps open and nothing in the text does. -/
theorem not_infix_of_letter_behind (hbefore : meetsCased before = true)
    (hafter : after.all caseIgnorable.contains = true) :
    ¬ lower (before.reverse ++ 'Σ' :: after) <:+:
      lower (before.reverse ++ 'Σ' :: after ++ ['A']) := by
  intro hinfix
  set cs := before.reverse ++ 'Σ' :: after with hcs
  have hletter : meetsCased ['A'] = true := by decide
  have hlower : lower (cs ++ ['A']) =
      lowerBy (fun x y => closesWord x (y ++ ['A'])) [] cs ++ ['a'] := by
    rw [lower_eq_lowerBy, lowerBy_append]
    rfl
  have hmore : ∀ x y, closesWord x (y ++ ['A']) = true → closesWord x y = true := by
    intro x y hclose
    rw [closesWord, meetsCased_append, hletter, Bool.and_eq_true] at hclose
    obtain ⟨hx, hy⟩ := hclose
    split at hy
    · simp at hy
    · rw [closesWord, hx, hy]
      rfl
  have hopen : closesWord before (after ++ ['A']) = false := by
    rw [closesWord, meetsCased_append, if_pos hafter, hletter]
    simp
  have hclosed : closesWord before after = true := by
    rw [closesWord, hbefore, meetsCased_of_ignorable hafter]
    rfl
  -- so a final sigma is missing
  obtain ⟨-, hlt⟩ := count_lt_of_more hmore hcs hopen hclosed
  have hcount := hinfix.sublist.count_le 'ς'
  rw [hlower, lower_eq_lowerBy, List.count_append, List.count_singleton] at hcount
  simp at hcount
  omega

/-- The texts that are lowered in every context as they are alone are the self-contained ones. -/
theorem selfContained_iff :
    SelfContained cs ↔ ∀ left right, lower cs <:+: lower (left ++ cs ++ right) := by
  refine ⟨SelfContained.lower_infix, ?_⟩
  -- one letter on the side that is open makes the other form of the sigma
  intro h before after hcs hundecided
  subst hcs
  rcases hundecided with ⟨hbefore, hafter⟩ | ⟨hbefore, hafter⟩
  · refine not_infix_of_letter_before hbefore hafter ?_
    simpa using h ['A'] []
  · refine not_infix_of_letter_behind hbefore hafter ?_
    simpa using h [] ['A']

end LogTail.Text
