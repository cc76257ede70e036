import LineRules.Proofs.Builtin.Stops

/-!
# Class names in order

The rule for class names writes the names of every class attribute in order, one space
apart. Nothing else is written and no attribute becomes longer, so a line is kept exactly
if the rule finds nothing to report in it (`sortClasses_eq_self_iff`).
-/

namespace LineRules.Builtin

open LineRules.Text LineRules.Pattern LineRules.Pattern.Node

variable {before after text : List Char} {condition : State → Prop} {found : Match}

/-! ## Names of a value -/

theorem length_intercalate_space (parts : List (List Char)) :
    ([' '].intercalate parts).length = parts.flatten.length + (parts.length - 1) := by
  induction parts with
  | nil => rfl
  | cons part parts hyp =>
      cases parts with
      | nil => simp
      | cons next parts =>
          rw [List.intercalate_cons_cons, List.length_append, List.length_append, hyp]
          simp only [List.flatten_cons, List.length_append, List.length_cons, List.length_nil]
          omega

theorem mem_intercalate_space {parts : List (List Char)} {c : Char}
    (isMember : c ∈ [' '].intercalate parts) : c = ' ' ∨ ∃ part ∈ parts, c ∈ part := by
  induction parts with
  | nil => simp at isMember
  | cons part parts hyp =>
      cases parts with
      | nil => exact .inr ⟨part, by simp, by simpa using isMember⟩
      | cons next parts =>
          rw [List.intercalate_cons_cons, List.mem_append, List.mem_append] at isMember
          rcases isMember with (inPart | isSpace) | isLater
          · exact .inr ⟨part, by simp, inPart⟩
          · exact .inl (List.mem_singleton.mp isSpace)
          · exact (hyp isLater).imp_right fun ⟨other, isOther, inOther⟩ =>
              ⟨other, List.mem_cons_of_mem _ isOther, inOther⟩

/-- Names one space apart take no more room than the text that they were found in. -/
theorem length_wordsFrom_le (word text : List Char) :
    (wordsFrom word text).flatten.length + ((wordsFrom word text).length - 1) ≤
      word.length + text.length := by
  fun_induction wordsFrom word text with
  | case1 => simp
  | case2 => simp
  | case3 word c rest _ _ hyp =>
      simp only [List.length_cons, List.length_nil] at hyp ⊢
      omega
  | case4 word c rest _ _ hyp =>
      simp only [List.flatten_cons, List.length_append, List.length_cons, List.length_reverse,
        List.length_nil] at hyp ⊢
      omega
  | case5 word c rest _ hyp =>
      simp only [List.length_cons] at hyp ⊢
      omega

theorem subset_of_mem_wordsFrom {word part : List Char} (isPart : part ∈ wordsFrom word text) :
    part ⊆ word.reverse ++ text := by
  fun_induction wordsFrom word text with
  | case1 => simp at isPart
  | case2 =>
      obtain rfl := List.mem_singleton.mp isPart
      simp
  | case3 word c rest _ _ hyp =>
      exact fun d inPart => by simpa using .inr (.inr (hyp isPart inPart))
  | case4 word c rest _ _ hyp =>
      rcases List.mem_cons.mp isPart with rfl | isLater
      · simp
      · exact fun d inPart => by simpa using .inr (.inr (hyp isLater inPart))
  | case5 word c rest _ hyp => simpa using hyp isPart

/-- Putting names in order takes no more room. -/
theorem length_orderNames_le (value : List Char) : (orderNames value).length ≤ value.length := by
  have sorted := List.mergeSort_perm (Text.words value) nameLe
  calc (orderNames value).length
      = (Text.words value).flatten.length + ((Text.words value).length - 1) := by
        rw [orderNames, length_intercalate_space, sorted.flatten.length_eq, sorted.length_eq]
    _ ≤ value.length := by simpa [Text.words] using length_wordsFrom_le [] value

/-- Putting names in order brings in nothing but spaces. -/
theorem orderNames_subset (value : List Char) : orderNames value ⊆ ' ' :: value := by
  intro c isMember
  rcases mem_intercalate_space isMember with rfl | ⟨name, isName, inName⟩
  · exact List.mem_cons_self
  · have isWord : name ∈ wordsFrom [] value := List.mem_mergeSort.mp isName
    exact List.mem_cons_of_mem _ (by simpa using subset_of_mem_wordsFrom isWord inName)

theorem quote_not_mem_orderNames {value : List Char} (closed : '"' ∉ value) :
    '"' ∉ orderNames value := by
  intro isMember
  rcases List.mem_cons.mp (orderNames_subset value isMember) with isSpace | inValue
  · exact absurd isSpace (by decide)
  · exact closed inValue

/-! ## Class attributes -/

/-- What a class attribute begins with. -/
def classOpening : List Char := "class=\"".toList

/-- A class attribute with a value. -/
def classText (value : List Char) : List Char :=
  classOpening ++ value ++ ['"']

/-- An attribute has one value. -/
theorem classText_unique {value other rest last : List Char} (closed : '"' ∉ value)
    (otherClosed : '"' ∉ other) (same : classText value ++ rest = classText other ++ last) :
    value = other ∧ rest = last := by
  simp only [classText, List.append_assoc, List.append_cancel_left_eq] at same
  exact cut_at_unique closed otherClosed same

/-- Where a class attribute leads to, and what it captures. -/
def classState (before value rest : List Char) : State :=
  let opened := classOpening.reverse ++ before
  ⟨.between ('"' :: (value.reverse ++ opened)) rest,
    [(1, .between opened (value ++ '"' :: rest))],
    [(1, .between (value.reverse ++ opened) ('"' :: rest))]⟩

theorem classAttribute_reaches_iff :
    classAttribute.node.Reaches (.start (.between before after)) condition ↔
      ∃ value rest, after = classText value ++ rest ∧ '"' ∉ value ∧ NoWordNext before ∧
        condition (classState before value rest) := by
  have tree : classAttribute.node = sequence ([boundary] ++
      (classOpening.map (fun c => lit c) ++
        [group 1 (star (char ⟨true, .exact, [.ofChar '"']⟩)), lit '"'])) := rfl
  have begins : ∀ {rest : List Char},
      Anchor.holds (.wordBoundary false) (.between before (classOpening ++ rest)) = true ↔
        NoWordNext before := by
    intro rest
    have cut : classOpening ++ rest = "class".toList ++ ('=' :: '"' :: rest) := rfl
    rw [cut]
    exact holds_boundary_before (by decide) (List.all_eq_true.mp (by decide))
  rw [tree]
  simp only [State.start, reaches_sequence_append_iff, reaches_sequence_cons_iff,
    reaches_sequence_nil_iff, boundary, reaches_anchor_iff, reaches_lits_iff, reaches_group_iff,
    State.openGroup, State.closeGroup, reaches_star_char_iff, reaches_lit_iff,
    forall_contains_noneOf_iff]
  constructor
  · rintro ⟨holds, _, rfl, value, _, rfl, absent, rest, rfl, met⟩
    exact ⟨value, rest, by simp [classText], absent, begins.mp holds, met⟩
  · rintro ⟨value, rest, rfl, absent, stop, met⟩
    have cut : classText value ++ rest = classOpening ++ (value ++ '"' :: rest) := by
      simp [classText]
    rw [cut]
    exact ⟨begins.mpr stop, _, rfl, value, _, rfl, absent, rest, rfl, met⟩

theorem classAttribute_match
    (isMatch : classAttribute.matcher false (.between before after) = some found) :
    ∃ value rest, after = classText value ++ rest ∧ '"' ∉ value ∧ NoWordNext before ∧
      found.start = .between before after ∧
      found.finish = .between ((classText value).reverse ++ before) rest ∧
      found.group 1 = value := by
  obtain ⟨start, reaches⟩ := reaches_of_matchAt_eq_some isMatch
  obtain ⟨value, rest, rfl, absent, stop, final⟩ := classAttribute_reaches_iff.mp reaches
  refine ⟨value, rest, rfl, absent, stop, start, ?_, ?_⟩
  · rw [Match.finish, ← final]
    simp [classState, classText]
  · rw [Match.group, Match.group?, ← final, State.capture?_of_lookup value rfl rfl]
    rfl

theorem classAttribute_advances : classAttribute.matcher.Advances := by
  intro before after found isMatch
  obtain ⟨value, rest, rfl, _, _, start, finish, _⟩ := classAttribute_match isMatch
  exact ⟨start, classText value, rest, by simp [classText], rfl, finish⟩

/-- What is found of a class attribute is the attribute with its value. -/
theorem text_of_mem_classAttribute (isFound : found ∈ classAttribute.findAll text) :
    found.text = classText (found.group 1) := by
  obtain ⟨skipped, _, rfl, isMatch⟩ :=
    Matcher.exists_of_mem_findAll classAttribute_advances isFound
  obtain ⟨value, rest, rfl, _, _, start, finish, isValue⟩ := classAttribute_match isMatch
  rw [isValue, Match.text_of_cut start finish]

/-! ## The rule -/

/-- What the rule for class names makes of a text. -/
def sortClasses (text : List Char) : List Char :=
  classAttribute.replaceBy (fun found => classText (orderNames (found.group 1))) text

/-- The first class attribute with names out of order. -/
def unsorted? (text : List Char) : Option Match :=
  (classAttribute.findAll text).find? fun found => orderNames (found.group 1) ≠ found.group 1

/-- The rule for class names as a step. -/
def classNamesStep : LineStep where
  fires text := (unsorted? text).isSome
  change := sortClasses
  message number text :=
    match (unsorted? text).map fun found =>
      classNamesMessage number .null (.found found) (.ofLine "" number false none) with
    | some (.ok message) => message
    | _ => .null

theorem classNamesRule_does : classNamesRule.Does classNamesStep := by
  refine Rule.does_of rfl ?_ ?_
  · intro context text shows
    have tested : testClassNames context.item (some classAttribute) context =
        .ok (((unsorted? text).map Evidence.found).getD (.value .null)) := by
      simp only [testClassNames, shows.item, asText_ofList, bind, Except.bind, pure, Except.pure,
        unsorted?]
      cases List.find? _ _ <;> rfl
    refine ⟨_, tested, ?_, ?_⟩
    · cases search : unsorted? text <;>
        simp [classNamesStep, search, Evidence.isTruthy, Value.isTruthy]
    · intro fires
      obtain ⟨found, search⟩ := Option.isSome_iff_exists.mp fires
      simp only [classNamesStep, search]
      rfl
  · intro run text evidence shows
    refine Rule.runReplacer_some rfl shows ?_
    simp only [Rule.replaced, orderClassNames, shows.fullItem, asText_ofList, bind, Except.bind, pure, Except.pure]
    rfl

/-- The message says which value is out of order. -/
theorem classNamesStep_worded {number : Int} (fires : classNamesStep.fires text = true) :
    (classNamesStep.message number text).isTruthy = true := by
  obtain ⟨found, search⟩ := Option.isSome_iff_exists.mp fires
  simp only [classNamesStep, search, Option.map_some, classNamesMessage]
  simp [Value.isTruthy]

theorem bounded_sortClasses : ∀ found ∈ classAttribute.findAll text,
    (classText (orderNames (found.group 1))).length ≤ found.text.length := by
  intro found isFound
  rw [text_of_mem_classAttribute isFound]
  simpa [classText] using length_orderNames_le (found.group 1)

theorem length_sortClasses_le : (sortClasses text).length ≤ text.length :=
  length_replaceBy_le classAttribute_advances bounded_sortClasses

theorem sortClasses_subset : sortClasses text ⊆ ' ' :: text := by
  refine @replaceBy_subset _ classAttribute_advances _ [' '] _ ?_
  intro found isFound
  rw [text_of_mem_classAttribute isFound]
  intro c isMember
  simp only [classText, List.mem_append] at isMember ⊢
  rcases isMember with (isHead | isName) | isLast
  · exact .inr (.inl (.inl isHead))
  · rcases List.mem_cons.mp (orderNames_subset _ isName) with rfl | inValue
    · exact .inl (by simp)
    · exact .inr (.inl (.inr inValue))
  · exact .inr (.inr isLast)

theorem sortClasses_eq_nil (nothing : sortClasses text = []) : text = [] :=
  replaceBy_eq_nil classAttribute_advances (by simp [classText]) nothing

/-- The rule reports exactly the lines that it changes. -/
theorem sortClasses_eq_self_iff : sortClasses text = text ↔ classNamesStep.fires text = false := by
  rw [sortClasses, replaceBy_eq_self_iff classAttribute_advances bounded_sortClasses, classNamesStep,
    Option.isSome_eq_false_iff, Option.isNone_iff_eq_none, unsorted?, List.find?_eq_none]
  refine forall₂_congr fun found isFound => ?_
  rw [text_of_mem_classAttribute isFound]
  simp [classText]

end LineRules.Builtin
