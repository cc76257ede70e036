import LineRules.Proofs.Page.ClassNames
import LineRules.Proofs.Pattern.Layout

/-!
# Class attributes with their names in order

`orderClassNames_orders` says what becomes of a whole text: the values of its class
attributes are put in order where they stand, and the new text has the same attributes.
Names in order hold no quotation mark that the value did not hold, so no attribute ends
earlier or later than before, and no attribute begins in front of the next quotation mark
that did not begin there before (`classAttribute_stable`).
-/

namespace LineRules.Builtin

open LineRules.Text LineRules.Pattern LineRules.Pattern.Node

/-! ## Names of a value -/

/-- A text that stands as one name among others. -/
structure IsName (name : List Char) : Prop where
  nonempty : name ≠ []
  plain : ∀ c ∈ name, isBlank c = false

theorem wordsFrom_append {word name text : List Char} (plain : ∀ c ∈ name, isBlank c = false) :
    wordsFrom word (name ++ text) = wordsFrom (name.reverse ++ word) text := by
  induction name generalizing word with
  | nil => rfl
  | cons c name hyp =>
      obtain ⟨here, others⟩ := List.forall_mem_cons.mp plain
      rw [List.cons_append, wordsFrom, here, if_neg Bool.false_ne_true, hyp others]
      simp

theorem isName_of_mem_wordsFrom {word text name : List Char}
    (plain : ∀ c ∈ word, isBlank c = false) (isPart : name ∈ wordsFrom word text) :
    IsName name := by
  fun_induction wordsFrom word text with
  | case1 => simp at isPart
  | case2 word nonempty =>
      obtain rfl := List.mem_singleton.mp isPart
      exact ⟨by simpa using nonempty, by simpa using plain⟩
  | case3 word c rest _ _ hyp => exact hyp (by simp) isPart
  | case4 word c rest _ nonempty hyp =>
      rcases List.mem_cons.mp isPart with rfl | isLater
      · exact ⟨by simpa using nonempty, by simpa using plain⟩
      · exact hyp (by simp) isLater
  | case5 word c rest notBlank hyp =>
      exact hyp (List.forall_mem_cons.mpr ⟨by simpa using notBlank, plain⟩) isPart

/-- Names one space apart are read as they are. -/
theorem words_intercalate {names : List (List Char)} (areNames : ∀ name ∈ names, IsName name) :
    Text.words ([' '].intercalate names) = names := by
  induction names with
  | nil => rfl
  | cons name names hyp =>
      obtain ⟨isName, others⟩ := List.forall_mem_cons.mp areNames
      have ended : name.reverse.isEmpty = false := by
        simpa [List.isEmpty_eq_false_iff] using isName.nonempty
      cases names with
      | nil =>
          have whole : [' '].intercalate [name] = name ++ [] := by simp
          rw [Text.words, whole, wordsFrom_append isName.plain, List.append_nil, wordsFrom, ended]
          simp
      | cons next names =>
          rw [List.intercalate_cons_cons, List.append_assoc, Text.words,
            wordsFrom_append isName.plain, List.append_nil, List.singleton_append, wordsFrom,
            if_pos (by decide), ended, if_neg Bool.false_ne_true, List.reverse_reverse]
          exact congrArg (List.cons name) (hyp others)

/-! ## Their order -/

theorem nameLe_iff {a b : List Char} :
    nameLe a b = true ↔ a.map Char.toNat ≤ b.map Char.toNat := by
  simp [nameLe]

theorem nameLe_trans (a b c : List Char) (first : nameLe a b = true) (second : nameLe b c = true) :
    nameLe a c = true := by
  rw [nameLe_iff] at *
  exact le_trans first second

theorem nameLe_total (a b : List Char) : (nameLe a b || nameLe b a) = true := by
  rw [Bool.or_eq_true, nameLe_iff, nameLe_iff]
  exact le_total _ _

theorem words_orderNames (value : List Char) :
    Text.words (orderNames value) = (Text.words value).mergeSort nameLe := by
  refine words_intercalate fun name isName => ?_
  exact isName_of_mem_wordsFrom (by simp) (List.mem_mergeSort.mp isName)

/-- Names in order stay as they are. -/
theorem orderNames_orderNames (value : List Char) :
    orderNames (orderNames value) = orderNames value := by
  have sorted := List.pairwise_mergeSort nameLe_trans nameLe_total (Text.words value)
  rw [orderNames, words_orderNames, List.mergeSort_of_pairwise sorted, orderNames]

/-- A value in order is made of the names that it had, each as often as before, by their
code points and one space apart. -/
theorem orderNames_spec (value : List Char) :
    ∃ names : List (List Char), names.Perm (Text.words value) ∧
      names.Pairwise (fun a b => a.map Char.toNat ≤ b.map Char.toNat) ∧
      orderNames value = [' '].intercalate names := by
  refine ⟨(Text.words value).mergeSort nameLe, List.mergeSort_perm _ _, ?_, rfl⟩
  exact (List.pairwise_mergeSort nameLe_trans nameLe_total _).imp nameLe_iff.mp

/-! ## The attributes of a text -/

/-- A class attribute as a field. -/
def classField (found : Match) : Field where
  opening := classOpening
  value := found.group 1
  closing := ['"']

section Attributes

variable {before after text value rest : List Char} {change : List Char → List Char}
  {found : Match} {segments : List Segment}

theorem chars_classField (isFound : found ∈ classAttribute.findAll text) :
    (classField found).chars = found.text :=
  (text_of_mem_classAttribute isFound).symm

theorem remade_classField : remade classField change found = classText (change (found.group 1)) :=
  rfl

/-- A class attribute that is there is found as a whole. -/
theorem exists_classAttribute (absent : '"' ∉ value) (stop : NoWordNext before) :
    ∃ found, classAttribute.matcher false (.between before (classText value ++ rest)) = some found ∧
      found.finish = .between ((classText value).reverse ++ before) rest ∧
      found.group 1 = value := by
  obtain ⟨found, isMatch⟩ := exists_matchAt_of_reaches
    (classAttribute_reaches_iff.mpr ⟨value, rest, rfl, absent, stop, trivial⟩)
  obtain ⟨other, last, same, otherAbsent, _, _, finish, isValue⟩ := classAttribute_match isMatch
  obtain ⟨rfl, rfl⟩ := classText_unique absent otherAbsent same
  exact ⟨found, isMatch, finish, isValue⟩

/-- A text begins with a class attribute. -/
def OpensClass (text : List Char) : Prop :=
  ∃ last, text = classOpening ++ last ∧ '"' ∈ last

theorem classAttribute_eq_none_iff :
    classAttribute.matcher false (.between before after) = none ↔
      ¬ (NoWordNext before ∧ OpensClass after) := by
  constructor
  · rintro absent ⟨stop, last, rfl, quoted⟩
    obtain ⟨value, rest, rfl, closed⟩ := List.eq_append_cons_of_mem quoted
    obtain ⟨found, isMatch, _⟩ := @exists_classAttribute _ value rest closed stop
    have same : classText value ++ rest = classOpening ++ (value ++ '"' :: rest) := by
      simp [classText]
    rw [same, absent] at isMatch
    contradiction
  · intro absent
    refine Option.eq_none_iff_forall_ne_some.mpr fun found isMatch => absent ?_
    obtain ⟨value, rest, rfl, _, stop, _⟩ := classAttribute_match isMatch
    exact ⟨stop, value ++ '"' :: rest, by simp [classText], by simp⟩

/-- A text that no attribute begins in was there before the values changed. -/
theorem exists_of_remadeAll_eq {kept : List Char} (apart : 'c' ∉ kept)
    (segmented : Segmented classAttribute.matcher before after segments)
    (split : Segment.remadeAll classField change segments = kept ++ rest) :
    ∃ last others, after = kept ++ last ∧
      Segmented classAttribute.matcher (kept.reverse ++ before) last others ∧
      rest = Segment.remadeAll classField change others := by
  induction kept generalizing before after segments with
  | nil => exact ⟨after, segments, rfl, segmented, split.symm⟩
  | cons d kept hyp =>
      obtain ⟨isOther, restApart⟩ := not_or.mp (mt List.mem_cons.mpr apart)
      cases segmented with
      | done => simp [Segment.remadeAll] at split
      | keep _ segmented =>
          obtain ⟨rfl, tails⟩ := List.cons.inj split
          obtain ⟨last, others, rfl, isCut, rfl⟩ := hyp restApart segmented tails
          exact ⟨last, others, rfl, by simpa using isCut, rfl⟩
      | found => exact absurd (List.cons.inj split).1 isOther

/-- Changed values bring in no quotation mark. -/
theorem mem_of_mem_remadeAll (segmented : Segmented classAttribute.matcher before after segments)
    (isMember : '"' ∈ Segment.remadeAll classField change segments) : '"' ∈ after := by
  induction segmented with
  | done => exact isMember
  | keep _ _ hyp =>
      rcases List.mem_cons.mp isMember with rfl | isLater
      · exact List.mem_cons_self
      · exact List.mem_cons_of_mem _ (hyp isLater)
  | found isMatch =>
      obtain ⟨value, rest, split, _⟩ := classAttribute_match isMatch
      rw [split]
      simp [classText]

/-- An attribute that begins at a kept character began there before the values changed: a
`c` is only the first letter of its opening, and every other attribute has a quotation mark
of its own. -/
theorem opensClass_of_remadeAll {c : Char}
    (segmented : Segmented classAttribute.matcher before after segments)
    (opens : OpensClass (c :: Segment.remadeAll classField change segments)) :
    OpensClass (c :: after) := by
  obtain ⟨tail, split, quoted⟩ := opens
  obtain ⟨rfl, tails⟩ : c = 'c' ∧
      Segment.remadeAll classField change segments = "lass=\"".toList ++ tail :=
    List.cons.inj split
  obtain ⟨last, others, rfl, later, rfl⟩ := exists_of_remadeAll_eq (by decide) segmented tails
  exact ⟨last, rfl, mem_of_mem_remadeAll later quoted⟩

/-- New values without quotation marks leave all attributes where they are. -/
theorem classAttribute_stable (keeps : ∀ value, '"' ∉ value → '"' ∉ change value) :
    Stable classAttribute.matcher classField change
      (fun before written _ => before.head? = written.head?) where
  start _ := rfl
  done _ _ := by
    refine classAttribute_eq_none_iff.mpr ?_
    rintro ⟨_, last, split, _⟩
    contradiction
  kept {before written c after segments} related absent segmented := by
    refine classAttribute_eq_none_iff.mpr ?_
    rintro ⟨stop, opens⟩
    refine classAttribute_eq_none_iff.mp absent ⟨?_, opensClass_of_remadeAll segmented opens⟩
    rwa [NoWordNext, related]
  keptRelated _ := rfl
  found {before written piece after found segments} related isMatch finish segmented := by
    obtain ⟨value, rest, split, absent, stop, _, _, isValue⟩ := classAttribute_match isMatch
    have stopWritten : NoWordNext written := by
      rw [NoWordNext, ← related]
      exact stop
    obtain ⟨other, isOther, finish, isOtherValue⟩ := @exists_classAttribute written (change value)
      (Segment.remadeAll classField change segments) (keeps value absent) stopWritten
    rw [remade_classField, isValue]
    refine ⟨other, isOther, finish, ?_⟩
    simp only [classField, Field.mapValue, isOtherValue, isValue]
  foundRelated {before written piece after found} _ isMatch finish := by
    obtain ⟨value, rest, split, _, _, _, otherFinish, _⟩ := classAttribute_match isMatch
    obtain ⟨rfl, rfl⟩ := Cursor.cut_unique split finish otherFinish
    simp [remade_classField, classText]

/-! ## The rule -/

theorem sortClasses_eq :
    sortClasses text = classAttribute.replaceBy (remade classField orderNames) text :=
  rfl

theorem sortClasses_eq_flatMap :
    sortClasses text = ((classAttribute.layout classField text).map
      (Part.mapValue orderNames)).flatMap Part.chars := by
  rw [sortClasses_eq, replaceBy_remade]

/-- The rule writes the names of every attribute in order, and every attribute stays where
it is. -/
theorem layout_sortClasses :
    classAttribute.layout classField (sortClasses text) =
      (classAttribute.layout classField text).map (Part.mapValue orderNames) := by
  rw [sortClasses_eq]
  exact layout_replaceBy classAttribute_advances
    (classAttribute_stable fun _ => quote_not_mem_orderNames)

theorem flatMap_layout_classAttribute :
    (classAttribute.layout classField text).flatMap Part.chars = text :=
  flatMap_layout classAttribute_advances fun _ => chars_classField

/-- Putting names in order once is enough. -/
theorem sortClasses_sortClasses : sortClasses (sortClasses text) = sortClasses text := by
  have same : orderNames ∘ orderNames = orderNames := funext orderNames_orderNames
  rw [@sortClasses_eq_flatMap (sortClasses text), layout_sortClasses,
    Part.map_mapValue_map_mapValue, same, ← layout_sortClasses, flatMap_layout_classAttribute]

theorem orderClassNames_text (text : String) (evidence : Evidence) (context : Context) :
    orderClassNames (.text text) evidence (some classAttribute) context =
      .ok (.text (String.ofList (sortClasses text.toList))) :=
  rfl

theorem testClassNames_of_sorted {text : String} (context : Context)
    (sorted : sortClasses text.toList = text.toList) :
    testClassNames (.text text) (some classAttribute) context = .ok (.value .null) := by
  have nothing := sortClasses_eq_self_iff.mp sorted
  rw [classNamesStep, Option.isSome_eq_false_iff, Option.isNone_iff_eq_none] at nothing
  have nowhere : (classAttribute.findAll text.toList).find?
      (fun found => orderNames (found.group 1) ≠ found.group 1) = none := nothing
  simp only [testClassNames, Value.asText, bind, Except.bind, pure, Except.pure, nowhere]

end Attributes

/-- In a text of any kind, the rule for class names puts new values into the class attributes
and changes nothing else. A new value holds the names of the old one, each as often, by their
code points and one space apart. The new text has the same attributes with the new values, so
the rule finds nothing in it and keeps it. -/
theorem orderClassNames_orders (text : String) (evidence : Evidence) (context : Context) :
    ∃ out : String,
      orderClassNames (.text text) evidence (some classAttribute) context = .ok (.text out) ∧
      (classAttribute.layout classField text.toList).flatMap Part.chars = text.toList ∧
      out.toList = ((classAttribute.layout classField text.toList).map
        (Part.mapValue orderNames)).flatMap Part.chars ∧
      (∀ value, ∃ names : List (List Char), names.Perm (Text.words value) ∧
        names.Pairwise (fun a b => a.map Char.toNat ≤ b.map Char.toNat) ∧
        orderNames value = [' '].intercalate names) ∧
      classAttribute.layout classField out.toList =
        (classAttribute.layout classField text.toList).map (Part.mapValue orderNames) ∧
      (∀ again elsewhere, orderClassNames (.text out) again (some classAttribute) elsewhere =
        .ok (.text out)) ∧
      ∀ elsewhere, testClassNames (.text out) (some classAttribute) elsewhere =
        .ok (.value .null) := by
  refine ⟨_, orderClassNames_text text evidence context, flatMap_layout_classAttribute, ?_,
    orderNames_spec, ?_, fun again elsewhere => ?_, fun elsewhere => ?_⟩
  · rw [String.toList_ofList]
    exact sortClasses_eq_flatMap
  · rw [String.toList_ofList]
    exact layout_sortClasses
  · rw [orderClassNames_text, String.toList_ofList, sortClasses_sortClasses]
  · refine testClassNames_of_sorted elsewhere ?_
    rw [String.toList_ofList]
    exact sortClasses_sortClasses

end LineRules.Builtin
