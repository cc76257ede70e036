import Mathlib
import LineRules.Proofs.Format.Lines
import LineRules.Proofs.Page.Lines

/-!
# What is touched on a page

The patterns for pages ask for no more than a word boundary around a name, and names of
attributes and tags do not end there: `data-class` ends in the word `class`, and `link-x`
begins with the word `link`. `apply_page_touches` describes what the rule-set makes of any
line, and says when only attributes named `class` and tags of void elements are touched.
-/

namespace LineRules.Builtin

open LineRules.Text LineRules.Pattern LineRules.Pattern.Node LineRules.Format

variable {before after out : List Char} {segments : List Segment} {found : Match}

/-! ## Attributes -/

/-- The characters of attribute names. -/
def isAttributeChar (c : Char) : Bool :=
  isWord c || c ∈ ['-', ':', '.']

/-- The whole name of an attribute, from the text before its `=`, last character first. -/
def attributeName (before : List Char) : List Char :=
  (before.takeWhile isAttributeChar).reverse

/-- The name of class attributes. -/
def className : List Char := "class".toList

/-- A name ends in the word `class`. -/
def EndsInClass (name : List Char) : Prop :=
  ∃ first, name = first ++ className ∧ ∀ c ∈ first.getLast?, isWord c = false

/-- Orders the names of some values. `touched` is asked about the whole name of the attribute
and about its value. -/
def valueSwap (touched : List Char → List Char → Prop) : Swap := fun before piece _ new =>
  ∃ value, piece = classText value ∧ new = classText (orderNames value) ∧ '"' ∉ value ∧
    touched (attributeName (className.reverse ++ before)) value

/-- Orders the names of every attribute whose name ends in the word `class`. -/
def classSwap : Swap :=
  valueSwap fun name _ => EndsInClass name

/-- Orders the names likewise, but changes nothing except in attributes named `class`. -/
def ownClassSwap : Swap :=
  valueSwap fun name value => EndsInClass name ∧ (orderNames value ≠ value → name = className)

/-- What is written for a class attribute. -/
def classWritten (found : Match) : List Char :=
  classText (orderNames (found.group 1))

theorem attributeName_class :
    attributeName (className.reverse ++ before) = attributeName before ++ className := by
  have names : ∀ c ∈ className.reverse, isAttributeChar c = true :=
    List.all_eq_true.mp (by decide)
  rw [attributeName, List.takeWhile_append_of_pos names, List.reverse_append, List.reverse_reverse,
    attributeName]

theorem noWordNext_iff_endsInClass :
    NoWordNext before ↔ EndsInClass (attributeName (className.reverse ++ before)) := by
  have last : ∀ c, c ∈ (attributeName before).getLast? ↔
      c ∈ before.head? ∧ isAttributeChar c = true := by
    intro c
    rw [attributeName, List.getLast?_reverse, List.head?_takeWhile, Option.mem_def,
      Option.filter_eq_some_iff, Option.mem_def]
  rw [attributeName_class]
  constructor
  · exact fun stop => ⟨_, rfl, fun c isLast => stop c ((last c).mp isLast).1⟩
  · rintro ⟨first, split, stop⟩ c isHead
    obtain rfl := List.append_cancel_right split
    by_contra word
    rw [Bool.not_eq_false] at word
    have isName : isAttributeChar c = true := by simp [isAttributeChar, word]
    rw [stop c ((last c).mpr ⟨isHead, isName⟩)] at word
    contradiction

theorem valueSwap_applies_iff {touched : List Char → List Char → Prop} {value : List Char}
    (closed : '"' ∉ value) : (valueSwap touched).Applies before (classText value ++ after) ↔
      touched (attributeName (className.reverse ++ before)) value := by
  constructor
  · rintro ⟨_, rest, _, split, other, rfl, rfl, otherClosed, isTouched⟩
    obtain ⟨rfl, _⟩ := classText_unique closed otherClosed split
    exact isTouched
  · exact fun isTouched => ⟨_, after, _, rfl, value, rfl, rfl, closed, isTouched⟩

/-- A match puts the names of an attribute in order whose name ends in the word `class`. -/
theorem classSwap_of_match {piece : List Char}
    (isMatch : classAttribute.matcher false (.between before (piece ++ after)) = some found)
    (finish : found.finish = .between (piece.reverse ++ before) after) :
    classSwap before piece after (classWritten found) := by
  obtain ⟨value, rest, split, closed, stop, _, ownFinish, isValue⟩ := classAttribute_match isMatch
  obtain ⟨rfl, rfl⟩ : piece = classText value ∧ after = rest :=
    Cursor.cut_unique split finish ownFinish
  exact ⟨value, rfl, by rw [classWritten, isValue], closed, noWordNext_iff_endsInClass.mp stop⟩

theorem exists_match_of_classSwap (applies : classSwap.Applies before after) :
    ∃ found, classAttribute.matcher false (.between before after) = some found := by
  obtain ⟨_, rest, _, rfl, value, rfl, rfl, closed, ends⟩ := applies
  exact exists_matchAt_of_reaches (classAttribute_reaches_iff.mpr
    ⟨value, rest, rfl, closed, noWordNext_iff_endsInClass.mpr ends, trivial⟩)

/-- The pattern matches where a name ends in the word `class`. -/
theorem classSwap_edited (segmented : Segmented classAttribute.matcher before after segments) :
    Edited classSwap before after (segments.flatMap (Segment.chars classWritten)) :=
  segmented.edited_of_match classSwap_of_match exists_match_of_classSwap

theorem classSwap_of_own {piece new : List Char} (swapped : ownClassSwap before piece after new) :
    classSwap before piece after new := by
  obtain ⟨value, isPiece, isNew, closed, ends, _⟩ := swapped
  exact ⟨value, isPiece, isNew, closed, ends⟩

/-- Ordering the names of values changes nothing before the first quote. -/
theorem takeWhile_not_quote_of_edited {touched : List Char → List Char → Prop}
    (edited : Edited (valueSwap touched) before after out) :
    out.takeWhile (· ≠ '"') = after.takeWhile (· ≠ '"') := by
  induction edited with
  | done => rfl
  | keep _ _ hyp => rw [List.takeWhile_cons, List.takeWhile_cons, hyp]
  | swap swapped _ _ =>
      obtain ⟨value, rfl, rfl, _, _⟩ := swapped
      rfl

/-- An attribute that is not touched keeps its value. -/
theorem orderNames_eq_of_edited {touched : List Char → List Char → Prop} {value : List Char}
    (closed : '"' ∉ value)
    (untouched : ¬ touched (attributeName (className.reverse ++ before)) value)
    (edited : Edited (valueSwap touched) before (classText value ++ after)
      (classText (orderNames value) ++ out)) : orderNames value = value := by
  have fixed : ∀ done rest, classOpening = done ++ rest → rest ≠ [] →
      ¬ (valueSwap touched).Applies (done.reverse ++ before) (rest ++ (value ++ '"' :: after)) := by
    intro done rest split nonempty
    cases done with
    | nil =>
        obtain rfl : classOpening = rest := split
        simpa [classText] using (valueSwap_applies_iff closed).not.mpr untouched
    | cons d done =>
        -- The opening has no second `c`.
        rintro ⟨_, later, _, begins, other, rfl, _⟩
        obtain ⟨c, rest, rfl⟩ := List.exists_cons_of_ne_nil nonempty
        obtain ⟨rfl, _⟩ : c = 'c' ∧ _ := List.cons.inj begins
        have inTail : 'c' ∈ classOpening.tail := by simp [split]
        exact absurd inTail (by decide)
  have cut : ∀ value rest, classText value ++ rest = classOpening ++ (value ++ '"' :: rest) := by
    simp [classText]
  rw [cut, cut] at edited
  obtain ⟨last, split, later⟩ := Edited.exists_of_fixed fixed edited
  obtain rfl := List.append_cancel_left split
  have begins := takeWhile_not_quote_of_edited later
  rwa [takeWhile_until (quote_not_mem_orderNames closed), takeWhile_until closed] at begins

/-- Nothing but attributes named `class` is changed, exactly if every attribute that is found
with names out of order has that name. -/
theorem ownClassSwap_edited_iff
    (segmented : Segmented classAttribute.matcher before after segments) :
    Edited ownClassSwap before after (segments.flatMap (Segment.chars classWritten)) ↔
      ∀ found ∈ segments.filterMap Segment.match?, orderNames (found.group 1) ≠ found.group 1 →
        attributeName (className.reverse ++ found.start.before) = className := by
  induction segmented with
  | done => simpa using Edited.done
  | @keep before after c segments none _ hyp =>
      have fixed : ¬ ownClassSwap.Applies before (c :: after) := by
        intro applies
        obtain ⟨found, isMatch⟩ := exists_match_of_classSwap (applies.mono classSwap_of_own)
        exact absurd (none.symm.trans isMatch) (by simp)
      rw [List.filterMap_cons_none rfl, ← hyp]
      exact Edited.keep_iff fixed
  | @found before piece after found segments isMatch start finish _ hyp =>
      obtain ⟨value, rest, split, closed, stop, _, ownFinish, isValue⟩ :=
        classAttribute_match isMatch
      obtain ⟨rfl, rfl⟩ : piece = classText value ∧ after = rest :=
        Cursor.cut_unique split finish ownFinish
      have ends := noWordNext_iff_endsInClass.mp stop
      rw [List.filterMap_cons_some (rfl : Segment.match? (.matched found) = some found),
        List.forall_mem_cons, ← hyp, List.flatMap_cons, Segment.chars, classWritten, isValue, start]
      constructor
      · intro edited
        by_cases own : orderNames value ≠ value →
            attributeName (className.reverse ++ before) = className
        · obtain ⟨_, later, _, last, split, written, ⟨other, rfl, rfl, otherClosed, _⟩, ended⟩ :=
            Edited.exists_of_applies edited ((valueSwap_applies_iff closed).mpr ⟨ends, own⟩)
          obtain ⟨rfl, rfl⟩ := classText_unique closed otherClosed split
          obtain rfl := List.append_cancel_left written
          exact ⟨own, ended⟩
        · have same := orderNames_eq_of_edited closed (fun touched => own touched.2) edited
          exact absurd (fun changes => absurd same changes) own
      · rintro ⟨own, edited⟩
        exact .swap ⟨value, rfl, rfl, closed, ends, own⟩ edited

/-! ## Tags -/

/-- A name is that of a void element. -/
def IsVoidName (name : List Char) : Prop :=
  ∃ own ∈ voidNames, name = own.toList

/-- A name begins with the name of a void element, as a word. -/
def BeginsVoid (name : List Char) : Prop :=
  ∃ own ∈ voidNames, ∃ rest, name = own.toList ++ rest ∧ NoWordNext rest

/-- Takes the slash, with blanks before it, out of self-closed tags with some names. -/
def tagSwap (named : List Char → Prop) : Swap := fun _ piece _ new =>
  ∃ body blanks, piece = '<' :: (body ++ (blanks ++ ['/', '>'])) ∧ new = '<' :: (body ++ ['>']) ∧
    '>' ∉ body ∧ (∀ c ∈ blanks, isBlank c = true) ∧ named (tagName body)

/-- Takes the slash out of every self-closed tag whose name begins with the name of a void
element. -/
def slashSwap : Swap :=
  tagSwap BeginsVoid

/-- Takes the slash out of self-closed tags of void elements. -/
def ownTagSwap : Swap :=
  tagSwap IsVoidName

/-- Some tag in a text has the name of a void element. -/
def HasVoidTag (text : List Char) : Prop :=
  ∃ done rest, text = done ++ '<' :: rest ∧ IsVoidName (tagName rest)

theorem slashSwap_of_own {piece new : List Char} (swapped : ownTagSwap before piece after new) :
    slashSwap before piece after new := by
  obtain ⟨body, blanks, isPiece, isNew, inside, allBlank, own, isOwn, isName⟩ := swapped
  exact ⟨body, blanks, isPiece, isNew, inside, allBlank, own, isOwn, [], by simp [isName],
    by simp [NoWordNext]⟩

theorem bracket_not_mem {blanks : List Char} (allBlank : ∀ c ∈ blanks, isBlank c = true) :
    '>' ∉ blanks :=
  fun isMember => absurd (allBlank _ isMember) (by decide)

/-- A tag ends its name before blanks and slash. -/
theorem tagName_append {body blanks rest : List Char} (allBlank : ∀ c ∈ blanks, isBlank c = true) :
    tagName (body ++ (blanks ++ '/' :: rest)) = tagName body := by
  refine takeWhile_append_of_stop ?_
  cases blanks with
  | nil => simp [isTagChar]
  | cons c blanks =>
      have blank := allBlank c (by simp)
      simp [isTagChar, blank]

/-- A tag begins with a word exactly if its name does. -/
theorem beginsVoid_tagName_iff {body : List Char} : BeginsVoid (tagName body) ↔
    ∃ own ∈ voidNames, ∃ rest, body = own.toList ++ rest ∧ NoWordNext rest := by
  have names : ∀ {own : String}, own ∈ voidNames → ∀ c ∈ own.toList, isTagChar c = true :=
    fun isOwn c inOwn => isTagChar_of_isWord ((voidNames_plain isOwn).2 c inOwn).1
  constructor
  · rintro ⟨own, isOwn, rest, split, stop⟩
    refine ⟨own, isOwn, rest ++ body.dropWhile isTagChar, ?_, ?_⟩
    · rw [← List.append_assoc, ← split, tagName, List.takeWhile_append_dropWhile]
    · cases rest with
      | cons => exact stop
      | nil =>
          intro c isHead
          by_contra word
          have ends := head?_dropWhile_not c isHead
          rw [isTagChar_of_isWord (by simpa using word)] at ends
          exact absurd ends (by decide)
  · rintro ⟨own, isOwn, rest, rfl, stop⟩
    refine ⟨own, isOwn, tagName rest, List.takeWhile_append_of_pos (names isOwn), ?_⟩
    cases rest with
    | nil => exact stop
    | cons c rest =>
        intro d isHead
        rw [tagName, List.takeWhile_cons] at isHead
        split at isHead
        · exact stop d isHead
        · simp at isHead

/-- A match takes the slash out of a tag whose name begins with the name of a void element. -/
theorem slashSwap_of_match {piece : List Char}
    (isMatch : selfClosedVoid.matcher false (.between before (piece ++ after)) = some found)
    (finish : found.finish = .between (piece.reverse ++ before) after) :
    slashSwap before piece after (voidWritten found) := by
  obtain ⟨own, isOwn, attributes, blanks, rest, split, stop, absent, allBlank, _, ownFinish, first,
    second⟩ := selfClosedVoid_match isMatch
  obtain ⟨rfl, rfl⟩ :
      piece = '<' :: (own.toList ++ (attributes ++ (blanks ++ ['/', '>']))) ∧ after = rest :=
    Cursor.cut_unique (by simpa using split) finish ownFinish
  have outside : '>' ∉ own.toList :=
    fun isMember => ((voidNames_plain isOwn).2 _ isMember).2.1 rfl
  refine ⟨own.toList ++ attributes, blanks, by simp, by simp [voidWritten, first, second],
    by simp [outside, absent], allBlank,
    beginsVoid_tagName_iff.mpr ⟨own, isOwn, attributes, rfl, ?_⟩⟩
  cases attributes with
  | nil => simp [NoWordNext]
  | cons => exact stop

theorem exists_match_of_slashSwap (applies : slashSwap.Applies before after) :
    ∃ found, selfClosedVoid.matcher false (.between before after) = some found := by
  obtain ⟨_, rest, _, rfl, body, blanks, rfl, _, inside, allBlank, begins⟩ := applies
  obtain ⟨own, isOwn, attributes, rfl, stop⟩ := beginsVoid_tagName_iff.mp begins
  refine exists_matchAt_of_reaches (selfClosedVoid_reaches_iff.mpr
    ⟨own, isOwn, attributes, blanks, rest, by simp, ?_,
      fun isMember => inside (List.mem_append_right _ isMember), allBlank, trivial⟩)
  cases attributes with
  | cons => exact stop
  | nil =>
      cases blanks with
      | nil => exact fun c isHead => by obtain rfl := Option.some.inj isHead; decide
      | cons d blanks =>
          intro c isHead
          obtain rfl := Option.some.inj isHead
          exact isWord_of_isBlank (allBlank d (by simp))

/-- The pattern matches where a tag begins with the name of a void element. -/
theorem slashSwap_edited (segmented : Segmented selfClosedVoid.matcher before after segments) :
    Edited slashSwap before after (segments.flatMap (Segment.chars voidWritten)) :=
  segmented.edited_of_match slashSwap_of_match exists_match_of_slashSwap

/-- A self-closed tag reaches to the first closing bracket. -/
theorem tagSwap_cut {named : List Char → Prop} {piece new tag rest last : List Char}
    (swapped : tagSwap named before piece rest new) (inside : '>' ∉ tag)
    (split : piece ++ rest = tag ++ '>' :: last) :
    ∃ name kept, tag = '<' :: name ∧ new = kept ++ ['>'] ∧ '>' ∉ kept ∧
      named (tagName (name ++ ['>'])) ∧ piece = tag ++ ['>'] ∧ rest = last := by
  obtain ⟨body, blanks, rfl, rfl, bodyInside, allBlank, isNamed⟩ := swapped
  have noBracket : '>' ∉ '<' :: (body ++ (blanks ++ ['/'])) := by
    simp [bodyInside, bracket_not_mem allBlank]
  obtain ⟨rfl, rfl⟩ := cut_at_unique noBracket inside (by simpa using split)
  have isName : named (tagName (body ++ (blanks ++ ['/', '>']))) := by
    rwa [tagName_append allBlank]
  exact ⟨_, '<' :: body, rfl, rfl, by simp [bodyInside], by simpa using isName, by simp, rfl⟩

/-- What comes out of a tag ends where the tag does, and it is the tag unless some tag in it has
the name of a void element. -/
theorem exists_of_edited_tag {tag : List Char} (inside : '>' ∉ tag)
    (edited : Edited ownTagSwap before (tag ++ '>' :: after) out) :
    ∃ kept last, out = kept ++ '>' :: last ∧ '>' ∉ kept ∧
      (kept = tag ∨ HasVoidTag (tag ++ ['>'])) ∧
      Edited ownTagSwap ((tag ++ ['>']).reverse ++ before) after last := by
  induction tag generalizing before out with
  | nil =>
      have fixed : ¬ ownTagSwap.Applies before ('>' :: after) := by
        rintro ⟨_, _, _, split, _, _, rfl, _⟩
        exact absurd (List.cons.inj split).1 (by decide)
      obtain ⟨last, rfl, later⟩ := Edited.exists_of_not_applies edited fixed
      exact ⟨[], last, rfl, by simp, .inl rfl, later⟩
  | cons c tag hyp =>
      by_cases applies : ownTagSwap.Applies before (c :: (tag ++ '>' :: after))
      · obtain ⟨piece, rest, new, last, split, rfl, swapped, later⟩ :=
          Edited.exists_of_applies edited applies
        obtain ⟨name, kept, isTag, rfl, keptInside, isVoid, rfl, rfl⟩ :=
          tagSwap_cut swapped inside split.symm
        refine ⟨kept, last, by simp, keptInside, .inr ⟨[], _, ?_, isVoid⟩, later⟩
        rw [isTag]
        rfl
      · obtain ⟨rest, rfl, later⟩ := Edited.exists_of_not_applies edited applies
        rw [List.mem_cons, not_or] at inside
        obtain ⟨kept, last, rfl, keptInside, either, ended⟩ := hyp inside.2 later
        refine ⟨c :: kept, last, rfl, by simp [inside.1, keptInside], ?_, by simpa using ended⟩
        rcases either with rfl | ⟨done, name, split, isVoid⟩
        · exact .inl rfl
        · exact .inr ⟨c :: done, name, congrArg (List.cons c) split, isVoid⟩

/-- The slash is taken out of a tag if some tag in it has the name of a void element. -/
theorem edited_of_hasVoidTag {body blanks : List Char} (inside : '>' ∉ body)
    (allBlank : ∀ c ∈ blanks, isBlank c = true)
    (isVoid : HasVoidTag (body ++ (blanks ++ ['/', '>'])))
    (later : Edited ownTagSwap ((body ++ (blanks ++ ['/', '>'])).reverse ++ before) after out) :
    Edited ownTagSwap before ((body ++ (blanks ++ ['/', '>'])) ++ after) ((body ++ ['>']) ++ out) := by
  induction body generalizing before with
  | nil =>
      obtain ⟨done, rest, split, _⟩ := isVoid
      have isMember : '<' ∈ blanks ++ ['/', '>'] := by
        rw [List.nil_append] at split
        simp [split]
      rcases List.mem_append.mp isMember with inBlanks | isLast
      · exact absurd (allBlank _ inBlanks) (by decide)
      · exact absurd isLast (by decide)
  | cons c body hyp =>
      have tail := inside
      rw [List.mem_cons, not_or] at tail
      by_cases here : c = '<' ∧ IsVoidName (tagName (body ++ (blanks ++ ['/', '>'])))
      · obtain ⟨rfl, named⟩ := here
        rw [tagName_append allBlank] at named
        exact .swap ⟨body, blanks, rfl, rfl, tail.2, allBlank, named⟩ later
      · have fixed : ¬ ownTagSwap.Applies before (c :: ((body ++ (blanks ++ ['/', '>'])) ++ after)) := by
          rintro ⟨piece, rest, _, split, swapped⟩
          have noBracket : '>' ∉ c :: (body ++ (blanks ++ ['/'])) := by
            simpa [bracket_not_mem allBlank] using inside
          obtain ⟨name, _, isTag, _, _, named, _⟩ :=
            tagSwap_cut swapped noBracket (by simpa using split.symm)
          obtain ⟨rfl, rfl⟩ := List.cons.inj isTag
          exact here ⟨rfl, by simpa using named⟩
        refine .keep fixed (hyp tail.2 ?_ (by simpa using later))
        obtain ⟨done, rest, split, named⟩ := isVoid
        cases done with
        | nil =>
            obtain ⟨rfl, rfl⟩ := List.cons.inj split
            exact absurd ⟨rfl, named⟩ here
        | cons d done => exact ⟨done, rest, (List.cons.inj split).2, named⟩

/-- The slashes of tags of void elements alone are taken out, exactly if every match has such a tag
in it. -/
theorem ownTagSwap_edited_iff
    (segmented : Segmented selfClosedVoid.matcher before after segments) :
    Edited ownTagSwap before after (segments.flatMap (Segment.chars voidWritten)) ↔
      ∀ found ∈ segments.filterMap Segment.match?, HasVoidTag found.text := by
  induction segmented with
  | done => simpa using Edited.done
  | @keep before after c segments none _ hyp =>
      have fixed : ¬ ownTagSwap.Applies before (c :: after) := by
        intro applies
        obtain ⟨found, isMatch⟩ := exists_match_of_slashSwap (applies.mono slashSwap_of_own)
        exact absurd (none.symm.trans isMatch) (by simp)
      rw [List.filterMap_cons_none rfl, ← hyp]
      exact Edited.keep_iff fixed
  | @found before piece after found segments isMatch start finish _ hyp =>
      obtain ⟨body, blanks, rfl, isNew, inside, allBlank, _⟩ := slashSwap_of_match isMatch finish
      rw [List.filterMap_cons_some (rfl : Segment.match? (.matched found) = some found),
        List.forall_mem_cons, ← hyp, List.flatMap_cons, Segment.chars, isNew,
        Match.text_of_cut start finish]
      have inBody : '>' ∉ '<' :: body := by simp [inside]
      have noBracket : '>' ∉ '<' :: (body ++ (blanks ++ ['/'])) := by
        simp [inside, bracket_not_mem allBlank]
      have cut : ∀ rest, '<' :: (body ++ (blanks ++ ['/', '>'])) ++ rest =
          '<' :: (body ++ (blanks ++ ['/'])) ++ '>' :: rest := by
        simp
      constructor
      · intro edited
        rw [cut] at edited
        obtain ⟨kept, last, split, keptInside, either, later⟩ := exists_of_edited_tag noBracket edited
        obtain ⟨rfl, rfl⟩ := cut_at_unique inBody keptInside (by simpa using split)
        have isVoid := either.resolve_left (by simp)
        exact ⟨by simpa using isVoid, by simpa using later⟩
      · rintro ⟨isVoid, later⟩
        exact @edited_of_hasVoidTag before after _ ('<' :: body) blanks inBody allBlank isVoid later

/-! ## Lines -/

/-- What the rule-set for pages makes of a line. A line that is not left alone has the names of
every attribute put in order whose name ends in the word `class`, and then the slash taken out of
every tag whose name begins with the name of a void element. The first of the two changes only
attributes named `class` exactly if every attribute that is found with names out of order is one;
the second takes slashes only out of tags of void elements exactly if every match has one in it. -/
theorem apply_page_touches (text : List Char) (number : Int) (executable : Bool)
    (customIgnore : Option Pattern) :
    let run : Run :=
      { context := Context.ofLine (String.ofList text) number executable customIgnore }
    ∃ later out, store.apply {} (.named "html") run = .going later ∧ later.context.Shows out ∧
      (pageTable.admits customIgnore text = false → out = text) ∧
      (pageTable.admits customIgnore text = true → ∃ middle,
        Edited classSwap [] text middle ∧ Edited slashSwap [] middle out ∧
        (Edited ownClassSwap [] text middle ↔
          ∀ found ∈ classAttribute.findAll text, orderNames (found.group 1) ≠ found.group 1 →
            attributeName (className.reverse ++ found.start.before) = className) ∧
        (Edited ownTagSwap [] middle out ↔
          ∀ found ∈ selfClosedVoid.findAll middle, HasVoidTag found.text)) := by
  intro run
  have shows : run.context.Shows text := ⟨rfl, rfl⟩
  obtain ⟨later, isLater, becomes⟩ := Store.apply_becomes pageTable_provided shows
  refine ⟨later, _, isLater, becomes.shows, ?_, ?_⟩
  · intro closed
    have isClosed : pageTable.admits run.place.customIgnore text = false := closed
    simp [LineTable.run, isClosed]
  · intro works
    have isOpen : pageTable.admits run.place.customIgnore text = true := works
    obtain ⟨classes, cut, all, written⟩ := Pattern.exists_segmented classAttribute_advances text
    have sorted : sortClasses text = classes.flatMap (Segment.chars classWritten) := written _
    obtain ⟨tags, tagCut, allTags, tagsWritten⟩ :=
      Pattern.exists_segmented selfClosedVoid_advances (sortClasses text)
    have isOut : (pageTable.run run.place text).1 = tags.flatMap (Segment.chars voidWritten) := by
      rw [pageTable_tells.run_eq isOpen, fix_pageSteps, dropSlashes_eq, tagsWritten]
    rw [isOut, all]
    refine ⟨sortClasses text, ?_, slashSwap_edited tagCut, ?_, ?_⟩
    · rw [sorted]
      exact classSwap_edited cut
    · rw [sorted]
      exact ownClassSwap_edited_iff cut
    · rw [allTags]
      exact ownTagSwap_edited_iff tagCut

/-- Attributes whose names end in the word `class` are changed, and tags whose names begin with
the name of a void element lose their slashes. -/
theorem format_touches_others :
    let formatter : Formatter := { language := .html, store }
    let path : Path := ⟨.relative, ["a.html"]⟩
    let shown (text : String) := (formatter.format path text).outcome.map fun result =>
      (result.updated, result.violations.map fun violation => (violation.ruleId, violation.line?))
    shown "<p data-class=\"b a\">x</p>\n" =
        .ok ("<p data-class=\"a b\">x</p>\n", [("html.sorted_class_names", some 1)]) ∧
      attributeName "<p data-class".toList.reverse = "data-class".toList ∧
      shown "<link-x/>\n" = .ok ("<link-x>\n", [("html.self_closing_void_tag", some 1)]) ∧
      tagName "link-x/>\n".toList = "link-x".toList := by
  intro formatter path shown
  refine ⟨?_, by decide, by decide +kernel, by decide⟩
  -- Sorting evaluates in the tables alone, so the file is taken apart first.
  let lines : List Planned :=
    [(⟨"<p data-class=\"b a\">x</p>".toList, ['\n']⟩, [whitespaceTable, pageTable])]
  have provided : ∀ planned ∈ lines, ∀ table ∈ planned.2, store.Provides table := by
    simp only [lines, List.mem_cons, List.not_mem_nil, or_false, forall_eq, forall_eq_or_imp]
    exact ⟨whitespaceTable_provided, pageTable_provided⟩
  have formatted := @Formatter.format_outcome_lint path formatter
    "<p data-class=\"b a\">x</p>\n" lines (by decide) (by decide) provided
  have ran : runLines (isExecutable "<p data-class=\"b a\">x</p>\n".toList) none 1 lines =
      ([⟨"<p data-class=\"a b\">x</p>".toList, ['\n']⟩],
        [⟨some "html", some "sorted_class_names", 1,
          .text "Line 1: Sort attribute values: \"b a\" should be \"a b\""⟩]) := by
    cbv
  simp only [shown]
  rw [formatted, Formatter.lint_of_no_linter path rfl, ran]
  rfl

end LineRules.Builtin
