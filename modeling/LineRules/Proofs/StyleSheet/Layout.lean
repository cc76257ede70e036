import LineRules.Proofs.Pattern.Layout
import LineRules.Proofs.Pattern.Preference
import LineRules.Proofs.StyleSheet.Declarations

/-!
# Declarations of a text

A declaration is its head, up to the first colon, and the longest run of characters of a
value after it. This holds in texts of any number of lines: a value that could end in front
of the last line feed goes on to the end (`declaration_match_closes`).

Where a declaration begins in a text therefore does not depend on the values that come later
(`declares_of_declares`), and new values leave all declarations where they are, as long as
each is still a value: no closer, no brace and no comma at its end (`declaration_stable`).
-/

namespace LineRules.Builtin

open LineRules.Text LineRules.Pattern LineRules.Pattern.Node

variable {before after head value rest : List Char} {found : Match}

/-! ## The match that is found -/

namespace IsHead

/-- A head ends in its only colon. -/
theorem exists_colon (isHead : IsHead head) : ∃ named, head = named ++ [':'] ∧ ':' ∉ named := by
  obtain ⟨name, blanks, rfl, _, isName, allBlank⟩ := isHead
  refine ⟨name ++ blanks, by simp, fun isMember => ?_⟩
  rcases List.mem_append.mp isMember with inName | inBlanks
  · exact absurd (isName _ inName) (by decide)
  · exact absurd (allBlank _ inBlanks) (by decide)

theorem cut_unique {other last : List Char} (isHead : IsHead head) (isOther : IsHead other)
    (same : head ++ rest = other ++ last) : head = other ∧ rest = last := by
  obtain ⟨named, rfl, absent⟩ := isHead.exists_colon
  obtain ⟨otherNamed, rfl, otherAbsent⟩ := isOther.exists_colon
  obtain ⟨rfl, rfl⟩ := cut_at_unique absent otherAbsent (by simpa using same)
  exact ⟨rfl, rfl⟩

/-- A head goes no farther than to the first colon. -/
theorem exists_of_colon {front more tail : List Char} (isHead : IsHead head)
    (same : head ++ more = front ++ ':' :: tail) :
    ∃ middle, front ++ [':'] = head ++ middle ∧ more = middle ++ tail := by
  obtain ⟨named, rfl, absent⟩ := isHead.exists_colon
  have cut : named ++ ':' :: more = front ++ ':' :: tail := by simpa using same
  rcases List.append_eq_append_iff.mp cut with ⟨middle, rfl, tails⟩ | ⟨middle, rfl, tails⟩
  · cases middle with
    | nil => exact ⟨[], by simp, (List.cons.inj tails).2⟩
    | cons c middle =>
        obtain ⟨rfl, rfl⟩ := List.cons.inj tails
        exact ⟨middle ++ [':'], by simp, by simp⟩
  · cases middle with
    | nil => exact ⟨[], by simp, (List.cons.inj tails).2.symm⟩
    | cons c middle =>
        obtain rfl := (List.cons.inj tails).1
        exact absurd (by simp) absent

end IsHead

/-- What can follow a value in any text. -/
def Closes (rest : List Char) : Prop :=
  ∀ c ∈ rest.head?, isCloser c = true

/-- A text that can be the value of a declaration. -/
structure IsValue (value : List Char) : Prop where
  plain : ∀ c ∈ value, isValueChar c = true
  noComma : ∀ c ∈ value.getLast?, c ≠ ','

theorem IsValue.cut_unique {other last : List Char} (isValue : IsValue value) (closes : Closes rest)
    (isOther : IsValue other) (otherCloses : Closes last) (same : value ++ rest = other ++ last) :
    value = other ∧ rest = last := by
  have stop : ∀ {text : List Char}, Closes text → ∀ c ∈ text.head?, isValueChar c = false := by
    intro text closes c isHead
    refine Bool.eq_false_iff.mpr fun isPlain => ?_
    exact Bool.false_ne_true ((not_isCloser_of_isValueChar isPlain).symm.trans (closes c isHead))
  exact run_unique isValue.plain (stop closes) isOther.plain (stop otherCloses) same

private theorem head_results {reached : State} {opened closed : List (Nat × Cursor)}
    (isReached : reached ∈ (group 1 (sequence [plus (oneOf [.chars 'a' 'z', .ofChar '-'] .folded),
      star (blank .folded), lit ':' .folded])).results ⟨.between before after, opened, closed⟩) :
    ∃ head rest, after = head ++ rest ∧ IsHead head ∧
      reached = ⟨.between (head.reverse ++ before) rest, (1, .between before after) :: opened,
        (1, .between (head.reverse ++ before) rest) :: closed⟩ := by
  have reaches : (group 1 (sequence [plus (oneOf [.chars 'a' 'z', .ofChar '-'] .folded),
      star (blank .folded), lit ':' .folded])).Reaches ⟨.between before after, opened, closed⟩
        (· = reached) := ⟨reached, isReached, rfl⟩
  simp only [reaches_sequence_cons_iff, reaches_sequence_nil_iff, oneOf, lit, blank,
    reaches_group_iff, State.openGroup, State.closeGroup, reaches_star_char_iff,
    reaches_plus_char_iff, reaches_char_iff, contains_blank, contains_colon] at reaches
  obtain ⟨name, _, rfl, nonempty, isName, blanks, _, rfl, allBlank, c, rest, rfl, colon, rfl⟩ :=
    reaches
  obtain rfl : c = ':' := by simpa using colon
  exact ⟨name ++ (blanks ++ [':']), rest, by simp, ⟨name, blanks, rfl, nonempty, isName, allBlank⟩,
    by simp⟩

/-- Of the places where a value could end, the match takes the last. -/
theorem declaration_farthest : declaration.node.Farthest (.start (.between before after)) := by
  have tree : declaration.node = sequence
      [behind false 1 (oneOf
          [.anyWord, .ofChar '#', .ofChar '.', .ofChar ':', .ofChar '-'] .folded),
        group 1 (sequence
          [plus (oneOf [.chars 'a' 'z', .ofChar '-'] .folded), star (blank .folded),
            lit ':' .folded]),
        group 2 (star (noneOf [.ofChar ';', .ofChar '\x7b', .ofChar '\x7d'] .folded)),
        behind false 1 (lit ',' .folded),
        ahead true (choice [oneOf [.ofChar ';', .ofChar '\x7d'] .folded, lineEnd])] := rfl
  rw [tree, State.start]
  refine farthest_sequence_of_unique ?_ fun middle isMiddle => ?_
  · intro first isFirst second isSecond
    rw [(mem_behind_iff.mp isFirst).2, (mem_behind_iff.mp isSecond).2]
  obtain rfl := (mem_behind_iff.mp isMiddle).2
  refine farthest_sequence_of_unique ?_ fun middle isMiddle => ?_
  · intro first isFirst second isSecond
    obtain ⟨head, rest, rfl, isHead, rfl⟩ := head_results isFirst
    obtain ⟨other, last, same, isOther, rfl⟩ := head_results isSecond
    obtain ⟨rfl, rfl⟩ := isHead.cut_unique isOther same
    rfl
  obtain ⟨head, rest, rfl, _, rfl⟩ := head_results isMiddle
  refine farthest_sequence_of_stays ?_ fun middle _ last isLast => ?_
  · rw [results, List.pairwise_map]
    exact pairwise_star_char
  · obtain ⟨between, isBetween, isLast⟩ := mem_sequence_cons_iff.mp isLast
    rw [cursor_of_mem_ahead isLast, cursor_of_mem_behind isBetween]

/-- A match goes on to a closer or to the end of the text. -/
theorem declaration_match_closes
    (isMatch : declaration.matcher false (.between before after) = some found) :
    ∃ head value rest, after = head ++ (value ++ rest) ∧ Begins before ∧ IsHead head ∧
      IsValue value ∧ Closes rest ∧
      found.finish = .between ((head ++ value).reverse ++ before) rest ∧
      found.group 1 = head ∧ found.group 2 = value := by
  obtain ⟨head, value, rest, rfl, begins, isHead, plain, noComma, ends, _, finish, groups⟩ :=
    declaration_match isMatch
  refine ⟨head, value, rest, rfl, begins, isHead, ⟨plain, noComma⟩, ?_, finish, groups⟩
  rcases ends with rfl | rfl | ⟨c, later, rfl, closer⟩
  · simp [Closes]
  · -- The line feed could have been taken into the value.
    have longer : declaration.node.Reaches (.start (.between before (head ++ (value ++ ['\n']))))
        fun state => state.cursor.left = 0 := by
      refine declaration_reaches_iff.mpr ⟨head, value ++ ['\n'], [], by simp, begins, isHead, ?_,
        by simp, .inl rfl, rfl⟩
      intro c isMember
      rcases List.mem_append.mp isMember with inValue | isFeed
      · exact plain c inValue
      · rw [List.mem_singleton.mp isFeed]
        decide
    obtain ⟨reached, noneLeft, bound⟩ := finish_le_of_reaches declaration_farthest isMatch longer
    rw [noneLeft, finish] at bound
    simp at bound
  · simpa [Closes] using closer

/-- A declaration that is there is found as a whole. -/
theorem exists_declaration (begins : Begins before) (isHead : IsHead head) (isValue : IsValue value)
    (closes : Closes rest) :
    ∃ found, declaration.matcher false (.between before (head ++ (value ++ rest))) = some found ∧
      found.finish = .between ((head ++ value).reverse ++ before) rest ∧
      found.group 1 = head ∧ found.group 2 = value := by
  have noComma : ∀ c ∈ (value.reverse ++ [':']).head?, c ≠ ',' := by
    intro c isLast
    rw [List.head?_append, List.head?_reverse] at isLast
    cases last : value.getLast? with
    | none =>
        obtain rfl : ':' = c := by simpa [last] using isLast
        decide
    | some d =>
        obtain rfl : d = c := by simpa [last] using isLast
        exact isValue.noComma d last
  have ends : rest = [] ∨ rest = ['\n'] ∨ ∃ c later, rest = c :: later ∧ isCloser c = true := by
    cases rest with
    | nil => exact .inl rfl
    | cons c rest => exact .inr (.inr ⟨c, rest, rfl, closes c rfl⟩)
  obtain ⟨found, isMatch⟩ := exists_matchAt_of_reaches (declaration_reaches_iff.mpr
    ⟨head, value, rest, rfl, begins, isHead, isValue.plain, noComma, ends, trivial⟩)
  obtain ⟨other, given, last, same, _, isOther, isGiven, lastCloses, finish, groups⟩ :=
    declaration_match_closes isMatch
  obtain ⟨rfl, tails⟩ := isHead.cut_unique isOther same
  obtain ⟨rfl, rfl⟩ := isValue.cut_unique closes isGiven lastCloses tails
  exact ⟨found, isMatch, finish, groups⟩

/-! ## Where declarations begin -/

/-- A text begins with a declaration. -/
def Declares (text : List Char) : Prop :=
  ∃ head value rest, text = head ++ (value ++ rest) ∧ IsHead head ∧ IsValue value ∧ Closes rest

theorem declaration_eq_none_iff :
    declaration.matcher false (.between before after) = none ↔
      ¬ (Begins before ∧ Declares after) := by
  constructor
  · rintro absent ⟨begins, head, value, rest, rfl, isHead, isValue, closes⟩
    obtain ⟨found, isMatch, _⟩ := exists_declaration begins isHead isValue closes
    rw [absent] at isMatch
    contradiction
  · intro absent
    refine Option.eq_none_iff_forall_ne_some.mpr fun found isMatch => absent ?_
    obtain ⟨head, value, rest, split, begins, isHead, isValue, closes, _⟩ :=
      declaration_match_closes isMatch
    exact ⟨begins, head, value, rest, split, isHead, isValue, closes⟩

/-- No declaration begins with what closes one. -/
theorem Declares.not_closes {text : List Char} (declares : Declares text) : ¬ Closes text := by
  obtain ⟨head, value, rest, rfl, isHead, _⟩ := declares
  intro closes
  obtain ⟨c, head, rfl⟩ := List.exists_cons_of_ne_nil isHead.nonempty
  have closer : isCloser c = true := closes c rfl
  rw [not_isCloser_of_isValueChar (isHead.plain c (by simp))] at closer
  contradiction

theorem not_declares_nil : ¬ Declares [] :=
  fun declares => declares.not_closes (by simp [Closes])

theorem IsValue.append {other : List Char} (isValue : IsValue value) (isOther : IsValue other) :
    IsValue (value ++ other) where
  plain c isMember := (List.mem_append.mp isMember).elim (isValue.plain c) (isOther.plain c)
  noComma := by
    intro c isLast
    rw [List.getLast?_append] at isLast
    cases last : other.getLast? with
    | none => exact isValue.noComma c (by simpa [last] using isLast)
    | some d =>
        obtain rfl : d = c := by simpa [last] using isLast
        exact isOther.noComma d last

theorem IsValue.of_append {other : List Char} (isValue : IsValue (value ++ other)) :
    IsValue other where
  plain c isMember := isValue.plain c (List.mem_append_right _ isMember)
  noComma := by
    intro c isLast
    refine isValue.noComma c ?_
    rw [List.getLast?_append, Option.mem_def.mp isLast]
    rfl

/-- Whether a text begins with a declaration does not depend on a value that comes after a
colon in it. -/
theorem declares_of_declares {front tail : List Char} (isValue : IsValue value)
    (closes : Closes rest) (declares : Declares (front ++ ':' :: tail)) :
    Declares (front ++ ':' :: (value ++ rest)) := by
  obtain ⟨head, given, last, split, isHead, isGiven, lastCloses⟩ := declares
  obtain ⟨middle, headed, cut⟩ := isHead.exists_of_colon split.symm
  have written : front ++ ':' :: (value ++ rest) = head ++ (middle ++ (value ++ rest)) := by
    rw [List.append_cons, headed, List.append_assoc]
  have joined : IsValue middle → Declares (front ++ ':' :: (value ++ rest)) := fun isMiddle =>
    ⟨head, middle ++ value, rest, by rw [written, List.append_assoc], isHead,
      isMiddle.append isValue, closes⟩
  rcases List.append_eq_append_iff.mp cut with ⟨more, rfl, rfl⟩ | ⟨more, rfl, _⟩
  · cases more with
    | nil => exact joined (by rwa [List.append_nil])
    | cons c more =>
        -- The value ends before the colon.
        refine ⟨head, given, c :: more ++ (value ++ rest), ?_, isHead, isGiven, ?_⟩
        · rw [written, List.append_assoc]
        · exact fun d isFirst => lastCloses d isFirst
  · refine joined ⟨fun c isMember => isGiven.plain c (List.mem_append_left _ isMember), ?_⟩
    intro c isLast
    have ending : (front ++ [':']).getLast? = some c := by
      rw [headed, List.getLast?_append, Option.mem_def.mp isLast]
      rfl
    obtain rfl : ':' = c := by simpa using ending
    decide

/-! ## New values -/

/-- A declaration as a field. -/
def declarationField (found : Match) : Field where
  opening := found.group 1
  value := found.group 2
  closing := []

section Stable

variable {text : List Char} {change : List Char → List Char} {segments : List Segment}

theorem remade_declarationField :
    remade declarationField change found = found.group 1 ++ change (found.group 2) :=
  List.append_nil _

/-- A text goes on with a closer, or ends, if it did so before the values changed. -/
theorem closes_remadeAll (segmented : Segmented declaration.matcher before after segments)
    (closes : Closes after) : Closes (Segment.remadeAll declarationField change segments) := by
  cases segmented with
  | done => exact closes
  | keep => exact closes
  | found isMatch =>
      obtain ⟨head, value, rest, split, _, isHead, isValue, lastCloses, _⟩ :=
        declaration_match_closes isMatch
      have declares : Declares _ := ⟨head, value, rest, split, isHead, isValue, lastCloses⟩
      exact absurd closes declares.not_closes

/-- The first value that changes comes after a colon and before a closer. -/
theorem remadeAll_eq_or (segmented : Segmented declaration.matcher before after segments) :
    Segment.remadeAll declarationField change segments = after ∨
      ∃ front value rest tail, after = front ++ ':' :: (value ++ rest) ∧ IsValue value ∧
        Closes rest ∧
        Segment.remadeAll declarationField change segments = front ++ ':' :: tail := by
  induction segmented with
  | done => exact .inl rfl
  | @keep before after c segments _ _ hyp =>
      rcases hyp with same | ⟨front, value, rest, tail, rfl, isValue, closes, written⟩
      · exact .inl (congrArg (List.cons c) same)
      · exact .inr ⟨c :: front, value, rest, tail, rfl, isValue, closes,
          congrArg (List.cons c) written⟩
  | @found before piece after found segments isMatch _ _ _ _ =>
      obtain ⟨head, value, rest, split, _, isHead, isValue, closes, _, first, second⟩ :=
        declaration_match_closes isMatch
      obtain ⟨named, rfl, _⟩ := isHead.exists_colon
      refine .inr ⟨named, value, rest,
        change value ++ Segment.remadeAll declarationField change segments,
        by simpa using split, isValue, closes, ?_⟩
      simp [Segment.remadeAll, Segment.chars, remade_declarationField, first, second]

/-- New values leave all declarations where they are. -/
theorem declaration_stable (keeps : ∀ value, IsValue value → IsValue (change value)) :
    Stable declaration.matcher declarationField change
      (fun before written after => before.head? = written.head? ∨ Closes after) where
  start _ := .inl rfl
  done _ _ := declaration_eq_none_iff.mpr fun ⟨_, declares⟩ => not_declares_nil declares
  kept {before written c after segments} related absent segmented := by
    refine declaration_eq_none_iff.mpr fun ⟨begins, declares⟩ => ?_
    rcases related with same | closes
    · refine declaration_eq_none_iff.mp absent ⟨by rwa [Begins, same], ?_⟩
      rcases @remadeAll_eq_or _ _ change _ segmented with
        unchanged | ⟨front, value, rest, tail, rfl, isValue, closes, written⟩
      · rwa [unchanged] at declares
      · rw [written, ← List.cons_append] at declares
        exact declares_of_declares isValue closes declares
    · exact declares.not_closes fun d isFirst => closes d isFirst
  keptRelated _ := .inl rfl
  found {before written piece after found segments} related isMatch finish segmented := by
    obtain ⟨head, value, rest, split, begins, isHead, isValue, closes, otherFinish, first,
      second⟩ := declaration_match_closes isMatch
    obtain ⟨rfl, rfl⟩ : piece = head ++ value ∧ after = rest :=
      Cursor.cut_unique (by simpa using split) finish otherFinish
    have same : before.head? = written.head? := related.resolve_right
      (Declares.not_closes ⟨head, value, after, split, isHead, isValue, closes⟩)
    have beginsWritten : Begins written := by rwa [Begins, ← same]
    obtain ⟨other, isOther, finish, otherFirst, otherSecond⟩ :=
      exists_declaration beginsWritten isHead (keeps value isValue)
        (@closes_remadeAll _ _ change _ segmented closes)
    rw [remade_declarationField, first, second, List.append_assoc]
    refine ⟨other, isOther, finish, ?_⟩
    simp only [declarationField, Field.mapValue, first, second, otherFirst, otherSecond]
  foundRelated {before written piece after found} _ isMatch finish := by
    obtain ⟨head, value, rest, split, _, _, _, closes, otherFinish, _⟩ :=
      declaration_match_closes isMatch
    obtain ⟨rfl, rfl⟩ : piece = head ++ value ∧ after = rest :=
      Cursor.cut_unique (by simpa using split) finish otherFinish
    exact .inr closes

theorem chars_declarationField (isFound : found ∈ declaration.findAll text) :
    (declarationField found).chars = found.text := by
  obtain ⟨skipped, _, rfl, isMatch⟩ :=
    Matcher.exists_of_mem_findAll declaration_advances isFound
  obtain ⟨head, value, rest, rfl, _, _, _, _, finish, first, second⟩ :=
    declaration_match_closes isMatch
  have start := (declaration_advances _ _ _ isMatch).1
  rw [← List.append_assoc] at start
  rw [Match.text_of_cut start finish]
  simp only [declarationField, Field.chars, first, second, List.append_nil]

theorem flatMap_layout_declaration :
    (declaration.layout declarationField text).flatMap Part.chars = text :=
  flatMap_layout declaration_advances fun _ => chars_declarationField

theorem mapDeclarationValues_eq :
    mapDeclarationValues change text =
      declaration.replaceBy (remade declarationField change) text := by
  have same : remade declarationField change = fun found => found.group 1 ++ change (found.group 2) :=
    funext fun _ => remade_declarationField
  rw [mapDeclarationValues, same]

/-- Changing the values of all declarations gives a text that is laid out alike, with the new
values. -/
theorem layout_mapDeclarationValues (keeps : ∀ value, IsValue value → IsValue (change value)) :
    declaration.layout declarationField (mapDeclarationValues change text) =
      (declaration.layout declarationField text).map (Part.mapValue change) := by
  rw [mapDeclarationValues_eq]
  exact layout_replaceBy declaration_advances (declaration_stable keeps)

end Stable

end LineRules.Builtin
