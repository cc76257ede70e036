import LineRules.Format.File
import LineRules.Proofs.Text.Edits

/-!
# Tags of void elements

A tag of a void element that closes itself loses its slash. The pattern takes whatever
stands before the last slash for attributes, slashes included, so that a tag with two
slashes still closes itself afterwards. `dropSlashes_dropSlashes_iff` says that this is the
only way in which a second run can find anything: one run is enough for a line exactly if
no attributes end with a slash.
-/

namespace LineRules.Builtin

open LineRules.Text LineRules.Pattern LineRules.Pattern.Node

variable {before after out text : List Char} {condition : State → Prop} {found : Match}
  {segments : List Segment}

/-! ## Names of tags -/

/-- The characters of tag names. -/
def isTagChar (c : Char) : Bool :=
  !isBlank c && c ∉ ['/', '>']

/-- The whole name of a tag, from the text after its opening bracket. -/
def tagName (text : List Char) : List Char :=
  text.takeWhile isTagChar

theorem isTagChar_of_isWord {c : Char} (word : isWord c = true) : isTagChar c = true := by
  have checked : (['/', '>'].all fun d => !isWord d) = true := by decide
  have outside : c ∉ ['/', '>'] := by
    intro isMember
    simpa [word] using List.all_eq_true.mp checked c isMember
  simp [isTagChar, isBlank_of_isWord word, outside]

/-! ## Self-closed tags -/

/-- The names of void elements. -/
def voidNames : List String := ["br", "hr", "img", "input", "link", "meta"]

theorem voidNames_plain {name : String} (isName : name ∈ voidNames) :
    name.toList ≠ [] ∧ ∀ c ∈ name.toList, isWord c = true ∧ c ≠ '>' ∧ c ≠ '/' := by
  have checked : (voidNames.all fun name => !name.toList.isEmpty &&
      name.toList.all fun c => isWord c && (c != '>' && c != '/')) = true := by
    decide
  simpa using List.all_eq_true.mp checked name isName

/-- A self-closed tag without the bracket at its end. -/
def SlashTag (tag : List Char) : Prop :=
  ∃ name ∈ voidNames, ∃ body, tag = '<' :: (name.toList ++ (body ++ ['/'])) ∧
    NoWordNext (body ++ ['/']) ∧ '>' ∉ body

/-- A self-closed tag begins a text. -/
def SelfClosed (text : List Char) : Prop :=
  ∃ tag rest, text = tag ++ '>' :: rest ∧ SlashTag tag

namespace SlashTag

variable {tag : List Char}

theorem not_mem (slashTag : SlashTag tag) : '>' ∉ tag := by
  obtain ⟨name, isName, body, rfl, _, inside⟩ := slashTag
  have plain : '>' ∉ name.toList := fun isMember => ((voidNames_plain isName).2 _ isMember).2.1 rfl
  simp [plain, inside]

theorem getLast? (slashTag : SlashTag tag) : tag.getLast? = some '/' := by
  obtain ⟨name, _, body, rfl, _⟩ := slashTag
  simp [List.getLast?_cons, List.getLast?_append]

theorem exists_cons (slashTag : SlashTag tag) :
    ∃ rest, tag = '<' :: rest ∧ rest.getLast? = some '/' := by
  obtain ⟨name, _, body, rfl, _⟩ := slashTag
  exact ⟨_, rfl, by simp [List.getLast?_append]⟩

end SlashTag

/-- A text that begins with a self-closed tag has a slash before its first closing bracket. -/
theorem getLast?_of_selfClosed {tag rest : List Char} (inside : '>' ∉ tag)
    (selfClosed : SelfClosed (tag ++ '>' :: rest)) : tag.getLast? = some '/' := by
  obtain ⟨other, last, same, slashTag⟩ := selfClosed
  rw [(cut_at_unique inside slashTag.not_mem same).1]
  exact slashTag.getLast?

/-! ## What the pattern matches -/

/-- Where a self-closed tag leads to, and what it captures. -/
def voidState (before name attributes blanks rest : List Char) : State :=
  let named := name.reverse ++ '<' :: before
  let ending := blanks ++ '/' :: '>' :: rest
  ⟨.between ('>' :: '/' :: (blanks.reverse ++ (attributes.reverse ++ named))) rest,
    [(2, .between named (attributes ++ ending)),
      (1, .between ('<' :: before) (name ++ (attributes ++ ending)))],
    [(2, .between (attributes.reverse ++ named) ending),
      (1, .between named (attributes ++ ending))]⟩

theorem selfClosedVoid_reaches_iff :
    selfClosedVoid.node.Reaches (.start (.between before after)) condition ↔
      ∃ name ∈ voidNames, ∃ attributes blanks rest,
        after = '<' :: (name.toList ++ (attributes ++ (blanks ++ '/' :: '>' :: rest))) ∧
        NoWordNext (attributes ++ (blanks ++ '/' :: '>' :: rest)) ∧ '>' ∉ attributes ∧
        (∀ c ∈ blanks, isBlank c = true) ∧
        condition (voidState before name.toList attributes blanks rest) := by
  have tree : selfClosedVoid.node = sequence
      [lit '<', group 1 (words voidNames), boundary,
        group 2 (iterate .lazy 0 none (char ⟨true, .exact, [.ofChar '>']⟩)),
        star (char ⟨false, .exact, [.anyBlank]⟩), lit '/', lit '>'] := rfl
  have blank : ∀ c : Char, (CharClass.mk false .exact [.anyBlank]).contains c = isBlank c := by
    intro c
    rw [contains_oneOf, List.any_cons, List.any_nil, Bool.or_false, ClassItem.contains_anyBlank]
  rw [tree]
  simp only [State.start, reaches_sequence_cons_iff, reaches_sequence_nil_iff, reaches_lit_iff,
    reaches_group_iff, State.openGroup, State.closeGroup, boundary, reaches_anchor_iff,
    reaches_words_iff (by simp [voidNames] : voidNames ≠ []),
    reaches_iterate_char_iff (by decide : Appetite.lazy ≠ .possessive), reaches_star_char_iff,
    blank, forall_contains_noneOf_iff]
  have isText : ∀ {name : String}, name ∈ voidNames → ∀ c ∈ name.toList, isWord c = true :=
    fun isName c inName => ((voidNames_plain isName).2 c inName).1
  constructor
  · rintro ⟨_, rfl, name, isName, _, rfl, holds, attributes, _, rfl, _, _, absent, blanks, _, rfl,
      allBlank, _, rfl, rest, rfl, met⟩
    exact ⟨name, isName, attributes, blanks, rest, rfl,
      (holds_boundary_after (voidNames_plain isName).1 (isText isName)).mp holds, absent, allBlank,
      met⟩
  · rintro ⟨name, isName, attributes, blanks, rest, rfl, stop, absent, allBlank, met⟩
    exact ⟨_, rfl, name, isName, _, rfl,
      (holds_boundary_after (voidNames_plain isName).1 (isText isName)).mpr stop, attributes, _,
      rfl, Nat.zero_le _, by simp, absent, blanks, _, rfl, allBlank, _, rfl, rest, rfl, met⟩

theorem selfClosedVoid_match
    (isMatch : selfClosedVoid.matcher false (.between before after) = some found) :
    ∃ name ∈ voidNames, ∃ attributes blanks rest,
      after = '<' :: (name.toList ++ (attributes ++ (blanks ++ '/' :: '>' :: rest))) ∧
      NoWordNext (attributes ++ (blanks ++ '/' :: '>' :: rest)) ∧ '>' ∉ attributes ∧
      (∀ c ∈ blanks, isBlank c = true) ∧ found.start = .between before after ∧
      found.finish = .between
        (('<' :: (name.toList ++ (attributes ++ (blanks ++ ['/', '>'])))).reverse ++ before) rest ∧
      found.group 1 = name.toList ∧ found.group 2 = attributes := by
  obtain ⟨start, reaches⟩ := reaches_of_matchAt_eq_some isMatch
  rw [selfClosedVoid_reaches_iff] at reaches
  obtain ⟨name, isName, attributes, blanks, rest, rfl, stop, absent, allBlank, final⟩ := reaches
  have first : (voidState before name.toList attributes blanks rest).capture? 1 =
      some name.toList := State.capture?_of_lookup _ rfl rfl
  have second : (voidState before name.toList attributes blanks rest).capture? 2 =
      some attributes := State.capture?_of_lookup _ rfl rfl
  refine ⟨name, isName, attributes, blanks, rest, rfl, stop, absent, allBlank, start, ?_, ?_, ?_⟩
  · rw [Match.finish, ← final]
    simp [voidState]
  · rw [Match.group, Match.group?, ← final]
    simp [first]
  · rw [Match.group, Match.group?, ← final]
    simp [second]

theorem selfClosedVoid_advances : selfClosedVoid.matcher.Advances := by
  intro before after found isMatch
  obtain ⟨name, _, attributes, blanks, rest, rfl, _, _, _, start, finish, _⟩ :=
    selfClosedVoid_match isMatch
  exact ⟨start, '<' :: (name.toList ++ (attributes ++ (blanks ++ ['/', '>']))), rest, by simp,
    by simp, finish⟩

/-- The pattern matches at self-closed tags. -/
theorem selfClosed_iff : SelfClosed after ↔
    ∃ found, selfClosedVoid.matcher false (.between before after) = some found := by
  constructor
  · rintro ⟨_, rest, rfl, name, isName, body, rfl, stop, absent⟩
    refine exists_matchAt_of_reaches ?_
    rw [selfClosedVoid_reaches_iff]
    refine ⟨name, isName, body, [], rest, by simp, ?_, absent, by simp, trivial⟩
    cases body with
    | nil => exact stop
    | cons => exact stop
  · rintro ⟨found, isMatch⟩
    obtain ⟨name, isName, attributes, blanks, rest, rfl, stop, absent, allBlank, _⟩ :=
      selfClosedVoid_match isMatch
    refine ⟨'<' :: (name.toList ++ ((attributes ++ blanks) ++ ['/'])), rest, by simp, name, isName,
      attributes ++ blanks, rfl, ?_, ?_⟩
    · rw [List.append_assoc]
      cases attributes with
      | nil =>
          cases blanks with
          | nil => exact stop
          | cons => exact stop
      | cons => exact stop
    · intro isMember
      rcases List.mem_append.mp isMember with inAttributes | inBlanks
      · exact absent inAttributes
      · exact absurd (allBlank _ inBlanks) (by decide)

theorem selfClosedVoid_matchesIn_iff : selfClosedVoid.matchesIn text = true ↔
    ∃ skipped rest, text = skipped ++ rest ∧ SelfClosed rest := by
  rw [Pattern.matchesIn, Option.isSome_iff_exists]
  constructor
  · rintro ⟨found, search⟩
    obtain ⟨skipped, rest, rfl, isMatch⟩ := Matcher.exists_of_find?_eq_some search
    refine ⟨skipped, rest, rfl, ?_⟩
    rw [selfClosed_iff]
    exact ⟨found, isMatch⟩
  · rintro ⟨skipped, rest, rfl, selfClosed⟩
    rw [selfClosed_iff] at selfClosed
    obtain ⟨found, isMatch⟩ := selfClosed
    exact Option.isSome_iff_exists.mp (Matcher.find?_isSome_of_match isMatch)

/-! ## The rule -/

/-- What is written for a self-closed tag. -/
def voidWritten (found : Match) : List Char :=
  '<' :: (found.group 1 ++ (found.group 2 ++ ['>']))

/-- What the rule for self-closed tags makes of a text. -/
def dropSlashes (text : List Char) : List Char :=
  selfClosedVoid.replaceBy (selfClosedVoid.written "<\\1\\2>") text

theorem dropSlashes_eq : dropSlashes text = selfClosedVoid.replaceBy voidWritten text := by
  have pieces : selfClosedVoid.template "<\\1\\2>" =
      .ok [.literal ['<'], .group 1, .group 2, .literal ['>']] := by decide
  have same : selfClosedVoid.written "<\\1\\2>" = voidWritten := by
    funext found
    rw [Pattern.written_of_template _ pieces]
    simp [Piece.expand, voidWritten]
  rw [dropSlashes, same]

/-- A match takes a piece of a text, for which a tag up to its bracket is written. -/
structure WritesTag (found : Match) (piece tag : List Char) : Prop where
  written : voidWritten found = tag ++ ['>']
  inside : '>' ∉ tag
  shorter : tag.length + 1 < piece.length
  first : piece.head? = some '<'
  sameFirst : tag.head? = some '<'
  slash : tag.getLast? = some '/' ↔ (found.group 2).getLast? = some '/'
  slashTag : tag.getLast? = some '/' → SlashTag tag

theorem exists_writesTag {piece : List Char}
    (isMatch : selfClosedVoid.matcher false (.between before (piece ++ after)) = some found)
    (finish : found.finish = .between (piece.reverse ++ before) after) :
    ∃ tag, WritesTag found piece tag := by
  obtain ⟨name, isName, attributes, blanks, rest, split, stop, absent, _, _, ownFinish, first,
    second⟩ := selfClosedVoid_match isMatch
  obtain ⟨rfl, rfl⟩ :
      piece = '<' :: (name.toList ++ (attributes ++ (blanks ++ ['/', '>']))) ∧ after = rest :=
    Cursor.cut_unique (by simpa using split) finish ownFinish
  obtain ⟨nonempty, plain⟩ := voidNames_plain isName
  have last : ('<' :: (name.toList ++ attributes)).getLast? = some '/' ↔
      attributes.getLast? = some '/' := by
    rw [List.getLast?_cons, List.getLast?_append]
    cases isLast : attributes.getLast? with
    | some c => simp
    | none =>
        rw [Option.none_or, List.getLast?_eq_some_getLast nonempty]
        simpa using (plain _ (List.getLast_mem nonempty)).2.2
  refine ⟨'<' :: (name.toList ++ attributes), ?_, ?_, ?_, rfl, rfl, ?_, ?_⟩
  · simp [voidWritten, first, second]
  · have outside : '>' ∉ name.toList := fun isMember => (plain _ isMember).2.1 rfl
    simp [outside, absent]
  · simp only [List.length_cons, List.length_append, List.length_nil]
    omega
  · rw [second, last]
  · rw [last, List.getLast?_eq_some_iff]
    rintro ⟨body, rfl⟩
    refine ⟨name, isName, body, rfl, ?_, fun isMember => absent (List.mem_append_left _ isMember)⟩
    cases body with
    | nil => exact stop
    | cons => exact stop

section Segments

theorem head?_of_segmented (segmented : Segmented selfClosedVoid.matcher before after segments) :
    (segments.flatMap (Segment.chars voidWritten)).head? = after.head? := by
  cases segmented with
  | done => rfl
  | keep => rfl
  | found isMatch _ finish _ =>
      obtain ⟨tag, writes⟩ := exists_writesTag isMatch finish
      rw [List.flatMap_cons, Segment.chars, writes.written]
      simp [List.head?_append, writes.sameFirst, writes.first]

/-- No attributes of a tag end with a slash. -/
def NoSlashLeft (segments : List Segment) : Prop :=
  ∀ found ∈ segments.filterMap Segment.match?, (found.group 2).getLast? ≠ some '/'

/-- A text with a slash before its first closing bracket had it there before. -/
theorem exists_append_of_segmented
    (segmented : Segmented selfClosedVoid.matcher before after segments)
    (noSlash : NoSlashLeft segments) {tag rest : List Char} (inside : '>' ∉ tag)
    (slash : tag.getLast? = some '/')
    (written : segments.flatMap (Segment.chars voidWritten) = tag ++ '>' :: rest) :
    ∃ last, after = tag ++ '>' :: last := by
  induction segmented generalizing tag with
  | done =>
      have empty : [] = tag ++ '>' :: rest := written
      simp at empty
  | @keep before after c segments _ later hyp =>
      have first := head?_of_segmented later
      rw [List.flatMap_cons, Segment.chars, List.singleton_append] at written
      generalize segments.flatMap (Segment.chars voidWritten) = out at first hyp written
      cases tag with
      | nil => simp at slash
      | cons d tag =>
          obtain ⟨rfl, rfl⟩ : c = d ∧ out = tag ++ '>' :: rest := by simpa using written
          cases tag with
          | nil =>
              obtain ⟨last, rfl⟩ := List.head?_eq_some_iff.mp first.symm
              exact ⟨last, rfl⟩
          | cons e tag =>
              obtain ⟨last, rfl⟩ := hyp noSlash
                (fun isMember => inside (List.mem_cons_of_mem _ isMember)) (by simpa using slash) rfl
              exact ⟨last, rfl⟩
  | @found before piece after found segments isMatch _ finish _ _ =>
      obtain ⟨other, writes⟩ := exists_writesTag isMatch finish
      rw [List.flatMap_cons, Segment.chars, writes.written, List.append_assoc,
        List.singleton_append] at written
      obtain ⟨rfl, _⟩ := cut_at_unique writes.inside inside written
      exact absurd (writes.slash.mp slash) (noSlash found (by simp [Segment.match?]))

/-- Where no attributes end with a slash, no self-closed tag is left. -/
theorem free_of_segmented (segmented : Segmented selfClosedVoid.matcher before after segments)
    (noSlash : NoSlashLeft segments) {written : List Char} :
    Free (fun _ text => SelfClosed text) written (segments.flatMap (Segment.chars voidWritten)) := by
  induction segmented generalizing written with
  | done => trivial
  | @keep before after c segments none rest hyp =>
      have stays := fun {tag last : List Char} (inside : '>' ∉ tag) =>
        @exists_append_of_segmented _ _ _ rest noSlash tag last inside
      rw [List.flatMap_cons, Segment.chars, List.singleton_append]
      refine ⟨?_, hyp noSlash⟩
      generalize segments.flatMap (Segment.chars voidWritten) = out at stays
      rintro ⟨_, last, split, slashTag⟩
      obtain ⟨tag, rfl, slash⟩ := slashTag.exists_cons
      obtain ⟨rfl, rfl⟩ : c = '<' ∧ out = tag ++ '>' :: last := by simpa using split
      obtain ⟨other, rfl⟩ := stays
        (fun isMember => slashTag.not_mem (List.mem_cons_of_mem _ isMember)) slash rfl
      obtain ⟨found, isMatch⟩ := (@selfClosed_iff before _).mp ⟨'<' :: tag, other, rfl, slashTag⟩
      rw [List.cons_append, none] at isMatch
      contradiction
  | @found before piece after found segments isMatch _ finish _ hyp =>
      obtain ⟨tag, writes⟩ := exists_writesTag isMatch finish
      rw [List.flatMap_cons, Segment.chars, writes.written]
      refine Free.append_iff.mpr ⟨?_, hyp fun other isOther => noSlash other ?_⟩
      · intro done rest split nonempty selfClosed
        obtain ⟨rest, rfl⟩ : ∃ more, rest = more ++ ['>'] := by
          have whole := congrArg List.getLast? split
          rw [List.getLast?_append, List.getLast?_append, List.getLast?_eq_some_getLast nonempty]
            at whole
          refine List.getLast?_eq_some_iff.mp ?_
          rw [List.getLast?_eq_some_getLast nonempty]
          simpa using whole.symm
        obtain rfl : tag = done ++ rest := by
          rw [← List.append_assoc] at split
          exact List.append_cancel_right split
        rw [List.append_assoc, List.singleton_append] at selfClosed
        have slash := getLast?_of_selfClosed
          (fun isMember => writes.inside (List.mem_append_right _ isMember)) selfClosed
        refine noSlash found (by simp [Segment.match?]) (writes.slash.mp ?_)
        rw [List.getLast?_append, slash]
        rfl
      · exact List.mem_cons_of_mem _ isOther

/-- A tag whose attributes end with a slash is still self-closed as it is written. -/
theorem exists_selfClosed_of_segmented
    (segmented : Segmented selfClosedVoid.matcher before after segments)
    (isFound : found ∈ segments.filterMap Segment.match?)
    (slash : (found.group 2).getLast? = some '/') :
    ∃ skipped rest, segments.flatMap (Segment.chars voidWritten) = skipped ++ rest ∧
      SelfClosed rest := by
  induction segmented with
  | done => simp at isFound
  | @keep before after c segments _ _ hyp =>
      obtain ⟨skipped, rest, split, selfClosed⟩ := hyp isFound
      exact ⟨c :: skipped, rest, congrArg (List.cons c) split, selfClosed⟩
  | @found before piece after other segments isMatch _ finish _ hyp =>
      rw [List.flatMap_cons, Segment.chars]
      rcases List.mem_cons.mp isFound with rfl | isLater
      · obtain ⟨tag, writes⟩ := exists_writesTag isMatch finish
        refine ⟨[], voidWritten found ++ segments.flatMap (Segment.chars voidWritten), rfl, tag,
          segments.flatMap (Segment.chars voidWritten), ?_, writes.slashTag (writes.slash.mpr slash)⟩
        rw [writes.written, List.append_assoc, List.singleton_append]
      · obtain ⟨skipped, rest, split, selfClosed⟩ := hyp isLater
        exact ⟨voidWritten other ++ skipped, rest, by rw [split, List.append_assoc], selfClosed⟩

end Segments

/-! ## A second run -/

/-- What is written for a tag is what was found of it, without some characters. -/
theorem voidWritten_shorter (isFound : found ∈ selfClosedVoid.findAll text) :
    (voidWritten found).Sublist found.text ∧ (voidWritten found).length < found.text.length := by
  obtain ⟨skipped, _, rfl, isMatch⟩ :=
    Matcher.exists_of_mem_findAll selfClosedVoid_advances isFound
  obtain ⟨name, _, attributes, blanks, rest, rfl, _, _, _, start, finish, first, second⟩ :=
    selfClosedVoid_match isMatch
  have piece : '<' :: (name.toList ++ (attributes ++ (blanks ++ '/' :: '>' :: rest))) =
      ('<' :: (name.toList ++ (attributes ++ (blanks ++ ['/', '>'])))) ++ rest := by simp
  rw [Match.text_of_cut (start.trans (by rw [piece])) finish, voidWritten, first, second]
  constructor
  · refine List.Sublist.cons_cons _ (List.Sublist.append_left (List.Sublist.append_left ?_ _) _)
    exact List.singleton_sublist.mpr (by simp)
  · simp only [List.length_cons, List.length_append, List.length_nil]
    omega

theorem dropSlashes_sublist : (dropSlashes text).Sublist text := by
  rw [dropSlashes_eq]
  exact Pattern.replaceBy_sublist selfClosedVoid_advances fun _ isFound =>
    (voidWritten_shorter isFound).1

theorem dropSlashes_eq_nil (nothing : dropSlashes text = []) : text = [] := by
  rw [dropSlashes_eq] at nothing
  exact Pattern.replaceBy_eq_nil selfClosedVoid_advances (by simp [voidWritten]) nothing

/-- Every tag that is found becomes shorter, so a text is kept only if none is. -/
theorem dropSlashes_eq_self_iff : dropSlashes text = text ↔ selfClosedVoid.matchesIn text = false := by
  rw [dropSlashes_eq, Pattern.replaceBy_eq_self_iff selfClosedVoid_advances
      fun _ isFound => Nat.le_of_lt (voidWritten_shorter isFound).2,
    ← Pattern.findAll_eq_nil_iff, List.eq_nil_iff_forall_not_mem]
  refine forall_congr' fun found => imp_congr_right fun isFound => ?_
  have shorter := (voidWritten_shorter isFound).2
  exact ⟨fun same => absurd (congrArg List.length same) (Nat.ne_of_lt shorter), False.elim⟩

/-- After one run, self-closed tags are left exactly where attributes ended with a slash. -/
theorem matchesIn_dropSlashes_iff : selfClosedVoid.matchesIn (dropSlashes text) = true ↔
    ∃ found ∈ selfClosedVoid.findAll text, (found.group 2).getLast? = some '/' := by
  obtain ⟨segments, segmented, all, written⟩ :=
    Pattern.exists_segmented selfClosedVoid_advances text
  rw [selfClosedVoid_matchesIn_iff, dropSlashes_eq, written, all]
  constructor
  · rintro ⟨skipped, rest, split, selfClosed⟩
    by_contra none
    have free := @free_of_segmented _ _ _ segmented
      (fun found isFound slash => none ⟨found, isFound, slash⟩) []
    rw [split] at free
    obtain ⟨tag, last, rfl, slashTag⟩ := selfClosed
    exact free.not_shape (by simp) ⟨tag, last, rfl, slashTag⟩
  · rintro ⟨found, isFound, slash⟩
    exact exists_selfClosed_of_segmented segmented isFound slash

/-- A second run changes nothing exactly if no attributes end with a slash. -/
theorem dropSlashes_dropSlashes_iff (text : List Char) :
    dropSlashes (dropSlashes text) = dropSlashes text ↔
      ∀ found ∈ selfClosedVoid.findAll text, (found.group 2).getLast? ≠ some '/' := by
  rw [dropSlashes_eq_self_iff, ← Bool.not_eq_true, matchesIn_dropSlashes_iff]
  simp

/-- Formatting a page with two slashes in a tag takes two runs. -/
theorem format_doubleSlash :
    let formatter : Format.Formatter := { language := .html, store := store }
    let path : Path := ⟨.relative, ["a.html"]⟩
    (formatter.format path "<br//>").outcome.map (·.updated) = .ok "<br/>" ∧
      (formatter.format path "<br/>").outcome.map (·.updated) = .ok "<br>" := by
  decide

end LineRules.Builtin
