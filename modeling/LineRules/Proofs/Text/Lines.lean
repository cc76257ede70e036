import Mathlib.Data.List.Chain
import LineRules.Proofs.Text.Runs
import LineRules.Text.Line

/-!
# Cutting a text into lines again

Lines that are put together and cut again come out as they were, with two exceptions: an
empty line without an ending is no line, and a line that ends with a carriage return takes
in an empty line that ends with a line feed. `exists_of_mem_linesOf` says what holds in
any case. The second exception is the only way to lose an ending:
`map_ending_linesOf_iff` says that all endings are found again exactly if no two lines
meet like this. Texts that are put together keep their lines under the same condition
(`linesOf_append`). Apart from the exceptions, cutting a text and putting lines together undo each
other (`linesOf_eq_iff`).
-/

namespace LineRules.Text

/-- A text without line breaks. -/
def OneLine (text : List Char) : Prop :=
  '\n' ∉ text ∧ '\r' ∉ text

/-- The endings of lines that are not the last. -/
def lineEndings : List (List Char) := [['\n'], ['\r'], ['\r', '\n']]

theorem ne_nil_of_mem_lineEndings {ending : List Char} (isEnding : ending ∈ lineEndings) :
    ending ≠ [] := by
  rintro rfl
  simp [lineEndings] at isEnding

theorem isBlank_of_mem_ending {ending : List Char} (isEnding : ending ∈ lineEndings) :
    ∀ c ∈ ending, isBlank c = true := by
  have checked : (lineEndings.all fun ending => ending.all isBlank) = true := by decide
  exact List.all_eq_true.mp (List.all_eq_true.mp checked ending isEnding)

/-- No empty line that ends with a line feed stands after one that ends with a carriage
return. -/
def EndingsApart (lines : List Line) : Prop :=
  lines.IsChain fun line next => ¬(line.ending = ['\r'] ∧ next = ⟨[], ['\n']⟩)

/-- Lines as a text can be cut into: without line breaks inside, and with an ending for
each but the last one. -/
inductive IsCut : List Line → Prop where
  | nil : IsCut []
  | last {content : List Char} (oneLine : OneLine content) : IsCut [⟨content, []⟩]
  | cons {content ending : List Char} {lines : List Line} (oneLine : OneLine content)
      (isEnding : ending ∈ lineEndings) (rest : IsCut lines) : IsCut (⟨content, ending⟩ :: lines)

section Cutting

variable {content rest : List Char}

theorem linesFrom_append (oneLine : OneLine content) (read : List Char) :
    linesFrom read (content ++ rest) = linesFrom (content.reverse ++ read) rest := by
  induction content generalizing read with
  | nil => rfl
  | cons c content hyp =>
      have notFeed : c ≠ '\n' := fun same => oneLine.1 (by simp [same])
      have notReturn : c ≠ '\r' := fun same => oneLine.2 (by simp [same])
      have tail : OneLine content :=
        ⟨fun isMember => oneLine.1 (List.mem_cons_of_mem _ isMember),
          fun isMember => oneLine.2 (List.mem_cons_of_mem _ isMember)⟩
      rw [List.cons_append, linesFrom, hyp tail]
      · simp
      · exact fun _ same _ => notReturn same
      · exact notReturn
      · exact notFeed

theorem linesFrom_feed (read : List Char) :
    linesFrom read ('\n' :: rest) = ⟨read.reverse, ['\n']⟩ :: linesOf rest := by
  simp [linesFrom, linesOf]

theorem linesFrom_return (read : List Char) (alone : rest.head? ≠ some '\n') :
    linesFrom read ('\r' :: rest) = ⟨read.reverse, ['\r']⟩ :: linesOf rest := by
  rw [linesFrom]
  · rfl
  · rintro last rfl
    exact alone rfl

theorem linesFrom_returnFeed (read : List Char) :
    linesFrom read ('\r' :: '\n' :: rest) = ⟨read.reverse, ['\r', '\n']⟩ :: linesOf rest := by
  simp [linesFrom, linesOf]

/-- A text is cut into lines without line breaks inside, with endings. -/
theorem isCut_linesFrom {read : List Char} (oneLine : OneLine read) (text : List Char) :
    IsCut (linesFrom read text) := by
  have reversed : ∀ {read : List Char}, OneLine read → OneLine read.reverse := by
    intro read oneLine
    exact ⟨by simpa using oneLine.1, by simpa using oneLine.2⟩
  have empty : OneLine [] := by simp [OneLine]
  fun_induction linesFrom read text with
  | case1 => exact .nil
  | case2 => exact .last (reversed oneLine)
  | case3 read rest hyp => exact .cons (reversed oneLine) (by simp [lineEndings]) (hyp empty)
  | case4 read rest _ hyp => exact .cons (reversed oneLine) (by simp [lineEndings]) (hyp empty)
  | case5 read rest hyp => exact .cons (reversed oneLine) (by simp [lineEndings]) (hyp empty)
  | case6 read c rest _ notReturn notFeed hyp =>
      refine hyp ⟨?_, ?_⟩
      · simpa [oneLine.1, eq_comm] using notFeed
      · simpa [oneLine.2, eq_comm] using notReturn

theorem isCut_linesOf (text : List Char) : IsCut (linesOf text) :=
  isCut_linesFrom (by simp [OneLine]) text

end Cutting

namespace IsCut

variable {lines : List Line}

theorem oneLine (cut : IsCut lines) {line : Line} (isLine : line ∈ lines) :
    OneLine line.content := by
  induction cut with
  | nil => simp at isLine
  | last oneLine =>
      obtain rfl := List.mem_singleton.mp isLine
      exact oneLine
  | cons oneLine _ _ hyp =>
      rcases List.mem_cons.mp isLine with rfl | isLater
      · exact oneLine
      · exact hyp isLater

/-- Lines with the endings of others and without line breaks inside. -/
theorem of_endings (cut : IsCut lines) {others : List Line}
    (endings : others.map Line.ending = lines.map Line.ending)
    (oneLine : ∀ line ∈ others, OneLine line.content) : IsCut others := by
  induction cut generalizing others with
  | nil =>
      obtain rfl := List.map_eq_nil_iff.mp endings
      exact .nil
  | last =>
      obtain ⟨⟨content, _⟩, rfl, rfl⟩ := List.map_eq_singleton_iff.mp endings
      exact .last (oneLine _ List.mem_cons_self)
  | cons _ isEnding _ hyp =>
      obtain ⟨⟨content, _⟩, later, rfl, rfl, rest⟩ := List.map_eq_cons_iff.mp endings
      obtain ⟨here, others⟩ := List.forall_mem_cons.mp oneLine
      exact .cons here isEnding (hyp rest others)

/-- Lines whose contents are exchanged for others without line breaks. -/
theorem map (cut : IsCut lines) {change : Line → Line}
    (ending : ∀ line, (change line).ending = line.ending)
    (oneLine : ∀ line ∈ lines, OneLine (change line).content) : IsCut (lines.map change) :=
  cut.of_endings (by simp [ending]) (by simpa using oneLine)

/-- Lines that begin with a line feed begin with an empty line. -/
theorem head_of_feed (cut : IsCut lines)
    (feed : (lines.flatMap Line.chars).head? = some '\n') :
    ∃ rest, lines = ⟨[], ['\n']⟩ :: rest := by
  have noFeed : ∀ {content ending : List Char}, OneLine content →
      (content ++ ending).head? = some '\n' → content = [] := by
    intro content ending oneLine feed
    cases content with
    | nil => rfl
    | cons c content =>
        obtain rfl : c = '\n' := by simpa using feed
        exact absurd (by simp) oneLine.1
  cases cut with
  | nil => simp at feed
  | last oneLine =>
      rw [List.flatMap_cons, Line.chars, List.append_assoc] at feed
      obtain rfl := noFeed oneLine feed
      simp at feed
  | @cons content ending lines oneLine isEnding rest =>
      rw [List.flatMap_cons, Line.chars, List.append_assoc] at feed
      obtain rfl := noFeed oneLine feed
      simp only [lineEndings, List.mem_cons, List.not_mem_nil, or_false] at isEnding
      rcases isEnding with rfl | rfl | rfl
      · exact ⟨lines, rfl⟩
      · simp at feed
      · simp at feed

/-- The first of some lines, cut again. -/
private theorem linesOf_cons {content ending rest : List Char} (oneLine : OneLine content)
    (isEnding : ending ∈ lineEndings)
    (paired : ending = ['\r'] → rest.head? ≠ some '\n') :
    linesOf (content ++ ending ++ rest) = ⟨content, ending⟩ :: linesOf rest := by
  rw [linesOf, List.append_assoc, linesFrom_append oneLine, List.append_nil]
  simp only [lineEndings, List.mem_cons, List.not_mem_nil, or_false] at isEnding
  rcases isEnding with rfl | rfl | rfl
  · rw [List.singleton_append, linesFrom_feed, List.reverse_reverse]
  · rw [List.singleton_append, linesFrom_return _ (paired rfl), List.reverse_reverse]
  · rw [List.cons_append, List.singleton_append, linesFrom_returnFeed, List.reverse_reverse]

private theorem linesOf_last {content : List Char} (oneLine : OneLine content) :
    linesOf content = if content = [] then [] else [⟨content, []⟩] := by
  have read : linesFrom [] (content ++ []) = _ := linesFrom_append oneLine []
  rw [List.append_nil, List.append_nil] at read
  rw [linesOf, read]
  cases content with
  | nil => rfl
  | cons c content => simp [linesFrom]

/-- However lines are cut again, no content is new. -/
theorem exists_of_mem_linesOf (cut : IsCut lines) {line : Line}
    (isLine : line ∈ linesOf (lines.flatMap Line.chars)) :
    ∃ other ∈ lines, line.content = other.content := by
  induction cut with
  | nil => simp [linesOf, linesFrom] at isLine
  | @last content oneLine =>
      have text : [(⟨content, []⟩ : Line)].flatMap Line.chars = content := by simp [Line.chars]
      rw [text, linesOf_last oneLine] at isLine
      split at isLine
      · simp at isLine
      · obtain rfl := List.mem_singleton.mp isLine
        exact ⟨_, by simp, rfl⟩
  | @cons content ending lines oneLine isEnding rest hyp =>
      rw [List.flatMap_cons, Line.chars] at isLine
      by_cases joined : ending = ['\r'] ∧ (lines.flatMap Line.chars).head? = some '\n'
      · -- The line feed of an empty line joins the carriage return.
        obtain ⟨rfl, feed⟩ := joined
        obtain ⟨later, rfl⟩ := rest.head_of_feed feed
        rw [linesOf, List.append_assoc, linesFrom_append oneLine, List.flatMap_cons, Line.chars,
          List.nil_append, List.singleton_append, List.singleton_append,
          linesFrom_returnFeed] at isLine
        rcases List.mem_cons.mp isLine with rfl | isLater
        · exact ⟨_, List.mem_cons_self, by simp⟩
        · obtain ⟨other, isOther, same⟩ := hyp (by
            rw [List.flatMap_cons, Line.chars, List.nil_append, List.singleton_append, linesOf,
              linesFrom_feed]
            exact List.mem_cons_of_mem _ isLater)
          exact ⟨other, List.mem_cons_of_mem _ isOther, same⟩
      · rw [linesOf_cons oneLine isEnding fun alone feed => joined ⟨alone, feed⟩] at isLine
        rcases List.mem_cons.mp isLine with rfl | isLater
        · exact ⟨_, List.mem_cons_self, rfl⟩
        · obtain ⟨other, isOther, same⟩ := hyp isLater
          exact ⟨other, List.mem_cons_of_mem _ isOther, same⟩

/-- However lines are cut again, they keep the contents that are not empty, in order. -/
theorem filter_content_linesOf (cut : IsCut lines) :
    ((linesOf (lines.flatMap Line.chars)).map Line.content).filter (· ≠ []) =
      (lines.map Line.content).filter (· ≠ []) := by
  induction cut with
  | nil => rfl
  | @last content oneLine =>
      have text : [(⟨content, []⟩ : Line)].flatMap Line.chars = content := by simp [Line.chars]
      rw [text, linesOf_last oneLine]
      by_cases empty : content = [] <;> simp [empty]
  | @cons content ending lines oneLine isEnding rest hyp =>
      rw [List.flatMap_cons, Line.chars]
      by_cases joined : ending = ['\r'] ∧ (lines.flatMap Line.chars).head? = some '\n'
      · obtain ⟨rfl, feed⟩ := joined
        obtain ⟨later, rfl⟩ := rest.head_of_feed feed
        have text : (⟨[], ['\n']⟩ :: later : List Line).flatMap Line.chars =
            '\n' :: later.flatMap Line.chars := rfl
        rw [text, linesOf, linesFrom_feed] at hyp
        rw [text, linesOf, List.append_assoc, linesFrom_append oneLine, List.singleton_append,
          linesFrom_returnFeed, List.append_nil, List.reverse_reverse, List.map_cons,
          List.map_cons, List.filter_cons, List.filter_cons, ← hyp]
        simp
      · rw [linesOf_cons oneLine isEnding fun alone feed => joined ⟨alone, feed⟩, List.map_cons,
          List.map_cons, List.filter_cons, List.filter_cons, hyp]

/-- Lines of which no two meet are cut as they were, but for an empty one at the end. -/
theorem linesOf_of_endingsApart (cut : IsCut lines) (apart : EndingsApart lines) :
    linesOf (lines.flatMap Line.chars) = lines.filter (· ≠ ⟨[], []⟩) := by
  induction cut with
  | nil => rfl
  | @last content oneLine =>
      have text : [(⟨content, []⟩ : Line)].flatMap Line.chars = content := by simp [Line.chars]
      rw [text, linesOf_last oneLine]
      by_cases empty : content = [] <;> simp [empty]
  | @cons content ending lines oneLine isEnding rest hyp =>
      obtain ⟨meets, apart⟩ := List.isChain_cons.mp apart
      rw [List.flatMap_cons, Line.chars, linesOf_cons oneLine isEnding, hyp apart]
      · simp [ne_nil_of_mem_lineEndings isEnding]
      · intro alone feed
        obtain ⟨later, rfl⟩ := rest.head_of_feed feed
        exact meets _ rfl ⟨alone, rfl⟩

/-- Where no line ends with a lone carriage return, lines are cut as they were, but for an
empty one at the end. -/
theorem linesOf_flatMap_chars (cut : IsCut lines)
    (paired : ∀ line ∈ lines, line.ending ≠ ['\r']) :
    linesOf (lines.flatMap Line.chars) = lines.filter (· ≠ ⟨[], []⟩) := by
  refine cut.linesOf_of_endingsApart (List.Pairwise.isChain ?_)
  exact List.pairwise_of_forall_mem_list fun line isLine _ _ meets => paired line isLine meets.1

/-- A line adds one to the lines that come after it, unless a line feed joins its carriage
return. -/
private theorem length_linesOf_cons {content ending rest : List Char} (oneLine : OneLine content)
    (isEnding : ending ∈ lineEndings) :
    (linesOf (content ++ ending ++ rest)).length = (linesOf rest).length +
      if ending = ['\r'] ∧ rest.head? = some '\n' then 0 else 1 := by
  split
  case isTrue joined =>
    obtain ⟨rfl, feed⟩ := joined
    obtain ⟨rest, rfl⟩ := List.head?_eq_some_iff.mp feed
    have feeds : linesOf ('\n' :: rest) = ⟨[], ['\n']⟩ :: linesOf rest := linesFrom_feed []
    rw [linesOf, List.append_assoc, linesFrom_append oneLine, List.singleton_append,
      linesFrom_returnFeed, feeds]
    rfl
  case isFalse apart =>
    rw [linesOf_cons oneLine isEnding fun alone feed => apart ⟨alone, feed⟩]
    rfl

/-- However lines are cut again, they become no more. -/
theorem length_linesOf_le (cut : IsCut lines) :
    (linesOf (lines.flatMap Line.chars)).length ≤ (lines.filter (· ≠ ⟨[], []⟩)).length := by
  induction cut with
  | nil => exact Nat.le_refl _
  | last oneLine => rw [linesOf_of_endingsApart (.last oneLine) (List.isChain_singleton _)]
  | cons oneLine isEnding rest hyp =>
      rw [List.filter_cons_of_pos (by simp [ne_nil_of_mem_lineEndings isEnding]), List.length_cons,
        List.flatMap_cons, Line.chars, length_linesOf_cons oneLine isEnding]
      split <;> omega

/-- Lines of which two meet become fewer. -/
theorem endingsApart_of_length_le (cut : IsCut lines)
    (enough : (lines.filter (· ≠ ⟨[], []⟩)).length ≤ (linesOf (lines.flatMap Line.chars)).length) :
    EndingsApart lines := by
  induction cut with
  | nil => exact List.isChain_nil
  | last => exact List.isChain_singleton _
  | @cons content ending lines oneLine isEnding rest hyp =>
      have bound := rest.length_linesOf_le
      rw [List.filter_cons_of_pos (by simp [ne_nil_of_mem_lineEndings isEnding]), List.length_cons,
        List.flatMap_cons, Line.chars, length_linesOf_cons oneLine isEnding] at enough
      split at enough
      case isTrue => omega
      case isFalse apart =>
        refine List.isChain_cons.mpr ⟨?_, hyp (by omega)⟩
        rintro next isNext ⟨alone, rfl⟩
        obtain ⟨later, rfl⟩ := List.head?_eq_some_iff.mp isNext
        exact apart ⟨alone, rfl⟩

/-- All endings are found again, but for an empty line at the end, exactly if no two lines
meet. -/
theorem map_ending_linesOf_iff (cut : IsCut lines) :
    (linesOf (lines.flatMap Line.chars)).map Line.ending =
        (lines.filter (· ≠ ⟨[], []⟩)).map Line.ending ↔ EndingsApart lines := by
  constructor
  · intro same
    have lengths := congrArg List.length same
    rw [List.length_map, List.length_map] at lengths
    exact cut.endingsApart_of_length_le (Nat.le_of_eq lengths.symm)
  · intro apart
    rw [cut.linesOf_of_endingsApart apart]

/-- Lines with the same endings that make up the same text are the same lines. -/
theorem eq_of_flatMap_chars_eq {others : List Line} (cut : IsCut lines) (otherCut : IsCut others)
    (endings : lines.map Line.ending = others.map Line.ending)
    (same : lines.flatMap Line.chars = others.flatMap Line.chars) : lines = others := by
  have stops : ∀ {ending : List Char} {rest : List Char}, ending ∈ lineEndings →
      ∀ c ∈ (ending ++ rest).head?, decide (c ≠ '\n' ∧ c ≠ '\r') = false := by
    intro ending rest isEnding
    simp only [lineEndings, List.mem_cons, List.not_mem_nil, or_false] at isEnding
    rcases isEnding with rfl | rfl | rfl <;> simp
  have plain : ∀ {content : List Char}, OneLine content →
      ∀ c ∈ content, decide (c ≠ '\n' ∧ c ≠ '\r') = true := by
    intro content oneLine c isMember
    have notFeed : c ≠ '\n' := fun isFeed => oneLine.1 (isFeed ▸ isMember)
    have notReturn : c ≠ '\r' := fun isReturn => oneLine.2 (isReturn ▸ isMember)
    simp [notFeed, notReturn]
  induction cut generalizing others with
  | nil =>
      cases otherCut with
      | nil => rfl
      | last | cons => simp at endings
  | last =>
      cases otherCut with
      | nil => simp at endings
      | last => simpa [Line.chars] using same
      | cons _ isEnding =>
          have noEnding := (List.cons.inj endings).1
          exact absurd noEnding.symm (ne_nil_of_mem_lineEndings isEnding)
  | @cons content ending lines oneLine isEnding _ hyp =>
      cases otherCut with
      | nil => simp at endings
      | last => exact absurd (List.cons.inj endings).1 (ne_nil_of_mem_lineEndings isEnding)
      | @cons other _ others otherLine _ otherRest =>
          obtain ⟨rfl, later⟩ : _ = _ ∧ lines.map Line.ending = others.map Line.ending :=
            List.cons.inj endings
          simp only [List.flatMap_cons, Line.chars, List.append_assoc] at same
          obtain ⟨rfl, rest⟩ :=
            run_unique (plain oneLine) (stops isEnding) (plain otherLine) (stops isEnding) same
          rw [hyp otherRest later (List.append_cancel_left rest)]

end IsCut

/-! ## Lists of lines -/

/-- Lines that a text can be cut into: without line breaks inside, each with an ending but for a
last one that is not empty, and no two that meet. -/
structure AreLines (lines : List Line) : Prop where
  oneLine : ∀ line ∈ lines, OneLine line.content
  ended : ∀ earlier line later, lines = earlier ++ line :: later →
    line.ending ∈ lineEndings ∨ later = [] ∧ line.ending = [] ∧ line.content ≠ []
  apart : EndingsApart lines

theorem AreLines.isCut {lines : List Line} (areLines : AreLines lines) : IsCut lines := by
  obtain ⟨oneLine, ended, -⟩ := areLines
  induction lines with
  | nil => exact .nil
  | cons line lines hyp =>
      obtain ⟨here, others⟩ := List.forall_mem_cons.mp oneLine
      rcases ended [] line lines rfl with isEnding | ⟨rfl, noEnding, _⟩
      · refine .cons here isEnding (hyp others fun earlier next later split => ?_)
        exact ended (line :: earlier) next later (by rw [split, List.cons_append])
      · rw [show line = ⟨line.content, []⟩ by rw [← noEnding]]
        exact .last here

theorem AreLines.nonempty {lines : List Line} (areLines : AreLines lines) :
    ∀ line ∈ lines, line ≠ ⟨[], []⟩ := by
  rintro _ isLine rfl
  obtain ⟨earlier, later, split⟩ := List.append_of_mem isLine
  rcases areLines.ended earlier _ later split with isEnding | ⟨_, _, content⟩
  · exact ne_nil_of_mem_lineEndings isEnding rfl
  · exact content rfl

theorem IsCut.ended {lines : List Line} (cut : IsCut lines)
    (nonempty : ∀ line ∈ lines, line ≠ ⟨[], []⟩) (earlier : List Line) (line : Line)
    (later : List Line) (split : lines = earlier ++ line :: later) :
    line.ending ∈ lineEndings ∨ later = [] ∧ line.ending = [] ∧ line.content ≠ [] := by
  induction cut generalizing earlier with
  | nil => simp at split
  | @last content oneLine =>
      cases earlier with
      | nil =>
          obtain ⟨rfl, rfl⟩ := List.cons.inj split
          refine .inr ⟨rfl, rfl, ?_⟩
          rintro rfl
          exact nonempty _ List.mem_cons_self rfl
      | cons => simp at split
  | cons oneLine isEnding _ hyp =>
      cases earlier with
      | nil =>
          obtain ⟨rfl, _⟩ := List.cons.inj split
          exact .inl isEnding
      | cons other earlier =>
          exact hyp (fun next isNext => nonempty next (List.mem_cons_of_mem _ isNext)) earlier
            (List.cons.inj split).2

/-- What a text is cut into are lines: cut again, they are as many. -/
theorem areLines_linesOf (text : List Char) : AreLines (linesOf text) := by
  have cut := isCut_linesOf text
  have fewer := cut.length_linesOf_le
  have enough := List.length_filter_le (· ≠ (⟨[], []⟩ : Line)) (linesOf text)
  rw [← congrArg (fun text => (linesOf text).length) (flatMap_chars_linesOf text)] at enough
  rw [flatMap_chars_linesOf] at fewer
  have nonempty : ∀ line ∈ linesOf text, line ≠ ⟨[], []⟩ := by
    simpa using List.length_filter_eq_length_iff.mp
      (Nat.le_antisymm (List.length_filter_le _ _) fewer)
  exact ⟨fun _ => cut.oneLine, cut.ended nonempty, cut.endingsApart_of_length_le enough⟩

/-- **Lines.** Cutting texts into lines and putting lines together undo each other: a text is cut
into just those lines that make it up. -/
theorem linesOf_eq_iff {text : List Char} {lines : List Line} :
    linesOf text = lines ↔ AreLines lines ∧ lines.flatMap Line.chars = text := by
  constructor
  · rintro rfl
    exact ⟨areLines_linesOf text, flatMap_chars_linesOf text⟩
  · rintro ⟨areLines, rfl⟩
    rw [areLines.isCut.linesOf_of_endingsApart areLines.apart, List.filter_eq_self]
    simpa using areLines.nonempty

/-- Two lines that meet are cut as one. -/
example : linesOf ([⟨['a'], ['\r']⟩, ⟨[], ['\n']⟩].flatMap Line.chars) =
    [⟨['a'], ['\r', '\n']⟩] :=
  rfl

/-! ## Texts put together -/

/-- A text ends with the end of a line. -/
def EndsLine (text : List Char) : Prop :=
  text.getLast? = some '\n' ∨ text.getLast? = some '\r'

/-- No line feed that a text begins with joins the carriage return that another one ends with. -/
def StaysApart (text later : List Char) : Prop :=
  ¬(text.getLast? = some '\r' ∧ later.head? = some '\n')

instance (text : List Char) : Decidable (EndsLine text) := inferInstanceAs (Decidable (_ ∨ _))

instance (text later : List Char) : Decidable (StaysApart text later) :=
  inferInstanceAs (Decidable ¬_)

theorem EndsLine.tail {c : Char} {rest : List Char} (ended : EndsLine (c :: rest)) :
    EndsLine rest ∨ rest = [] := by
  cases rest with
  | nil => exact .inr rfl
  | cons d rest => exact .inl (by simpa [EndsLine] using ended)

theorem StaysApart.tail {c : Char} {rest later : List Char}
    (apart : StaysApart (c :: rest) later) : StaysApart rest later := by
  cases rest with
  | nil => simp [StaysApart]
  | cons d rest => simpa [StaysApart] using apart

/-- Lines are cut off one by one, so those of a text that ends with a line are told without
what comes after it. -/
theorem linesFrom_append_text {read text later : List Char}
    (ended : EndsLine text ∨ text = [] ∧ read = []) (apart : StaysApart text later) :
    linesFrom read (text ++ later) = linesFrom read text ++ linesOf later := by
  fun_induction linesFrom read text with
  | case1 read empty =>
      obtain rfl := List.isEmpty_iff.mp empty
      rfl
  | case2 read nonempty =>
      rcases ended with ended | ⟨_, empty⟩
      · simp [EndsLine] at ended
      · simp [empty] at nonempty
  | case3 read rest hyp =>
      have ends : EndsLine ('\r' :: '\n' :: rest) := by simpa using ended
      have ended : EndsLine rest ∨ rest = [] :=
        ends.tail.elim EndsLine.tail fun nothing => absurd nothing (by simp)
      rw [List.cons_append, List.cons_append, linesFrom, hyp (by simpa using ended) apart.tail.tail]
      rfl
  | case4 read rest alone hyp =>
      have ends : EndsLine ('\r' :: rest) := by simpa using ended
      have aloneAfter : (rest ++ later).head? ≠ some '\n' := by
        cases rest with
        | nil => simpa [StaysApart] using apart
        | cons d rest =>
            rintro isFeed
            obtain rfl : d = '\n' := by simpa using isFeed
            exact alone rest rfl
      rw [List.cons_append, linesFrom_return read aloneAfter, linesOf,
        hyp (by simpa using ends.tail) apart.tail]
      rfl
  | case5 read rest hyp =>
      have ends : EndsLine ('\n' :: rest) := by simpa using ended
      rw [List.cons_append, linesFrom, hyp (by simpa using ends.tail) apart.tail]
      rfl
  | case6 read c rest _ notReturn notFeed hyp =>
      have ends : EndsLine (c :: rest) := by simpa using ended
      have nonempty : rest ≠ [] := by
        rintro rfl
        rcases ends with isFeed | isReturn
        · exact notFeed (by simpa using isFeed)
        · exact notReturn (by simpa using isReturn)
      rw [List.cons_append, linesFrom, hyp (.inl (ends.tail.resolve_right nonempty)) apart.tail]
      · exact fun _ same _ => notReturn same
      · exact notReturn
      · exact notFeed

theorem linesOf_append {text later : List Char} (ended : EndsLine text)
    (apart : StaysApart text later) :
    linesOf (text ++ later) = linesOf text ++ linesOf later :=
  linesFrom_append_text (.inl ended) apart

/-- Every carriage return in a text is followed by a line feed. -/
def ReturnsPaired (text : List Char) : Prop :=
  ∀ earlier later, text = earlier ++ '\r' :: later → later.head? = some '\n'

theorem ReturnsPaired.ending_ne {read text : List Char} (paired : ReturnsPaired text) :
    ∀ line ∈ linesFrom read text, line.ending ≠ ['\r'] := by
  have tail : ∀ (skipped : List Char) {text : List Char}, ReturnsPaired (skipped ++ text) →
      ReturnsPaired text := by
    intro skipped text paired earlier later split
    exact paired (skipped ++ earlier) later (by simp [split])
  fun_induction linesFrom read text with
  | case1 => simp
  | case2 => simp
  | case3 read rest hyp =>
      simpa using hyp (tail ['\r', '\n'] paired)
  | case4 read rest alone _ =>
      obtain ⟨last, split⟩ := List.head?_eq_some_iff.mp (paired [] rest rfl)
      exact absurd split (alone last)
  | case5 read rest hyp => simpa using hyp (tail ['\n'] paired)
  | case6 read c rest _ _ _ hyp => exact hyp (tail [c] paired)

end LineRules.Text
