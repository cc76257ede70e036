import LineRules.Format.Plan
import LineRules.Proofs.Pattern.Folded
import LineRules.Proofs.Pattern.Segments

/-!
# Blocks in pages

The plan of a page goes on from line to line with the block that is open, and asks of a
line only whether it closes that block or which block its last opening tag opens. Reading
the tags of a page one after another (`openAfter`) is the yardstick. Both agree on pages
whose lines open blocks with their first tag only (`plan_page_eq_tagPlan`). A line that
closes a block and opens another one after that is where they part.
-/

namespace LineRules.Format

open LineRules.Text LineRules.Pattern LineRules.Pattern.Node

variable {before after line : List Char} {lines : List (List Char)} {block : Option Block}
  {tags : List Tag}

/-! ## Tags -/

/-- A tag of a block. -/
inductive Tag where
  | opening (name attributes : List Char)
  | closing (block : Block)
deriving DecidableEq

namespace Tag

def isClosing : Tag → Bool
  | opening _ _ => false
  | closing _ => true

theorem not_isClosing_opening {name attributes : List Char} :
    ¬ (opening name attributes).isClosing = true :=
  Bool.false_ne_true

/-- Whether a tag has the name of a block in letters that ASCII has. -/
def isKnown : Tag → Bool
  | opening name _ => (Block.ofTag? (String.ofList (lower name))).isSome
  | closing _ => true

/-- The block that a tag opens where none is open. -/
def opens? : Tag → Option Block
  | opening name attributes =>
    match Block.ofTag? (String.ofList (lower name)) with
    | some .script => if markupType.matchesIn attributes then none else some .script
    | other => other
  | closing _ => none

end Tag

/-- The block that is open after a tag. Only its own closing tag ends a block. -/
def openAfter (block : Option Block) (tag : Tag) : Option Block :=
  match block with
  | none => tag.opens?
  | some block => if tag = .closing block then none else some block

/-- The tags that begin at a place of a line. -/
def tagsAt (before after : List Char) : List Tag :=
  ((openingTag.matcher false (.between before after)).toList.map fun found =>
    .opening (found.group 1) (found.group 2)) ++
  ([Block.script, .style].filter fun block =>
    ((closingTag block).matcher false (.between before after)).isSome).map .closing

/-- The tags that begin in the text after a place. -/
def tagsFrom (before : List Char) : List Char → List Tag
  | [] => []
  | c :: after => tagsAt before (c :: after) ++ tagsFrom (c :: before) after

/-- The tags of a line, from left to right. -/
def tagsOf (line : List Char) : List Tag := tagsFrom [] line

/-- The rule-sets of a line, given the block that is open before it. -/
def blockRuleSets (block : Option Block) (line : List Char) : List String :=
  match block with
  | some block =>
    if .closing block ∈ tagsOf line then Language.html.ruleSets
    else ["common", "html." ++ block.tag]
  | none => Language.html.ruleSets

/-- The rule-sets of the lines of a page by the tags before each line. -/
def tagPlan (block : Option Block) (lines : List (List Char)) : List (List String) :=
  lines.mapIdx fun i line =>
    blockRuleSets (((lines.take i).flatMap tagsOf).foldl openAfter block) line

/-- A line whose tags are named in ASCII and of which at most the first one is an opening
tag. -/
def Tidy (line : List Char) : Prop :=
  (∀ tag ∈ tagsOf line, tag.isKnown = true) ∧ ∀ tag ∈ (tagsOf line).tail, tag.isClosing = true

instance : Decidable (Tidy line) := inferInstanceAs (Decidable (_ ∧ _))

/-! ## What the patterns match -/

theorem openingTag_advances : openingTag.matcher.Advances := by
  intro before after found isMatch
  obtain ⟨start, reaches⟩ := reaches_of_matchAt_eq_some isMatch
  have tree : openingTag.node = sequence
      [char ⟨false, .folded, [.ofChar '<']⟩,
        group 1 (sequence [char ⟨false, .folded, [.ofChar 's']⟩, words ["cript", "tyle"] .folded]),
        boundary, group 2 (star (char ⟨true, .folded, [.ofChar '>']⟩)),
        char ⟨false, .folded, [.ofChar '>']⟩] := rfl
  rw [tree] at reaches
  simp only [State.start, reaches_sequence_cons_iff, reaches_sequence_nil_iff, reaches_char_iff,
    reaches_group_iff, State.openGroup, State.closeGroup, boundary, reaches_anchor_iff,
    reaches_words_folded_iff (by simp : ["cript", "tyle"] ≠ []), reaches_star_char_iff] at reaches
  obtain ⟨b, _, rfl, _, s, _, rfl, _, _, _, name, _, rfl, _, _, attributes, _, rfl, _, e, rest, rfl,
    _, final⟩ := reaches
  refine ⟨start, b :: s :: (name ++ (attributes ++ [e])), rest, by simp, by simp, ?_⟩
  rw [Match.finish, ← final]
  simp

theorem openingTag_matcher_nil : openingTag.matcher false (.between before []) = none := by
  rw [Option.eq_none_iff_forall_not_mem]
  intro found isMatch
  obtain ⟨_, piece, rest, nonempty, split, _⟩ := openingTag_advances _ _ _ isMatch
  exact nonempty (List.append_eq_nil_iff.mp split.symm).1

theorem closingTag_matcher_nil (block : Block) :
    (closingTag block).matcher false (.between before []) = none := by
  rw [Option.eq_none_iff_forall_not_mem]
  intro found isMatch
  obtain ⟨_, reaches⟩ := reaches_of_matchAt_eq_some isMatch
  have tree : (closingTag block).node = sequence
      (("</" ++ block.tag).toList.map (fun c => lit c .folded) ++
        [star (blank .folded), lit '>' .folded]) := rfl
  rw [tree, String.toList_append, List.map_append, List.append_assoc,
    reaches_sequence_append_iff, State.start, reaches_lits_folded_iff] at reaches
  obtain ⟨piece, rest, split, all, _⟩ := reaches
  obtain ⟨rfl, _⟩ := List.append_eq_nil_iff.mp split.symm
  exact absurd all.length_eq (by decide)

theorem opening_mem_tagsAt_iff {name attributes : List Char} :
    .opening name attributes ∈ tagsAt before after ↔
      ∃ found, openingTag.matcher false (.between before after) = some found ∧
        found.group 1 = name ∧ found.group 2 = attributes := by
  simp [tagsAt]

theorem closing_mem_tagsAt_iff {block : Block} : .closing block ∈ tagsAt before after ↔
    ∃ found, (closingTag block).matcher false (.between before after) = some found := by
  have isBlock : block = .script ∨ block = .style := by cases block <;> simp
  simp [tagsAt, Option.isSome_iff_exists, isBlock]

theorem tagsAt_nil : tagsAt before [] = [] := by
  simp [tagsAt, openingTag_matcher_nil, closingTag_matcher_nil]

/-- The tags of a text are the tags at its places. -/
theorem mem_tagsFrom_iff {tag : Tag} : tag ∈ tagsFrom before after ↔
    ∃ skipped rest, after = skipped ++ rest ∧ tag ∈ tagsAt (skipped.reverse ++ before) rest := by
  induction after generalizing before with
  | nil =>
      constructor
      · exact fun isTag => absurd isTag List.not_mem_nil
      · rintro ⟨skipped, rest, split, isTag⟩
        obtain ⟨rfl, rfl⟩ := List.append_eq_nil_iff.mp split.symm
        rwa [tagsAt_nil] at isTag
  | cons c after hyp =>
      rw [tagsFrom, List.mem_append, hyp]
      constructor
      · rintro (here | ⟨skipped, rest, rfl, later⟩)
        · exact ⟨[], c :: after, rfl, here⟩
        · exact ⟨c :: skipped, rest, rfl, by simpa using later⟩
      · rintro ⟨skipped, rest, split, isTag⟩
        cases skipped with
        | nil =>
            obtain rfl : c :: after = rest := split
            exact .inl isTag
        | cons d skipped =>
            obtain ⟨rfl, rfl⟩ : c = d ∧ after = skipped ++ rest := by simpa using split
            exact .inr ⟨skipped, rest, rfl, by simpa using isTag⟩

/-- A line has a closing tag of a block if the pattern for it matches. -/
theorem closing_mem_tagsOf_iff {block : Block} :
    .closing block ∈ tagsOf line ↔ (closingTag block).matchesIn line = true := by
  rw [tagsOf, mem_tagsFrom_iff, Pattern.matchesIn, Option.isSome_iff_exists]
  simp only [closing_mem_tagsAt_iff]
  constructor
  · rintro ⟨skipped, rest, rfl, found, isMatch⟩
    exact Option.isSome_iff_exists.mp (Matcher.find?_isSome_of_match isMatch)
  · rintro ⟨found, search⟩
    obtain ⟨skipped, rest, rfl, isMatch⟩ := Matcher.exists_of_find?_eq_some search
    exact ⟨skipped, rest, rfl, found, isMatch⟩

/-- What the pattern finds are opening tags. -/
theorem opening_mem_tagsOf {found : Match} (isFound : found ∈ openingTag.findAll line) :
    .opening (found.group 1) (found.group 2) ∈ tagsOf line := by
  obtain ⟨skipped, rest, rfl, isMatch⟩ := Matcher.exists_of_mem_findAll openingTag_advances isFound
  refine mem_tagsFrom_iff.mpr ⟨skipped, rest, rfl, opening_mem_tagsAt_iff.mpr ⟨found, ?_, rfl, rfl⟩⟩
  rwa [List.append_nil]

/-- Where the pattern finds nothing, there is no opening tag. -/
theorem isClosing_of_findAll_eq_nil (none : openingTag.findAll line = []) :
    ∀ tag ∈ tagsOf line, tag.isClosing = true := by
  rintro (⟨name, attributes⟩ | block) isTag
  · obtain ⟨skipped, rest, rfl, here⟩ := mem_tagsFrom_iff.mp isTag
    obtain ⟨found, isMatch, _⟩ := opening_mem_tagsAt_iff.mp here
    have search := Matcher.find?_isSome_of_match isMatch
    have absent := Pattern.findAll_eq_nil_iff.mp none
    rw [Pattern.matchesIn, Pattern.search?, Cursor.ofText_eq, search] at absent
    contradiction
  · rfl

/-! ## From line to line -/

/-- The block that is open after a line, as the plan of a page goes on with it. -/
def blockAfter (block : Option Block) (line : List Char) : Except Fault (Option Block) :=
  match block with
  | some block => .ok (if (closingTag block).matchesIn line then none else some block)
  | none => do
    match ← blockOpened line with
    | some opened => pure (if (closingTag opened).matchesIn line then none else some opened)
    | none => pure none

/-- An empty line has no tags. -/
theorem blockAfter_nil : blockAfter block [] = .ok block := by
  cases block with
  | none => decide
  | some block =>
      have absent : (closingTag block).matchesIn [] = false := by cases block <;> decide
      simp [blockAfter, absent]

/-- The plan of a page goes from line to line with the block that is open. -/
theorem planPage_cons_eq : planPage block (line :: lines) =
    (blockAfter block line).bind fun next =>
      (planPage next lines).map fun plan => blockRuleSets block line :: plan := by
  cases block with
  | some block =>
      rw [planPage, blockRuleSets, blockAfter]
      by_cases closes : (closingTag block).matchesIn line = true
      · simp [closes, closing_mem_tagsOf_iff, Except.map, bind, Except.bind, pure, Except.pure]
      · simp [closes, closing_mem_tagsOf_iff, Except.map, bind, Except.bind, pure, Except.pure]
  | none =>
      rw [planPage, blockAfter]
      cases blockOpened line with
      | error fault => rfl
      | ok opened => cases opened <;> rfl

theorem planPage_cons {next : Option Block} (isNext : blockAfter block line = .ok next) :
    planPage block (line :: lines) =
      (planPage next lines).map fun plan => blockRuleSets block line :: plan := by
  rw [planPage_cons_eq, isNext]
  rfl

/-- Closing tags open nothing. -/
theorem foldl_openAfter_none (closing : ∀ tag ∈ tags, tag.isClosing = true) :
    tags.foldl openAfter none = none := by
  induction tags with
  | nil => rfl
  | cons tag tags hyp =>
      rw [List.forall_mem_cons] at closing
      cases tag with
      | opening => exact absurd closing.1 Tag.not_isClosing_opening
      | closing => exact hyp closing.2

/-- An open block stays so up to its closing tag. After that, closing tags open no other
one. -/
theorem foldl_openAfter_some {block : Block} (closing : ∀ tag ∈ tags.tail, tag.isClosing = true) :
    tags.foldl openAfter (some block) = if .closing block ∈ tags then none else some block := by
  induction tags with
  | nil => rfl
  | cons tag tags hyp =>
      rw [List.foldl_cons, openAfter]
      by_cases closes : tag = .closing block
      · rw [if_pos closes, if_pos (by simp [closes])]
        exact foldl_openAfter_none closing
      · rw [if_neg closes, hyp fun other isOther => closing other (List.mem_of_mem_tail isOther)]
        simp [Ne.symm closes]

/-- What a line opens, if its first tag is the only one that can. -/
theorem blockOpened_eq (tidy : Tidy line) : blockOpened line = .ok ((tagsOf line).head?.bind Tag.opens?) := by
  cases last : (openingTag.findAll line).getLast? with
  | none =>
      have noTags := isClosing_of_findAll_eq_nil (List.getLast?_eq_none_iff.mp last)
      rw [blockOpened, last]
      generalize tagsOf line = tags at noTags ⊢
      cases tags with
      | nil => rfl
      | cons tag tags =>
          rw [List.forall_mem_cons] at noTags
          cases tag with
          | opening => exact absurd noTags.1 Tag.not_isClosing_opening
          | closing => rfl
  | some found =>
      have isTag := opening_mem_tagsOf (List.mem_of_getLast? last)
      have known := tidy.1 _ isTag
      rw [Tag.isKnown, Option.isSome_iff_exists] at known
      obtain ⟨block, isBlock⟩ := known
      have isFirst : (tagsOf line).head? = some (.opening (found.group 1) (found.group 2)) := by
        have closing := tidy.2
        cases tags : tagsOf line with
        | nil => simp [tags] at isTag
        | cons tag others =>
            rw [tags] at isTag closing
            rcases List.mem_cons.mp isTag with same | isLater
            · rw [← same]
              rfl
            · exact absurd (closing _ isLater) Tag.not_isClosing_opening
      rw [blockOpened, last, isFirst]
      simp only [Option.bind_some, Tag.opens?, isBlock]
      cases block with
      | style => rfl
      | script =>
          simp only
          split
          · rfl
          · rfl

/-- The block that a plan goes on with after a line is the one that its tags leave open. -/
theorem blockAfter_eq (tidy : Tidy line) :
    blockAfter block line = .ok ((tagsOf line).foldl openAfter block) := by
  cases block with
  | some block =>
      rw [foldl_openAfter_some tidy.2, blockAfter]
      simp only [closing_mem_tagsOf_iff]
  | none =>
      rw [blockAfter, blockOpened_eq tidy]
      have closing := tidy.2
      simp only [← closing_mem_tagsOf_iff]
      generalize tagsOf line = tags at closing ⊢
      cases tags with
      | nil => rfl
      | cons tag others =>
          rw [List.tail_cons] at closing
          rw [List.foldl_cons, openAfter]
          simp only [List.head?_cons, Option.bind_some, bind, Except.bind, pure, Except.pure]
          cases opens : tag.opens? with
          | none => rw [foldl_openAfter_none closing]
          | some opened =>
              have notClosing : Tag.closing opened ≠ tag := by
                rintro rfl
                simp [Tag.opens?] at opens
              rw [foldl_openAfter_some fun other isOther =>
                closing other (List.mem_of_mem_tail isOther)]
              simp [notClosing]

theorem planPage_eq_tagPlan (tidy : ∀ line ∈ lines, Tidy line) :
    planPage block lines = .ok (tagPlan block lines) := by
  induction lines generalizing block with
  | nil => rfl
  | cons line lines hyp =>
      rw [planPage_cons (blockAfter_eq (tidy line (by simp))),
        hyp fun other isOther => tidy other (by simp [isOther])]
      simp [tagPlan, List.mapIdx_cons, List.foldl_append, Except.map]

/-! ## Pages -/

/-- Lines that open blocks with their first tag only get the rule-sets of the block that
the tags before them leave open, unless they have a closing tag of it. -/
theorem plan_page_eq_tagPlan (tidy : ∀ line ∈ lines, Tidy line) :
    plan .html lines = .ok (tagPlan none lines) :=
  planPage_eq_tagPlan tidy

-- A block that is opened on the line that closes another one is passed over.
example :
    let page := ["<script>", "</script><style>", "a{}"].map String.toList
    plan .html page = .ok [["common", "html"], ["common", "html"], ["common", "html"]] ∧
      tagPlan none page = [["common", "html"], ["common", "html"], ["common", "html.style"]] := by
  decide

end LineRules.Format
