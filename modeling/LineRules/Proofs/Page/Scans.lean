import LineRules.Proofs.Page.Tags

/-!
# Pages by their tags

A page is scanned tag by tag: an opening tag opens its block where none is open, and nothing
but a closing tag of this block ends it (`openAfter`). The plan is made line by line from
less: the last opening tag, and the closing tags. On pages whose tags are plain both agree
if every line is foreseen (`plan_page_eq_scanPlan`), and no weaker condition would do
(`allForeseen_iff`).
-/

namespace LineRules.Format

open LineRules.Text LineRules.Pattern LineRules.Pattern.Node LineRules.Builtin

variable {after line : List Char} {block : Option Block}

/-! ## What a line leaves open -/

/-- A line whose tags are what they look like: their names are exact, and no attributes end in a
closing tag. -/
def PlainTags (line : List Char) : Prop :=
  ExactNames line ∧ ∀ tag ∈ blockTags line, tag.ClosesNothing

instance (line : List Char) : Decidable (PlainTags line) := inferInstanceAs (Decidable (_ ∧ _))

/-- The block that the last opening tag among some tags opens. -/
def lastOpened? (tags : List Tag) : Option Block :=
  (tags.filter fun tag => !tag.isClosing).getLast?.bind Tag.opens?

/-- What a line leaves open shows in the block that its last opening tag opens and in its closing
tags. A line that closes the block that is open leaves nothing else open. On other lines, a block
that is left open is the one that the last opening tag opens, and is closed nowhere on the line. If
nothing is left open, the block that the last opening tag opens is closed on the line. -/
def Foreseen (block : Option Block) (tags : List Tag) : Prop :=
  match block with
  | some block => .closing block ∈ tags → tags.foldl openAfter (some block) = none
  | none =>
    match tags.foldl openAfter none with
    | some left => lastOpened? tags = some left ∧ .closing left ∉ tags
    | none => ∀ opened ∈ lastOpened? tags, .closing opened ∈ tags

section Foreseen

variable {tags : List Tag}

/-- What the last opening tag and the closing tags tell. -/
def openByLast (block : Option Block) (tags : List Tag) : Option Block :=
  match block with
  | some block => if .closing block ∈ tags then none else some block
  | none => (lastOpened? tags).filter fun opened => .closing opened ∉ tags

theorem foldl_openAfter_of_not_mem {block : Block} (absent : .closing block ∉ tags) :
    tags.foldl openAfter (some block) = some block := by
  induction tags with
  | nil => rfl
  | cons tag tags hyp =>
      rw [List.mem_cons, not_or] at absent
      rw [List.foldl_cons, openAfter, if_neg (Ne.symm absent.1), hyp absent.2]

theorem foreseen_iff :
    Foreseen block tags ↔ openByLast block tags = tags.foldl openAfter block := by
  cases block with
  | some block =>
      rw [Foreseen, openByLast]
      by_cases closes : .closing block ∈ tags
      · simp [closes, eq_comm]
      · simp [closes, foldl_openAfter_of_not_mem closes]
  | none =>
      simp only [Foreseen, openByLast]
      split
      · rename_i left isLeft
        rw [isLeft, Option.filter_eq_some_iff]
        simp
      · rename_i isLeft
        rw [isLeft, Option.filter_eq_none_iff]
        simp

instance (block : Option Block) (tags : List Tag) : Decidable (Foreseen block tags) :=
  decidable_of_iff _ foreseen_iff.symm

end Foreseen

theorem exists_of_mem_readTags {tag : Tag} {read : List Char} (isTag : tag ∈ readTags read after) :
    ∃ piece, tagAt? piece = some tag := by
  induction after generalizing read with
  | nil => simp [readTags] at isTag
  | cons c after hyp =>
      rw [readTags] at isTag
      split at isTag
      · rcases List.mem_append.mp isTag with here | later
        · obtain ⟨_, piece, _, isTag⟩ := exists_of_tagIn? (Option.mem_toList.mp here)
          exact ⟨piece, isTag⟩
        · exact hyp later
      · exact hyp isTag

theorem ofTag?_lower {name : List Char} {block : Block} (named : blockNamed? name = some block) :
    Block.ofTag? (String.ofList (lower name)) = some block := by
  rw [lower_of_ascii]
  · exact named
  · intro c isMember
    refine toNat_lt_of_toLower (@mem_tagLetters block _ ?_)
    rw [← blockNamed?_eq_some_iff.mp named]
    exact List.mem_map_of_mem isMember

/-- The pattern for opening tags finds the block that the last one opens. -/
theorem blockOpened_of_exactNames (exactly : ExactNames line) :
    blockOpened line = .ok (lastOpened? (blockTags line)) := by
  obtain ⟨segments, segmented, all, _⟩ := Pattern.exists_segmented openingTag_advances line
  have same := @filter_readTags [] line [] segments segmented (by simp) exactly .nil
  rw [lastOpened?, blockTags, same, List.getLast?_map, blockOpened, all]
  cases last : (segments.filterMap Segment.match?).getLast? with
  | none => rfl
  | some found =>
      have kept : .opening (found.group 1) (found.group 2) ∈
          (readTags [] line).filter fun tag => !tag.isClosing := by
        rw [same]
        exact List.mem_map.mpr ⟨found, List.mem_of_getLast? last, rfl⟩
      obtain ⟨piece, isTag⟩ := exists_of_mem_readTags (List.mem_filter.mp kept).1
      obtain ⟨block, named, _⟩ := tagAt?_eq_opening_iff.mp isTag
      simp only [Option.map_some, Option.bind_some, Tag.opens?, ofTag?_lower named]
      cases block with
      | style => rfl
      | script =>
          simp only
          split
          · rfl
          · rfl

theorem closing_mem_blockTags_iff (plain : PlainTags line) {block : Block} :
    .closing block ∈ blockTags line ↔ (closingTag block).matchesIn line = true := by
  rw [blockTags, closing_mem_readTags_iff (by simp) (by simpa using plain.1) plain.2,
    Pattern.matchesIn, Option.isSome_iff_exists]
  simp only [List.reverse_nil, List.nil_append]
  constructor
  · rintro ⟨skipped, rest, rfl, begins⟩
    obtain ⟨found, isMatch⟩ :=
      (@exists_closingTag_iff (skipped.reverse ++ []) rest block).mpr begins
    exact Option.isSome_iff_exists.mp (Matcher.find?_isSome_of_match isMatch)
  · rintro ⟨found, search⟩
    obtain ⟨skipped, rest, split, isMatch⟩ := Matcher.exists_of_find?_eq_some search
    exact ⟨skipped, rest, split, exists_closingTag_iff.mp ⟨found, isMatch⟩⟩

theorem blockAfter_of_plainTags (plain : PlainTags line) :
    blockAfter block line = .ok (openByLast block (blockTags line)) := by
  cases block with
  | some block => simp [blockAfter, openByLast, closing_mem_blockTags_iff plain]
  | none =>
      rw [blockAfter, blockOpened_of_exactNames plain.1, openByLast]
      cases opened : lastOpened? (blockTags line) with
      | none => rfl
      | some block =>
          simp only [bind, Except.bind, pure, Except.pure, ← closing_mem_blockTags_iff plain]
          by_cases closes : .closing block ∈ blockTags line <;> simp [closes, Option.filter]

/-! ## Pages by their tags -/

/-- The block that is open before a line of a page, if its tags are read one after another. -/
def openBefore (block : Option Block) (lines : List (List Char)) (i : Nat) : Option Block :=
  ((lines.take i).flatMap blockTags).foldl openAfter block

/-- The rule-sets of a line in a block, which may have a closing tag of it. -/
def ruleSetsIn (block : Option Block) (line : List Char) : List String :=
  match block with
  | some block =>
    if .closing block ∈ blockTags line then Language.html.ruleSets
    else ["common", "html." ++ block.tag]
  | none => Language.html.ruleSets

/-- The rule-sets of the lines of a page by the block that is open before each of them. -/
def scanPlan (block : Option Block) (lines : List (List Char)) : List (List String) :=
  lines.mapIdx fun i line => ruleSetsIn (openBefore block lines i) line

/-- The tags of every line are what they look like. -/
def Plain (lines : List (List Char)) : Prop :=
  ∀ line ∈ lines, PlainTags line

/-- Every line is foreseen in the block that is open before it. -/
def AllForeseen (block : Option Block) (lines : List (List Char)) : Prop :=
  ∀ i (_ : i < lines.length), Foreseen (openBefore block lines i) (blockTags lines[i])

section Pages

variable {lines : List (List Char)}

theorem openBefore_succ (i : Nat) : openBefore block (line :: lines) (i + 1) =
    openBefore ((blockTags line).foldl openAfter block) lines i := by
  simp [openBefore, List.foldl_append]

theorem scanPlan_cons : scanPlan block (line :: lines) =
    ruleSetsIn block line :: scanPlan ((blockTags line).foldl openAfter block) lines := by
  simp [scanPlan, List.mapIdx_cons, openBefore]

theorem allForeseen_cons : AllForeseen block (line :: lines) ↔
    Foreseen block (blockTags line) ∧
      AllForeseen ((blockTags line).foldl openAfter block) lines := by
  constructor
  · intro foreseen
    refine ⟨foreseen 0 (by simp), fun i inside => ?_⟩
    have later := foreseen (i + 1) (by simpa using inside)
    rwa [openBefore_succ] at later
  · rintro ⟨here, others⟩ i inside
    cases i with
    | zero => exact here
    | succ i =>
        rw [openBefore_succ]
        exact others i (by simpa using inside)

theorem blockRuleSets_of_plainTags (plain : PlainTags line) :
    blockRuleSets block line = ruleSetsIn block line := by
  cases block with
  | none => rfl
  | some block => simp only [blockRuleSets, ruleSetsIn, closing_mem_tagsOf_iff,
      closing_mem_blockTags_iff plain]

theorem planPage_eq_scanPlan (plain : Plain lines) (foreseen : AllForeseen block lines) :
    planPage block lines = .ok (scanPlan block lines) := by
  induction lines generalizing block with
  | nil => rfl
  | cons line lines hyp =>
      obtain ⟨here, others⟩ := List.forall_mem_cons.mp plain
      obtain ⟨seen, later⟩ := allForeseen_cons.mp foreseen
      have next : blockAfter block line = .ok ((blockTags line).foldl openAfter block) := by
        rw [blockAfter_of_plainTags here, foreseen_iff.mp seen]
      rw [planPage_cons next, hyp others later, scanPlan_cons, blockRuleSets_of_plainTags here]
      rfl

end Pages

/-- A page whose lines are foreseen is planned by its tags: a line that stands in a block and has no
closing tag of it gets the rule-sets of the block, every other line those of the page. -/
theorem plan_page_eq_scanPlan (lines : List (List Char)) (plain : Plain lines)
    (foreseen : AllForeseen none lines) : plan .html lines = .ok (scanPlan none lines) :=
  planPage_eq_scanPlan plain foreseen

/-- A page with more than one block on a line, and brackets in attributes, and its plan. -/
theorem plan_manyTags :
    let page := ["<style>a{}</style><script id='<a'>", "f('<style>')", "</script >",
      "<script type='text/html'><STYLE>", "b{}"].map String.toList
    Plain page ∧ AllForeseen none page ∧ plan .html page = .ok (scanPlan none page) ∧
      scanPlan none page = [["common", "html"], ["common", "html.script"], ["common", "html"],
        ["common", "html"], ["common", "html.style"]] := by
  intro page
  have plain : Plain page := by
    unfold Plain
    decide +kernel
  have foreseen : AllForeseen none page := by
    unfold AllForeseen
    decide +kernel
  exact ⟨plain, foreseen, plan_page_eq_scanPlan page plain foreseen, by decide +kernel⟩

/-- A block that is opened on the line that closes another one is passed over, and a tag whose name
only begins with that of a block opens one. -/
theorem plan_page_ne_scanPlan :
    let reopened := ["<script>", "</script><style>", "a{}"].map String.toList
    let longer := ["<script-x>", "a"].map String.toList
    plan .html reopened = .ok [["common", "html"], ["common", "html"], ["common", "html"]] ∧
      scanPlan none reopened = [["common", "html"], ["common", "html"], ["common", "html.style"]] ∧
      plan .html longer = .ok [["common", "html"], ["common", "html.script"]] ∧
      scanPlan none longer = [["common", "html"], ["common", "html"]] := by
  decide +kernel

theorem plain_nil : PlainTags [] :=
  ⟨trivial, by simp [blockTags, readTags]⟩

theorem ruleSetsIn_injective {one other : Option Block}
    (same : ruleSetsIn one [] = ruleSetsIn other []) : one = other := by
  rcases one with _ | _ | _ <;> rcases other with _ | _ | _
  all_goals first
    | rfl
    | exact absurd same (by decide)

/-- A line after that shows what the plan takes to be open. -/
theorem planPage_pair_iff (plain : PlainTags line) :
    planPage block [line, []] = .ok (scanPlan block [line, []]) ↔
      Foreseen block (blockTags line) := by
  have planned : planPage block [line, []] =
      .ok [ruleSetsIn block line, ruleSetsIn (openByLast block (blockTags line)) []] := by
    rw [planPage_cons (blockAfter_of_plainTags plain), planPage_cons blockAfter_nil,
      blockRuleSets_of_plainTags plain, blockRuleSets_of_plainTags plain_nil]
    rfl
  have scanned : scanPlan block [line, []] =
      [ruleSetsIn block line, ruleSetsIn ((blockTags line).foldl openAfter block) []] := by
    rw [scanPlan_cons, scanPlan_cons]
    rfl
  rw [planned, scanned, foreseen_iff]
  constructor
  · intro same
    simpa using ruleSetsIn_injective (by simpa using same)
  · intro same
    rw [same]

/-- The condition on lines cannot be weakened: the lines of a plain page are foreseen exactly if,
whichever of them an empty line stands after, the plan gives it the right rule-sets. -/
theorem allForeseen_iff {lines : List (List Char)} (plain : Plain lines) :
    AllForeseen block lines ↔ ∀ i ≤ lines.length,
      planPage block (lines.take i ++ [[]]) = .ok (scanPlan block (lines.take i ++ [[]])) := by
  have alone : ∀ block, planPage block [[]] = .ok (scanPlan block [[]]) := by
    intro block
    rw [planPage_cons blockAfter_nil, blockRuleSets_of_plainTags plain_nil, scanPlan_cons]
    rfl
  induction lines generalizing block with
  | nil =>
      refine iff_of_true (fun i inside => absurd inside (by simp)) ?_
      rintro i bound
      simpa using alone block
  | cons line lines hyp =>
      obtain ⟨here, others⟩ := List.forall_mem_cons.mp plain
      have onward : Foreseen block (blockTags line) → ∀ rest : List (List Char),
          planPage block (line :: rest) = .ok (scanPlan block (line :: rest)) ↔
            planPage ((blockTags line).foldl openAfter block) rest =
              .ok (scanPlan ((blockTags line).foldl openAfter block) rest) := by
        intro foreseen rest
        have next := @blockAfter_of_plainTags _ block here
        rw [foreseen_iff.mp foreseen] at next
        rw [planPage_cons next, scanPlan_cons, blockRuleSets_of_plainTags here]
        cases planPage ((blockTags line).foldl openAfter block) rest <;> simp [Except.map]
      rw [allForeseen_cons]
      constructor
      · rintro ⟨foreseen, later⟩ i bound
        cases i with
        | zero => simpa using alone block
        | succ i =>
            exact (onward foreseen _).mpr ((hyp others).mp later i (by simpa using bound))
      · intro right
        have foreseen : Foreseen block (blockTags line) :=
          (planPage_pair_iff here).mp (by simpa using right 1 (by simp))
        refine ⟨foreseen, (hyp others).mpr fun i bound => ?_⟩
        exact (onward foreseen _).mp (right (i + 1) (by simpa using bound))

end LineRules.Format
