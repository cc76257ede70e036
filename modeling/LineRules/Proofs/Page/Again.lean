import LineRules.Proofs.Format.Changes
import LineRules.Proofs.Page.Blocks

/-!
# Pages formatted again

A page that was formatted is planned by the lines that came out. The rules for scripts and
style sheets settle a line in one run, the rules for pages need not, and a line can be moved
to other rule-sets where the tags before it have been rewritten. `format_page_again_iff`
tells for every page whether a second run changes anything.
-/

namespace LineRules.Format

open LineRules.Text LineRules.Builtin

variable {block : Option Block} {contents : List (List Char)} {plans : List (List String)}

/-! ## The plan of lines that are cut again -/

/-- The lines that are not empty, with their rule-sets. -/
def filled (contents : List (List Char)) (plans : List (List String)) :
    List (List Char × List String) :=
  (contents.zip plans).filter (·.1 ≠ [])

theorem map_filled_cons {content : List Char} {refs : List String} (nonempty : content ≠ [])
    (result : Except Fault (List (List String))) :
    (result.map (refs :: ·)).map (filled (content :: contents)) =
      (result.map (filled contents)).map ((content, refs) :: ·) := by
  cases result <;> simp [Except.map, filled, nonempty]

theorem map_filled_nil_cons {refs : List String} (result : Except Fault (List (List String))) :
    (result.map (refs :: ·)).map (filled ([] :: contents)) = result.map (filled contents) := by
  cases result <;> simp [Except.map, filled]

/-- Empty lines make no difference to the rule-sets of others. -/
theorem planPage_filter : (planPage block contents).map (filled contents) =
    (planPage block (contents.filter (· ≠ []))).map (filled (contents.filter (· ≠ []))) := by
  induction contents generalizing block with
  | nil => rfl
  | cons content contents hyp =>
      by_cases empty : content = []
      · subst empty
        rw [planPage_cons blockAfter_nil, map_filled_nil_cons, List.filter_cons_of_neg (by simp),
          hyp]
      · rw [List.filter_cons_of_pos (by simp [empty]), planPage_cons_eq, planPage_cons_eq]
        cases blockAfter block content with
        | error fault => rfl
        | ok next =>
            simp only [Except.bind]
            rw [map_filled_cons empty, map_filled_cons empty, hyp]

/-! ## Lines and the blocks that they are in -/

/-- The rules of the language that a line of a page is written in: those for pages, or those of the
block that it is in. -/
def tableIn : Option Block → LanguageTable
  | none => .page
  | some block => .ofBlock block

theorem tableIn_refs_injective {one other : Option Block}
    (same : (tableIn one).refs = (tableIn other).refs) : one = other := by
  rcases one with _ | _ | _ <;> rcases other with _ | _ | _
  all_goals first
    | rfl
    | exact absurd same (by decide)

/-- Lines of a page, each with the block that it is in. -/
abbrev Routed := List (Line × Option Block)

/-- The rule-sets of lines in blocks. -/
def Routed.refs (routed : Routed) : List (List String) :=
  routed.map fun route => (tableIn route.2).refs

/-- Lines in blocks with the rules for them. -/
def Routed.chosen (routed : Routed) : Chosen :=
  routed.map fun route => (route.1, tableIn route.2)

theorem Routed.fst_chosen (routed : Routed) :
    routed.chosen.map Prod.fst = routed.map Prod.fst := by
  rw [chosen, List.map_map]
  rfl

theorem Routed.refs_chosen (routed : Routed) :
    (routed.chosen.map fun choice => choice.2.refs) = routed.refs := by
  rw [chosen, List.map_map]
  rfl

theorem exists_routed_of_planPage {lines : List Line}
    (isPlan : planPage block (lines.map Line.content) = .ok plans) :
    ∃ routed : Routed, routed.map Prod.fst = lines ∧ plans = routed.refs := by
  induction lines generalizing block plans with
  | nil =>
      obtain rfl := Except.ok.inj isPlan
      exact ⟨[], rfl, rfl⟩
  | cons line lines hyp =>
      have route : ∃ inside, blockRuleSets block line.content = (tableIn inside).refs := by
        cases block with
        | none => exact ⟨none, rfl⟩
        | some block =>
            rw [blockRuleSets]
            split
            · exact ⟨none, rfl⟩
            · exact ⟨some block, (LanguageTable.refs_ofBlock block).symm⟩
      obtain ⟨inside, refs⟩ := route
      rw [List.map_cons, planPage_cons_eq] at isPlan
      obtain ⟨next, _, isPlan⟩ := bind_eq_ok.mp isPlan
      obtain ⟨others, isRest, rfl⟩ := map_eq_ok.mp isPlan
      obtain ⟨routed, given, rfl⟩ := hyp isRest
      exact ⟨(line, inside) :: routed, by rw [List.map_cons, given], by rw [refs]; rfl⟩

/-! ## What a run makes of lines in blocks -/

/-- Rule-sets leave a line as it is, whatever its number and the file. -/
def Formatter.Keeps (formatter : Formatter) (path : Path) (refs : List String)
    (content : List Char) : Prop :=
  ∀ shebang number, ∃ found,
    (formatter.formatLine path shebang number content refs).outcome = .ok (content, found)

section Runs

variable {formatter : Formatter} {path : Path} {routed : Routed} {text : String}

theorem formatLine_tableIn (builtIn : formatter.store = store) {content : List Char}
    (oneLine : OneLine content) (inside : Option Block) (shebang : Bool) (number : Nat) :
    ∃ found, (formatter.formatLine path shebang number content (tableIn inside).refs).outcome =
      .ok (settledLine (tableIn inside).table (tableIn inside).fixes formatter.customIgnore content,
        found) := by
  let planned : Planned := (⟨content, []⟩, [whitespaceTable, (tableIn inside).table])
  let place : LinePlace := ⟨number, shebang, formatter.customIgnore⟩
  have provides : ∀ table ∈ planned.2, formatter.store.Provides table := by
    rw [builtIn]
    exact (tableIn inside).provides_pair
  have ran := Formatter.formatLine_outcome path shebang number provides
  have out : (runPlanned place planned).1.content =
      settledLine (tableIn inside).table (tableIn inside).fixes formatter.customIgnore content :=
    runAll_fst (tableIn inside).tells.toInTurn oneLine
  rw [← out]
  exact ⟨_, ran⟩

theorem keeps_tableIn_iff (builtIn : formatter.store = store) {content : List Char}
    (oneLine : OneLine content) (inside : Option Block) :
    formatter.Keeps path (tableIn inside).refs content ↔
      settledLine (tableIn inside).table (tableIn inside).fixes formatter.customIgnore content =
        content := by
  constructor
  · intro keeps
    obtain ⟨found, kept⟩ := keeps false 0
    obtain ⟨others, ran⟩ := @formatLine_tableIn formatter path builtIn content oneLine inside false 0
    exact congrArg Prod.fst (Except.ok.inj (ran.symm.trans kept))
  · intro same shebang number
    obtain ⟨found, ran⟩ :=
      @formatLine_tableIn formatter path builtIn content oneLine inside shebang number
    rw [same] at ran
    exact ⟨found, ran⟩

/-- What becomes of a page whose plan is known. -/
theorem format_routed (isPage : formatter.language = .html) (builtIn : formatter.store = store)
    (given : routed.map Prod.fst = linesOf text.toList)
    (isPlan : plan .html ((linesOf text.toList).map Line.content) = .ok routed.refs) :
    let fixed := routed.chosen.settled formatter.customIgnore
    ∃ found, (formatter.formatLines path (isExecutable text.toList) 1
        ((linesOf text.toList).zip routed.refs)).outcome = .ok (fixed, found) ∧
      (formatter.format path text).outcome =
        .ok ⟨text, String.ofList (fixed.flatMap Line.chars), found⟩ := by
  intro fixed
  have lines := routed.fst_chosen.trans given
  have refs := routed.refs_chosen
  have cut : IsCut (routed.chosen.map Prod.fst) := lines ▸ isCut_linesOf text.toList
  have provides : ∀ planned ∈ routed.chosen.planned, ∀ table ∈ planned.2,
      formatter.store.Provides table := by
    rw [builtIn]
    exact routed.chosen.provides
  have ran := @Chosen.runLines_fst routed.chosen (isExecutable text.toList) formatter.customIgnore 1
    (Chosen.oneLine cut)
  have zipped : (linesOf text.toList).zip routed.refs =
      routed.chosen.planned.map fun planned => (planned.1, planned.2.map LineTable.name) := by
    rw [← lines, ← refs, ← routed.chosen.fst_planned, ← routed.chosen.names_planned, List.zip_map']
  have done := Formatter.formatLines_outcome path (isExecutable text.toList) 1 provides
  have formatted := @Formatter.format_outcome_lint path formatter text routed.chosen.planned
    (routed.chosen.fst_planned.trans lines)
    (by rw [isPage, isPlan, routed.chosen.names_planned, refs]) provides
  have noTokens : ∀ text, (formatter.lint path text).outcome = .ok [] := by
    intro text
    rw [Formatter.lint, isPage]
    rfl
  simp only [ran, noTokens, Except.map, List.append_nil] at formatted
  rw [zipped, done, ran]
  exact ⟨_, rfl, formatted⟩

end Runs

/-! ## Two runs over a page -/

section Again

variable {formatter : Formatter} {path : Path} {routed : Routed} {lines : List Line}

/-- Lines that are put together and cut again are planned as they were. -/
theorem plan_linesOf (cut : IsCut lines) :
    let again := (linesOf (lines.flatMap Line.chars)).map Line.content
    (plan .html again).map (filled again) =
      (plan .html (lines.map Line.content)).map (filled (lines.map Line.content)) := by
  intro again
  calc (plan .html again).map (filled again)
      = (planPage none (again.filter (· ≠ []))).map (filled (again.filter (· ≠ []))) :=
        planPage_filter
    _ = (plan .html (lines.map Line.content)).map (filled (lines.map Line.content)) := by
        rw [cut.filter_content_linesOf, ← planPage_filter]
        rfl

theorem keeps_nil (builtIn : formatter.store = store) (inside : Option Block) :
    formatter.Keeps path (tableIn inside).refs [] := by
  have oneLine : OneLine [] := by simp [OneLine]
  rw [keeps_tableIn_iff builtIn oneLine,
    settledLine_eq_nil_iff (tableIn inside).tells oneLine]
  rfl

theorem forall_filled_iff (builtIn : formatter.store = store) (path : Path) :
    (∀ pair ∈ filled ((routed.map Prod.fst).map Line.content) routed.refs,
        formatter.Keeps path pair.2 pair.1) ↔
      ∀ route ∈ routed, formatter.Keeps path (tableIn route.2).refs route.1.content := by
  rw [filled, Routed.refs, List.map_map, List.zip_map']
  simp only [List.mem_filter, List.mem_map, Function.comp_apply]
  constructor
  · intro each route isRoute
    by_cases nothing : route.1.content = []
    · rw [nothing]
      exact keeps_nil builtIn _
    · exact each (route.1.content, (tableIn route.2).refs)
        ⟨⟨route, isRoute, rfl⟩, by simpa using nothing⟩
  · rintro each _ ⟨⟨route, isRoute, rfl⟩, _⟩
    exact each route isRoute

theorem plan_linesOf_eq_error {fault : Fault} (cut : IsCut lines)
    (stopped : plan .html (lines.map Line.content) = .error fault) :
    plan .html ((linesOf (lines.flatMap Line.chars)).map Line.content) = .error fault := by
  have same := plan_linesOf cut
  rw [stopped] at same
  cases again : plan .html ((linesOf (lines.flatMap Line.chars)).map Line.content) with
  | error other =>
      simp only [again] at same
      rw [Except.error.inj same]
  | ok plans =>
      simp only [again] at same
      contradiction

theorem settled_chosen_eq_iff (builtIn : formatter.store = store) (path : Path)
    (oneLine : ∀ route ∈ routed, OneLine route.1.content) :
    routed.chosen.settled formatter.customIgnore = routed.map Prod.fst ↔
      ∀ route ∈ routed, formatter.Keeps path (tableIn route.2).refs route.1.content := by
  rw [Chosen.settled, Routed.chosen, List.map_map, List.map_inj_left]
  refine forall₂_congr fun route isRoute => ?_
  rw [keeps_tableIn_iff builtIn (oneLine route isRoute)]
  exact ⟨congrArg Line.content, fun same => by simp [Format.settled, same]⟩

/-- The rules for a block settle a line in one run, those for pages a line of which they leave
nothing to do. -/
theorem keeps_settledLine_iff (builtIn : formatter.store = store) {content : List Char}
    (oneLine : OneLine content) (inside : Option Block) :
    formatter.Keeps path (tableIn inside).refs (settledLine (tableIn inside).table
        (tableIn inside).fixes formatter.customIgnore content) ↔
      (inside = none → SettledAtOnce formatter.customIgnore content) := by
  rw [keeps_tableIn_iff builtIn (oneLine_settledLine (tableIn inside).tells.oneLine oneLine)]
  cases inside with
  | none =>
      simp only [true_implies]
      exact settledLine_page_again_iff
  | some block =>
      refine iff_of_true ?_ (by simp)
      cases block with
      | script =>
          have settled := @settledLine_settledLine _ _ _ formatter.customIgnore _
            scriptTable_settlesLine oneLine
          exact settled
      | style =>
          have settled := @settledLine_settledLine _ _ _ formatter.customIgnore _
            styleTable_settlesLine oneLine
          exact settled

/-- The same in terms of rule-sets, for a line that may have been moved to others. -/
theorem keeps_rerouted_iff (builtIn : formatter.store = store) {content : List Char}
    (oneLine : OneLine content) (inside next : Option Block) :
    let own := (tableIn inside).refs
    let out := settledLine (tableIn inside).table (tableIn inside).fixes formatter.customIgnore content
    formatter.Keeps path (tableIn next).refs out ↔
      ((tableIn next).refs = own → own = Language.html.ruleSets →
        SettledAtOnce formatter.customIgnore content) ∧
      ((tableIn next).refs ≠ own → formatter.Keeps path (tableIn next).refs out) := by
  intro own out
  by_cases stays : next = inside
  · subst stays
    have outside : own = Language.html.ruleSets ↔ next = none :=
      ⟨fun same => @tableIn_refs_injective next none same, fun same => by subst same; rfl⟩
    simp only [true_implies, ne_eq, not_true_eq_false, false_implies, and_true, own, outside]
    exact keeps_settledLine_iff builtIn oneLine next
  · have moved : (tableIn next).refs ≠ own := fun same => stays (tableIn_refs_injective same)
    simp [moved]

/-- A run over lines that are cut again changes nothing exactly if the rule-sets that they would get
uncut keep them. -/
theorem format_flatMap_chars (isPage : formatter.language = .html)
    (builtIn : formatter.store = store) (cut : IsCut (routed.map Prod.fst))
    (isPlan : plan .html ((routed.map Prod.fst).map Line.content) = .ok routed.refs) :
    let text := String.ofList ((routed.map Prod.fst).flatMap Line.chars)
    ∃ result, (formatter.format path text).outcome = .ok result ∧
      (result.updated = text ↔
        ∀ route ∈ routed, formatter.Keeps path (tableIn route.2).refs route.1.content) := by
  intro text
  have same := plan_linesOf cut
  rw [isPlan] at same
  cases planned : plan .html ((linesOf ((routed.map Prod.fst).flatMap Line.chars)).map
      Line.content) with
  | error fault =>
      simp only [planned] at same
      contradiction
  | ok plans =>
      obtain ⟨others, given, rfl⟩ := exists_routed_of_planPage planned
      have givenText : others.map Prod.fst = linesOf text.toList := by
        rw [given, String.toList_ofList]
      have sameFilled : filled ((others.map Prod.fst).map Line.content) others.refs =
          filled ((routed.map Prod.fst).map Line.content) routed.refs := by
        rw [given]
        simp only [planned] at same
        exact Except.ok.inj same
      have cutAgain : IsCut (others.map Prod.fst) := givenText ▸ isCut_linesOf text.toList
      have chosen := others.fst_chosen
      obtain ⟨_, _, formatted⟩ := @format_routed formatter path others text isPage builtIn givenText
        (by rw [← givenText, given]; exact planned)
      refine ⟨_, formatted, ?_⟩
      have oneLine : ∀ route ∈ others, OneLine route.1.content := fun route isRoute =>
        cutAgain.oneLine (List.mem_map_of_mem isRoute)
      calc String.ofList ((others.chosen.settled formatter.customIgnore).flatMap Line.chars) = text
          ↔ others.chosen.settled formatter.customIgnore = others.map Prod.fst := by
            rw [String.ofList_inj, ← flatMap_chars_linesOf ((routed.map Prod.fst).flatMap Line.chars),
              ← given, ← chosen]
            exact Chosen.flatMap_chars_settled_eq_iff (chosen ▸ cutAgain)
        _ ↔ ∀ route ∈ others, formatter.Keeps path (tableIn route.2).refs route.1.content :=
            settled_chosen_eq_iff builtIn path oneLine
        _ ↔ ∀ route ∈ routed, formatter.Keeps path (tableIn route.2).refs route.1.content := by
            rw [← forall_filled_iff builtIn, sameFilled, forall_filled_iff builtIn]

/-- What it takes for a page to be kept, line by line. -/
theorem forall_keeps_iff (builtIn : formatter.store = store) (path : Path) {again : Routed}
    (fixed : routed.chosen.settled formatter.customIgnore = again.map Prod.fst)
    (oneLine : ∀ route ∈ routed, OneLine route.1.content) :
    (∀ route ∈ again, formatter.Keeps path (tableIn route.2).refs route.1.content) ↔
      ∀ (i : Nat) (line out : Line) (own next : List String), (routed.map Prod.fst)[i]? = some line →
        (again.map Prod.fst)[i]? = some out → routed.refs[i]? = some own →
          again.refs[i]? = some next →
            (next = own → own = Language.html.ruleSets →
              SettledAtOnce formatter.customIgnore line.content) ∧
            (next ≠ own → formatter.Keeps path next out.content) := by
  have places : ∀ i : Nat, (routed[i]?.map fun route : Line × Option Block =>
      Format.settled (tableIn route.2).table (tableIn route.2).fixes formatter.customIgnore route.1) =
        again[i]?.map Prod.fst := by
    intro i
    have place := congrArg (·[i]?) fixed
    simpa [Chosen.settled, Routed.chosen, Function.comp_def] using place
  have refs : ∀ (routed : Routed) (i : Nat),
      routed.refs[i]? = routed[i]?.map fun route : Line × Option Block => (tableIn route.2).refs := by
    intro routed i
    rw [Routed.refs, List.getElem?_map]
  simp only [List.getElem?_map, refs, Option.map_eq_some_iff]
  constructor
  · rintro each i _ _ _ _ ⟨route, isRoute, rfl⟩ ⟨other, isOther, rfl⟩ ⟨_, same, rfl⟩
      ⟨_, sameOther, rfl⟩
    obtain rfl := Option.some.inj (isRoute.symm.trans same)
    obtain rfl := Option.some.inj (isOther.symm.trans sameOther)
    have kept := each other (List.mem_of_getElem? isOther)
    have out := places i
    rw [isRoute, isOther] at out
    rw [← Option.some.inj out] at kept ⊢
    exact (keeps_rerouted_iff builtIn (oneLine route (List.mem_of_getElem? isRoute)) _ _).mp kept
  · intro each other isMember
    obtain ⟨i, isOther⟩ := List.mem_iff_getElem?.mp isMember
    have out := places i
    rw [isOther, Option.map_some, Option.map_eq_some_iff] at out
    obtain ⟨route, isRoute, out⟩ := out
    have conditions := each i _ _ _ _ ⟨route, isRoute, rfl⟩ ⟨other, isOther, rfl⟩
      ⟨route, isRoute, rfl⟩ ⟨other, isOther, rfl⟩
    rw [← out] at conditions ⊢
    exact (keeps_rerouted_iff builtIn (oneLine route (List.mem_of_getElem? isRoute)) _ _).mpr
      conditions

/-- A fault of the plan stops a run. -/
theorem format_of_plan_error {fault : Fault} {text : String}
    (stopped : plan formatter.language ((linesOf text.toList).map Line.content) = .error fault) :
    (formatter.format path text).outcome = .error fault := by
  rw [Formatter.format]
  exact outcome_bind_error (by rw [stopped]; rfl) _

end Again

/-- **Pages formatted again.** A page is formatted by its plan, line by line, and its second run is
planned by the lines that came out. The second run changes nothing exactly if two things hold. Of
the lines that get the same rule-sets again, those outside of blocks were settled by one run. And
every line that has been moved to other rule-sets is kept by those. -/
theorem format_page_again_iff (customIgnore : Option Pattern) (linter : Option Linter) (path : Path)
    (text : String) :
    let formatter : Formatter := { language := .html, store, customIgnore, linter }
    let lines := linesOf text.toList
    match (formatter.format path text).outcome with
    | .error fault => plan .html (lines.map Line.content) = .error fault
    | .ok first => ∃ refs fixed, plan .html (lines.map Line.content) = .ok refs ∧
        (formatter.formatLines path (isExecutable text.toList) 1 (lines.zip refs)).outcome =
          .ok (fixed, first.violations) ∧
        first.updated = String.ofList (fixed.flatMap Line.chars) ∧
        match plan .html (fixed.map Line.content) with
        | .error fault => (formatter.format path first.updated).outcome = .error fault
        | .ok later => ∃ second, (formatter.format path first.updated).outcome = .ok second ∧
            (second.updated = first.updated ↔
              ∀ (i : Nat) (line out : Line) (own next : List String), lines[i]? = some line →
                fixed[i]? = some out → refs[i]? = some own → later[i]? = some next →
                  (next = own → own = Language.html.ruleSets →
                    SettledAtOnce customIgnore line.content) ∧
                  (next ≠ own → formatter.Keeps path next out.content)) := by
  intro formatter lines
  cases planned : plan .html (lines.map Line.content) with
  | error fault =>
      rw [@format_of_plan_error formatter path fault text planned]
  | ok plans =>
      obtain ⟨routed, given, rfl⟩ := exists_routed_of_planPage planned
      obtain ⟨found, ran, formatted⟩ :=
        @format_routed formatter path routed text rfl rfl given planned
      rw [formatted]
      have cut : IsCut (routed.map Prod.fst) := given ▸ isCut_linesOf text.toList
      have cutFixed := @Chosen.isCut_settled routed.chosen customIgnore (routed.fst_chosen ▸ cut)
      refine ⟨routed.refs, _, rfl, ran, rfl, ?_⟩
      generalize isFixed : routed.chosen.settled formatter.customIgnore = fixed
      cases replanned : plan .html (fixed.map Line.content) with
      | error fault =>
          refine format_of_plan_error ?_
          rw [String.toList_ofList]
          exact plan_linesOf_eq_error (isFixed ▸ cutFixed) replanned
      | ok later =>
          obtain ⟨again, givenAgain, rfl⟩ := exists_routed_of_planPage replanned
          rw [← givenAgain] at replanned
          obtain ⟨second, reformatted, same⟩ := @format_flatMap_chars formatter path again rfl rfl
            (givenAgain ▸ isFixed ▸ cutFixed) replanned
          rw [givenAgain] at reformatted same
          refine ⟨second, reformatted, same.trans ?_⟩
          rw [← givenAgain, ← given]
          exact forall_keeps_iff rfl path (isFixed.trans givenAgain.symm) fun route isRoute =>
            cut.oneLine (List.mem_map_of_mem isRoute)

end LineRules.Format
