import LineRules.Proofs.Config.Accepted
import LineRules.Proofs.RuleSet.Turns

/-!
# The text that tests look at

The item of a context is what tests look at, and its full text is what replacements change. The
two are the same for a line of a file. Whether they are may change in a run only in one way: a
replacement can make the full text what the item is, and from then on the item follows it
(`Store.applyAll_tracks`).
-/

namespace LineRules

/-- A value that equals itself, as all texts do. What is not a number does not. -/
def Value.IsProper (value : Value) : Prop := value.same value = true

theorem Value.isProper_text (text : String) : (Value.text text).IsProper := by
  simp [IsProper, same]

namespace Context

/-- Tests look at the full text. -/
def IsWhole (context : Context) : Prop := context.item.same context.fullItem = true

theorem ofLine_isWhole (line : String) (lineNumber : Int) (executable : Bool)
    (customIgnore : Option Pattern) :
    (ofLine line lineNumber executable customIgnore).IsWhole := Value.isProper_text line

/-- The item has stayed, or it is the full text, and it is so if it was so before. -/
structure Tracks (context later : Context) : Prop where
  item : later.item = context.item ∨ later.IsWhole
  whole : context.IsWhole → later.IsWhole

variable {context middle later : Context}

theorem Tracks.refl (context : Context) : context.Tracks context := ⟨.inl rfl, id⟩

theorem Tracks.trans (first : context.Tracks middle) (second : middle.Tracks later) :
    context.Tracks later where
  item := by
    obtain stays | whole := second.item
    · rw [stays]
      exact first.item.imp_right second.whole
    · exact .inr whole
  whole := second.whole ∘ first.whole

/-- A replacement: the item follows the full text if it was the full text before. -/
theorem tracks_replaced {fullItem : Value} (proper : fullItem.IsProper) (context : Context) :
    context.Tracks { context with
      fullItem
      item := if context.item.same context.fullItem then fullItem else context.item } := by
  by_cases tracks : context.item.same context.fullItem = true
  · have whole : Context.IsWhole { context with
        fullItem
        item := if context.item.same context.fullItem then fullItem else context.item } := by
      rw [IsWhole, if_pos tracks]
      exact proper
    exact ⟨.inr whole, fun _ => whole⟩
  · exact ⟨.inl (if_neg tracks), fun whole => absurd whole tracks⟩

end Context

/-! ## Turns -/

namespace Turn

variable {turn : Turn} {hooks : Hooks}

/-- If the rule replaces something in the turn, then it can be formatted, and what comes out equals
itself. -/
def FormatsProperly (turn : Turn) (hooks : Hooks) : Prop :=
  ∀ {evidence replacer value}, turn.rule.runTest turn.before.context = .ok evidence →
    evidence.isTruthy = true → turn.rule.replacer = some replacer →
    turn.rule.replaced evidence turn.before.context replacer = .ok value →
    ∃ fullItem, hooks.formatted value { turn.before.context with fullItem := value } =
      .ok fullItem ∧ fullItem.IsProper

/-- In a turn, the item stays or follows the full text. -/
theorem tracks (formats : turn.FormatsProperly hooks) :
    turn.before.context.Tracks (turn.after hooks).context := by
  have rewrites := turn.rule.runOn_rewrites hooks turn.before
  rw [after]
  generalize (turn.rule.runOn hooks turn.before).run.context = later at rewrites
  cases rewrites with
  | keeps => exact .refl _
  | breaks tested fires isReplacer replaced unformatted =>
      obtain ⟨fullItem, formatted, _⟩ := formats tested fires isReplacer replaced
      rw [formatted] at unformatted
      contradiction
  | replaces tested fires isReplacer replaced formatted =>
      obtain ⟨fullItem, isFullItem, proper⟩ := formats tested fires isReplacer replaced
      obtain rfl := Except.ok.inj (formatted.symm.trans isFullItem)
      exact Context.tracks_replaced proper turn.before.context

/-- Without a replacement the full text stays. -/
theorem fullItem_after (replacesNot : turn.Fires → turn.rule.replacer = none) :
    (turn.after hooks).context.fullItem = turn.before.context.fullItem := by
  have rewrites := turn.rule.runOn_rewrites hooks turn.before
  rw [after]
  generalize (turn.rule.runOn hooks turn.before).run.context = later at rewrites
  cases rewrites with
  | keeps => rfl
  | replaces tested fires isReplacer | breaks tested fires isReplacer =>
      rw [replacesNot ⟨_, tested, fires⟩] at isReplacer
      contradiction

end Turn

/-! ## Callbacks that give texts -/

/-- What a replacement by callback gives is a text. -/
def Rule.ReplacesByText (rule : Rule) : Prop :=
  ∀ replace, rule.replacer = some (.callback replace) → ∀ fullItem evidence regex context value,
    replace fullItem evidence regex context = .ok value → ∃ text, value = .text text

/-- What is applied after replacements makes a text of every text. -/
def Hooks.FormatTexts (hooks : Hooks) : Prop :=
  ∀ format, hooks.formatItem = some format → ∀ text context, ∃ out,
    format (.text text) context = .ok (.text out)

variable {hooks : Hooks}

theorem Rule.isText_of_replaced {rule : Rule} {replacer : ReplacerSpec} {evidence : Evidence}
    {context : Context} {value : Value} (byText : rule.ReplacesByText)
    (isReplacer : rule.replacer = some replacer)
    (replaced : rule.replaced evidence context replacer = .ok value) :
    ∃ text, value = .text text := by
  cases replacer with
  | callback replace => exact byText replace isReplacer _ _ _ _ _ replaced
  | template text =>
      rw [Rule.replaced, replaceByTemplate] at replaced
      obtain ⟨pattern, _, replaced⟩ := bind_eq_ok.mp replaced
      obtain ⟨count, _, replaced⟩ := bind_eq_ok.mp replaced
      obtain ⟨pieces, _, replaced⟩ := bind_eq_ok.mp replaced
      obtain ⟨given, _, replaced⟩ := bind_eq_ok.mp replaced
      exact ⟨_, (Except.ok.inj replaced).symm⟩

/-- Where all callbacks give texts, every text can be formatted and equals itself. -/
theorem Turn.formatsProperly_of_texts {turn : Turn} (byText : turn.rule.ReplacesByText)
    (formats : hooks.FormatTexts) : turn.FormatsProperly hooks := by
  intro evidence replacer value _ _ isReplacer replaced
  obtain ⟨text, rfl⟩ := Rule.isText_of_replaced byText isReplacer replaced
  rw [Hooks.formatted]
  cases isFormat : hooks.formatItem with
  | none => exact ⟨_, rfl, Value.isProper_text text⟩
  | some format =>
      obtain ⟨out, isOut⟩ := formats format isFormat text _
      exact ⟨_, isOut, Value.isProper_text out⟩

/-- **The item follows the full text.** As long as formatting never fails, and gives what equals
itself as texts do, the item is after every turn what it was in the beginning, or it is the full
text; once it is, it stays so, as it does for every line of a file. The full text stays if no rule
that fires replaces anything. What is known about the line stays in any case. -/
theorem Store.applyAll_tracks (store : Store) (refs : List RuleSetRef) (run : Run)
    (formats : ∀ turn ∈ store.turns hooks 0 refs run, turn.FormatsProperly hooks) :
    let turns := store.turns hooks 0 refs run
    let last := (store.applyAll hooks refs run).run
    Linked hooks run turns last ∧
      (∀ turn ∈ turns, (turn.after hooks).context.item = run.context.item ∨
        (turn.after hooks).context.IsWhole) ∧
      (turns.Pairwise fun turn next =>
        (turn.after hooks).context.IsWhole → (next.after hooks).context.IsWhole) ∧
      (∀ turn ∈ turns, (turn.after hooks).context.IsWhole → last.context.IsWhole) ∧
      (run.context.IsWhole →
        (∀ turn ∈ turns, (turn.after hooks).context.IsWhole) ∧ last.context.IsWhole) ∧
      (∀ line lineNumber executable customIgnore,
        (Context.ofLine line lineNumber executable customIgnore).IsWhole) ∧
      ((∀ turn ∈ turns, turn.Fires → turn.rule.replacer = none) →
        (∀ turn ∈ turns, (turn.after hooks).context.fullItem = run.context.fullItem) ∧
          last.context.fullItem = run.context.fullItem) ∧
      (∀ turn ∈ turns, (turn.after hooks).place = run.place) ∧ last.place = run.place := by
  intro turns last
  have linked : Linked hooks run turns last := store.applyAll_linked hooks 0 refs run
  obtain ⟨ends, between, fromEnds, whole⟩ :=
    linked.carry (fun run later => run.context.Tracks later.context)
      (fun moves => ⟨.inl moves.item, fun whole => by
        rwa [Context.IsWhole, moves.item, moves.fullItem]⟩)
      .trans (fun turn isTurn => Turn.tracks (formats turn isTurn))
  obtain ⟨places, _, _, place⟩ :=
    linked.carry (fun run later => later.place = run.place) (·.place)
      (fun first second => second.trans first) (fun turn _ => turn.rule.runOn_place hooks _)
  refine ⟨linked, fun turn isTurn => (ends turn isTurn).item, between.imp (·.whole),
    fun turn isTurn => (fromEnds turn isTurn).whole,
    fun starts => ⟨fun turn isTurn => (ends turn isTurn).whole starts, whole.whole starts⟩,
    Context.ofLine_isWhole, fun replacesNot => ?_, places, place⟩
  obtain ⟨texts, _, _, text⟩ :=
    linked.carry (fun run later => later.context.fullItem = run.context.fullItem)
      (·.fullItem) (fun first second => second.trans first)
      (fun turn isTurn => Turn.fullItem_after (replacesNot turn isTurn))
  exact ⟨texts, text⟩

/-- A rule that makes every line a text. -/
def Rule.writing (text : String) : Rule where
  test := .callback fun _ _ _ => .ok (.value (.bool true))
  message := .suppressed
  replacer := some (.callback fun _ _ _ _ => .ok (.text text))

/-- The first replacement happens to give the item, and the item follows the second one. -/
theorem Store.applyAll_tracks_coincidence :
    let refs : List RuleSetRef := [.direct [("first", .rule (.writing "a"))],
      .direct [("second", .rule (.writing "c"))]]
    let run : Run := { context := { item := .text "a", fullItem := .text "b" } }
    let turns := (Store.mk []).turns {} 0 refs run
    ¬run.context.IsWhole ∧
      (turns.map fun turn => ((turn.after {}).context.item, (turn.after {}).context.fullItem)) =
        [(.text "a", .text "a"), (.text "c", .text "c")] ∧
      (∀ turn ∈ turns, turn.FormatsProperly {}) ∧
      turns.Pairwise fun turn next =>
        (turn.after {}).context.IsWhole → (next.after {}).context.IsWhole := by
  intro refs run turns
  have byText : ∀ text, (Rule.writing text).ReplacesByText := by
    rintro text _ ⟨⟩ _ _ _ _ _ ⟨⟩
    exact ⟨text, rfl⟩
  have rules : turns.map Turn.rule = [.writing "a", .writing "c"] := rfl
  have formats : ∀ turn ∈ turns, turn.FormatsProperly {} := by
    intro turn isTurn
    refine Turn.formatsProperly_of_texts ?_ (by rintro _ ⟨⟩)
    have isRule := List.mem_map_of_mem (f := Turn.rule) isTurn
    rw [rules] at isRule
    obtain isRule | isRule : turn.rule = .writing "a" ∨ turn.rule = .writing "c" := by
      simpa using isRule
    · exact isRule ▸ byText "a"
    · exact isRule ▸ byText "c"
  have apart : ¬run.context.IsWhole := by simp [run, Context.IsWhole, Value.same]
  exact ⟨apart, rfl, formats,
    (Store.applyAll_tracks (Store.mk []) refs run formats).2.2.1⟩

end LineRules
