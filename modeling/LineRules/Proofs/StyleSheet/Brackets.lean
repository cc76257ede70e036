import LineRules.Proofs.StyleSheet.Calls

/-!
# Matching brackets

A `)` closes the nearest `(` that is open, and nothing where none is (`IsClosedBy`). The marks
kept while a text is read stand for the brackets that are open, innermost first, each by whether
a text that ends in the name of a mathematical function stands before it (`exists_areOpenAt`). So
a place lies in the call of a mathematical function exactly if such a text stands before one of
the brackets that nothing up to the place closes (`insideMathCall_takeBefore_iff`).
-/

namespace LineRules.Builtin

variable {text : List Char} {start finish position : Nat} {places : List Nat}

/-! ## Brackets that match -/

/-- The `(` at one place is closed by the `)` at another: of the brackets before the `)` that no
earlier one closes, it is the nearest. -/
def IsClosedBy (text : List Char) (start finish : Nat) : Prop :=
  text[finish]? = some ')' ∧
    (start < finish ∧ text[start]? = some '(' ∧
      ∀ earlier < finish, ¬ IsClosedBy text start earlier) ∧
    ∀ other < finish, text[other]? = some '(' →
      (∀ earlier < finish, ¬ IsClosedBy text other earlier) → other ≤ start
termination_by finish

/-- The `(` at a place is open at a later position: nothing before the position closes it. -/
def IsOpenAt (text : List Char) (start position : Nat) : Prop :=
  start < position ∧ text[start]? = some '(' ∧ ∀ finish < position, ¬ IsClosedBy text start finish

theorem isClosedBy_iff : IsClosedBy text start finish ↔ text[finish]? = some ')' ∧
    IsOpenAt text start finish ∧ ∀ other, IsOpenAt text other finish → other ≤ start := by
  rw [IsClosedBy]
  simp only [IsOpenAt, and_imp]

/-- A bracket that is open has just been opened, or was open before and has not been closed. -/
theorem isOpenAt_succ_iff : IsOpenAt text start (position + 1) ↔
    (start = position ∧ text[position]? = some '(') ∨
      (IsOpenAt text start position ∧ ¬ IsClosedBy text start position) := by
  constructor
  · rintro ⟨before, isOpening, unclosed⟩
    obtain ⟨unclosedBefore, stays⟩ := Nat.forall_lt_succ_right.mp unclosed
    rcases Nat.lt_succ_iff_lt_or_eq.mp before with earlier | rfl
    · exact .inr ⟨⟨earlier, isOpening, unclosedBefore⟩, stays⟩
    · exact .inl ⟨rfl, isOpening⟩
  · rintro (⟨rfl, isOpening⟩ | ⟨⟨before, isOpening, unclosed⟩, stays⟩)
    · refine ⟨by omega, isOpening, fun finish lt isClosed => ?_⟩
      obtain ⟨_, ⟨after, _⟩, _⟩ := isClosedBy_iff.mp isClosed
      omega
    · exact ⟨by omega, isOpening, Nat.forall_lt_succ_right.mpr ⟨unclosed, stays⟩⟩

/-! ## The brackets that are open -/

/-- The places of all brackets that are open at a position, innermost first. -/
structure AreOpenAt (text : List Char) (position : Nat) (places : List Nat) : Prop where
  innermostFirst : places.Pairwise (· > ·)
  mem_iff : ∀ start, start ∈ places ↔ IsOpenAt text start position

namespace AreOpenAt

theorem nil : AreOpenAt text 0 [] where
  innermostFirst := .nil
  mem_iff start := by simp [IsOpenAt]

theorem opening (areOpen : AreOpenAt text position places)
    (isOpening : text[position]? = some '(') :
    AreOpenAt text (position + 1) (position :: places) where
  innermostFirst := .cons (fun start isMember => ((areOpen.mem_iff start).mp isMember).1)
    areOpen.innermostFirst
  mem_iff start := by
    have closesNothing : ¬ IsClosedBy text start position := by simp [isClosedBy_iff, isOpening]
    rw [List.mem_cons, areOpen.mem_iff, isOpenAt_succ_iff, and_iff_left isOpening,
      and_iff_left closesNothing]

theorem closing (areOpen : AreOpenAt text position places)
    (isClosing : text[position]? = some ')') : AreOpenAt text (position + 1) places.tail where
  innermostFirst := areOpen.innermostFirst.tail
  mem_iff start := by
    have opensNothing : ¬ (start = position ∧ text[position]? = some '(') := by simp [isClosing]
    rw [isOpenAt_succ_iff, or_iff_right opensNothing, isClosedBy_iff, and_iff_right isClosing]
    simp only [← areOpen.mem_iff]
    cases places with
    | nil => simp
    | cons innermost outer =>
        obtain ⟨further, _⟩ := List.pairwise_cons.mp areOpen.innermostFirst
        rw [List.tail_cons, List.mem_cons, List.forall_mem_cons]
        constructor
        · intro isOuter
          have less := further start isOuter
          exact ⟨.inr isOuter, fun isClosed => by omega⟩
        · rintro ⟨rfl | isOuter, stays⟩
          · refine (stays ⟨.inl rfl, Nat.le_refl start, fun other isOuter => ?_⟩).elim
            exact Nat.le_of_lt (further other isOuter)
          · exact isOuter

theorem other (areOpen : AreOpenAt text position places) (noOpening : text[position]? ≠ some '(')
    (noClosing : text[position]? ≠ some ')') : AreOpenAt text (position + 1) places where
  innermostFirst := areOpen.innermostFirst
  mem_iff start := by
    rw [areOpen.mem_iff, isOpenAt_succ_iff, isClosedBy_iff]
    simp [noOpening, noClosing]

end AreOpenAt

/-- The marks that are kept up to a position are those of the brackets that are open there. -/
theorem exists_areOpenAt (text : List Char) (position : Nat) :
    ∃ places, AreOpenAt text position places ∧ bracketsBefore (text.take position).reverse =
      places.map fun start => mathFunction.matchesIn (text.take start) := by
  induction position with
  | zero => exact ⟨[], .nil, rfl⟩
  | succ position hyp =>
      obtain ⟨places, areOpen, brackets⟩ := hyp
      rw [List.take_add_one]
      cases here : text[position]? with
      | none =>
          refine ⟨places, areOpen.other (by simp [here]) (by simp [here]), ?_⟩
          rw [Option.toList_none, List.append_nil, brackets]
      | some c =>
          rw [Option.toList_some, List.reverse_concat, bracketsBefore_cons, brackets,
            List.reverse_reverse]
          split
          case isTrue isOpening =>
            exact ⟨position :: places, areOpen.opening (by rw [here, isOpening]), rfl⟩
          case isFalse noOpening =>
            split
            case isTrue isClosing =>
              exact ⟨places.tail, areOpen.closing (by rw [here, isClosing]), List.map_tail.symm⟩
            case isFalse noClosing =>
              exact ⟨places, areOpen.other (by simpa [here]) (by simpa [here]), rfl⟩

/-- A place lies in the call of a mathematical function exactly if the name of one ends before a
bracket that is open there. -/
theorem insideMathCall_takeBefore_iff (text : List Char) (position : Nat) :
    insideMathCall (takeBefore text position) = true ↔
      ∃ start < position, text[start]? = some '(' ∧
        (∀ finish < position, ¬ IsClosedBy text start finish) ∧
        EndsInMathName (text.take start) := by
  obtain ⟨places, areOpen, brackets⟩ := exists_areOpenAt text position
  have upTo : takeBefore text position = (text.take position).reverse.reverse := by
    simp [takeBefore]
  rw [upTo, insideMathCall_reverse, brackets, List.any_map, List.any_eq_true]
  simp only [Function.comp_apply, id, mathFunction_matchesIn_iff_endsInMathName, areOpen.mem_iff,
    IsOpenAt, and_assoc]

-- Brackets without a partner are ignored, and those of other calls are passed over.
example : insideMathCall (takeBefore ") MAX (a(b), (0px".toList 14) = true := by decide +kernel

end LineRules.Builtin
