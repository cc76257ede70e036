import Mathlib.Data.List.Lex
import LineRules.Token.Rule

/-!
# The order of the document

A node of a tree has a position: the indices of the children on the way down to it
(`SyntaxNode.at?`). Positions in lexicographic order are the order of the document, where a node
comes before all nodes below it and these before the nodes after them (`InDocumentOrder`); there is
just one list in this order (`InDocumentOrder.unique`). The nodes that come off the stack are those
at the positions, each one once and in this order, with the nodes above them
(`SyntaxNode.nodes_inDocumentOrder`): a stack yields what its trees yield one after another
(`SyntaxNode.visit_eq`). So the built-in rules find the nodes that offend them in the same order,
and nothing else (`findings_in_order`).
-/

namespace LineRules.Token

namespace SyntaxNode

variable {node : SyntaxNode} {above : Option SyntaxNode} {children : List SyntaxNode}
  {position : List Nat} {entry : SyntaxNode × Option SyntaxNode}

/-! ## The number of nodes -/

theorem size_eq (node : SyntaxNode) : node.size = 1 + sizes node.children := by
  rcases node with ⟨kind, start, bytes, _ | children⟩ <;> rfl

theorem sizes_append (trees others : List SyntaxNode) :
    sizes (trees ++ others) = sizes trees + sizes others := by
  induction trees with
  | nil => simp [sizes]
  | cons tree trees hyp => simp only [List.cons_append, sizes, hyp, Nat.add_assoc]

theorem size_le_sizes (isMember : node ∈ children) : node.size ≤ sizes children := by
  obtain ⟨before, after, rfl⟩ := List.append_of_mem isMember
  rw [sizes_append, sizes]
  omega

/-- What holds of a tree if it holds of the trees below it holds of every tree. -/
@[elab_as_elim]
theorem induct {motive : SyntaxNode → Prop} (node : SyntaxNode)
    (step : ∀ node, (∀ child ∈ node.children, motive child) → motive node) : motive node :=
  step node fun child isChild =>
    have smaller : child.size < node.size := by
      have bound := size_le_sizes isChild
      rw [node.size_eq]
      omega
    induct child step
termination_by node.size

/-! ## Positions -/

/-- The node at a position, the indices of the children on the way down from a root. -/
def at? : List Nat → SyntaxNode → Option SyntaxNode
  | [], root => some root
  | index :: position, root => root.children[index]?.bind (at? position)

/-- The node above the one at a position; none above the root. -/
def parentAt? (position : List Nat) (root : SyntaxNode) : Option SyntaxNode :=
  if position = [] then none else root.at? position.dropLast

mutual

/-- The nodes of a tree with their positions and the nodes above them. -/
def placed (above : Option SyntaxNode) :
    SyntaxNode → List (List Nat × SyntaxNode × Option SyntaxNode)
  | mk kind start bytes none => [([], mk kind start bytes none, above)]
  | mk kind start bytes (some children) =>
    let node := mk kind start bytes (some children)
    ([], node, above) :: placedBelow node 0 children

/-- The nodes of the children of a node from an index on. -/
def placedBelow (node : SyntaxNode) :
    Nat → List SyntaxNode → List (List Nat × SyntaxNode × Option SyntaxNode)
  | _, [] => []
  | index, child :: rest =>
    (placed (some node) child).map (fun (position, entry) => (index :: position, entry)) ++
      placedBelow node (index + 1) rest

end

theorem placed_eq (above : Option SyntaxNode) (node : SyntaxNode) :
    node.placed above = ([], node, above) :: placedBelow node 0 node.children := by
  rcases node with ⟨kind, start, bytes, _ | children⟩ <;> rfl

/-- Whether a node, with the one above it, stands at a position. -/
def IsEntryAt (root : SyntaxNode) (position : List Nat)
    (entry : SyntaxNode × Option SyntaxNode) : Prop :=
  root.at? position = some entry.1 ∧ entry.2 = root.parentAt? position

theorem mem_placedBelow_iff {first : Nat} : (position, entry) ∈ placedBelow node first children ↔
    ∃ index child rest, children[index]? = some child ∧ position = (first + index) :: rest ∧
      (rest, entry) ∈ child.placed (some node) := by
  induction children generalizing first with
  | nil => simp [placedBelow]
  | cons child children hyp =>
      rw [placedBelow, List.mem_append, hyp, List.mem_map]
      constructor
      · rintro (⟨⟨rest, entry⟩, isMember, ⟨⟩⟩ | ⟨index, child, rest, isChild, rfl, isMember⟩)
        · exact ⟨0, child, rest, rfl, rfl, isMember⟩
        · exact ⟨index + 1, child, rest, isChild, by rw [Nat.add_right_comm, Nat.add_assoc],
            isMember⟩
      · rintro ⟨_ | index, other, rest, isChild, rfl, isMember⟩
        · obtain rfl : child = other := by simpa using isChild
          exact .inl ⟨(rest, entry), isMember, rfl⟩
        · exact .inr ⟨index, other, rest, by simpa using isChild,
            by rw [Nat.add_right_comm, Nat.add_assoc], isMember⟩

/-- The nodes are placed at their positions. -/
theorem mem_placed_iff : (position, entry) ∈ node.placed above ↔
    node.at? position = some entry.1 ∧
      entry.2 = if position = [] then above else node.at? position.dropLast := by
  induction node using induct generalizing above position with
  | step node hyp =>
    rw [placed_eq, List.mem_cons, mem_placedBelow_iff]
    cases position with
    | nil => simp [at?, Prod.ext_iff, eq_comm]
    | cons index rest =>
        have below : (∃ other child deeper, node.children[other]? = some child ∧
            index :: rest = (0 + other) :: deeper ∧ (deeper, entry) ∈ child.placed (some node)) ↔
            ∃ child, node.children[index]? = some child ∧
              (rest, entry) ∈ child.placed (some node) := by
          simp [eq_comm]
        rw [below]
        cases isChild : node.children[index]? with
        | none => simp [at?, isChild]
        | some child =>
            have deeper : (rest, entry) ∈ child.placed (some node) ↔
                child.at? rest = some entry.1 ∧
                  entry.2 = if rest = [] then some node else child.at? rest.dropLast :=
              hyp child (List.mem_of_getElem? isChild)
            cases rest <;> simp [at?, isChild, deeper]

/-- The nodes are placed in the order of their positions. -/
theorem pairwise_placed (above : Option SyntaxNode) (node : SyntaxNode) :
    (node.placed above).Pairwise fun one other => one.1 < other.1 := by
  induction node using induct generalizing above with
  | step node hyp =>
    have below (children : List SyntaxNode) (isPart : children ⊆ node.children) (first : Nat) :
        (placedBelow node first children).Pairwise fun one other => one.1 < other.1 := by
      induction children generalizing first with
      | nil => exact .nil
      | cons child children deeper =>
          obtain ⟨isChild, isPart⟩ := List.cons_subset.mp isPart
          rw [placedBelow, List.pairwise_append]
          refine ⟨List.pairwise_map.mpr ((hyp child isChild (some node)).imp ?_),
            deeper isPart (first + 1), ?_⟩
          · intro one other before
            exact List.cons_lt_cons_iff.mpr (.inr ⟨rfl, before⟩)
          · rintro one isOne ⟨position, entry⟩ isOther
            obtain ⟨held, -, rfl⟩ := List.mem_map.mp isOne
            obtain ⟨index, child, rest, -, rfl, -⟩ := mem_placedBelow_iff.mp isOther
            exact List.cons_lt_cons_iff.mpr (.inl (by omega))
    rw [placed_eq, List.pairwise_cons]
    refine ⟨?_, below node.children (List.Subset.refl _) 0⟩
    rintro ⟨position, entry⟩ isBelow
    obtain ⟨index, child, rest, -, rfl, -⟩ := mem_placedBelow_iff.mp isBelow
    exact List.nil_lt_cons _ _

/-! ## The stack -/

theorem push_eq (node : SyntaxNode) (stack : Pending) :
    node.push stack = node.children.map (·, some node) ++ stack := by
  rw [push, List.foldl_reverse]
  induction node.children with
  | nil => rfl
  | cons child children hyp => rw [List.foldr_cons, hyp, List.map_cons, List.cons_append]

theorem placedBelow_map_snd (node : SyntaxNode) (first : Nat) (children : List SyntaxNode) :
    (placedBelow node first children).map Prod.snd =
      children.flatMap fun child => (child.placed (some node)).map Prod.snd := by
  induction children generalizing first with
  | nil => rfl
  | cons child children hyp =>
      rw [placedBelow, List.map_append, List.map_map, hyp, List.flatMap_cons]
      rfl

/-- The steps visit the trees on the stack one after another. -/
theorem visit_eq (steps : Nat) (stack : Pending) (enough : sizes (stack.map Prod.fst) ≤ steps) :
    visit steps stack = stack.flatMap fun entry => (entry.1.placed entry.2).map Prod.snd := by
  induction steps generalizing stack with
  | zero =>
      cases stack with
      | nil => rfl
      | cons entry stack =>
          rw [List.map_cons, sizes, size_eq] at enough
          omega
  | succ steps hyp =>
      obtain _ | ⟨⟨node, above⟩, stack⟩ := stack
      · rfl
      · have left : sizes ((node.push stack).map Prod.fst) ≤ steps := by
          have enough : node.size + sizes (stack.map Prod.fst) ≤ steps + 1 := enough
          have pushed : ((node.push stack).map Prod.fst) = node.children ++ stack.map Prod.fst := by
            simp [push_eq, Function.comp_def]
          rw [size_eq] at enough
          rw [pushed, sizes_append]
          omega
        rw [visit, hyp _ left, push_eq, List.flatMap_append, List.flatMap_map, List.flatMap_cons,
          placed_eq, List.map_cons, placedBelow_map_snd, List.cons_append]

theorem nodes_eq (root : SyntaxNode) : root.nodes = (root.placed none).map Prod.snd := by
  rw [nodes, visit_eq]
  · simp
  · simp [sizes]

end SyntaxNode

/-! ## Lists in the order of the document -/

section Order

variable {α β : Type} {IsAt : List Nat → α → Prop} {IsOther : List Nat → β → Prop}
  {found others : List α}

/-- What is found is what stands at the positions, in their order and once at each. -/
def InDocumentOrder (IsAt : List Nat → α → Prop) (found : List α) : Prop :=
  ∃ placed : List (List Nat × α), placed.Pairwise (fun one other => one.1 < other.1) ∧
    (∀ position thing, (position, thing) ∈ placed ↔ IsAt position thing) ∧
    found = placed.map Prod.snd

/-- What stands at the positions is found in one order only. -/
theorem InDocumentOrder.unique (inOrder : InDocumentOrder IsAt found)
    (again : InDocumentOrder IsAt others) : found = others := by
  obtain ⟨placed, sorted, mem, rfl⟩ := inOrder
  obtain ⟨replaced, resorted, remem, rfl⟩ := again
  have distinct {placed : List (List Nat × α)}
      (sorted : placed.Pairwise fun one other => one.1 < other.1) : placed.Nodup :=
    sorted.imp fun before same => before.ne (congrArg Prod.fst same)
  have same : placed.Perm replaced :=
    (List.perm_ext_iff_of_nodup (distinct sorted) (distinct resorted)).mpr fun entry =>
      (mem entry.1 entry.2).trans (remem entry.1 entry.2).symm
  rw [same.eq_of_pairwise (fun _ _ _ _ before after => absurd after before.asymm) sorted resorted]

/-- What is picked out of a list in the order of the document is in this order too. -/
theorem InDocumentOrder.filterMap (inOrder : InDocumentOrder IsAt found) (pick : α → Option β)
    (isOther : ∀ position thing,
      IsOther position thing ↔ ∃ entry, IsAt position entry ∧ pick entry = some thing) :
    InDocumentOrder IsOther (found.filterMap pick) := by
  obtain ⟨placed, sorted, mem, rfl⟩ := inOrder
  refine ⟨placed.filterMap fun entry => (pick entry.2).map (entry.1, ·), ?_, ?_, ?_⟩
  · refine List.pairwise_filterMap.mpr (sorted.imp fun before => ?_)
    intro one isOne other isOther
    obtain ⟨_, -, rfl⟩ := Option.map_eq_some_iff.mp isOne
    obtain ⟨_, -, rfl⟩ := Option.map_eq_some_iff.mp isOther
    exact before
  · intro position thing
    rw [isOther, List.mem_filterMap]
    constructor
    · rintro ⟨⟨_, entry⟩, isMember, isPicked⟩
      obtain ⟨_, picked, ⟨⟩⟩ := Option.map_eq_some_iff.mp isPicked
      exact ⟨entry, (mem _ entry).mp isMember, picked⟩
    · rintro ⟨entry, isAt, picked⟩
      exact ⟨(position, entry), (mem position entry).mpr isAt, by simp [picked]⟩
  · simp [List.map_filterMap, List.filterMap_map, Function.comp_def]

end Order

/-- The nodes of a tree come in the order of the document, each with the node above it. -/
theorem SyntaxNode.nodes_inDocumentOrder (root : SyntaxNode) :
    InDocumentOrder (IsEntryAt root) root.nodes := by
  refine ⟨root.placed none, pairwise_placed none root, fun position entry => ?_, nodes_eq root⟩
  exact mem_placed_iff

/-! ## What the rules find -/

/-- A declaration of several variables that is not in the head of a loop. -/
def SeveralVarsAt (root : SyntaxNode) (position : List Nat) (finding : Finding) : Prop :=
  ∃ node, root.at? position = some node ∧
    (node.kind = some "variable_declaration" ∨ node.kind = some "lexical_declaration") ∧
    1 < (node.children.countP fun child => child.kind = some "variable_declarator") ∧
    (∀ parent, root.parentAt? position = some parent →
      parent.kind ≠ some "for_statement" ∧ parent.kind ≠ some "for_in_statement") ∧
    finding = .ofNode node "Each variable should have its own declaration"

/-- A declaration with `var`. -/
def VarAt (root : SyntaxNode) (position : List Nat) (finding : Finding) : Prop :=
  ∃ node, root.at? position = some node ∧ node.kind = some "variable_declaration" ∧
    finding = .ofNode node "Use let or const instead of var"

/-- A clause whose first name is not the expected one; what is found is the name. -/
def CatchNameAt (expected : String) (source : List UInt8) (root : SyntaxNode)
    (position : List Nat) (finding : Finding) : Prop :=
  ∃ clause, root.at? position = some clause ∧ clause.kind = some "catch_clause" ∧
    ∃ before name after, clause.children = before ++ name :: after ∧
      (∀ child ∈ before, child.kind ≠ some "identifier") ∧ name.kind = some "identifier" ∧
      String.ofList (name.text source) ≠ expected ∧
      finding = .ofNode name ("Catch statement param should be \"" ++ expected ++ "\", not \"" ++
        String.ofList (name.text source) ++ "\"")

/-- The name of caught errors that the options ask for. -/
def expectedName (options : Keyed Value) : Except Fault String :=
  match options.get? "name" with
  | none => .ok "err"
  | some value => if value.hasLongNumber then .error .numberTooLong else .ok value.shown

variable {root : SyntaxNode} {position : List Nat}

theorem SyntaxNode.exists_isEntryAt_iff {holds : SyntaxNode × Option SyntaxNode → Prop} :
    (∃ entry, root.IsEntryAt position entry ∧ holds entry) ↔
      ∃ node, root.at? position = some node ∧ holds (node, root.parentAt? position) := by
  constructor
  · rintro ⟨⟨node, parent⟩, ⟨isAt, rfl⟩, held⟩
    exact ⟨node, isAt, held⟩
  · rintro ⟨node, isAt, held⟩
    exact ⟨_, ⟨isAt, rfl⟩, held⟩

/-- The first child of a type. -/
theorem SyntaxNode.childrenOfKind_head?_iff {node child : SyntaxNode} {kind : String} :
    (node.childrenOfKind kind).head? = some child ↔ child.kind = some kind ∧
      ∃ before after, node.children = before ++ child :: after ∧
        ∀ other ∈ before, other.kind ≠ some kind := by
  simp [childrenOfKind, List.find?_eq_some_iff_append, isKind]

theorem multipleVarsFindings_inOrder (root : SyntaxNode) :
    InDocumentOrder (SeveralVarsAt root) (multipleVarsFindings root) := by
  refine root.nodes_inDocumentOrder.filterMap _ fun position finding => ?_
  rw [SyntaxNode.exists_isEntryAt_iff, SeveralVarsAt]
  refine exists_congr fun node => and_congr_right fun _ => ?_
  have apart : (∀ parent, root.parentAt? position = some parent →
      parent.kind ≠ some "for_statement" ∧ parent.kind ≠ some "for_in_statement") ↔
      (root.parentAt? position).any isLoop = false := by
    cases root.parentAt? position <;> simp [isLoop, SyntaxNode.isKind]
  have several : (node.children.countP fun child => child.kind = some "variable_declarator") =
      (node.childrenOfKind "variable_declarator").length := List.countP_eq_length_filter
  rw [apart, several]
  simp only [Option.ite_none_right_eq_some, isDeclaration, SyntaxNode.isKind, Bool.and_eq_true,
    Bool.or_eq_true, Bool.not_eq_true', decide_eq_true_eq, Option.some.injEq]
  tauto

theorem varFindings_inOrder (root : SyntaxNode) :
    InDocumentOrder (VarAt root) (varFindings root) := by
  refine root.nodes_inDocumentOrder.filterMap _ fun position finding => ?_
  rw [SyntaxNode.exists_isEntryAt_iff, VarAt]
  refine exists_congr fun node => and_congr_right fun _ => ?_
  simp [SyntaxNode.isKind, eq_comm]

theorem catchNameFindings_inOrder (expected : String) (source : List UInt8) (root : SyntaxNode) :
    InDocumentOrder (CatchNameAt expected source root)
      (catchNameFindings expected source root) := by
  refine root.nodes_inDocumentOrder.filterMap _ fun position finding => ?_
  rw [SyntaxNode.exists_isEntryAt_iff, CatchNameAt]
  refine exists_congr fun clause => and_congr_right fun _ => ?_
  rw [Option.ite_none_right_eq_some, SyntaxNode.isKind, decide_eq_true_eq]
  refine and_congr_right fun _ => ?_
  constructor
  · rintro ⟨before, name, after, isCut, unnamed, isName, differs, rfl⟩
    have isFirst := SyntaxNode.childrenOfKind_head?_iff.mpr ⟨isName, before, after, isCut, unnamed⟩
    obtain ⟨rest, names⟩ := List.head?_eq_some_iff.mp isFirst
    simp [names, differs]
  · intro isFound
    split at isFound
    · contradiction
    · rename_i name rest names
      obtain ⟨isName, before, after, isCut, unnamed⟩ :=
        SyntaxNode.childrenOfKind_head?_iff.mp (List.head?_eq_some_iff.mpr ⟨rest, names⟩)
      rw [Option.ite_none_right_eq_some] at isFound
      obtain ⟨differs, isFinding⟩ := isFound
      exact ⟨before, name, after, isCut, unnamed, isName, differs,
        (Option.some.inj isFinding).symm⟩

/-- **What the token rules find.** The nodes of a tree are visited in the order of the document,
each one once and with the node above it, and every rule finds just the nodes that offend it, in the
same order: declarations, and the first names of clauses in the order of the clauses. -/
theorem findings_in_order (path : Path) (text : String) (root : SyntaxNode)
    (options : Keyed Value) :
    let subject : Subject := ⟨path, text, some root, options⟩
    InDocumentOrder root.IsEntryAt root.nodes ∧
      (∃ findings, noMultipleVars.check subject = .ok findings ∧
        InDocumentOrder (SeveralVarsAt root) findings) ∧
      (∃ findings, noVar.check subject = .ok findings ∧ InDocumentOrder (VarAt root) findings) ∧
      match expectedName options with
      | .ok expected => ∃ findings, catchArgName.check subject = .ok findings ∧
          InDocumentOrder (CatchNameAt expected subject.source root) findings
      | .error fault => catchArgName.check subject = .error fault := by
  intro subject
  refine ⟨root.nodes_inDocumentOrder, ⟨_, rfl, multipleVarsFindings_inOrder root⟩,
    ⟨_, rfl, varFindings_inOrder root⟩, ?_⟩
  have named (expected : String) : InDocumentOrder (CatchNameAt expected subject.source root)
      (catchNameFindings expected subject.source root) :=
    catchNameFindings_inOrder expected subject.source root
  cases given : options.get? "name" with
  | none =>
      simp only [expectedName, given]
      exact ⟨_, by simp [catchArgName, subject, given], named defaultCatchName⟩
  | some value =>
      by_cases long : value.hasLongNumber
      · simp [expectedName, given, long, catchArgName, subject]
      · simp only [expectedName, given, long]
        exact ⟨_, by simp [catchArgName, subject, given, long], named value.shown⟩

end LineRules.Token
