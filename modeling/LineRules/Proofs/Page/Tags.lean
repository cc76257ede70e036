import Mathlib.Data.List.Infix
import LineRules.Proofs.Page.Blocks
import LineRules.Proofs.Page.VoidTags

/-!
# Tags read one after another

The plan of a page is made by patterns that are asked of whole lines. Here the tags of a
line are read from its text: a tag goes up to the first closing bracket after it, its name
up to a blank, a slash or that bracket, and no tag begins inside another one. Where the
names of tags are exact, the matches of the pattern for opening tags are the opening tags
that are read (`filter_readTags`), and the pattern for closing tags matches where one of
these is read, unless attributes end in one (`closing_mem_readTags_iff`).
-/

namespace LineRules.Format

open LineRules.Text LineRules.Pattern LineRules.Pattern.Node LineRules.Builtin

variable {before after text piece line : List Char} {block : Option Block}

/-! ## Names of blocks -/

/-- The block whose tags have a name, in letters of either case. -/
def blockNamed? (name : List Char) : Option Block :=
  Block.ofTag? (String.ofList (name.map Char.toLower))

/-- The letters that the names of blocks are made of. -/
def tagLetters : List Char := "scriptyle".toList

theorem mem_tagLetters {block : Block} : ∀ c ∈ block.tag.toList, c ∈ tagLetters := by
  have checked : (block.tag.toList.all fun c => tagLetters.contains c) = true := by
    cases block <;> decide
  simpa using checked

theorem tag_ne_nil {block : Block} : block.tag.toList ≠ [] := by
  cases block <;> decide

theorem blockNamed?_eq_some_iff {name : List Char} {block : Block} :
    blockNamed? name = some block ↔ name.map Char.toLower = block.tag.toList := by
  have tags : ∀ text : String, Block.ofTag? text = some block ↔ text = block.tag := by
    intro text
    rw [Block.ofTag?]
    cases block with
    | script => simp [Block.tag]
    | style =>
        have apart : ("style" : String) ≠ "script" := by decide
        by_cases isScript : text = "script"
        · simp [isScript, Block.tag]
        · simp [isScript, Block.tag]
  rw [blockNamed?, tags, ← String.toList_inj, String.toList_ofList]

theorem toNat_lt_of_toLower {c : Char} (isLetter : c.toLower ∈ tagLetters) : c.toNat < 0x80 := by
  have letters : tagLetters.all (·.toNat < 0x80) = true := by decide
  have bound := of_decide_eq_true (List.all_eq_true.mp letters _ isLetter)
  by_cases upper : c.val ≥ 'A'.val ∧ c.val ≤ 'Z'.val
  · exact Nat.lt_of_le_of_lt (UInt32.le_iff_toNat_le.mp upper.2) (by decide)
  · have same : c.toLower = c := dif_neg upper
    rwa [same] at bound

/-- Patterns take a letter of these in upper case for the letter, and what they take for one of
these is a word character. -/
private theorem tagLetters_fold :
    ((List.range 0x80).all fun code => !tagLetters.contains (Char.ofNat code).toLower ||
      (CharClass.mk false .folded [.ofChar (Char.ofNat code).toLower]).contains
        (Char.ofNat code)) = true ∧
    (tagLetters.all fun own => [ClassItem.ofChar own].all ClassItem.isAscii &&
      foldedCodes.all fun code =>
        !(CharClass.mk false .folded [.ofChar own]).contains (Char.ofNat code) ||
          isWord (Char.ofNat code)) = true := by
  decide +kernel

/-- A letter is the same up to case in the sense of patterns. -/
theorem folds_of_toLower {c : Char} (isLetter : c.toLower ∈ tagLetters) : Folds c.toLower c := by
  have checked := holds_of_ascii
    (fun c => !tagLetters.contains c.toLower ||
      (CharClass.mk false .folded [.ofChar c.toLower]).contains c) tagLetters_fold.1
    (toNat_lt_of_toLower isLetter)
  have inLetters : tagLetters.contains c.toLower = true := List.contains_iff_mem.mpr isLetter
  rw [inLetters, Bool.not_true, Bool.false_or] at checked
  exact checked

theorem isWord_of_folds {own c : Char} (isLetter : own ∈ tagLetters) (folds : Folds own c) :
    isWord c = true :=
  holds_of_folds isWord tagLetters_fold.2 folds isLetter

/-- A text reads as the name of a block, up to case. -/
def ReadsAs (block : Block) (name : List Char) : Prop :=
  List.Forall₂ Folds block.tag.toList name

theorem ReadsAs.isWord {block : Block} {name : List Char} (reads : ReadsAs block name) :
    ∀ c ∈ name, isWord c = true := by
  have letters := @mem_tagLetters block
  rw [ReadsAs] at reads
  generalize block.tag.toList = tag at reads letters
  induction reads with
  | nil => simp
  | cons folds _ hyp =>
      obtain ⟨here, others⟩ := List.forall_mem_cons.mp letters
      exact List.forall_mem_cons.mpr ⟨isWord_of_folds here folds, hyp others⟩

theorem ReadsAs.ne_nil {block : Block} {name : List Char} (reads : ReadsAs block name) :
    name ≠ [] := by
  rintro rfl
  exact tag_ne_nil (List.forall₂_nil_right_iff.mp reads)

theorem readsAs_of_blockNamed? {block : Block} {name : List Char}
    (named : blockNamed? name = some block) : ReadsAs block name := by
  rw [blockNamed?_eq_some_iff] at named
  rw [ReadsAs, ← named, List.forall₂_map_left_iff, List.forall₂_same]
  intro c isMember
  refine folds_of_toLower (@mem_tagLetters block _ ?_)
  rw [← named]
  exact List.mem_map_of_mem isMember

/-! ## What the patterns match -/

/-- A text begins with an opening tag, as the pattern sees it. -/
def BeginsOpening (name attributes rest text : List Char) : Prop :=
  ∃ block, ReadsAs block name ∧ text = '<' :: (name ++ (attributes ++ '>' :: rest)) ∧
    NoWordNext (attributes ++ '>' :: rest) ∧ '>' ∉ attributes

/-- Where an opening tag leads to, and what it captures. -/
def openingState (before name attributes rest : List Char) : State :=
  let named := name.reverse ++ '<' :: before
  ⟨.between ('>' :: (attributes.reverse ++ named)) rest,
    [(2, .between named (attributes ++ '>' :: rest)),
      (1, .between ('<' :: before) (name ++ (attributes ++ '>' :: rest)))],
    [(2, .between (attributes.reverse ++ named) ('>' :: rest)),
      (1, .between named (attributes ++ '>' :: rest))]⟩

theorem exists_readsAs_iff {name : List Char} : (∃ block, ReadsAs block name) ↔
    ∃ c rest, name = c :: rest ∧ Folds 's' c ∧
      ∃ ending ∈ ["cript", "tyle"], List.Forall₂ Folds ending.toList rest := by
  have split : ∀ block : Block, ∃ ending ∈ ["cript", "tyle"],
      block.tag.toList = 's' :: ending.toList := by
    rintro (_ | _)
    · exact ⟨"cript", by simp, by decide⟩
    · exact ⟨"tyle", by simp, by decide⟩
  have join : ∀ ending ∈ ["cript", "tyle"], ∃ block : Block,
      block.tag.toList = 's' :: ending.toList := by
    simp only [List.mem_cons, List.not_mem_nil, or_false, forall_eq_or_imp, forall_eq]
    exact ⟨⟨.script, by decide⟩, ⟨.style, by decide⟩⟩
  constructor
  · rintro ⟨block, reads⟩
    obtain ⟨ending, isEnding, tag⟩ := split block
    rw [ReadsAs, tag, List.forall₂_cons_left_iff] at reads
    obtain ⟨c, rest, folds, all, rfl⟩ := reads
    exact ⟨c, rest, rfl, folds, ending, isEnding, all⟩
  · rintro ⟨c, rest, rfl, folds, ending, isEnding, all⟩
    obtain ⟨block, tag⟩ := join ending isEnding
    refine ⟨block, ?_⟩
    rw [ReadsAs, tag]
    exact .cons folds all

/-- The part of the pattern for the name of a block. -/
def blockName : Node :=
  sequence [lit 's' .folded, words ["cript", "tyle"] .folded]

theorem reaches_blockName_iff {opened closed : List (Nat × Cursor)} {condition : State → Prop} :
    blockName.Reaches ⟨.between before after, opened, closed⟩ condition ↔
      ∃ name rest, after = name ++ rest ∧ (∃ block, ReadsAs block name) ∧
        condition ⟨.between (name.reverse ++ before) rest, opened, closed⟩ := by
  simp only [blockName, reaches_sequence_cons_iff, reaches_sequence_nil_iff, reaches_lit_folded_iff,
    reaches_words_folded_iff (by simp : ["cript", "tyle"] ≠ []), exists_readsAs_iff]
  constructor
  · rintro ⟨c, _, rfl, folds, ending, isEnding, piece, rest, rfl, all, met⟩
    exact ⟨c :: piece, rest, rfl, ⟨c, piece, rfl, folds, ending, isEnding, all⟩, by simpa using met⟩
  · rintro ⟨_, rest, rfl, ⟨c, piece, rfl, folds, ending, isEnding, all⟩, met⟩
    exact ⟨c, piece ++ rest, rfl, folds, ending, isEnding, piece, rest, rfl, all,
      by simpa using met⟩

/-- What is no closing bracket, whatever its case. -/
theorem forall_contains_noBracket_iff {run : List Char} :
    (∀ c ∈ run, (CharClass.mk true .folded [.ofChar '>']).contains c = true) ↔ '>' ∉ run := by
  have mark : ∀ c, (CharClass.mk true .folded [.ofChar '>']).contains c = true ↔ c ≠ '>' := by
    intro c
    have same := @folds_mark_iff '>' c (by decide)
    rw [CharClass.contains_noneOf_folded, Bool.not_eq_true', ← Bool.not_eq_true]
    exact not_congr same
  simp only [mark]
  exact ⟨fun others isMember => others _ isMember rfl,
    fun absent c isMember isOther => absent (isOther ▸ isMember)⟩

theorem openingTag_reaches_iff {condition : State → Prop} :
    openingTag.node.Reaches (.start (.between before after)) condition ↔
      ∃ name attributes rest, BeginsOpening name attributes rest after ∧
        condition (openingState before name attributes rest) := by
  have tree : openingTag.node = sequence
      [lit '<' .folded, group 1 blockName, boundary,
        group 2 (star (char ⟨true, .folded, [.ofChar '>']⟩)), lit '>' .folded] := rfl
  rw [tree]
  simp only [State.start, reaches_sequence_cons_iff, reaches_sequence_nil_iff,
    reaches_lit_folded_iff, reaches_group_iff, State.openGroup, State.closeGroup, boundary,
    reaches_anchor_iff, reaches_blockName_iff, reaches_star_char_iff,
    forall_contains_noBracket_iff]
  constructor
  · rintro ⟨_, _, rfl, isOpening, name, _, rfl, ⟨block, reads⟩, holds, attributes, _, rfl, absent, _,
      rest, rfl, isClosing, met⟩
    obtain rfl := (folds_mark_iff (by decide)).mp isOpening
    obtain rfl := (folds_mark_iff (by decide)).mp isClosing
    exact ⟨name, attributes, rest,
      ⟨block, reads, rfl, (holds_boundary_after reads.ne_nil reads.isWord).mp holds, absent⟩, met⟩
  · rintro ⟨name, attributes, rest, ⟨block, reads, rfl, stop, absent⟩, met⟩
    exact ⟨_, _, rfl, (folds_mark_iff (by decide)).mpr rfl, name, _, rfl, ⟨block, reads⟩,
      (holds_boundary_after reads.ne_nil reads.isWord).mpr stop, attributes, _, rfl, absent, _, rest,
      rfl, (folds_mark_iff (by decide)).mpr rfl, met⟩

theorem openingTag_match {found : Match}
    (isMatch : openingTag.matcher false (.between before after) = some found) :
    ∃ rest, BeginsOpening (found.group 1) (found.group 2) rest after ∧
      found.finish = .between (('<' :: (found.group 1 ++ (found.group 2 ++ ['>']))).reverse ++ before)
        rest := by
  obtain ⟨_, reaches⟩ := reaches_of_matchAt_eq_some isMatch
  rw [openingTag_reaches_iff] at reaches
  obtain ⟨name, attributes, rest, begins, final⟩ := reaches
  have first : found.group 1 = name := by
    rw [Match.group, Match.group?, ← final, State.capture?_of_lookup name rfl rfl]
    rfl
  have second : found.group 2 = attributes := by
    rw [Match.group, Match.group?, ← final, State.capture?_of_lookup attributes rfl rfl]
    rfl
  rw [first, second]
  refine ⟨rest, begins, ?_⟩
  rw [Match.finish, ← final]
  simp [openingState]

theorem exists_openingTag_iff :
    (∃ found, openingTag.matcher false (.between before after) = some found) ↔
      ∃ name attributes rest, BeginsOpening name attributes rest after := by
  constructor
  · rintro ⟨found, isMatch⟩
    obtain ⟨rest, begins, _⟩ := openingTag_match isMatch
    exact ⟨_, _, rest, begins⟩
  · rintro ⟨name, attributes, rest, begins⟩
    refine exists_matchAt_of_reaches ?_
    rw [openingTag_reaches_iff]
    exact ⟨name, attributes, rest, begins, trivial⟩

/-- A text begins with the closing tag of a block, as the pattern sees it. -/
def BeginsClosing (block : Block) (text : List Char) : Prop :=
  ∃ name blanks rest, text = '<' :: '/' :: (name ++ (blanks ++ '>' :: rest)) ∧ ReadsAs block name ∧
    ∀ c ∈ blanks, isBlank c = true

theorem exists_closingTag_iff {block : Block} :
    (∃ found, (closingTag block).matcher false (.between before after) = some found) ↔
      BeginsClosing block after := by
  have tree : (closingTag block).node = sequence
      (("</" ++ block.tag).toList.map (fun c => lit c .folded) ++
        [star (char ⟨false, .folded, [.anyBlank]⟩), lit '>' .folded]) := rfl
  have blank : ∀ c : Char, (CharClass.mk false .folded [.anyBlank]).contains c = isBlank c := by
    intro c
    simp [CharClass.contains, ClassItem.anyBlank, ClassItem.admits, ClassItem.contains]
  have reaches : (closingTag block).node.Reaches (.start (.between before after)) (fun _ => True) ↔
      BeginsClosing block after := by
    rw [tree, String.toList_append, List.map_append, List.append_assoc, reaches_sequence_append_iff,
      State.start, reaches_lits_folded_iff]
    simp only [reaches_sequence_append_iff, reaches_lits_folded_iff, reaches_sequence_cons_iff,
      reaches_sequence_nil_iff, reaches_star_char_iff, reaches_lit_folded_iff, blank, and_true]
    have slash : ∀ piece, List.Forall₂ Folds "</".toList piece ↔ piece = ['<', '/'] := by
      intro piece
      have one : ∀ c, Folds '<' c ↔ c = '<' := fun c => folds_mark_iff (by decide)
      have other : ∀ c, Folds '/' c ↔ c = '/' := fun c => folds_mark_iff (by decide)
      have letters : "</".toList = ['<', '/'] := by decide
      rw [letters]
      simp only [List.forall₂_cons_left_iff, List.forall₂_nil_left_iff, one, other]
      constructor
      · rintro ⟨_, _, rfl, ⟨_, _, rfl, rfl, rfl⟩, rfl⟩
        rfl
      · rintro rfl
        exact ⟨_, _, rfl, ⟨_, _, rfl, rfl, rfl⟩, rfl⟩
    have isClosing : ∀ c, Folds '>' c ↔ c = '>' := fun c => folds_mark_iff (by decide)
    simp only [slash, isClosing]
    constructor
    · rintro ⟨_, _, rfl, rfl, name, _, rfl, reads, blanks, _, rfl, allBlank, _, rest, rfl, rfl⟩
      exact ⟨name, blanks, rest, rfl, reads, allBlank⟩
    · rintro ⟨name, blanks, rest, rfl, reads, allBlank⟩
      exact ⟨_, _, rfl, rfl, name, _, rfl, reads, blanks, _, rfl, allBlank, _, rest, rfl, rfl⟩
  constructor
  · rintro ⟨found, isMatch⟩
    obtain ⟨_, state, isState, _⟩ := reaches_of_matchAt_eq_some isMatch
    exact reaches.mp ⟨state, isState, trivial⟩
  · exact fun begins => exists_matchAt_of_reaches (reaches.mpr begins)

/-! ## Reading tags -/

/-- The tag that a text is, up to the closing bracket that comes after it. A closing tag has
nothing but blanks after its name, an opening one has attributes. -/
def tagAt? : List Char → Option Tag
  | '<' :: '/' :: text =>
    match blockNamed? (tagName text) with
    | some block =>
      if (text.dropWhile isTagChar).all isBlank then some (.closing block) else none
    | none => none
  | '<' :: text =>
    match blockNamed? (tagName text) with
    | some _ => some (.opening (tagName text) (text.dropWhile isTagChar))
    | none => none
  | _ => none

/-- The first tag that begins in a text and goes up to the closing bracket after it. -/
def tagIn? : List Char → Option Tag
  | [] => none
  | c :: text => (tagAt? (c :: text)).or (tagIn? text)

/-- The tags of the text after a place. `read` is what has been read since the last closing
bracket, last character first. -/
def readTags (read : List Char) : List Char → List Tag
  | [] => []
  | c :: text =>
    if c = '>' then (tagIn? read.reverse).toList ++ readTags [] text else readTags (c :: read) text

/-- The tags of a line that are named after blocks, from left to right. -/
def blockTags (line : List Char) : List Tag := readTags [] line

namespace Tag

/-- The attributes of an opening tag. -/
def attributes : Tag → List Char
  | opening _ attributes => attributes
  | closing _ => []

/-- No closing tag stands at the end of the attributes, where the bracket that ends the tag would
end it too. -/
def ClosesNothing (tag : Tag) : Prop :=
  ∀ piece ∈ tag.attributes.tails, ∀ inner ∈ tagAt? piece, inner.isClosing = false

instance (tag : Tag) : Decidable tag.ClosesNothing :=
  inferInstanceAs (Decidable (∀ piece ∈ _, ∀ inner ∈ tagAt? piece, inner.isClosing = false))

end Tag

theorem isTagChar_of_readsAs {block : Block} {name : List Char} (reads : ReadsAs block name) :
    ∀ c ∈ name, isTagChar c = true :=
  fun c isMember => isTagChar_of_isWord (reads.isWord c isMember)

theorem not_mem_of_readsAs {block : Block} {name : List Char} (reads : ReadsAs block name)
    {c : Char} (other : isWord c = false) : c ∉ name := by
  intro isMember
  rw [reads.isWord c isMember] at other
  contradiction

theorem tagAt?_eq_opening_iff {name attributes : List Char} :
    tagAt? piece = some (.opening name attributes) ↔
      ∃ block, blockNamed? name = some block ∧ piece = '<' :: (name ++ attributes) ∧
        ∀ c ∈ attributes.head?, isTagChar c = false := by
  constructor
  · intro isTag
    unfold tagAt? at isTag
    split at isTag
    · split at isTag
      · split at isTag <;> simp at isTag
      · simp at isTag
    · rename_i text _
      split at isTag
      · rename_i block named
        obtain ⟨rfl, rfl⟩ : tagName text = name ∧ text.dropWhile isTagChar = attributes := by
          simpa using isTag
        refine ⟨block, named, ?_, head?_dropWhile_not⟩
        rw [tagName, List.takeWhile_append_dropWhile]
      · simp at isTag
    · simp at isTag
  · rintro ⟨block, named, rfl, stop⟩
    have reads := readsAs_of_blockNamed? named
    have isName := isTagChar_of_readsAs reads
    unfold tagAt?
    split
    · rename_i text split
      obtain ⟨c, rest, rfl⟩ := List.exists_cons_of_ne_nil reads.ne_nil
      obtain rfl : c = '/' := (List.cons.inj (List.cons.inj split).2).1
      exact absurd List.mem_cons_self (not_mem_of_readsAs reads (by decide))
    · rename_i text _ split
      obtain rfl := (List.cons.inj split).2
      rw [tagName, takeWhile_run isName stop, dropWhile_run isName stop, named]
    · rename_i other
      exact absurd rfl (other _)

theorem tagAt?_eq_closing_iff {block : Block} :
    tagAt? piece = some (.closing block) ↔
      ∃ name blanks, blockNamed? name = some block ∧ piece = '<' :: '/' :: (name ++ blanks) ∧
        ∀ c ∈ blanks, isBlank c = true := by
  constructor
  · intro isTag
    unfold tagAt? at isTag
    split at isTag
    · rename_i text
      split at isTag
      · rename_i other named
        split at isTag
        · rename_i blanks
          obtain rfl : other = block := by simpa using isTag
          refine ⟨tagName text, text.dropWhile isTagChar, named, ?_, List.all_eq_true.mp blanks⟩
          rw [tagName, List.takeWhile_append_dropWhile]
        · simp at isTag
      · simp at isTag
    · split at isTag <;> simp at isTag
    · simp at isTag
  · rintro ⟨name, blanks, named, rfl, allBlank⟩
    have isName := isTagChar_of_readsAs (readsAs_of_blockNamed? named)
    have stop : ∀ c ∈ blanks.head?, isTagChar c = false := by
      intro c isHead
      simp [isTagChar, allBlank c (List.mem_of_mem_head? isHead)]
    simpa [tagAt?, tagName, takeWhile_run isName stop, dropWhile_run isName stop, named]
      using allBlank

/-! ## Exact names -/

instance (own c : Char) : Decidable (Folds own c) := inferInstanceAs (Decidable (_ = true))

instance (block : Block) (name : List Char) : Decidable (ReadsAs block name) :=
  inferInstanceAs (Decidable (List.Forall₂ Folds _ _))

/-- The text after the opening bracket of a tag, and after the slash of a closing one. -/
def afterBracket : List Char → List Char
  | '/' :: text => text
  | text => text

/-- If the word that a text begins with reads as the name of a block, up to case, then the name of a
tag there is no longer than this word, and has letters of ASCII only. -/
def NamedExactly (text : List Char) : Prop :=
  ∀ block ∈ [Block.script, .style], ReadsAs block (text.takeWhile isWord) →
    blockNamed? (tagName text) = some block

instance (text : List Char) : Decidable (NamedExactly text) :=
  inferInstanceAs (Decidable (∀ block ∈ _, _ → _))

/-- No tag of a line has a name that only begins with that of a block. -/
def ExactNames : List Char → Prop
  | [] => True
  | c :: text => (c = '<' → NamedExactly (afterBracket text)) ∧ ExactNames text

instance decidableExactNames : (line : List Char) → Decidable (ExactNames line)
  | [] => inferInstanceAs (Decidable True)
  | c :: text =>
    have := decidableExactNames text
    inferInstanceAs (Decidable ((c = '<' → NamedExactly (afterBracket text)) ∧ ExactNames text))

theorem ExactNames.of_append {skipped : List Char} (exactly : ExactNames (skipped ++ text)) :
    ExactNames text := by
  induction skipped with
  | nil => exact exactly
  | cons c skipped hyp => exact hyp exactly.2

theorem length_of_blockNamed? {block : Block} {name : List Char}
    (named : blockNamed? name = some block) : name.length = block.tag.toList.length := by
  rw [← blockNamed?_eq_some_iff.mp named, List.length_map]

/-- A name that reads as that of a block, and is exact, ends where the word ends. -/
theorem NamedExactly.named {name rest : List Char} (exactly : NamedExactly (name ++ rest))
    {block : Block} (reads : ReadsAs block name) (stop : NoWordNext rest) :
    blockNamed? name = some block ∧ ∀ c ∈ rest.head?, isTagChar c = false := by
  have listed : block ∈ [Block.script, .style] := by cases block <;> simp
  have named := exactly block listed (by rwa [takeWhile_run reads.isWord stop])
  have whole : tagName (name ++ rest) = name ++ tagName rest :=
    List.takeWhile_append_of_pos (isTagChar_of_readsAs reads)
  rw [whole] at named
  have noMore : tagName rest = [] := by
    have lengths := length_of_blockNamed? named
    rw [List.length_append, reads.length_eq] at lengths
    exact List.length_eq_zero_iff.mp (by omega)
  rw [noMore, List.append_nil] at named
  refine ⟨named, fun c isHead => ?_⟩
  obtain ⟨others, rfl⟩ := List.head?_eq_some_iff.mp isHead
  by_contra isName
  rw [tagName, List.takeWhile_cons_of_pos (by simpa using isName)] at noMore
  simp at noMore

/-- What the pattern sees as an opening tag is read as one. -/
theorem tagAt?_of_beginsOpening {name attributes rest : List Char} (exactly : ExactNames text)
    (begins : BeginsOpening name attributes rest text) :
    tagAt? ('<' :: (name ++ attributes)) = some (.opening name attributes) := by
  obtain ⟨block, reads, rfl, stop, absent⟩ := begins
  have after : afterBracket (name ++ (attributes ++ '>' :: rest)) =
      name ++ (attributes ++ '>' :: rest) := by
    obtain ⟨c, name, rfl⟩ := List.exists_cons_of_ne_nil reads.ne_nil
    have other : c ≠ '/' := by
      rintro rfl
      exact not_mem_of_readsAs reads (by decide) List.mem_cons_self
    rw [List.cons_append, afterBracket]
    exact fun _ same => other (List.cons.inj same).1
  obtain ⟨named, ends⟩ := (after ▸ exactly.1 rfl).named reads stop
  rw [tagAt?_eq_opening_iff]
  refine ⟨block, named, rfl, fun c isHead => ends c ?_⟩
  rw [List.head?_append, Option.mem_def.mp isHead]
  rfl

theorem beginsOpening_of_tagAt? {name attributes rest : List Char} (inside : '>' ∉ piece)
    (isTag : tagAt? piece = some (.opening name attributes)) :
    BeginsOpening name attributes rest (piece ++ '>' :: rest) := by
  rw [tagAt?_eq_opening_iff] at isTag
  obtain ⟨block, named, rfl, stop⟩ := isTag
  refine ⟨block, readsAs_of_blockNamed? named, by simp, ?_, ?_⟩
  · intro c isHead
    by_contra word
    have isName := @isTagChar_of_isWord c (by simpa using word)
    cases attributes with
    | nil =>
        obtain rfl : c = '>' := by simpa using isHead.symm
        exact absurd isName (by decide)
    | cons d attributes =>
        rw [stop c isHead] at isName
        contradiction
  · simp only [List.mem_cons, List.mem_append, not_or] at inside
    exact inside.2.2

/-- What the pattern sees as a closing tag is read as one. -/
theorem exists_tagAt?_of_beginsClosing {block : Block} (exactly : ExactNames text)
    (begins : BeginsClosing block text) :
    ∃ piece rest, text = piece ++ '>' :: rest ∧ '>' ∉ piece ∧
      tagAt? piece = some (.closing block) := by
  obtain ⟨name, blanks, rest, rfl, reads, allBlank⟩ := begins
  have stop : NoWordNext (blanks ++ '>' :: rest) := by
    intro c isHead
    cases blanks with
    | nil =>
        obtain rfl : c = '>' := by simpa using isHead.symm
        decide
    | cons d blanks =>
        obtain rfl : d = c := by simpa using isHead
        exact isWord_of_isBlank (allBlank _ List.mem_cons_self)
  obtain ⟨named, _⟩ := NamedExactly.named (exactly.1 rfl) reads stop
  refine ⟨'<' :: '/' :: (name ++ blanks), rest, by simp, ?_,
    tagAt?_eq_closing_iff.mpr ⟨name, blanks, named, rfl, allBlank⟩⟩
  have inName : '>' ∉ name := not_mem_of_readsAs reads (by decide)
  have inBlanks : '>' ∉ blanks := fun isMember => absurd (allBlank _ isMember) (by decide)
  simp [inName, inBlanks]

theorem beginsClosing_of_tagAt? {block : Block} {rest : List Char}
    (isTag : tagAt? piece = some (.closing block)) :
    BeginsClosing block (piece ++ '>' :: rest) := by
  rw [tagAt?_eq_closing_iff] at isTag
  obtain ⟨name, blanks, named, rfl, allBlank⟩ := isTag
  exact ⟨name, blanks, rest, by simp, readsAs_of_blockNamed? named, allBlank⟩

/-! ## Tags from left to right -/

theorem exists_of_tagIn? {tag : Tag} (isTag : tagIn? text = some tag) :
    ∃ skipped piece, text = skipped ++ piece ∧ tagAt? piece = some tag := by
  induction text with
  | nil => simp [tagIn?] at isTag
  | cons c text hyp =>
      rw [tagIn?, Option.or_eq_some_iff] at isTag
      rcases isTag with here | ⟨_, later⟩
      · exact ⟨[], c :: text, rfl, here⟩
      · obtain ⟨skipped, piece, rfl, isTag⟩ := hyp later
        exact ⟨c :: skipped, piece, rfl, isTag⟩

theorem exists_of_tagAt? {tag : Tag} (isTag : tagAt? piece = some tag) :
    ∃ rest, piece = '<' :: rest := by
  cases tag with
  | opening =>
      rw [tagAt?_eq_opening_iff] at isTag
      obtain ⟨_, _, rfl, _⟩ := isTag
      exact ⟨_, rfl⟩
  | closing =>
      rw [tagAt?_eq_closing_iff] at isTag
      obtain ⟨_, _, _, rfl, _⟩ := isTag
      exact ⟨_, rfl⟩

/-- A tag that begins inside another one stands at the end of its attributes. -/
theorem suffix_attributes {c : Char} {skipped : List Char} {tag inner : Tag}
    (isTag : tagAt? (c :: (skipped ++ piece)) = some tag) (isInner : tagAt? piece = some inner) :
    piece <:+ tag.attributes := by
  obtain ⟨rest, rfl⟩ := exists_of_tagAt? isInner
  cases tag with
  | opening name attributes =>
      rw [tagAt?_eq_opening_iff] at isTag
      obtain ⟨block, named, same, _⟩ := isTag
      have inName : '<' ∉ name := not_mem_of_readsAs (readsAs_of_blockNamed? named) (by decide)
      rcases List.append_eq_append_iff.mp (List.cons.inj same).2 with
        ⟨more, rfl, split⟩ | ⟨more, rfl, split⟩
      · cases more with
        | nil => exact ⟨[], split⟩
        | cons d more =>
            obtain rfl := (List.cons.inj split).1
            simp at inName
      · exact ⟨more, split.symm⟩
  | closing block =>
      rw [tagAt?_eq_closing_iff] at isTag
      obtain ⟨name, blanks, named, same, allBlank⟩ := isTag
      have bracket : '<' ∈ '/' :: (name ++ blanks) := by
        rw [← (List.cons.inj same).2]
        simp
      have inName : '<' ∉ name := not_mem_of_readsAs (readsAs_of_blockNamed? named) (by decide)
      have inBlanks : '<' ∉ blanks := fun isMember => absurd (allBlank _ isMember) (by decide)
      simp [inName, inBlanks] at bracket

/-- A tag at a place is the first one, if no other tag has it inside. -/
theorem tagIn?_append {skipped : List Char} {tag : Tag} (isTag : tagAt? piece = some tag)
    (apart : ∀ first second other, skipped = first ++ second → second ≠ [] →
      tagAt? (second ++ piece) = some other → tagIn? (skipped ++ piece) = some other →
        ¬ piece <:+ other.attributes) :
    tagIn? (skipped ++ piece) = some tag := by
  induction skipped with
  | nil =>
      obtain ⟨rest, rfl⟩ := exists_of_tagAt? isTag
      rw [List.nil_append, tagIn?, isTag]
      rfl
  | cons c skipped hyp =>
      have here : tagAt? (c :: (skipped ++ piece)) = none := by
        refine Option.eq_none_iff_forall_ne_some.mpr fun other isOther => ?_
        have isFirst : tagIn? (c :: skipped ++ piece) = some other := by
          rw [List.cons_append, tagIn?, isOther]
          rfl
        exact apart [] (c :: skipped) other rfl (by simp) isOther isFirst
          (suffix_attributes isOther isTag)
      have later : tagIn? (c :: skipped ++ piece) = tagIn? (skipped ++ piece) := by
        rw [List.cons_append, tagIn?, here]
        rfl
      rw [later] at apart ⊢
      refine hyp fun first second other split nonempty => ?_
      exact apart (c :: first) second other (by rw [split, List.cons_append]) nonempty

theorem readTags_append {read rest : List Char} (inside : '>' ∉ piece) :
    readTags read (piece ++ '>' :: rest) =
      (tagIn? (read.reverse ++ piece)).toList ++ readTags [] rest := by
  induction piece generalizing read with
  | nil => simp [readTags]
  | cons c piece hyp =>
      simp only [List.mem_cons, not_or] at inside
      rw [List.cons_append, readTags, if_neg (Ne.symm inside.1), hyp inside.2]
      simp

/-- Closing tags are read where the pattern sees them, unless they stand in attributes. -/
theorem closing_mem_readTags_iff {block : Block} {read : List Char} (inside : '>' ∉ read)
    (exactly : ExactNames (read.reverse ++ after))
    (apart : ∀ tag ∈ readTags read after, tag.ClosesNothing) :
    .closing block ∈ readTags read after ↔
      ∃ skipped rest, read.reverse ++ after = skipped ++ rest ∧ BeginsClosing block rest := by
  induction after generalizing read with
  | nil =>
      refine iff_of_false (by simp [readTags]) ?_
      rintro ⟨skipped, _, split, name, blanks, rest, rfl, _⟩
      refine inside (List.mem_reverse.mp ?_)
      rw [← List.append_nil read.reverse, split]
      simp
  | cons c after hyp =>
      by_cases bracket : c = '>'
      · subst bracket
        rw [readTags, if_pos rfl] at apart ⊢
        obtain ⟨first, others⟩ := List.forall_mem_append.mp apart
        rw [List.mem_append, Option.mem_toList,
          @hyp [] (by simp) (@ExactNames.of_append ('>' :: after) _ exactly).2 others]
        constructor
        · rintro (here | ⟨skipped, rest, split, begins⟩)
          · obtain ⟨skipped, piece, split, isTag⟩ := exists_of_tagIn? here
            exact ⟨skipped, piece ++ '>' :: after, by simp [split], beginsClosing_of_tagAt? isTag⟩
          · exact ⟨read.reverse ++ '>' :: skipped, rest, by simpa using split, begins⟩
        · rintro ⟨skipped, rest, split, begins⟩
          obtain ⟨piece, later, rfl, pieceInside, isTag⟩ :=
            exists_tagAt?_of_beginsClosing (split ▸ exactly).of_append begins
          rcases List.append_eq_append_iff.mp split with ⟨more, rfl, same⟩ | ⟨more, same, split⟩
          · cases more with
            | nil =>
                obtain ⟨_, _, _, opens, _⟩ := begins
                rw [← List.nil_append (piece ++ '>' :: later), ← same] at opens
                exact absurd (List.cons.inj opens).1 (by decide)
            | cons d more => exact .inr ⟨more, _, (List.cons.inj same).2, begins⟩
          · left
            have moreInside : '>' ∉ more := fun isMember =>
              inside (List.mem_reverse.mp (same ▸ List.mem_append_right _ isMember))
            obtain ⟨rfl, rfl⟩ := cut_at_unique pieceInside moreInside split
            rw [same]
            refine tagIn?_append isTag fun _ _ other _ _ _ isFirst suffix => ?_
            have closesNothing := first other (by simp [same, isFirst])
            have isOpening := closesNothing piece ((List.mem_tails _ _).mpr suffix) _ isTag
            exact Bool.noConfusion isOpening
      · rw [readTags, if_neg bracket] at apart ⊢
        rw [@hyp (c :: read) (by simp [inside, Ne.symm bracket]) (by simpa using exactly) apart]
        simp

/-- No opening tag begins in what has been read before a text, last character first. -/
def Unopened (read after : List Char) : Prop :=
  ∀ later earlier, read = later ++ earlier → later ≠ [] →
    ∀ name attributes rest, ¬ BeginsOpening name attributes rest (later.reverse ++ after)

theorem Unopened.nil : Unopened [] after := by
  intro later earlier split nonempty
  exact absurd (List.append_eq_nil_iff.mp split.symm).1 nonempty

theorem Unopened.cons {read : List Char} {c : Char} (unopened : Unopened read (c :: after))
    (here : ∀ name attributes rest, ¬ BeginsOpening name attributes rest (c :: after)) :
    Unopened (c :: read) after := by
  intro later earlier split nonempty name attributes rest begins
  cases later with
  | nil => exact nonempty rfl
  | cons d later =>
      obtain ⟨rfl, same⟩ := List.cons.inj split
      rw [List.reverse_cons, List.append_assoc, List.singleton_append] at begins
      cases later with
      | nil => exact here _ _ _ begins
      | cons e later => exact unopened (e :: later) earlier same (by simp) _ _ _ begins

/-- No tag that begins in what has been read is an opening one, however it goes on. -/
theorem Unopened.tagAt?_ne_opening {read body skipped name attributes : List Char}
    (unopened : Unopened read (body ++ '>' :: after)) (inside : '>' ∉ read)
    (bodyInside : '>' ∉ body) (split : read.reverse = skipped ++ piece) (nonempty : piece ≠ []) :
    tagAt? (piece ++ body) ≠ some (.opening name attributes) := by
  intro isTag
  have pieceInside : '>' ∉ piece := fun isMember =>
    inside (List.mem_reverse.mp (split ▸ List.mem_append_right _ isMember))
  have begins := @beginsOpening_of_tagAt? _ _ _ after (by simp [pieceInside, bodyInside]) isTag
  exact unopened piece.reverse skipped.reverse (List.reverse_eq_append_iff.mp split)
    (by simpa using nonempty) name attributes after (by simpa using begins)

/-- The matches of the pattern are the opening tags, in order, if none of these begins in what has
been read since the last closing bracket. -/
theorem filter_readTags {read : List Char} {segments : List Segment}
    (segmented : Segmented openingTag.matcher before after segments) (inside : '>' ∉ read)
    (exactly : ExactNames (read.reverse ++ after)) (unopened : Unopened read after) :
    (readTags read after).filter (fun tag => !tag.isClosing) =
      (segments.filterMap Segment.match?).map fun found =>
        .opening (found.group 1) (found.group 2) := by
  induction segmented generalizing read with
  | done => rfl
  | @keep before after c segments none _ hyp =>
      rw [List.filterMap_cons_none rfl, readTags]
      by_cases bracket : c = '>'
      · subst bracket
        have noOpening : ∀ tag ∈ (tagIn? read.reverse).toList, tag.isClosing = true := by
          rintro (⟨name, attributes⟩ | block) isTag
          · obtain ⟨skipped, piece, split, isTag⟩ := exists_of_tagIn? (Option.mem_toList.mp isTag)
            obtain ⟨rest, rfl⟩ := exists_of_tagAt? isTag
            exact absurd (by rwa [List.append_nil])
              (@Unopened.tagAt?_ne_opening after _ read [] skipped name attributes unopened inside
                (by simp) split (by simp))
          · rfl
        rw [if_pos rfl, List.filter_append, List.filter_eq_nil_iff.mpr, List.nil_append]
        · exact hyp (by simp) (@ExactNames.of_append ('>' :: after) _ exactly).2 .nil
        · intro tag isTag
          simp [noOpening tag isTag]
      · rw [if_neg bracket]
        refine hyp (by simp [inside, Ne.symm bracket]) (by simpa using exactly) (unopened.cons ?_)
        intro name attributes rest begins
        obtain ⟨found, isMatch⟩ := (@exists_openingTag_iff before _).mpr ⟨_, _, _, begins⟩
        rw [none] at isMatch
        contradiction
  | @found before piece after found segments isMatch _ finish _ hyp =>
      obtain ⟨rest, begins, ownFinish⟩ := openingTag_match isMatch
      have isTag := tagAt?_of_beginsOpening exactly.of_append begins
      obtain ⟨block, reads, split, _, absent⟩ := begins
      generalize isBody : '<' :: (found.group 1 ++ found.group 2) = body at isTag
      have bodyFinish : found.finish = .between ((body ++ ['>']).reverse ++ before) rest := by
        rw [ownFinish, ← isBody]
        simp
      obtain ⟨rfl, rfl⟩ : piece = body ++ ['>'] ∧ after = rest :=
        Cursor.cut_unique (by simpa [← isBody] using split) finish bodyFinish
      rw [List.append_assoc, List.singleton_append] at exactly unopened ⊢
      have bodyInside : '>' ∉ body := by
        have inName : '>' ∉ found.group 1 := not_mem_of_readsAs reads (by decide)
        simp [← isBody, inName, absent]
      have isFirst : tagIn? (read.reverse ++ body) =
          some (.opening (found.group 1) (found.group 2)) := by
        refine tagIn?_append isTag fun first second other split nonempty isOther _ => ?_
        cases other with
        | opening =>
            exact absurd isOther (unopened.tagAt?_ne_opening inside bodyInside split nonempty)
        | closing => simp [Tag.attributes, ← isBody]
      rw [readTags_append bodyInside, isFirst,
        List.filterMap_cons_some (rfl : Segment.match? (.matched found) = some found),
        List.map_cons, List.filter_append]
      refine congrArg (List.cons _) (hyp (by simp) ?_ .nil)
      exact @ExactNames.of_append after (read.reverse ++ (body ++ ['>'])) (by simpa using exactly)

end LineRules.Format
