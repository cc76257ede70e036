import Mathlib.Data.List.Basic
import LineRules.Pattern.CharClass

/-!
# ASCII characters up to case

Only four characters outside ASCII are the same as an ASCII one up to case. What a class
of ASCII characters takes in where case does not count is therefore a matter of few
characters, and `CharClass.holds_of_folded` checks a statement about all of them.
-/

namespace LineRules.Text

/-- What holds of all ASCII characters, one by one. -/
theorem holds_of_ascii (holds : Char → Bool)
    (check : ((List.range 0x80).all fun code => holds (Char.ofNat code)) = true) {c : Char}
    (ascii : c.toNat < 0x80) : holds c = true := by
  have checked := List.all_eq_true.mp check c.toNat (by simpa using ascii)
  rwa [Char.ofNat_toNat] at checked

/-- ASCII is put into lower case letter by letter. -/
theorem lower_of_ascii {text : List Char} (ascii : ∀ c ∈ text, c.toNat < 0x80) :
    lower text = text.map Char.toLower := by
  have letter : ∀ c : Char, c.toNat < 0x80 → c ≠ 'Σ' ∧ lowerChars c = [c.toLower] := by
    intro c isAscii
    have checked := holds_of_ascii (fun c => c != 'Σ' && lowerChars c == [c.toLower])
      (by decide +kernel) isAscii
    simpa using checked
  have anywhere : ∀ before, lowerFrom before text = text.map Char.toLower := by
    induction text with
    | nil => exact fun _ => rfl
    | cons c text hyp =>
        intro before
        obtain ⟨here, others⟩ := List.forall_mem_cons.mp ascii
        obtain ⟨notSigma, lowered⟩ := letter c here
        rw [lowerFrom, if_neg notSigma, lowered, hyp others]
        rfl
  exact anywhere []

/-- The code points outside ASCII of characters that are the same as an ASCII letter up to
case. -/
def farLetters : List Nat := [0x130, 0x131, 0x17F, 0x212A]

/-- The code points among these that have no other lower-case form. -/
private def farSmallLetters : List Nat := [0x131, 0x17F]

theorem CaseRun.invert?_of_shift? {run : CaseRun} {code image : Nat}
    (isImage : run.shift? code = some image) : run.invert? image = some code := by
  rw [shift?] at isImage
  split at isImage
  case isFalse => contradiction
  case isTrue bounds =>
    obtain rfl := Option.some.inj isImage
    simp only [Bool.and_eq_true, decide_eq_true_eq, beq_iff_eq] at bounds
    obtain ⟨⟨low, high⟩, stride⟩ := bounds
    rw [invert?, Nat.add_sub_cancel_left, if_pos]
    · congr 1
      omega
    · simp only [Bool.and_eq_true, decide_eq_true_eq, beq_iff_eq]
      exact ⟨⟨by omega, by omega⟩, stride⟩

/-- The tables of cases near ASCII: runs begin outside of it, one whose images begin inside is a
single letter, and what a run or a family has in common with the small far letters is far too. -/
private theorem caseTables_far :
    (lowerRuns.all fun run => 0x80 ≤ run.first && (0x80 ≤ run.image ||
      (run.count * run.stride == 1 && run.first ∈ farLetters))) = true ∧
    (farSmallLetters.all fun image =>
      (lowerRuns.filterMap (·.invert? image)).all fun code => code ∈ farLetters) = true ∧
    (caseFamilies.all fun family => !(family.any (· < 0x80)) ||
      family.all fun code => code < 0x80 || code ∈ farSmallLetters) = true := by
  decide +kernel

private theorem mem_farLetters_of_shift? {run : CaseRun} (isRun : run ∈ lowerRuns)
    {code image : Nat} (isImage : run.shift? code = some image)
    (small : image < 0x80 ∨ image ∈ farSmallLetters) : code ∈ farLetters := by
  rcases small with ascii | isSmall
  · have checked := List.all_eq_true.mp caseTables_far.1 run isRun
    simp only [Bool.or_eq_true, Bool.and_eq_true, decide_eq_true_eq, beq_iff_eq] at checked
    rw [CaseRun.shift?] at isImage
    split at isImage
    case isFalse => contradiction
    case isTrue bounds =>
      simp only [Bool.and_eq_true, decide_eq_true_eq, beq_iff_eq] at bounds
      have image_eq := Option.some.inj isImage
      rcases checked.2 with far | ⟨single, isFar⟩
      · omega
      · obtain rfl : code = run.first := by omega
        exact isFar
  · have isCode : code ∈ lowerRuns.filterMap (·.invert? image) :=
      List.mem_filterMap.mpr ⟨run, isRun, CaseRun.invert?_of_shift? isImage⟩
    simpa using List.all_eq_true.mp (List.all_eq_true.mp caseTables_far.2.1 image isSmall) code isCode

private theorem mem_farLetters_of_lowerCode {code : Nat} (far : ¬ code < 0x80)
    (small : lowerCode code < 0x80 ∨ lowerCode code ∈ farSmallLetters) : code ∈ farLetters := by
  rw [lowerCode, if_neg far] at small
  cases search : lowerRuns.findSome? (·.shift? code) with
  | none =>
      rw [search, Option.getD_none] at small
      rcases small with ascii | isSmall
      · exact absurd ascii far
      · simp only [farSmallLetters, List.mem_cons, List.not_mem_nil, or_false] at isSmall
        rcases isSmall with rfl | rfl
        · decide
        · decide
  | some image =>
      rw [search, Option.getD_some] at small
      obtain ⟨run, isRun, isImage⟩ := List.exists_of_findSome?_eq_some search
      exact mem_farLetters_of_shift? isRun isImage small

private theorem small_of_mem_caseFamily {own code : Nat} (ascii : own < 0x80)
    (isMember : own ∈ caseFamily code) : code < 0x80 ∨ code ∈ farSmallLetters := by
  rw [caseFamily] at isMember
  cases search : caseFamilies.find? (·.contains code) with
  | none =>
      rw [search, Option.getD_none, List.mem_singleton] at isMember
      exact .inl (isMember ▸ ascii)
  | some family =>
      rw [search, Option.getD_some] at isMember
      have checked := List.all_eq_true.mp caseTables_far.2.2 family (List.mem_of_find?_eq_some search)
      have some : family.any (· < 0x80) = true := List.any_eq_true.mpr ⟨own, isMember, by simpa⟩
      have isCode : code ∈ family := by simpa using List.find?_some search
      rw [some, Bool.not_true, Bool.false_or] at checked
      simpa using List.all_eq_true.mp checked code isCode

/-- What is the same as an ASCII character up to case is one itself or among four others. -/
theorem ascii_of_mem_caseVariants {own code : Nat} (ascii : own < 0x80)
    (isVariant : own ∈ caseVariants code) : code < 0x80 ∨ code ∈ farLetters := by
  by_cases far : code < 0x80
  · exact .inl far
  · right
    refine mem_farLetters_of_lowerCode far ?_
    simp only [caseVariants, if_neg far, List.mem_append, List.mem_flatMap, List.mem_filterMap]
      at isVariant
    rcases isVariant with isMember | ⟨low, isLow, isUpper | ⟨run, isRun, inverted⟩⟩
    · exact small_of_mem_caseFamily ascii isMember
    · split at isUpper
      case isFalse => simp at isUpper
      case isTrue bounds =>
        simp only [Bool.and_eq_true, decide_eq_true_eq] at bounds
        exact small_of_mem_caseFamily (by omega) isLow
    · have checked := List.all_eq_true.mp caseTables_far.1 run isRun
      have first : 0x80 ≤ run.first := of_decide_eq_true (Bool.and_eq_true_iff.mp checked).1
      rw [CaseRun.invert?] at inverted
      split at inverted
      · have above := Option.some.inj inverted
        omega
      · contradiction

end LineRules.Text

namespace LineRules.Pattern

open LineRules.Text

/-- Whether an item is an ASCII character or a range of such. -/
def ClassItem.isAscii : ClassItem → Bool
  | one own => own < 0x80
  | range _ high => high < 0x80
  | _ => false

/-- The code points that classes of ASCII characters can take in up to case. -/
def foldedCodes : List Nat := List.range 0x80 ++ farLetters

namespace CharClass

private theorem mem_foldedCodes {own code : Nat} (ascii : own < 0x80)
    (isVariant : own ∈ caseVariants code) : code ∈ foldedCodes := by
  simpa [foldedCodes] using ascii_of_mem_caseVariants ascii isVariant

private theorem mem_foldedCodes_of_admits {item : ClassItem} (ascii : item.isAscii = true)
    {code : Nat} (admitted : item.admits .folded code = true) : code ∈ foldedCodes := by
  cases item with
  | one own =>
      have bound : own < 0x80 := by simpa [ClassItem.isAscii] using ascii
      have plane : own < planeLimit := Nat.lt_trans bound (by decide)
      rw [ClassItem.admits, if_pos plane] at admitted
      · exact mem_foldedCodes bound (List.contains_iff_mem.mp admitted)
      · simp
  | range low high =>
      have bound : high < 0x80 := by simpa [ClassItem.isAscii] using ascii
      have plane : high < planeLimit := Nat.lt_trans bound (by decide)
      rw [ClassItem.admits, ClassItem.rangeFolds, if_pos plane] at admitted
      · obtain ⟨own, isVariant, inside⟩ := List.any_eq_true.mp admitted
        simp only [Bool.and_eq_true, decide_eq_true_eq] at inside
        exact mem_foldedCodes (by omega) isVariant
      · simp
  | digit | blank | word => simp [ClassItem.isAscii] at ascii

private theorem mem_foldedCodes_of_contains {items : List ClassItem}
    (ascii : items.all ClassItem.isAscii = true) {c : Char}
    (member : (CharClass.mk false .folded items).contains c = true) : c.toNat ∈ foldedCodes := by
  rw [contains, Bool.bne_false] at member
  split at member
  case h_1 own single =>
    obtain rfl : items = [.one own] := single
    have bound : own < 0x80 := by simpa [ClassItem.isAscii] using ascii
    exact mem_foldedCodes bound (List.contains_iff_mem.mp member)
  case h_2 =>
    obtain ⟨item, isItem, admitted⟩ := List.any_eq_true.mp member
    exact mem_foldedCodes_of_admits (List.all_eq_true.mp ascii item isItem) admitted

/-- What a class of ASCII characters takes in up to case has a property if the characters
that come into question have it. -/
theorem holds_of_folded {items : List ClassItem} (holds : Char → Bool)
    (ascii : items.all ClassItem.isAscii = true)
    (check : (foldedCodes.all fun code =>
      !(CharClass.mk false .folded items).contains (Char.ofNat code) || holds (Char.ofNat code)) =
      true) {c : Char} (member : (CharClass.mk false .folded items).contains c = true) :
    holds c = true := by
  have among := mem_foldedCodes_of_contains ascii member
  have checked := List.all_eq_true.mp check c.toNat among
  rw [Char.ofNat_toNat, member] at checked
  simpa using checked

/-- Characters of ASCII that are no others up to case. -/
def marks : List Char := ['#', ',', '-', '.', '/', ':', ';', '<', '>', '\x7b', '\x7d']

private theorem variants_marks : (foldedCodes.all fun code => marks.all fun own =>
    (caseVariants code).contains own.toNat == (code == own.toNat)) = true := by
  decide +kernel

private theorem mem_caseVariants_mark_iff {own c : Char} (isMark : own ∈ marks) :
    own.toNat ∈ caseVariants c.toNat ↔ c = own := by
  have ascii : own.toNat < 0x80 :=
    of_decide_eq_true (List.all_eq_true.mp (by decide : marks.all (·.toNat < 0x80)) own isMark)
  have checked : ∀ code ∈ foldedCodes, (own.toNat ∈ caseVariants code ↔ code = own.toNat) := by
    intro code isCode
    have same := List.all_eq_true.mp (List.all_eq_true.mp variants_marks code isCode) own isMark
    rwa [beq_iff_eq, Bool.eq_iff_iff, List.contains_iff_mem, beq_iff_eq] at same
  constructor
  · intro isVariant
    exact Char.toNat_inj.mp ((checked _ (mem_foldedCodes ascii isVariant)).mp isVariant)
  · rintro rfl
    have isCode : c.toNat ∈ foldedCodes := List.mem_append_left _ (List.mem_range.mpr ascii)
    exact (checked _ isCode).mpr rfl

private theorem admits_mark_iff {own c : Char} (isMark : own ∈ marks) :
    (ClassItem.one own.toNat).admits .folded c.toNat = true ↔ c = own := by
  have plane : own.toNat < planeLimit :=
    of_decide_eq_true (List.all_eq_true.mp (by decide : marks.all (·.toNat < planeLimit)) own isMark)
  rw [← mem_caseVariants_mark_iff isMark, ClassItem.admits, if_pos plane, List.contains_iff_mem]
  · rfl
  · simp

/-- Up to case, a class of marks takes in these marks and nothing else. -/
theorem contains_marks (members : List Char) (areMarks : members.all (· ∈ marks) = true) (c : Char) :
    (CharClass.mk false .folded (members.map fun own => .one own.toNat)).contains c =
      decide (c ∈ members) := by
  have isMark : ∀ own ∈ members, own ∈ marks := by simpa using areMarks
  rw [contains, Bool.bne_false, Bool.eq_iff_iff, decide_eq_true_eq]
  split
  case h_1 code single =>
    obtain ⟨own, rfl, same⟩ := List.map_eq_singleton_iff.mp single
    obtain rfl : own.toNat = code := ClassItem.one.inj same
    rw [List.contains_iff_mem, List.mem_singleton]
    exact mem_caseVariants_mark_iff (isMark own (by simp))
  case h_2 =>
    rw [List.any_map, List.any_eq_true]
    constructor
    · rintro ⟨own, isMember, admitted⟩
      exact (admits_mark_iff (isMark own isMember)).mp admitted ▸ isMember
    · intro isMember
      exact ⟨c, isMember, (admits_mark_iff (isMark c isMember)).mpr rfl⟩

theorem contains_noneOf_folded {items : List ClassItem} {c : Char} :
    (CharClass.mk true .folded items).contains c =
      !(CharClass.mk false .folded items).contains c := by
  simp [contains]

end CharClass

end LineRules.Pattern
