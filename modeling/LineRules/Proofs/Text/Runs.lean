import Mathlib.Data.List.Basic
import LineRules.Text.Blank
import LineRules.Text.Word

/-!
# Runs of characters

A text that begins with characters of a class, as many as there are, is cut in one way
only. The word that a text before a place ends with is the run of word characters
nearest to the place.
-/

namespace LineRules.Text

/-- Two cuts of a text after all leading characters of a class are the same cut. -/
theorem run_unique {inClass : Char → Bool} {run other rest last : List Char}
    (members : ∀ c ∈ run, inClass c = true) (stop : ∀ c ∈ rest.head?, inClass c = false)
    (others : ∀ c ∈ other, inClass c = true) (otherStop : ∀ c ∈ last.head?, inClass c = false)
    (same : run ++ rest = other ++ last) : run = other ∧ rest = last := by
  induction run generalizing other with
  | nil =>
      cases other with
      | nil => exact ⟨rfl, same⟩
      | cons d other =>
          obtain rfl : rest = d :: (other ++ last) := same
          have outside := stop d rfl
          rw [others d (by simp)] at outside
          contradiction
  | cons c run hyp =>
      cases other with
      | nil =>
          obtain rfl : c :: (run ++ rest) = last := same
          have outside := otherStop c rfl
          rw [members c (by simp)] at outside
          contradiction
      | cons d other =>
          obtain ⟨rfl, tails⟩ : c = d ∧ run ++ rest = other ++ last := by simpa using same
          obtain ⟨rfl, rfl⟩ := hyp (fun e inRun => members e (by simp [inRun]))
            (fun e inRun => others e (by simp [inRun])) tails
          exact ⟨rfl, rfl⟩

/-- The leading run of a class is taken as a whole. -/
theorem takeWhile_run {inClass : Char → Bool} {run rest : List Char}
    (members : ∀ c ∈ run, inClass c = true) (stop : ∀ c ∈ rest.head?, inClass c = false) :
    (run ++ rest).takeWhile inClass = run := by
  rw [List.takeWhile_append_of_pos members]
  cases rest with
  | nil => simp
  | cons c rest => simp [stop c rfl]

private theorem forall_ne_of_not_mem {c : Char} {run : List Char} (absent : c ∉ run) :
    ∀ d ∈ run, decide (d ≠ c) = true := by
  intro d isMember
  simpa using fun (same : d = c) => absent (same ▸ isMember)

/-- Two cuts of a text at the first place of a character are the same cut. -/
theorem cut_at_unique {c : Char} {run other rest last : List Char} (absent : c ∉ run)
    (otherAbsent : c ∉ other) (same : run ++ c :: rest = other ++ c :: last) :
    run = other ∧ rest = last := by
  obtain ⟨runs, rests⟩ := run_unique (forall_ne_of_not_mem absent) (by simp)
    (forall_ne_of_not_mem otherAbsent) (by simp) same
  exact ⟨runs, (List.cons.inj rests).2⟩

theorem takeWhile_until {c : Char} {run rest : List Char} (absent : c ∉ run) :
    (run ++ c :: rest).takeWhile (· ≠ c) = run :=
  takeWhile_run (forall_ne_of_not_mem absent) (by simp)

/-- A text with no member of a class at its beginning lengthens no run before it. -/
theorem takeWhile_append_of_stop {inClass : Char → Bool} {text rest : List Char}
    (stop : ∀ c ∈ rest.head?, inClass c = false) :
    (text ++ rest).takeWhile inClass = text.takeWhile inClass := by
  induction text with
  | nil =>
      cases rest with
      | nil => rfl
      | cons c rest => simp [stop c rfl]
  | cons c text hyp => simp [List.takeWhile_cons, hyp]

theorem dropWhile_run {inClass : Char → Bool} {run rest : List Char}
    (members : ∀ c ∈ run, inClass c = true) (stop : ∀ c ∈ rest.head?, inClass c = false) :
    (run ++ rest).dropWhile inClass = rest := by
  rw [List.dropWhile_append_of_pos members]
  cases rest with
  | nil => rfl
  | cons c rest => simp [stop c rfl]

/-- What follows the leading run of a class begins with no member of it. -/
theorem head?_dropWhile_not {inClass : Char → Bool} {text : List Char} :
    ∀ c ∈ (text.dropWhile inClass).head?, inClass c = false := by
  intro c isHead
  have fails := List.head?_dropWhile_not inClass text
  rw [Option.mem_def] at isHead
  simpa [isHead] using fails

/-- A text that ends as another one does, and is longer than the rest of that one, begins
inside of its first piece. -/
theorem mem_of_suffix {piece rest skipped later : List Char} {d : Char}
    (split : piece ++ rest = skipped ++ d :: later) (longer : rest.length ≤ later.length) :
    d ∈ piece := by
  rcases List.append_eq_append_iff.mp split with ⟨more, rfl, same⟩ | ⟨more, rfl, same⟩
  · have lengths := congrArg List.length same
    simp only [List.length_append, List.length_cons] at lengths
    omega
  · cases more with
    | nil =>
        have lengths := congrArg List.length same
        simp only [List.nil_append, List.length_cons] at lengths
        omega
    | cons e more =>
        obtain ⟨rfl, _⟩ : d = e ∧ later = more ++ rest := by simpa using same
        simp

/-- Whether a character is a space or a tab. -/
def isGap (c : Char) : Bool :=
  c = ' ' || c = '\t'

theorem isBlank_of_isGap {c : Char} (gap : isGap c = true) : isBlank c = true := by
  have isEither : c = ' ' ∨ c = '\t' := by simpa [isGap] using gap
  rcases isEither with rfl | rfl
  · decide
  · decide

/-- No word character is next to a place, on the side of it that is given. -/
def NoWordNext (text : List Char) : Prop :=
  ∀ c ∈ text.head?, isWord c = false

/-- Whether a text begins with a word and no further word character. -/
def FirstWord (word text : List Char) : Prop :=
  text.takeWhile isWord = word

theorem firstWord_iff {word text : List Char} (isText : ∀ c ∈ word, isWord c = true) :
    FirstWord word text ↔ ∃ rest, text = word ++ rest ∧ NoWordNext rest := by
  constructor
  · intro first
    refine ⟨text.dropWhile isWord, ?_, head?_dropWhile_not⟩
    rw [← first, List.takeWhile_append_dropWhile]
  · rintro ⟨rest, rfl, stop⟩
    exact takeWhile_run isText stop

/-- Whether the text before a place, given nearest character first, ends with a word. -/
def EndsWord (word before : List Char) : Prop :=
  FirstWord word.reverse before

/-- The word at the end of a text is preceded by no further word character. -/
theorem endsWord_iff {word before : List Char} (isText : ∀ c ∈ word, isWord c = true) :
    EndsWord word before ↔
      ∃ earlier, before = word.reverse ++ earlier ∧ NoWordNext earlier :=
  firstWord_iff (by simpa using isText)

/-- The code points of blanks. -/
private def blankCodes : List Nat :=
  [0x09, 0x0A, 0x0B, 0x0C, 0x0D, 0x1C, 0x1D, 0x1E, 0x1F, 0x20, 0x85, 0xA0, 0x1680, 0x2000, 0x2001,
    0x2002, 0x2003, 0x2004, 0x2005, 0x2006, 0x2007, 0x2008, 0x2009, 0x200A, 0x2028, 0x2029,
    0x202F, 0x205F, 0x3000]

private theorem mem_blankCodes {c : Char} (blank : isBlank c = true) :
    c.toNat ∈ blankCodes := by
  simp only [isBlank, Bool.or_eq_true, Bool.and_eq_true, decide_eq_true_eq, beq_iff_eq] at blank
  simp only [blankCodes, List.mem_cons, List.not_mem_nil, or_false]
  omega

private theorem not_isWord_of_blankCodes :
    ∀ code ∈ blankCodes, isWord (Char.ofNat code) = false := by
  decide +kernel

/-- No blank is a word character. -/
theorem isWord_of_isBlank {c : Char} (blank : isBlank c = true) : isWord c = false := by
  simpa using not_isWord_of_blankCodes c.toNat (mem_blankCodes blank)

theorem isBlank_of_isWord {c : Char} (word : isWord c = true) : isBlank c = false := by
  by_contra blank
  rw [isWord_of_isBlank (by simpa using blank)] at word
  contradiction

/-- A text that ends with a word ends with a character that is not blank. -/
theorem EndsWord.solid {word before : List Char} (ends : EndsWord word before)
    (nonempty : word ≠ []) (isText : ∀ c ∈ word, isWord c = true) :
    ∃ c earlier, before = c :: earlier ∧ isBlank c = false := by
  obtain ⟨earlier, rfl, _⟩ := (endsWord_iff isText).mp ends
  obtain ⟨word, c, rfl⟩ := List.eq_nil_or_concat' word |>.resolve_left nonempty
  exact ⟨c, word.reverse ++ earlier, by simp, isBlank_of_isWord (isText c (by simp))⟩

end LineRules.Text
