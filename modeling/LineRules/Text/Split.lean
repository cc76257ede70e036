/-!
# Cutting a text at a separator

A text is cut at every occurrence of a character; joining the parts with that character
gives the text back.
-/

namespace LineRules.Text

/-- The parts of a text between separators; one more than there are separators. -/
def split (separator : Char) : List Char → List (List Char)
  | [] => [[]]
  | c :: rest =>
    if c = separator then [] :: split separator rest
    else
      match split separator rest with
      | [] => [[c]]
      | part :: parts => (c :: part) :: parts

/-- There is always a part. -/
theorem split_ne_nil (separator : Char) (text : List Char) : split separator text ≠ [] := by
  cases text with
  | nil => simp [split]
  | cons c rest =>
    rw [split]
    split
    · simp
    · split <;> simp

/-- The parts joined with the separator are the text. -/
theorem intercalate_split (separator : Char) (text : List Char) :
    [separator].intercalate (split separator text) = text := by
  induction text with
  | nil => simp [split, List.intercalate]
  | cons c rest hyp =>
    by_cases same : c = separator
    · subst same
      rw [split, if_pos rfl]
      cases parts : split c rest with
      | nil => exact absurd parts (split_ne_nil c rest)
      | cons part others =>
        rw [parts] at hyp
        simpa [List.intercalate, List.intersperse] using hyp
    · rw [split, if_neg same]
      cases parts : split separator rest with
      | nil => exact absurd parts (split_ne_nil separator rest)
      | cons part others =>
        rw [parts] at hyp
        cases others <;> simp_all [List.intercalate, List.intersperse]

/-- The parts of a text between characters of a class. -/
def splitWhere (isBoundary : Char → Bool) : List Char → List (List Char)
  | [] => [[]]
  | c :: rest =>
    if isBoundary c then [] :: splitWhere isBoundary rest
    else
      match splitWhere isBoundary rest with
      | [] => [[c]]
      | part :: parts => (c :: part) :: parts

/-- The parts of a name between points. -/
def segments (name : String) : List String :=
  (split '.' name.toList).map String.ofList

end LineRules.Text
