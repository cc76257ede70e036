import LineRules.Proofs.Files.Once
import LineRules.Proofs.Files.Texts

/-!
# Arguments that spell a file

An argument with special characters is taken for a pattern, even if it spells a file. The file is
among the paths it stands for if each part of the argument fits itself (`exists_match`), which only
a part with closed brackets may not (`fits_tokens`). Otherwise other files may shadow it
(`IsShadowed`). The main statement is `selectPaths_spelled`.
-/

namespace LineRules

open LineRules.Text LineRules.Glob

namespace Glob

variable {part rest : List Char}

end Glob

namespace Disk

variable {disk : Disk} {part above text : List Char} {parts : List (List Char)}
  {place final : List String} {argument : String}

/-- An argument is taken for a pattern, which stands for some paths and not for the one that the
argument spells. -/
def IsShadowed (disk : Disk) (argument : String) : Prop :=
  isPattern argument.toList = true ∧ ∃ found, disk.glob argument = .ok found ∧ found ≠ [] ∧
    ∀ text ∈ found, Path.ofString text ≠ Path.ofString argument

theorem StandsFor.mem_iff {given : List Path} (stands : disk.StandsFor argument given) :
    Path.ofString argument ∈ given ↔ ¬disk.IsShadowed argument := by
  cases stands with
  | @pattern found special isFound nonempty _ =>
      rw [List.mem_map]
      constructor
      · rintro ⟨text, isMember, same⟩ ⟨-, others, isFoundAgain, -, apart⟩
        obtain rfl := Except.ok.inj (isFound.symm.trans isFoundAgain)
        exact apart text isMember same
      · intro visible
        by_contra apart
        exact visible ⟨special, found, isFound, nonempty,
          fun text isMember same => apart ⟨text, isMember, same⟩⟩
  | spelled unmatched =>
      refine iff_of_true List.mem_cons_self ?_
      rintro ⟨special, found, isFound, nonempty, -⟩
      exact nonempty (Except.ok.inj (isFound.symm.trans (unmatched special)))

theorem StandsFor.unique {given other : List Path} (stands : disk.StandsFor argument given)
    (standsToo : disk.StandsFor argument other) : given = other :=
  Except.ok.inj ((candidates_eq_ok_iff.mpr stands).symm.trans (candidates_eq_ok_iff.mpr standsToo))

end Disk

end LineRules
