import Triage.Files.Path
import Triage.Proofs.Text.Chars

namespace Triage

namespace Path

variable {home path rest : Chars}

/-! ## Home directories -/

/-- An absolute path without white space around it. -/
structure Anchored (path : Chars) : Prop where
  absolute : isAbsolute path = true
  trimmed : path.trim = path

/-- No tilde stands in front of an absolute path. -/
theorem Anchored.expandChars (anchored : Anchored path) (home : Chars) :
    Path.expandChars home path = path := by
  rcases List.head?_eq_some_iff.mp (beq_iff_eq.mp anchored.absolute) with ⟨rest, rfl⟩
  rw [Path.expandChars, anchored.trimmed]
  split <;> simp_all

theorem Anchored.solid_last (anchored : Anchored path) {char : Char}
    (last : path.getLast? = some char) : Text.isBlank char = false := by
  rw [← anchored.trimmed] at last
  exact Chars.not_drop_of_getLast? last

theorem anchored_of_ends (absolute : isAbsolute path = true)
    (ends : ∀ char, path.getLast? = some char → Text.isBlank char = false) : Anchored path where
  absolute := absolute
  trimmed := by
    refine Chars.trim_of_ends (fun char first => ?_) ends
    rw [beq_iff_eq.mp absolute] at first
    cases first
    rfl

theorem isAbsolute_append (absolute : isAbsolute path = true) (rest : Chars) :
    isAbsolute (path ++ rest) = true := by
  rcases List.head?_eq_some_iff.mp (beq_iff_eq.mp absolute) with ⟨others, rfl⟩
  rfl

theorem anchored_append (anchored : Anchored path)
    (ends : ∀ char, rest.getLast? = some char → Text.isBlank char = false) :
    Anchored (path ++ rest) := by
  refine anchored_of_ends (isAbsolute_append anchored.absolute rest) fun char last => ?_
  rw [List.getLast?_append, Option.or_eq_some_iff] at last
  rcases last with inRest | ⟨-, inPath⟩
  · exact ends char inRest
  · exact anchored.solid_last inPath

/-- What a home directory makes of a path that no white space follows. -/
theorem anchored_below (anchored : Anchored home)
    (ends : ∀ char, rest.getLast? = some char → Text.isBlank char = false) :
    Anchored (below home rest) := by
  unfold below
  split
  · next absolute => exact anchored_of_ends absolute ends
  split
  · exact anchored_append anchored ends
  · refine anchored_append anchored fun char last => ?_
    rw [List.getLast?_cons] at last
    cases isLast : rest.getLast? with
    | none =>
        rw [isLast] at last
        cases last
        rfl
    | some other =>
        rw [isLast] at last
        cases last
        exact ends other isLast

/-! ## Expanding a tilde -/

/-- White space around a path does not matter. -/
theorem expandChars_trim (home path : Chars) :
    expandChars home path.trim = expandChars home path := by
  rw [expandChars, expandChars, Chars.trim_trim]

/-- A path with a tilde becomes an absolute one, and every other path is only trimmed. -/
theorem expandChars_cases (anchored : Anchored home) (path : Chars) :
    Anchored (expandChars home path) ∨ expandChars home path = path.trim := by
  have below_trimmed (slash : Char) (rest : Chars) (whole : path.trim = '~' :: slash :: rest) :
      Anchored (below home rest) := by
    refine anchored_below anchored fun char last => ?_
    have isLast : path.trim.getLast? = some char := by
      rw [whole, List.getLast?_cons_cons, List.getLast?_cons, last]
      rfl
    exact Chars.not_drop_of_getLast? isLast
  unfold expandChars
  split
  · exact .inl anchored
  · next rest whole => exact .inl (below_trimmed '/' rest whole)
  · next rest whole => exact .inl (below_trimmed '\\' rest whole)
  · exact .inr rfl

/-- A path that was expanded stays as it is. -/
theorem expandTilde_expandTilde {home : String} (anchored : Anchored home.toList) (path : String) :
    expandTilde home (expandTilde home path) = expandTilde home path := by
  unfold expandTilde
  rw [String.toList_ofList]
  congr 1
  rcases expandChars_cases anchored path.toList with expanded | same
  · exact expanded.expandChars home.toList
  · conv => lhs; rw [same, expandChars_trim]

end Path

end Triage
