/-!
# References

A text can refer to a variable by its name in braces behind a dollar sign, and
give a text to be taken if there is no such variable.  `substitute` replaces every
reference by what it means and keeps all other characters; what a reference means
is up to the caller.
-/

namespace PageTree

/-- A reference to a variable. -/
structure Reference where
  name : String
  /-- What the reference means if there is no such variable. -/
  default : String := ""
  deriving DecidableEq, Repr

namespace Reference

/-- The characters of a name: a brace ends it, a colon begins the default. -/
def isNameChar (char : Char) : Bool :=
  char != '\x7d' && char != ':'

/-- The default behind the mark `:-` and the closing brace, and what follows. -/
def takeDefault? (input : List Char) : Option (String × List Char) :=
  match input.dropWhile (· != '\x7d') with
  | _ :: rest => some (String.ofList (input.takeWhile (· != '\x7d')), rest)
  | [] => none

/-- The reference at the start of a text, and what follows it. -/
def take? : List Char → Option (Reference × List Char)
  | '$' :: '\x7b' :: input =>
      let name := String.ofList (input.takeWhile isNameChar)
      match input.dropWhile isNameChar with
      | '\x7d' :: rest => some (⟨name, ""⟩, rest)
      | ':' :: '-' :: rest =>
          (takeDefault? rest).map fun (default, rest) => (⟨name, default⟩, rest)
      | _ => none
  | _ => none

theorem takeDefault?_shorter {input rest : List Char} {default : String}
    (taken : takeDefault? input = some (default, rest)) : rest.length < input.length := by
  have bound := (List.dropWhile_suffix (l := input) (· != '\x7d')).length_le
  unfold takeDefault? at taken
  split at taken
  · rename_i behind
    simp only [Option.some.injEq, Prod.mk.injEq] at taken
    rw [behind, List.length_cons] at bound
    rw [← taken.2]
    exact bound
  · simp at taken

theorem take?_shorter {input rest : List Char} {reference : Reference}
    (taken : take? input = some (reference, rest)) : rest.length < input.length := by
  unfold take? at taken
  split at taken
  · rename_i input
    have bound := (List.dropWhile_suffix (l := input) isNameChar).length_le
    simp only [List.length_cons]
    split at taken
    · rename_i behind
      simp only [Option.some.injEq, Prod.mk.injEq] at taken
      rw [behind, List.length_cons] at bound
      rw [← taken.2]
      omega
    · rename_i behind
      obtain ⟨found, foundTaken, equal⟩ := Option.map_eq_some_iff.1 taken
      have shorter := takeDefault?_shorter foundTaken
      simp only [Prod.mk.injEq] at equal
      rw [behind, List.length_cons, List.length_cons] at bound
      rw [← equal.2]
      omega
    · simp at taken
  · simp at taken

/-- A text with the meanings of its references in their places. -/
def substitute (meaning : Reference → String) (input : List Char) : List Char :=
  match input with
  | [] => []
  | char :: rest =>
      match _taken : take? (char :: rest) with
      | some (reference, rest) => (meaning reference).toList ++ substitute meaning rest
      | none => char :: substitute meaning rest
termination_by input.length
decreasing_by
  · exact take?_shorter _taken
  · simp

end Reference

end PageTree
