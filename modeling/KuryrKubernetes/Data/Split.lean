import Mathlib.Data.List.DropRight
import Mathlib.Data.List.Infix

/-!
# Texts taken apart

A text is split at each place where a separator stands, from left to right.  What is
between two such places is found again, if no place begins inside it.
-/

namespace KuryrKubernetes.Data

variable {α : Type*} [DecidableEq α]

/-- The pieces of a text between the places where `separator` stands, from a piece that has
begun on; entries of the separator are left out. -/
def splitFrom (separator : List α) : Nat → List α → List α → List (List α)
  | _, piece, [] => [piece.reverse]
  | omitted + 1, piece, _ :: rest => splitFrom separator omitted piece rest
  | 0, piece, entry :: rest =>
      if separator <+: entry :: rest then
        piece.reverse :: splitFrom separator (separator.length - 1) [] rest
      else
        splitFrom separator 0 (entry :: piece) rest

/-- The pieces of a text between the places where `separator` stands. -/
def splitText (separator text : List α) : List (List α) :=
  splitFrom separator 0 [] text

variable {separator before rest : List α}

/-- What is left out. -/
theorem splitFrom_omitted (separator piece omitted rest : List α) :
    splitFrom separator omitted.length piece (omitted ++ rest) =
      splitFrom separator 0 piece rest := by
  induction omitted with
  | nil => rfl
  | cons entry more ih => simpa [splitFrom] using ih

/-- A place where the separator stands. -/
theorem splitFrom_separator (separated : separator ≠ []) (piece rest : List α) :
    splitFrom separator 0 piece (separator ++ rest) =
      piece.reverse :: splitFrom separator 0 [] rest := by
  cases separator with
  | nil => exact absurd rfl separated
  | cons first more =>
      have stands : first :: more <+: first :: (more ++ rest) := List.prefix_append _ rest
      rw [List.cons_append, splitFrom, if_pos stands]
      simp [splitFrom_omitted]

/-- No place begins inside of `before`. -/
theorem splitFrom_append (free : ∀ n < before.length, ¬separator <+: (before ++ rest).drop n)
    (piece : List α) :
    splitFrom separator 0 piece (before ++ rest) =
      splitFrom separator 0 (before.reverse ++ piece) rest := by
  induction before generalizing piece with
  | nil => rfl
  | cons entry more ih =>
      have first : ¬separator <+: entry :: (more ++ rest) := free 0 (by simp)
      rw [List.cons_append, splitFrom, if_neg first, ih]
      · simp
      · intro n less
        simpa using free (n + 1) (by simpa using less)

omit [DecidableEq α] in
/-- Nothing begins among other entries. -/
theorem free_of_not_mem {first : α} {more : List α} (other : first ∉ before) :
    ∀ n < before.length, ¬first :: more <+: (before ++ rest).drop n := by
  intro n less stands
  rw [List.drop_append_of_le_length less.le, List.drop_eq_getElem_cons less,
    List.cons_append, List.cons_prefix_cons] at stands
  exact other (stands.1 ▸ List.getElem_mem less)

/-- A text with no place for a separator is one piece. -/
theorem splitText_eq_singleton {first : α} {more : List α} (other : first ∉ before) :
    splitText (first :: more) before = [before] := by
  have whole : splitFrom (first :: more) 0 [] (before ++ []) =
      splitFrom (first :: more) 0 (before.reverse ++ []) [] :=
    splitFrom_append (free_of_not_mem other) []
  rw [List.append_nil, List.append_nil] at whole
  rw [splitText, whole, splitFrom, List.reverse_reverse]

section

variable {middle : α} (foreign : middle ∉ separator)
include foreign

omit [DecidableEq α] in
/-- What begins before an entry that the separator has not also ends before it. -/
theorem prefix_of_prefix_append_cons (stands : separator <+: before ++ middle :: rest) :
    separator <+: before := by
  have upTo : before ++ [middle] <+: before ++ middle :: rest := by simp
  rcases List.prefix_or_prefix_of_prefix stands upTo with inside | across
  · rcases List.prefix_concat_iff.mp inside with whole | inner
    · exact absurd (by simp [whole]) foreign
    · exact inner
  · exact absurd (across.subset (by simp)) foreign

omit [DecidableEq α] in
/-- Nothing begins in a text that has no separator and ends with another entry. -/
theorem free_of_absent (other : ¬separator <:+: before) :
    ∀ n < (before ++ [middle]).length,
      ¬separator <+: (before ++ [middle] ++ rest).drop n := by
  intro n less stands
  have within : n ≤ before.length := by
    simpa [Nat.lt_succ_iff] using less
  rw [List.append_assoc, List.drop_append_of_le_length within] at stands
  have inner := prefix_of_prefix_append_cons foreign stands
  exact other (inner.isInfix.trans (List.drop_suffix n before).isInfix)

omit [DecidableEq α] in
/-- A text stays without a separator if an entry that the separator has not stands between. -/
theorem not_infix_append_cons (left : ¬separator <:+: before) (right : ¬separator <:+: rest) :
    ¬separator <:+: before ++ middle :: rest := by
  induction before with
  | nil =>
      intro stands
      rcases List.infix_cons_iff.mp stands with first | later
      · have nothing : separator <+: [] := prefix_of_prefix_append_cons foreign first
        exact left nothing.isInfix
      · exact right later
  | cons entry more ih =>
      intro stands
      rcases List.infix_cons_iff.mp stands with first | later
      · have inner : separator <+: entry :: more := prefix_of_prefix_append_cons foreign first
        exact left inner.isInfix
      · exact ih (fun inner => left (List.infix_cons inner)) later

end

end KuryrKubernetes.Data
