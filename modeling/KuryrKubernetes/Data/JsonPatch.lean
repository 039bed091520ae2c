import KuryrKubernetes.Data.Dict

/-!
# JSON documents and patches

Objects are lists of fields; a leaf is whatever a patch here does not look into.  A path is the
list of the keys from the whole document on.  Removing at a path takes what is at the path or
below it, and leaves what is at any other path that does not lead there.
-/

namespace KuryrKubernetes.Data

universe u

/-- A JSON document over the leaves `α`. -/
inductive Document (α : Type u) where
  | leaf (value : α)
  | object (fields : List (String × Document α))

namespace Document

variable {α : Type u}

/-- What is at a path. -/
def get? : Document α → List String → Option (Document α)
  | document, [] => some document
  | .leaf _, _ :: _ => none
  | .object fields, key :: path => (Dict.lookupItems key fields).bind (get? · path)

/-- Take away what is at a path, which has to be there. -/
def remove : Document α → List String → Option (Document α)
  | _, [] => none
  | .leaf _, _ :: _ => none
  | .object fields, [key] =>
      (Dict.lookupItems key fields).map fun _ => .object (fields.filter (·.1 ≠ key))
  | .object fields, key :: next :: path => do
      let child ← Dict.lookupItems key fields
      let changed ← child.remove (next :: path)
      return .object (Dict.setItems key changed fields)

@[simp]
theorem get?_nil (document : Document α) : document.get? [] = some document := by
  cases document <;> rfl

theorem get?_object (fields : List (String × Document α)) (key : String) (path : List String) :
    (object fields).get? (key :: path) = (Dict.lookupItems key fields).bind (get? · path) :=
  rfl

theorem get?_append (document : Document α) (path rest : List String) :
    document.get? (path ++ rest) = (document.get? path).bind (get? · rest) := by
  induction path generalizing document with
  | nil => simp
  | cons key path ih =>
      cases document with
      | leaf value => rfl
      | object fields =>
          rw [List.cons_append, get?_object, get?_object]
          cases Dict.lookupItems key fields with
          | none => rfl
          | some child => exact ih child

/-- What is there can be removed, but for the whole document. -/
theorem exists_remove {document found : Document α} {key : String} {path : List String}
    (there : document.get? (key :: path) = some found) :
    ∃ changed, document.remove (key :: path) = some changed := by
  induction path generalizing document key with
  | nil =>
      cases document with
      | leaf value => cases there
      | object fields =>
          obtain ⟨child, stored, _⟩ := Option.bind_eq_some_iff.mp there
          rw [remove, stored]
          exact ⟨_, rfl⟩
  | cons next path ih =>
      cases document with
      | leaf value => cases there
      | object fields =>
          obtain ⟨child, stored, below⟩ := Option.bind_eq_some_iff.mp there
          obtain ⟨changed, removed⟩ := ih below
          rw [remove, stored]
          change ∃ whole, (child.remove (next :: path) >>= _) = some whole
          rw [removed]
          exact ⟨_, rfl⟩

/-- What leads to a removed place stays an object. -/
theorem exists_object_of_remove {document changed : Document α} {path : List String}
    {key : String} {rest : List String}
    (removed : document.remove (path ++ key :: rest) = some changed) :
    ∃ fields, changed.get? path = some (.object fields) := by
  induction path generalizing document changed with
  | nil =>
      cases document with
      | leaf value => cases removed
      | object fields =>
          cases rest with
          | nil =>
              obtain ⟨child, _, rfl⟩ := Option.map_eq_some_iff.mp removed
              exact ⟨_, rfl⟩
          | cons next rest =>
              obtain ⟨child, _, inside⟩ := Option.bind_eq_some_iff.mp removed
              obtain ⟨inner, _, ended⟩ := Option.bind_eq_some_iff.mp inside
              cases ended
              exact ⟨_, rfl⟩
  | cons first path ih =>
      cases document with
      | leaf value => cases removed
      | object fields =>
          obtain ⟨next, tail, same⟩ : ∃ next tail, path ++ key :: rest = next :: tail := by
            cases path with
            | nil => exact ⟨key, rest, rfl⟩
            | cons second path => exact ⟨second, path ++ key :: rest, rfl⟩
          rw [List.cons_append, same, remove] at removed
          obtain ⟨child, _, inside⟩ := Option.bind_eq_some_iff.mp removed
          obtain ⟨inner, within, ended⟩ := Option.bind_eq_some_iff.mp inside
          cases ended
          rw [← same] at within
          rw [get?_object, Dict.lookupItems_setItems, if_pos rfl]
          exact ih within

/-- What becomes of a document that loses what is at a path. -/
structure Loses (document changed : Document α) (path : List String) : Prop where
  gone : ∀ rest, changed.get? (path ++ rest) = none
  kept : ∀ other, ¬path <+: other → ¬other <+: path → changed.get? other = document.get? other

private theorem lookupItems_filter (key other : String) (fields : List (String × Document α)) :
    Dict.lookupItems other (fields.filter (·.1 ≠ key)) =
      if other = key then none else Dict.lookupItems other fields := by
  induction fields with
  | nil => simp [Dict.lookupItems]
  | cons field rest ih =>
      obtain ⟨head, value⟩ := field
      by_cases removed : head = key
      · rw [List.filter_cons_of_neg (by simpa using removed), ih]
        by_cases asked : other = key
        · rw [if_pos asked, if_pos asked]
        · rw [if_neg asked, if_neg asked, Dict.lookupItems, if_neg]
          exact fun same => asked (same.symm.trans removed)
      · rw [List.filter_cons_of_pos (by simpa using removed)]
        rw [Dict.lookupItems, Dict.lookupItems, ih]
        by_cases asked : head = other
        · rw [if_pos asked, if_neg fun same => removed (asked.trans same), if_pos asked]
        · rw [if_neg asked, if_neg asked]

/-- Removing at a path does that. -/
theorem loses_of_remove {document changed : Document α} {path : List String}
    (removed : document.remove path = some changed) : document.Loses changed path := by
  induction document, path using remove.induct generalizing changed with
  | case1 | case2 => cases removed
  | case3 fields key =>
      rw [remove, Option.map_eq_some_iff] at removed
      obtain ⟨child, _, rfl⟩ := removed
      constructor
      · intro rest
        rw [List.singleton_append, get?_object, lookupItems_filter, if_pos rfl]
        rfl
      · intro other apart above
        cases other with
        | nil => exact absurd List.nil_prefix above
        | cons first rest =>
            have different : first ≠ key := by
              rintro rfl
              exact apart ⟨rest, rfl⟩
            rw [get?_object, get?_object, lookupItems_filter, if_neg different]
  | case4 fields key next path ih =>
      obtain ⟨child, found, removed⟩ := Option.bind_eq_some_iff.mp removed
      obtain ⟨inner, within, ended⟩ := Option.bind_eq_some_iff.mp removed
      cases ended
      have loses := ih child within
      constructor
      · intro rest
        rw [List.cons_append, get?_object, Dict.lookupItems_setItems, if_pos rfl]
        exact loses.gone rest
      · intro other apart above
        cases other with
        | nil => exact absurd List.nil_prefix above
        | cons first rest =>
            rw [get?_object, get?_object, Dict.lookupItems_setItems]
            by_cases same : first = key
            · subst first
              rw [if_pos rfl, found]
              rw [List.prefix_cons_inj] at apart above
              exact loses.kept rest apart above
            · rw [if_neg same]

/-- A document that lost what is at a path has lost one thing below it, and no more, if and only
if there was nothing else. -/
theorem Loses.child_iff {document changed : Document α} {path : List String}
    (loses : document.Loses changed path) (key : String) :
    document.Loses changed (path ++ [key]) ↔
      ∀ other, other ≠ key → document.get? (path ++ [other]) = none := by
  constructor
  · intro child other different
    rw [← child.kept, loses.gone]
    · simpa [List.prefix_append_right_inj] using different.symm
    · simpa [List.prefix_append_right_inj] using different
  · intro alone
    constructor
    · intro rest
      rw [List.append_assoc]
      exact loses.gone _
    · intro other apart above
      by_cases below : path <+: other
      · obtain ⟨rest, rfl⟩ := below
        rw [List.prefix_append_right_inj] at apart above
        cases rest with
        | nil => exact absurd List.nil_prefix above
        | cons first rest =>
            have different : first ≠ key := by
              rintro rfl
              exact apart ⟨rest, rfl⟩
            rw [loses.gone, List.append_cons, get?_append, alone first different]
            rfl
      · exact loses.kept other below fun shorter => above (shorter.trans (List.prefix_append _ _))

end Document

/-! ## Patches -/

/-- A token of a JSON pointer, read. -/
def unescapeToken : List Char → List Char
  | '~' :: '1' :: rest => '/' :: unescapeToken rest
  | '~' :: '0' :: rest => '~' :: unescapeToken rest
  | head :: rest => head :: unescapeToken rest
  | [] => []

/-- The path of a JSON pointer, which is empty or begins with a slash. -/
def jsonPointer (text : String) : Option (List String) :=
  match text.toList.splitOn '/' with
  | [] :: tokens => some (tokens.map fun token => String.ofList (unescapeToken token))
  | _ => none

/-- An operation `remove` of a JSON patch.  A `value` is not defined for it. -/
structure RemoveOperation where
  path : String
  value : Option String

/-- The operation, for which members that are not defined for it are as if they were not there. -/
def RemoveOperation.apply {α : Type u} (operation : RemoveOperation) (document : Document α) :
    Option (Document α) :=
  (jsonPointer operation.path).bind document.remove

/-- A JSON patch: all operations or none. -/
def applyPatch {α : Type u} (operations : List RemoveOperation) (document : Document α) :
    Option (Document α) :=
  operations.foldlM (fun current operation => operation.apply current) document

end KuryrKubernetes.Data
