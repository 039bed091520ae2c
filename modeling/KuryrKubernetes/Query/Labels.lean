import Mathlib.Data.List.Basic

/-!
# Label selectors as text

The grammar of a label selector in a query: requirements separated by commas, each of them
`KEY`, `!KEY`, `KEY=VALUE`, `KEY==VALUE`, `KEY!=VALUE`, `KEY in (VALUES)` or
`KEY notin (VALUES)`.  White space separates words, a value may be empty, and a text without
requirements selects everything.
-/

namespace KuryrKubernetes.Query

/-! ## Requirements -/

/-- What is asked of the value of a label. -/
inductive Test where
  | present
  | absent
  | among (values : List String)
  | notAmong (values : List String)
  deriving DecidableEq

structure Requirement where
  key : String
  test : Test
  deriving DecidableEq

/-- Labels meet a requirement; with `notin` and `!=` the label need not be there. -/
def Requirement.Holds (labels : String → Option String) (requirement : Requirement) : Prop :=
  match requirement.test with
  | .present => (labels requirement.key).isSome
  | .absent => (labels requirement.key).isNone
  | .among values => ∃ value ∈ values, labels requirement.key = some value
  | .notAmong values => ∀ value ∈ values, labels requirement.key ≠ some value

/-! ## Tokens -/

inductive Token where
  | word (chars : List Char)
  | comma
  | opening
  | closing
  | equals
  | bang
  | other (char : Char)
  deriving DecidableEq

/-- White space. -/
def isBlank (char : Char) : Bool :=
  char = ' ' || char = '\t'

/-- Characters of keys and values. -/
def isWordChar (char : Char) : Bool :=
  char.isAlphanum || char = '-' || char = '_' || char = '.' || char = '/'

/-- A text of such characters only. -/
def IsWord (text : List Char) : Prop :=
  ∀ char ∈ text, isWordChar char = true

instance (text : List Char) : Decidable (IsWord text) :=
  decidable_of_iff (text.all isWordChar = true) List.all_eq_true

/-- The token of a character outside of words. -/
def Token.ofChar (char : Char) : Token :=
  if char = ',' then .comma
  else if char = '(' then .opening
  else if char = ')' then .closing
  else if char = '=' then .equals
  else if char = '!' then .bang
  else .other char

/-- The end of a word, if one has begun. -/
def flush : List Char → List Token
  | [] => []
  | char :: rest => [.word (char :: rest)]

/-- The tokens of a text after the beginning of a word. -/
def lexFrom (word : List Char) : List Char → List Token
  | [] => flush word
  | char :: rest =>
      if isWordChar char then
        lexFrom (word ++ [char]) rest
      else if isBlank char then
        flush word ++ lexFrom [] rest
      else
        flush word ++ .ofChar char :: lexFrom [] rest

/-- The tokens of a text. -/
def lex (text : List Char) : List Token :=
  lexFrom [] text

theorem lexFrom_of_isWord {chars : List Char} (isWord : IsWord chars) (word rest : List Char) :
    lexFrom word (chars ++ rest) = lexFrom (word ++ chars) rest := by
  induction chars generalizing word with
  | nil => rw [List.nil_append, List.append_nil]
  | cons char chars ih =>
      obtain ⟨first, others⟩ := List.forall_mem_cons.mp isWord
      rw [List.cons_append, lexFrom, if_pos first, ih others, List.append_assoc,
        List.singleton_append]

/-- A word is one token, or none. -/
theorem lex_of_isWord {text : List Char} (isWord : IsWord text) : lex text = flush text := by
  have whole := lexFrom_of_isWord isWord [] []
  rw [List.append_nil, List.nil_append] at whole
  exact whole

/-- A blank only ends a word. -/
theorem lexFrom_append_blank {blank : Char} (isBlank : isBlank blank = true)
    (outside : isWordChar blank = false) (word first rest : List Char) :
    lexFrom word (first ++ blank :: rest) = lexFrom word first ++ lex rest := by
  induction first generalizing word with
  | nil =>
      rw [List.nil_append, lexFrom, lexFrom, outside, isBlank]
      rfl
  | cons char first ih =>
      rw [List.cons_append, lexFrom, lexFrom]
      split
      · exact ih _
      · split
        · rw [ih, List.append_assoc]
        · rw [ih, List.append_assoc, List.cons_append]

/-- Another character ends a word and is a token itself. -/
theorem lexFrom_append_symbol {symbol : Char} (visible : isBlank symbol = false)
    (outside : isWordChar symbol = false) (word first rest : List Char) :
    lexFrom word (first ++ symbol :: rest) = lexFrom word first ++ .ofChar symbol :: lex rest := by
  induction first generalizing word with
  | nil =>
      rw [List.nil_append, lexFrom, lexFrom, outside, visible]
      rfl
  | cons char first ih =>
      rw [List.cons_append, lexFrom, lexFrom]
      split
      · exact ih _
      · split
        · rw [ih, List.append_assoc]
        · rw [ih, List.append_assoc, List.cons_append]

theorem lex_append_space (first rest : List Char) :
    lex (first ++ ' ' :: rest) = lex first ++ lex rest :=
  lexFrom_append_blank rfl rfl [] first rest

theorem lex_append_comma (first rest : List Char) :
    lex (first ++ ',' :: rest) = lex first ++ .comma :: lex rest :=
  lexFrom_append_symbol rfl rfl [] first rest

/-! ## Parsing -/

/-- The tokens between commas that are not in parentheses. -/
def segments (inside : Bool) : List Token → List (List Token)
  | [] => [[]]
  | .comma :: rest =>
      if inside then
        (segments true rest).modifyHead (.comma :: ·)
      else
        [] :: segments false rest
  | .opening :: rest => (segments true rest).modifyHead (.opening :: ·)
  | .closing :: rest => (segments false rest).modifyHead (.closing :: ·)
  | token :: rest => (segments inside rest).modifyHead (token :: ·)

/-- A value, which may be empty. -/
def parseValue : List Token → Option String
  | [] => some ""
  | [.word chars] => some (String.ofList chars)
  | _ => none

/-- What follows a key. -/
def parseRestriction (key : String) : List Token → Option Requirement
  | [] => some ⟨key, .present⟩
  | .equals :: .equals :: rest => (parseValue rest).map fun value => ⟨key, .among [value]⟩
  | .equals :: rest => (parseValue rest).map fun value => ⟨key, .among [value]⟩
  | .bang :: .equals :: rest => (parseValue rest).map fun value => ⟨key, .notAmong [value]⟩
  | .word operator :: .opening :: rest =>
      if rest.getLast? = some .closing then do
        let values ← (rest.dropLast.splitOn .comma).mapM parseValue
        if operator = ['i', 'n'] then some ⟨key, .among values⟩
        else if operator = ['n', 'o', 't', 'i', 'n'] then some ⟨key, .notAmong values⟩
        else none
      else
        none
  | _ => none

def parseRequirement : List Token → Option Requirement
  | [.bang, .word key] => some ⟨String.ofList key, .absent⟩
  | .word key :: rest => parseRestriction (String.ofList key) rest
  | _ => none

/-- The requirements of a label selector. -/
def parseSelector (text : String) : Option (List Requirement) :=
  let tokens := lex text.toList
  if tokens = [] then some [] else (segments false tokens).mapM parseRequirement

/-- The tokens are read as the requirements, also with others after a comma. -/
def Reads (tokens : List Token) (requirements : List Requirement) : Prop :=
  ∃ pieces, segments false tokens = pieces ∧
    (∀ rest, segments false (tokens ++ .comma :: rest) = pieces ++ segments false rest) ∧
    pieces.mapM parseRequirement = some requirements

/-- The tokens are not split. -/
def Whole (tokens : List Token) : Prop :=
  ∀ rest, segments false (tokens ++ rest) = (segments false rest).modifyHead (tokens ++ ·)

theorem Whole.reads {tokens : List Token} (whole : Whole tokens) {requirement : Requirement}
    (parsed : parseRequirement tokens = some requirement) : Reads tokens [requirement] := by
  refine ⟨[tokens], ?_, ?_, ?_⟩
  · have alone := whole []
    rw [List.append_nil] at alone
    rw [alone]
    simp [segments]
  · intro rest
    rw [whole]
    simp [segments]
  · simp [parsed]

theorem Reads.comma {first second : List Token} {requirements more : List Requirement}
    (head : Reads first requirements) (tail : Reads second more) :
    Reads (first ++ .comma :: second) (requirements ++ more) := by
  obtain ⟨pieces, _, splitFirst, parsedFirst⟩ := head
  obtain ⟨others, alone, splitSecond, parsedSecond⟩ := tail
  refine ⟨pieces ++ others, ?_, ?_, ?_⟩
  · rw [splitFirst, alone]
  · intro rest
    rw [List.append_assoc, List.cons_append, splitFirst, splitSecond, List.append_assoc]
  · rw [List.mapM_append, parsedFirst, parsedSecond]
    rfl

/-- The requirements are those of the selector. -/
theorem Reads.parseSelector {text : String} {requirements : List Requirement}
    (reads : Reads (lex text.toList) requirements) :
    parseSelector text = some requirements := by
  obtain ⟨pieces, alone, _, parsed⟩ := reads
  unfold Query.parseSelector
  dsimp only
  split
  · rename_i nothing
    rw [nothing] at alone
    subst alone
    cases parsed
  · rw [alone]
    exact parsed

/-! ## Texts of requirements -/

theorem flush_of_ne_nil {word : List Char} (some_ : word ≠ []) : flush word = [.word word] := by
  cases word with
  | nil => exact absurd rfl some_
  | cons char rest => rfl

theorem parseValue_flush (word : List Char) : parseValue (flush word) = some (String.ofList word) := by
  cases word <;> rfl

theorem segments_cons {inside : Bool} {token : Token}
    (plain : token ≠ .comma ∧ token ≠ .opening ∧ token ≠ .closing) (rest : List Token) :
    segments inside (token :: rest) = (segments inside rest).modifyHead (token :: ·) := by
  obtain ⟨comma, opening, closing⟩ := plain
  cases token with
  | comma => exact absurd rfl comma
  | opening => exact absurd rfl opening
  | closing => exact absurd rfl closing
  | _ => rfl

/-- Tokens without commas and parentheses. -/
theorem whole_of_plain {tokens : List Token}
    (plain : ∀ token ∈ tokens, token ≠ .comma ∧ token ≠ .opening ∧ token ≠ .closing) :
    Whole tokens := by
  intro rest
  induction tokens with
  | nil => cases found : segments false rest <;> simp [found]
  | cons token tokens ih =>
      obtain ⟨first, others⟩ := List.forall_mem_cons.mp plain
      rw [List.cons_append, segments_cons first, ih others, List.modifyHead_modifyHead]
      rfl

/-- Up to the end of the parentheses nothing is split. -/
theorem segments_true {tokens : List Token}
    (level : ∀ token ∈ tokens, token ≠ .opening ∧ token ≠ .closing) (rest : List Token) :
    segments true (tokens ++ .closing :: rest) =
      (segments false rest).modifyHead (tokens ++ .closing :: ·) := by
  induction tokens with
  | nil => rfl
  | cons token tokens ih =>
      obtain ⟨first, others⟩ := List.forall_mem_cons.mp level
      have step : segments true (token :: (tokens ++ .closing :: rest)) =
          (segments true (tokens ++ .closing :: rest)).modifyHead (token :: ·) := by
        by_cases comma : token = .comma
        · subst comma
          rfl
        · exact segments_cons ⟨comma, first⟩ _
      rw [List.cons_append, step, ih others, List.modifyHead_modifyHead]
      rfl

/-- Plain tokens before others in parentheses. -/
theorem whole_of_parenthesized {before tokens : List Token}
    (plain : ∀ token ∈ before, token ≠ .comma ∧ token ≠ .opening ∧ token ≠ .closing)
    (level : ∀ token ∈ tokens, token ≠ .opening ∧ token ≠ .closing) :
    Whole (before ++ .opening :: (tokens ++ [.closing])) := by
  intro rest
  have inside : segments false (.opening :: (tokens ++ .closing :: rest)) =
      (segments false rest).modifyHead (.opening :: (tokens ++ [.closing]) ++ ·) := by
    rw [segments, segments_true level, List.modifyHead_modifyHead]
    congr 1
    funext last
    simp
  have split : before ++ .opening :: (tokens ++ [.closing]) ++ rest =
      before ++ .opening :: (tokens ++ .closing :: rest) := by simp
  rw [split, whole_of_plain plain, inside, List.modifyHead_modifyHead]
  congr 1
  funext last
  simp

variable {key value operator : List Char}

theorem plain_of_mem_flush {word : List Char} {token : Token} (listed : token ∈ flush word) :
    token ≠ .comma ∧ token ≠ .opening ∧ token ≠ .closing := by
  cases word with
  | nil => cases listed
  | cons char rest =>
      rw [List.mem_singleton.mp listed]
      exact ⟨Token.noConfusion, Token.noConfusion, Token.noConfusion⟩

/-- `KEY`. -/
theorem reads_key (isKey : IsWord key) (some_ : key ≠ []) :
    Reads (lex key) [⟨String.ofList key, .present⟩] := by
  have whole : Whole (lex key) := by
    rw [lex_of_isWord isKey]
    exact whole_of_plain fun token listed => plain_of_mem_flush listed
  apply whole.reads
  rw [lex_of_isWord isKey, flush_of_ne_nil some_]
  rfl

/-- `!KEY`. -/
theorem reads_bang (isKey : IsWord key) (some_ : key ≠ []) :
    Reads (lex ('!' :: key)) [⟨String.ofList key, .absent⟩] := by
  have tokens : lex ('!' :: key) = [.bang, .word key] := by
    rw [← flush_of_ne_nil some_, ← lex_of_isWord isKey]
    exact lexFrom_append_symbol rfl rfl [] [] key
  rw [tokens]
  apply Whole.reads
  · apply whole_of_plain
    simp
  · rfl

/-- `KEY=VALUE`. -/
theorem reads_equals (isKey : IsWord key) (some_ : key ≠ []) (isValue : IsWord value) :
    Reads (lex (key ++ '=' :: value))
      [⟨String.ofList key, .among [String.ofList value]⟩] := by
  have tokens : lex (key ++ '=' :: value) = .word key :: .equals :: flush value := by
    have split : lex (key ++ '=' :: value) = lex key ++ .equals :: lex value :=
      lexFrom_append_symbol rfl rfl [] key value
    rw [split, lex_of_isWord isKey, flush_of_ne_nil some_, lex_of_isWord isValue]
    rfl
  rw [tokens]
  apply Whole.reads
  · apply whole_of_plain
    intro token listed
    rcases List.mem_cons.mp listed with rfl | listed
    · exact ⟨Token.noConfusion, Token.noConfusion, Token.noConfusion⟩
    · rcases List.mem_cons.mp listed with rfl | listed
      · exact ⟨Token.noConfusion, Token.noConfusion, Token.noConfusion⟩
      · exact plain_of_mem_flush listed
  · cases value <;> rfl

/-- The tokens of values with commas between them. -/
theorem lex_intercalate {blanks : List Char} (blank : ∀ text, lex (blanks ++ text) = lex text)
    (texts : List (List Char)) :
    lex ((',' :: blanks).intercalate texts) = [.comma].intercalate (texts.map lex) := by
  induction texts with
  | nil => rfl
  | cons text texts ih =>
      cases texts with
      | nil => simp
      | cons next texts =>
          rw [List.intercalate_cons_cons, List.append_assoc, List.cons_append, lex_append_comma,
            blank, ih]
          simp

theorem lex_space (text : List Char) : lex ([' '] ++ text) = lex text :=
  lex_append_space [] text

theorem parse_values {values : List (List Char)} (areValues : ∀ value ∈ values, IsWord value)
    (some_ : values ≠ []) :
    ((lex ([',', ' '].intercalate values)).splitOn .comma).mapM parseValue =
      some (values.map String.ofList) := by
  have tokens : values.map lex = values.map flush :=
    List.map_congr_left fun value listed => lex_of_isWord (areValues value listed)
  have apart : ∀ tokens ∈ values.map flush, Token.comma ∉ tokens := by
    intro tokens listed present
    obtain ⟨value, _, rfl⟩ := List.mem_map.mp listed
    exact (plain_of_mem_flush present).1 rfl
  have several : values.map flush ≠ [] := by simpa using some_
  have each : parseValue ∘ flush = fun value => pure (String.ofList value) :=
    funext parseValue_flush
  rw [lex_intercalate lex_space, tokens, List.splitOn_intercalate _ apart several, List.mapM_map,
    each, List.mapM_pure]
  rfl

/-- Values in parentheses have no parentheses themselves. -/
theorem level_of_mem_lex {values : List (List Char)} (areValues : ∀ value ∈ values, IsWord value)
    {token : Token} (listed : token ∈ lex ([',', ' '].intercalate values)) :
    token ≠ .opening ∧ token ≠ .closing := by
  rw [lex_intercalate lex_space] at listed
  induction values with
  | nil => cases listed
  | cons value values ih =>
      obtain ⟨first, others⟩ := List.forall_mem_cons.mp areValues
      have inFirst : token ∈ lex value → token ≠ .opening ∧ token ≠ .closing := by
        rw [lex_of_isWord first]
        exact fun present => (plain_of_mem_flush present).2
      cases values with
      | nil =>
          rw [List.map_singleton, List.intercalate_singleton] at listed
          exact inFirst listed
      | cons next values =>
          rw [List.map_cons, List.map_cons, List.intercalate_cons_cons, List.append_assoc,
            List.mem_append, List.mem_append, List.mem_singleton] at listed
          rcases listed with listed | rfl | listed
          · exact inFirst listed
          · exact ⟨Token.noConfusion, Token.noConfusion⟩
          · exact ih others listed

/-- The text of a key, an operator and values in parentheses. -/
def parenthesized (key operator : List Char) (values : List (List Char)) : List Char :=
  key ++ ' ' :: (operator ++ ' ' :: '(' :: ([',', ' '].intercalate values ++ [')']))

/-- What is read of such a text is what the tokens in the parentheses give. -/
theorem reads_parenthesized {values : List (List Char)} {requirement : Requirement}
    (isKey : IsWord key) (some_ : key ≠ []) (isOperator : IsWord operator)
    (named : operator ≠ []) (areValues : ∀ value ∈ values, IsWord value)
    (parsed : parseRestriction (String.ofList key)
      (.word operator :: .opening :: (lex ([',', ' '].intercalate values) ++ [.closing])) =
        some requirement) :
    Reads (lex (parenthesized key operator values)) [requirement] := by
  have closed : lex ([',', ' '].intercalate values ++ [')']) =
      lex ([',', ' '].intercalate values) ++ [.closing] :=
    lexFrom_append_symbol rfl rfl [] _ []
  have opened : lex ('(' :: ([',', ' '].intercalate values ++ [')'])) =
      .opening :: (lex ([',', ' '].intercalate values) ++ [.closing]) := by
    rw [← closed]
    exact lexFrom_append_symbol rfl rfl [] [] _
  have tokens : lex (parenthesized key operator values) =
      [.word key, .word operator] ++
        .opening :: (lex ([',', ' '].intercalate values) ++ [.closing]) := by
    rw [parenthesized, lex_append_space, lex_append_space, opened, lex_of_isWord isKey,
      flush_of_ne_nil some_, lex_of_isWord isOperator, flush_of_ne_nil named]
    rfl
  rw [tokens]
  apply Whole.reads
  · apply whole_of_parenthesized
    · simp
    · exact fun token listed => level_of_mem_lex areValues listed
  · exact parsed

theorem parseRestriction_parenthesized (keyName : String) (operator : List Char)
    {values : List (List Char)} (areValues : ∀ value ∈ values, IsWord value)
    (several : values ≠ []) :
    parseRestriction keyName
      (.word operator :: .opening :: (lex ([',', ' '].intercalate values) ++ [.closing])) =
        if operator = ['i', 'n'] then some ⟨keyName, .among (values.map String.ofList)⟩
        else if operator = ['n', 'o', 't', 'i', 'n'] then
          some ⟨keyName, .notAmong (values.map String.ofList)⟩
        else none := by
  rw [parseRestriction, List.getLast?_concat, if_pos rfl, List.dropLast_concat,
    parse_values areValues several]
  rfl

/-- `KEY in (VALUES)`. -/
theorem reads_in {values : List (List Char)} (isKey : IsWord key) (some_ : key ≠ [])
    (areValues : ∀ value ∈ values, IsWord value) (several : values ≠ []) :
    Reads (lex (parenthesized key ['i', 'n'] values))
      [⟨String.ofList key, .among (values.map String.ofList)⟩] := by
  apply reads_parenthesized isKey some_ (by decide) (by decide) areValues
  rw [parseRestriction_parenthesized _ _ areValues several, if_pos rfl]

/-- `KEY notin (VALUES)`. -/
theorem reads_notin {values : List (List Char)} (isKey : IsWord key) (some_ : key ≠ [])
    (areValues : ∀ value ∈ values, IsWord value) (several : values ≠ []) :
    Reads (lex (parenthesized key ['n', 'o', 't', 'i', 'n'] values))
      [⟨String.ofList key, .notAmong (values.map String.ofList)⟩] := by
  apply reads_parenthesized isKey some_ (by decide) (by decide) areValues
  rw [parseRestriction_parenthesized _ _ areValues several, if_neg (by decide), if_pos rfl]

/-- Texts with commas between them, each of them for one requirement. -/
theorem reads_intercalate {ι : Type*} {blanks : List Char}
    (blank : ∀ text, lex (blanks ++ text) = lex text) {write : ι → List Char}
    {requirement : ι → Requirement} {items : List ι}
    (each : ∀ item ∈ items, Reads (lex (write item)) [requirement item]) (several : items ≠ []) :
    Reads (lex ((',' :: blanks).intercalate (items.map write))) (items.map requirement) := by
  induction items with
  | nil => exact absurd rfl several
  | cons item items ih =>
      obtain ⟨first, others⟩ := List.forall_mem_cons.mp each
      cases items with
      | nil =>
          rw [List.map_singleton, List.intercalate_singleton]
          exact first
      | cons next items =>
          rw [List.map_cons, List.map_cons, List.intercalate_cons_cons, List.append_assoc,
            List.cons_append, lex_append_comma, blank]
          exact first.comma (ih others (List.cons_ne_nil next items))

end KuryrKubernetes.Query
