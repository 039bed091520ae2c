import Mathlib.Data.List.Basic

/-!
# Queries of a URL

Texts in the query of a URL: a byte of the UTF-8 form of a text is written as `%` and two
digits unless it stands for itself, and a space may be written as `+`.  Encoded texts are
put next to each other, so that decoding is described by what a part adds to the bytes of
whatever follows it.
-/

namespace KuryrKubernetes.Query

/-! ## Bytes -/

/-- The bytes of a text. -/
def utf8 (text : List Char) : List UInt8 :=
  text.flatMap String.utf8EncodeChar

@[simp]
theorem utf8_append (first second : List Char) : utf8 (first ++ second) = utf8 first ++ utf8 second :=
  List.flatMap_append

/-- The text with the bytes. -/
def ofUtf8 (bytes : List UInt8) : Option String :=
  String.fromUTF8? bytes.toByteArray

theorem ofUtf8_utf8 (text : String) : ofUtf8 (utf8 text.toList) = some text := by
  have bytes : (utf8 text.toList).toByteArray = text.toByteArray := String.utf8Encode_toList
  unfold ofUtf8
  rw [bytes, String.fromUTF8?, dif_pos text.isValidUTF8]
  rfl

/-! ## Digits -/

/-- The digit for a number below 16. -/
def hexDigit (value : Nat) : Char :=
  if value < 10 then Char.ofNat (48 + value) else Char.ofNat (55 + value)

/-- The number of a digit; small letters are digits too. -/
def hexValue (digit : Char) : Option Nat :=
  if '0' ≤ digit ∧ digit ≤ '9' then some (digit.toNat - 48)
  else if 'A' ≤ digit ∧ digit ≤ 'F' then some (digit.toNat - 55)
  else if 'a' ≤ digit ∧ digit ≤ 'f' then some (digit.toNat - 87)
  else none

theorem hexValue_hexDigit : ∀ value < 16, hexValue (hexDigit value) = some value := by
  decide

/-! ## Encoding -/

/-- Letters, digits and `_.-~` stand for themselves. -/
def isUnreserved (byte : UInt8) : Bool :=
  let char := Char.ofNat byte.toNat
  char.isAlphanum || char = '_' || char = '.' || char = '-' || char = '~'

/-- `%` and two digits. -/
def escape (byte : UInt8) : List Char :=
  ['%', hexDigit (byte.toNat / 16), hexDigit (byte.toNat % 16)]

/-- A byte as `quote` writes it: `/` stands for itself. -/
def quoteByte (byte : UInt8) : List Char :=
  if isUnreserved byte ∨ byte = 47 then [Char.ofNat byte.toNat] else escape byte

/-- A byte as `quote_plus` writes it. -/
def quotePlusByte (byte : UInt8) : List Char :=
  if byte = 32 then ['+']
  else if isUnreserved byte then [Char.ofNat byte.toNat]
  else escape byte

/-- `quote` of `urllib.parse`. -/
def quote (text : String) : String :=
  String.ofList ((utf8 text.toList).flatMap quoteByte)

/-- `quote_plus` of `urllib.parse`. -/
def quotePlus (text : String) : String :=
  String.ofList ((utf8 text.toList).flatMap quotePlusByte)

/-- `urlencode` of `urllib.parse`. -/
def urlencode (pairs : List (String × String)) : String :=
  "&".intercalate (pairs.map fun pair => quotePlus pair.1 ++ "=" ++ quotePlus pair.2)

/-! ## Decoding -/

/-- The bytes that a text in a query stands for. -/
def unquote : List Char → Option (List UInt8)
  | [] => some []
  | char :: rest =>
      if char = '%' then
        match rest with
        | first :: second :: rest => do
            let high ← hexValue first
            let low ← hexValue second
            let bytes ← unquote rest
            return UInt8.ofNat (16 * high + low) :: bytes
        | _ => none
      else if char = '+' then
        (unquote rest).map (32 :: ·)
      else
        (unquote rest).map (String.utf8EncodeChar char ++ ·)

theorem unquote_cons_of_plain {char : Char} (plain : char ≠ '%' ∧ char ≠ '+') (rest : List Char) :
    unquote (char :: rest) = (unquote rest).map (String.utf8EncodeChar char ++ ·) := by
  cases rest with
  | nil => simp [unquote, plain]
  | cons first rest => cases rest <;> simp [unquote, plain]

theorem unquote_plus (rest : List Char) :
    unquote ('+' :: rest) = (unquote rest).map (32 :: ·) := by
  cases rest with
  | nil => rfl
  | cons first rest => cases rest <;> simp [unquote]

/-- The text that a text in a query stands for. -/
def decode (text : List Char) : Option String :=
  (unquote text).bind ofUtf8

/-- The value of the first parameter of the name; parameters are separated by `&`. -/
def parameter (name : String) (query : List Char) : Option String :=
  (query.splitOn '&').findSome? fun pair =>
    if decode (pair.takeWhile (· ≠ '=')) = some name then
      decode ((pair.dropWhile (· ≠ '=')).drop 1)
    else
      none

/-- The part of a query adds the bytes to whatever follows it. -/
def Encodes (part : List Char) (bytes : List UInt8) : Prop :=
  ∀ rest, unquote (part ++ rest) = (unquote rest).map (bytes ++ ·)

theorem encodes_nil : Encodes [] [] := by
  intro rest
  rw [List.nil_append]
  cases unquote rest <;> rfl

theorem Encodes.append {first second : List Char} {bytes more : List UInt8}
    (head : Encodes first bytes) (tail : Encodes second more) :
    Encodes (first ++ second) (bytes ++ more) := by
  intro rest
  rw [List.append_assoc, head, tail, Option.map_map]
  congr 1
  funext last
  exact (List.append_assoc bytes more last).symm

theorem Encodes.flatMap {write : UInt8 → List Char} (each : ∀ byte, Encodes (write byte) [byte])
    (bytes : List UInt8) : Encodes (bytes.flatMap write) bytes := by
  induction bytes with
  | nil => exact encodes_nil
  | cons byte rest ih => exact (each byte).append ih

theorem Encodes.decode {part : List Char} {text : String}
    (encodes : Encodes part (utf8 text.toList)) : decode part = some text := by
  have bytes := encodes []
  rw [List.append_nil, unquote, Option.map_some, List.append_nil] at bytes
  rw [Query.decode, bytes]
  exact ofUtf8_utf8 text

/-- A character that stands for itself. -/
theorem encodes_char {char : Char} (plain : char ≠ '%' ∧ char ≠ '+') :
    Encodes [char] (utf8 [char]) := by
  intro rest
  have bytes : utf8 [char] = String.utf8EncodeChar char := List.flatMap_singleton _ _
  rw [List.singleton_append, unquote_cons_of_plain plain, bytes]

theorem encodes_escape (byte : UInt8) : Encodes (escape byte) [byte] := by
  intro rest
  have bound := byte.toNat_lt
  have high := hexValue_hexDigit (byte.toNat / 16) (by omega)
  have low := hexValue_hexDigit (byte.toNat % 16) (by omega)
  have whole : UInt8.ofNat (16 * (byte.toNat / 16) + byte.toNat % 16) = byte := by
    rw [Nat.div_add_mod]
    exact UInt8.ofNat_toNat
  simp only [escape, List.cons_append, List.nil_append, unquote, if_pos, high, low, whole,
    Option.bind_eq_bind, Option.bind_some]
  cases unquote rest <;> rfl

/-- What is unreserved, and `/`, is written as itself. -/
theorem utf8_ofNat_of_safe : ∀ value < 256,
    isUnreserved (UInt8.ofNat value) = true ∨ UInt8.ofNat value = 47 →
      utf8 [Char.ofNat value] = [UInt8.ofNat value] ∧
        Char.ofNat value ≠ '%' ∧ Char.ofNat value ≠ '+' ∧ Char.ofNat value ≠ '&' := by
  decide +kernel

theorem encodes_safe {byte : UInt8} (safe : isUnreserved byte = true ∨ byte = 47) :
    Encodes [Char.ofNat byte.toNat] [byte] := by
  have same : UInt8.ofNat byte.toNat = byte := UInt8.ofNat_toNat
  obtain ⟨bytes, notPercent, notPlus, _⟩ :=
    utf8_ofNat_of_safe byte.toNat byte.toNat_lt (same.symm ▸ safe)
  have encodes := encodes_char ⟨notPercent, notPlus⟩
  rw [bytes, same] at encodes
  exact encodes

theorem encodes_quoteByte (byte : UInt8) : Encodes (quoteByte byte) [byte] := by
  unfold quoteByte
  split
  · rename_i safe
    exact encodes_safe safe
  · exact encodes_escape byte

theorem encodes_quotePlusByte (byte : UInt8) : Encodes (quotePlusByte byte) [byte] := by
  unfold quotePlusByte
  split
  · rename_i space
    subst space
    exact unquote_plus
  · split
    · rename_i safe
      exact encodes_safe (.inl safe)
    · exact encodes_escape byte

theorem encodes_quote (text : String) : Encodes (quote text).toList (utf8 text.toList) := by
  rw [quote, String.toList_ofList]
  exact .flatMap encodes_quoteByte _

theorem encodes_quotePlus (text : String) : Encodes (quotePlus text).toList (utf8 text.toList) := by
  rw [quotePlus, String.toList_ofList]
  exact .flatMap encodes_quotePlusByte _

/-- Encoded parts with a text between them. -/
theorem encodes_intercalate {ι : Type*} {separator shown : List Char}
    (between : Encodes separator (utf8 shown)) {write text : ι → List Char} {items : List ι}
    (each : ∀ item ∈ items, Encodes (write item) (utf8 (text item))) :
    Encodes (separator.intercalate (items.map write)) (utf8 (shown.intercalate (items.map text))) := by
  induction items with
  | nil => exact encodes_nil
  | cons item items ih =>
      obtain ⟨first, others⟩ := List.forall_mem_cons.mp each
      cases items with
      | nil =>
          rw [List.map_singleton, List.map_singleton, List.intercalate_singleton,
            List.intercalate_singleton]
          exact first
      | cons next items =>
          rw [List.map_cons, List.map_cons, List.map_cons, List.map_cons,
            List.intercalate_cons_cons, List.intercalate_cons_cons, utf8_append, utf8_append]
          exact (first.append between).append (ih others)

theorem map_intercalate (change : Char → Char) (separator : List Char) (parts : List (List Char)) :
    (separator.intercalate parts).map change =
      (separator.map change).intercalate (parts.map (List.map change)) := by
  induction parts with
  | nil => rfl
  | cons part parts ih =>
      cases parts with
      | nil => simp
      | cons next parts =>
          rw [List.intercalate_cons_cons, List.map_append, List.map_append, ih]
          simp

/-! ## Parameters -/

/-- Characters that stand for themselves in a name or a value. -/
theorem encodes_plain {text : List Char} (plain : ∀ char ∈ text, char ≠ '%' ∧ char ≠ '+') :
    Encodes text (utf8 text) := by
  induction text with
  | nil => exact encodes_nil
  | cons char rest ih =>
      obtain ⟨first, others⟩ := List.forall_mem_cons.mp plain
      have bytes : utf8 (char :: rest) = utf8 [char] ++ utf8 rest := utf8_append [char] rest
      rw [bytes]
      exact (encodes_char first).append (ih others)

/-- The value of the only parameter. -/
theorem parameter_of_single {name : String} {value : List Char}
    (plain : ∀ char ∈ name.toList, char ≠ '%' ∧ char ≠ '+' ∧ char ≠ '=' ∧ char ≠ '&')
    (single : '&' ∉ value) : parameter name (name.toList ++ '=' :: value) = decode value := by
  have whole : '&' ∉ name.toList ++ '=' :: value := by
    rw [List.mem_append, List.mem_cons, not_or, not_or]
    exact ⟨fun listed => (plain _ listed).2.2.2 rfl, by decide, single⟩
  have named : decode name.toList = some name :=
    (encodes_plain fun char listed => ⟨(plain char listed).1, (plain char listed).2.1⟩).decode
  have before : ∀ char ∈ name.toList, decide (char ≠ '=') = true :=
    fun char listed => decide_eq_true (plain char listed).2.2.1
  have first : (name.toList ++ '=' :: value).takeWhile (· ≠ '=') = name.toList := by
    rw [List.takeWhile_append_of_pos before]
    simp
  have last : (name.toList ++ '=' :: value).dropWhile (· ≠ '=') = '=' :: value := by
    rw [List.dropWhile_append_of_pos before]
    simp
  rw [parameter, List.splitOn_eq_singleton whole, List.findSome?_singleton, first, last,
    if_pos named]
  rfl

/-- No digit is an `&`. -/
theorem hexDigit_ne_amp : ∀ value < 16, hexDigit value ≠ '&' := by
  decide

theorem amp_not_mem_escape (byte : UInt8) : '&' ∉ escape byte := by
  have bound := byte.toNat_lt
  have high := hexDigit_ne_amp (byte.toNat / 16) (by omega)
  have low := hexDigit_ne_amp (byte.toNat % 16) (by omega)
  simp [escape, high.symm, low.symm]

theorem amp_not_mem_safe {byte : UInt8} (safe : isUnreserved byte = true ∨ byte = 47) :
    '&' ∉ [Char.ofNat byte.toNat] := by
  have same : UInt8.ofNat byte.toNat = byte := UInt8.ofNat_toNat
  have differs := (utf8_ofNat_of_safe byte.toNat byte.toNat_lt (same.symm ▸ safe)).2.2.2
  rw [List.mem_singleton]
  exact differs.symm

theorem amp_not_mem_quote (text : String) : '&' ∉ (quote text).toList := by
  rw [quote, String.toList_ofList, List.mem_flatMap]
  rintro ⟨byte, _, listed⟩
  unfold quoteByte at listed
  split at listed
  · rename_i safe
    exact amp_not_mem_safe safe listed
  · exact amp_not_mem_escape byte listed

theorem amp_not_mem_quotePlus (text : String) : '&' ∉ (quotePlus text).toList := by
  rw [quotePlus, String.toList_ofList, List.mem_flatMap]
  rintro ⟨byte, _, listed⟩
  unfold quotePlusByte at listed
  split at listed
  · exact absurd listed (by decide)
  · split at listed
    · rename_i safe
      exact amp_not_mem_safe (.inl safe) listed
    · exact amp_not_mem_escape byte listed

end KuryrKubernetes.Query
