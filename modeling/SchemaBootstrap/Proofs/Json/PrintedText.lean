import Mathlib.Data.List.DropRight
import SchemaBootstrap.Proofs.Json.NumberTexts

/-! # Printed values are read back

What a value is printed as is read as one value (`Json.read?_pretty`): the value itself but for
its doubles, which are read with the two roundings of a decimal or as null if they are no numbers,
and for members under the name of an earlier one, of which the last one counts (`Json.reread`).
The integers must fit a machine word, as those of a program do (`Json.Fits`). A value without
doubles, whose objects do not repeat names, is read as it is (`Json.reread_of_exact`).
-/

namespace SchemaBootstrap

namespace Json

/-- No space is skipped in front of anything else. -/
theorem skipSpace_of_not_space {first : Char} (token : isSpace first = false) (rest : List Char) :
    skipSpace (first :: rest) = first :: rest := by
  unfold skipSpace
  rw [List.dropWhile_cons_of_neg (by rw [token]; exact Bool.false_ne_true)]

/-- Spaces are skipped at once. -/
theorem skipSpace_skipSpace (text : List Char) : skipSpace (skipSpace text) = skipSpace text :=
  List.dropWhile_idempotent ..

/-- The start of a line is white space. -/
theorem skipSpace_indent (level : Nat) (text : List Char) :
    skipSpace (indent level ++ text) = skipSpace text := by
  unfold skipSpace
  apply List.dropWhile_append_of_pos
  intro c member
  rcases List.mem_cons.mp member with rfl | blank
  · rfl
  · rw [(List.mem_replicate.mp blank).2]
    rfl

section Strings

/-- The code of a control character is read back. -/
theorem hexNumber?_control : ∀ code < 32,
    hexNumber? '0' '0' (hexDigit (code / 16)) (hexDigit code) = some code := by
  decide

/-- A character is read back from its escape. -/
theorem readString?_escapedChar (c : Char) (rest : List Char) :
    readString? (escapedChar c ++ rest) =
      (readString? rest).bind fun read => some (c :: read.1, read.2) := by
  unfold escapedChar
  split
  · next quote => subst quote; simp [readString?, shortEscape?]
  split
  · next escape => subst escape; simp [readString?, shortEscape?]
  split
  · next feed => subst feed; simp [readString?, shortEscape?]
  split
  · next carriage => subst carriage; simp [readString?, shortEscape?]
  split
  · next tab => subst tab; simp [readString?, shortEscape?]
  split
  · next back =>
      obtain rfl : c = '\x08' := Char.toNat_inj.mp back
      simp [readString?, shortEscape?]
  split
  · next page =>
      obtain rfl : c = '\x0c' := Char.toNat_inj.mp page
      simp [readString?, shortEscape?]
  split
  · next control =>
      have code := hexNumber?_control c.toNat control
      change readString? ('\\' :: 'u' :: '0' :: '0' :: _ :: _ :: rest) = _
      rw [readString?, code]
      have low : ¬(0xD800 ≤ c.toNat ∧ c.toNat < 0xDC00) := by omega
      have high : ¬(0xDC00 ≤ c.toNat ∧ c.toNat < 0xE000) := by omega
      simp only [Option.bind_eq_bind, Option.bind_some, if_neg low, if_neg high,
        Char.ofNat_toNat]
      rfl
  · next quote escape _ _ _ _ _ control =>
      change readString? (c :: rest) = _
      rw [readString?.eq_def]
      split
      all_goals simp_all

/-- The characters of a string are read back from their escapes. -/
theorem readString?_flatMap (chars rest : List Char) :
    readString? (chars.flatMap escapedChar ++ '"' :: rest) = some (chars, rest) := by
  induction chars with
  | nil => rw [List.flatMap_nil, List.nil_append, readString?]
  | cons c chars ih =>
      rw [List.flatMap_cons, List.append_assoc, readString?_escapedChar, ih]
      rfl

end Strings

mutual

/-- What is read of the text of a value. -/
def reread : Json → Json
  | .double value => (number? (doubleText value)).getD .null
  | .array elements => .array (rereadElements elements)
  | .object members => .object (rereadMembers [] members)
  | value => value

/-- What is read of the texts of elements. -/
def rereadElements : List Json → List Json
  | [] => []
  | element :: rest => reread element :: rereadElements rest

/-- What is read of the texts of members behind others that are read already. -/
def rereadMembers (before : List (String × Json)) : List (String × Json) → List (String × Json)
  | [] => before
  | (name, value) :: rest => rereadMembers (putMember name (reread value) before) rest

end

mutual

/-- Every integer in a value fits a machine word, with or without a sign. -/
def Fits : Json → Prop
  | .integer value => -2 ^ 63 ≤ value ∧ value < 2 ^ 64
  | .array elements => FitsElements elements
  | .object members => FitsMembers members
  | _ => True

/-- Every integer in the elements of an array fits a machine word. -/
def FitsElements : List Json → Prop
  | [] => True
  | element :: rest => Fits element ∧ FitsElements rest

/-- Every integer in the members of an object fits a machine word. -/
def FitsMembers : List (String × Json) → Prop
  | [] => True
  | (_, value) :: rest => Fits value ∧ FitsMembers rest

end

/-- What may follow a value: nothing that could belong to a number. -/
def Stops (rest : List Char) : Prop :=
  ∀ c ∈ rest.head?, isNumberChar c = false

theorem stops_indent (level : Nat) (rest : List Char) : Stops (indent level ++ rest) := by
  simp [Stops, indent, isNumberChar]

theorem stops_comma (rest : List Char) : Stops (',' :: rest) := by
  simp [Stops, isNumberChar]

/-- A value is read behind spaces as without them. -/
theorem readValue?_skipSpace (fuel : Nat) (text : List Char) :
    readValue? fuel (skipSpace text) = readValue? fuel text := by
  cases fuel with
  | zero => rfl
  | succ fuel => rw [readValue?, readValue?, skipSpace_skipSpace]

/-- What a number begins with is not what another value begins with. -/
theorem ne_of_begins {c other : Char} (begins : c.isDigit = true ∨ c = '-')
    (neither : other.isDigit = false ∧ other ≠ '-') : c ≠ other := by
  rintro rfl
  rcases begins with digit | minus
  · exact absurd digit (by rw [neither.1]; exact Bool.false_ne_true)
  · exact neither.2 minus

/-- No number begins with a space. -/
theorem not_isSpace_of_begins {c : Char} (begins : c.isDigit = true ∨ c = '-') :
    isSpace c = false := by
  unfold isSpace
  rw [decide_eq_false (ne_of_begins begins (by decide)),
    decide_eq_false (ne_of_begins begins (by decide)),
    decide_eq_false (ne_of_begins begins (by decide)),
    decide_eq_false (ne_of_begins begins (by decide))]
  rfl

/-- A text that begins with a digit or a minus sign is read as a number. -/
theorem readValue?_number {text rest : List Char} {value : Json} (number : NumberText text value)
    (stops : Stops rest) (fuel : Nat) :
    readValue? (fuel + 1) (text ++ rest) = some (value, rest) := by
  obtain ⟨taken, left⟩ := takeWhile_append_stop number.chars stops
  obtain ⟨first, others, rfl, begins⟩ := number.begins
  rw [readValue?, List.cons_append, skipSpace_of_not_space (not_isSpace_of_begins begins)]
  rw [List.cons_append] at taken left
  split
  · next same => exact absurd (List.cons.inj same).1 (ne_of_begins begins (by decide))
  · next same => exact absurd (List.cons.inj same).1 (ne_of_begins begins (by decide))
  · next same => exact absurd (List.cons.inj same).1 (ne_of_begins begins (by decide))
  · next same => exact absurd (List.cons.inj same).1 (ne_of_begins begins (by decide))
  · next same => exact absurd (List.cons.inj same).1 (ne_of_begins begins (by decide))
  · next same => exact absurd (List.cons.inj same).1 (ne_of_begins begins (by decide))
  · rw [taken, left, number.reads]
    rfl

/-- The text of a double that is no number. -/
theorem readValue?_null (fuel : Nat) (rest : List Char) :
    readValue? (fuel + 1) ("null".toList ++ rest) = some (.null, rest) := by
  rw [readValue?]
  rfl

/-- A printed text is read back as a value. -/
theorem readValue?_string (fuel : Nat) (value : String) (rest : List Char) :
    readValue? (fuel + 1) (stringText value ++ rest) = some (.string value, rest) := by
  rw [readValue?, stringText, List.cons_append, List.append_assoc,
    skipSpace_of_not_space (by decide)]
  change (readString? (value.toList.flatMap escapedChar ++ '"' :: rest)).map _ = _
  rw [readString?_flatMap, Option.map_some]
  dsimp only
  rw [String.ofList_toList]

/-- A double is read as a number, or as null if it is none. -/
theorem readValue?_double (fuel : Nat) (value : Double) {rest : List Char} (stops : Stops rest) :
    readValue? (fuel + 1) (doubleText value ++ rest) = some (reread (.double value), rest) := by
  cases finite : value.isNaN || value.isInfinite with
  | true =>
      have text : doubleText value = "null".toList := by
        rw [doubleText, finite]
        rfl
      rw [reread, text, readValue?_null]
      rfl
  | false =>
      obtain ⟨read, text⟩ := exists_numberText_double finite
      rw [reread, text.reads, readValue?_number text stops]
      rfl

/-- Elements are read behind spaces as without them. -/
theorem readElements?_skipSpace (fuel : Nat) (text : List Char) :
    readElements? fuel (skipSpace text) = readElements? fuel text := by
  cases fuel with
  | zero => rfl
  | succ fuel => rw [readElements?, readElements?, readValue?_skipSpace]

/-- Members are read behind spaces as without them. -/
theorem readMembers?_skipSpace (fuel : Nat) (before : List (String × Json)) (text : List Char) :
    readMembers? fuel before (skipSpace text) = readMembers? fuel before text := by
  cases fuel with
  | zero => rfl
  | succ fuel => rw [readMembers?, readMembers?, skipSpace_skipSpace]

/-- An array whose text does not end at once is read element by element. -/
theorem readValue?_array {text : List Char} {first : Char} {rest : List Char}
    (skipped : skipSpace text = first :: rest) (opens : first ≠ ']') (fuel : Nat) :
    readValue? (fuel + 1) ('[' :: text) =
      (readElements? fuel text).map fun read => (Json.array read.1, read.2) := by
  rw [readValue?, skipSpace_of_not_space (by decide)]
  simp only
  split
  · next ends => exact absurd (List.cons.inj (skipped.symm.trans ends)).1 opens
  · rw [readElements?_skipSpace]

/-- An object whose text does not end at once is read member by member. -/
theorem readValue?_object {text : List Char} {first : Char} {rest : List Char}
    (skipped : skipSpace text = first :: rest) (opens : first ≠ '\x7d') (fuel : Nat) :
    readValue? (fuel + 1) ('\x7b' :: text) =
      (readMembers? fuel [] text).map fun read => (Json.object read.1, read.2) := by
  rw [readValue?, skipSpace_of_not_space (by decide)]
  simp only
  split
  · next ends => exact absurd (List.cons.inj (skipped.symm.trans ends)).1 opens
  · rw [readMembers?_skipSpace]

/-- The last element stands in front of the closing bracket. -/
theorem readElements?_last {fuel : Nat} {text rest tail : List Char} {element : Json}
    (first : readValue? fuel text = some (element, rest)) (ends : skipSpace rest = ']' :: tail) :
    readElements? (fuel + 1) text = some ([element], tail) := by
  rw [readElements?, first, Option.bind_eq_bind, Option.bind_some]
  dsimp only
  rw [ends]
  rfl

/-- Behind a comma, more elements follow. -/
theorem readElements?_next {fuel : Nat} {text rest tail : List Char} {element : Json}
    (first : readValue? fuel text = some (element, rest)) (ends : skipSpace rest = ',' :: tail) :
    readElements? (fuel + 1) text =
      (readElements? fuel tail).bind fun read => some (element :: read.1, read.2) := by
  rw [readElements?, first, Option.bind_eq_bind, Option.bind_some]
  dsimp only
  rw [ends]
  rfl

/-- A member is read as its name and its value, and what follows says how to go on. -/
theorem readMembers?_member {fuel : Nat} {before : List (String × Json)} {name : String}
    {text rest tail : List Char} {value : Json} {next : Char}
    (read : readValue? fuel (' ' :: text) = some (value, rest))
    (follows : skipSpace rest = next :: tail) :
    readMembers? (fuel + 1) before (stringText name ++ ':' :: ' ' :: text) =
      if next = ',' then readMembers? fuel (putMember name value before) tail
      else if next = '\x7d' then some (putMember name value before, tail)
      else none := by
  rw [readMembers?, stringText, List.cons_append, List.append_assoc,
    skipSpace_of_not_space (by decide)]
  simp only [List.singleton_append, readString?_flatMap, Option.bind_eq_bind, Option.bind_some]
  rw [skipSpace_of_not_space (by decide)]
  simp only [read, Option.bind_some, follows, String.ofList_toList]
  split
  · next same =>
      cases same
      rw [if_pos rfl]
  · next same =>
      cases same
      rw [if_neg (by decide), if_pos rfl]
      rfl
  · next comma brace =>
      rw [if_neg fun same => comma tail (by rw [same]),
        if_neg fun same => brace tail (by rw [same])]

/-- What the text of a value begins with is neither white space nor the end of an array. -/
theorem exists_prettyChars (level : Nat) (value : Json) :
    ∃ first rest, prettyChars level value = first :: rest ∧ isSpace first = false ∧
      first ≠ ']' := by
  have number {first : Char} (begins : first.isDigit = true ∨ first = '-') :
      isSpace first = false ∧ first ≠ ']' :=
    ⟨not_isSpace_of_begins begins, ne_of_begins begins (by decide)⟩
  cases value with
  | null => exact ⟨'n', _, by rw [prettyChars]; rfl, by decide, by decide⟩
  | bool value =>
      cases value with
      | true => exact ⟨'t', _, by rw [prettyChars]; rfl, by decide, by decide⟩
      | false => exact ⟨'f', _, by rw [prettyChars]; rfl, by decide, by decide⟩
  | integer value =>
      cases value with
      | ofNat n =>
          obtain ⟨first, rest, text, digit⟩ := (Whole.toDigits n).exists_cons
          exact ⟨first, rest, by rw [prettyChars]; exact text, number (.inl digit)⟩
      | negSucc n => exact ⟨'-', _, by rw [prettyChars]; rfl, number (.inr rfl)⟩
  | double value =>
      rw [prettyChars]
      cases finite : value.isNaN || value.isInfinite with
      | true =>
          refine ⟨'n', ['u', 'l', 'l'], ?_, by decide, by decide⟩
          rw [doubleText, finite]
          rfl
      | false =>
          obtain ⟨read, text⟩ := exists_numberText_double finite
          obtain ⟨first, rest, text, begins⟩ := text.begins
          exact ⟨first, rest, text, number begins⟩
  | string value => exact ⟨'"', _, by rw [prettyChars]; rfl, by decide, by decide⟩
  | array elements =>
      cases elements with
      | nil => exact ⟨'[', _, by rw [prettyChars], by decide, by decide⟩
      | cons element rest => exact ⟨'[', _, by rw [prettyChars], by decide, by decide⟩
  | object members =>
      cases members with
      | nil => exact ⟨'\x7b', _, by rw [prettyChars], by decide, by decide⟩
      | cons member rest => exact ⟨'\x7b', _, by rw [prettyChars], by decide, by decide⟩

/-- Elements are printed line by line. -/
theorem prettyElements_cons (level : Nat) (element next : Json) (rest : List Json) :
    prettyElements level (element :: next :: rest) =
      indent level ++
        (prettyChars level element ++ ',' :: prettyElements level (next :: rest)) := by
  rw [prettyElements, List.append_assoc]

/-- Members are printed line by line. -/
theorem prettyMembers_cons (level : Nat) (name : String) (value : Json)
    (next : String × Json) (rest : List (String × Json)) :
    prettyMembers level ((name, value) :: next :: rest) =
      indent level ++ (stringText name ++ ':' :: ' ' ::
        (prettyChars level value ++ ',' :: prettyMembers level (next :: rest))) := by
  rw [prettyMembers, List.append_assoc]

theorem readValue?_indent (fuel level : Nat) (text : List Char) :
    readValue? fuel (indent level ++ text) = readValue? fuel text := by
  rw [← readValue?_skipSpace, skipSpace_indent, readValue?_skipSpace]

theorem readValue?_blank (fuel : Nat) (text : List Char) :
    readValue? fuel (' ' :: text) = readValue? fuel text := by
  have skipped : skipSpace (' ' :: text) = skipSpace text := rfl
  rw [← readValue?_skipSpace, skipped, readValue?_skipSpace]

theorem readMembers?_indent (fuel level : Nat) (before : List (String × Json))
    (text : List Char) : readMembers? fuel before (indent level ++ text) =
      readMembers? fuel before text := by
  rw [← readMembers?_skipSpace, skipSpace_indent, readMembers?_skipSpace]

/-- The elements of an array begin with the text of the first one. -/
theorem exists_prettyElements (level : Nat) (element : Json) (others : List Json) :
    ∃ behind, prettyElements level (element :: others) =
      indent level ++ (prettyChars level element ++ behind) := by
  cases others with
  | nil => exact ⟨[], by rw [prettyElements, List.append_nil]⟩
  | cons next rest => exact ⟨_, prettyElements_cons level element next rest⟩

/-- The members of an object begin with the name of the first one. -/
theorem exists_prettyMembers (level : Nat) (name : String) (value : Json)
    (others : List (String × Json)) :
    ∃ behind, prettyMembers level ((name, value) :: others) =
      indent level ++ (stringText name ++ behind) := by
  cases others with
  | nil => exact ⟨_, by rw [prettyMembers, List.append_assoc]⟩
  | cons next rest => exact ⟨_, prettyMembers_cons level name value next rest⟩

theorem length_indent_pos (level : Nat) : 0 < (indent level).length :=
  Nat.zero_lt_succ _

/-- With some fuel, printed texts of no more characters are read: values up to what may follow
them, elements and members up to the closing bracket or brace. -/
structure ReadsPrinted (fuel : Nat) : Prop where
  value : ∀ (value : Json) (level : Nat) (rest : List Char), Fits value → Stops rest →
    (prettyChars level value).length ≤ fuel →
    readValue? fuel (prettyChars level value ++ rest) = some (reread value, rest)
  elements : ∀ (element : Json) (others : List Json) (level close : Nat) (rest : List Char),
    FitsElements (element :: others) →
    (prettyElements level (element :: others)).length ≤ fuel →
    readElements? fuel (prettyElements level (element :: others) ++ (indent close ++ ']' :: rest)) =
      some (rereadElements (element :: others), rest)
  members : ∀ (before : List (String × Json)) (name : String) (value : Json)
    (others : List (String × Json)) (level close : Nat) (rest : List Char),
    FitsMembers ((name, value) :: others) →
    (prettyMembers level ((name, value) :: others)).length ≤ fuel →
    readMembers? fuel before
        (prettyMembers level ((name, value) :: others) ++ (indent close ++ '\x7d' :: rest)) =
      some (rereadMembers before ((name, value) :: others), rest)

namespace ReadsPrinted

variable {fuel : Nat}

/-- One more nesting is read with one more piece of fuel. -/
theorem value_succ (printed : ReadsPrinted fuel) (value : Json) (level : Nat) (rest : List Char)
    (fits : Fits value) (stops : Stops rest)
    (enough : (prettyChars level value).length ≤ fuel + 1) :
    readValue? (fuel + 1) (prettyChars level value ++ rest) = some (reread value, rest) := by
  cases value with
  | null => exact readValue?_null fuel rest
  | bool value =>
      cases value with
      | true => rw [readValue?]; rfl
      | false => rw [readValue?]; rfl
  | integer value => exact readValue?_number (numberText_integer fits.1 fits.2) stops fuel
  | double value => exact readValue?_double fuel value stops
  | string value => exact readValue?_string fuel value rest
  | array elements =>
      cases elements with
      | nil => rw [readValue?]; rfl
      | cons element others =>
          -- The opening bracket takes the piece of fuel that the elements have less.
          rw [prettyChars] at enough ⊢
          simp only [List.length_cons, List.length_append] at enough
          obtain ⟨behind, text⟩ := exists_prettyElements (level + 1) element others
          obtain ⟨first, chars, begins, token, opens⟩ := exists_prettyChars (level + 1) element
          have skipped : skipSpace (prettyElements (level + 1) (element :: others) ++
              (indent level ++ ']' :: rest)) =
              first :: (chars ++ behind ++ (indent level ++ ']' :: rest)) := by
            rw [text, begins, List.append_assoc, skipSpace_indent]
            exact skipSpace_of_not_space token _
          have read := printed.elements element others (level + 1) level rest fits (by omega)
          rw [List.cons_append, List.append_assoc, List.append_assoc]
          change readValue? _ ('[' :: (_ ++ (_ ++ ']' :: rest))) = _
          rw [readValue?_array skipped opens, read]
          rfl
  | object members =>
      cases members with
      | nil => rw [readValue?]; rfl
      | cons member others =>
          obtain ⟨name, value⟩ := member
          rw [prettyChars] at enough ⊢
          simp only [List.length_cons, List.length_append] at enough
          obtain ⟨behind, text⟩ := exists_prettyMembers (level + 1) name value others
          have skipped : skipSpace (prettyMembers (level + 1) ((name, value) :: others) ++
              (indent level ++ '\x7d' :: rest)) =
              stringText name ++ behind ++ (indent level ++ '\x7d' :: rest) := by
            rw [text, List.append_assoc, skipSpace_indent]
            exact skipSpace_of_not_space (by decide) _
          have read := printed.members [] name value others (level + 1) level rest fits (by omega)
          rw [List.cons_append, List.append_assoc, List.append_assoc]
          change readValue? _ ('\x7b' :: (_ ++ (_ ++ '\x7d' :: rest))) = _
          rw [readValue?_object skipped (by decide), read]
          rfl

/-- One more element is read with one more piece of fuel. -/
theorem elements_succ (printed : ReadsPrinted fuel) (element : Json) (others : List Json)
    (level close : Nat) (rest : List Char) (fits : FitsElements (element :: others))
    (enough : (prettyElements level (element :: others)).length ≤ fuel + 1) :
    readElements? (fuel + 1)
        (prettyElements level (element :: others) ++ (indent close ++ ']' :: rest)) =
      some (rereadElements (element :: others), rest) := by
  have line := length_indent_pos level
  cases others with
  | nil =>
      rw [prettyElements] at enough ⊢
      rw [List.length_append] at enough
      have read := printed.value element level (indent close ++ ']' :: rest) fits.1
        (stops_indent close _) (by omega)
      rw [← readValue?_indent fuel level] at read
      rw [List.append_assoc]
      refine readElements?_last read ?_
      rw [skipSpace_indent, skipSpace_of_not_space (by decide)]
  | cons next others =>
      rw [prettyElements_cons] at enough ⊢
      simp only [List.length_cons, List.length_append] at enough
      have read := printed.value element level (',' :: (prettyElements level (next :: others) ++
        (indent close ++ ']' :: rest))) fits.1 (stops_comma _) (by omega)
      have following := printed.elements next others level close rest fits.2 (by omega)
      rw [← readValue?_indent fuel level] at read
      rw [List.append_assoc, List.append_assoc, List.cons_append]
      rw [readElements?_next read (skipSpace_of_not_space (by decide) _), following]
      rfl

/-- One more member is read with one more piece of fuel. -/
theorem members_succ (printed : ReadsPrinted fuel) (before : List (String × Json)) (name : String)
    (value : Json) (others : List (String × Json)) (level close : Nat) (rest : List Char)
    (fits : FitsMembers ((name, value) :: others))
    (enough : (prettyMembers level ((name, value) :: others)).length ≤ fuel + 1) :
    readMembers? (fuel + 1) before
        (prettyMembers level ((name, value) :: others) ++ (indent close ++ '\x7d' :: rest)) =
      some (rereadMembers before ((name, value) :: others), rest) := by
  have line := length_indent_pos level
  cases others with
  | nil =>
      rw [prettyMembers] at enough ⊢
      simp only [List.length_cons, List.length_append] at enough
      have read := printed.value value level (indent close ++ '\x7d' :: rest) fits.1
        (stops_indent close _) (by omega)
      rw [← readValue?_blank] at read
      rw [List.append_assoc, List.append_assoc, readMembers?_indent]
      change readMembers? _ _ (stringText name ++ ':' :: ' ' ::
        (prettyChars level value ++ (indent close ++ '\x7d' :: rest))) = _
      have closes : skipSpace (indent close ++ '\x7d' :: rest) = '\x7d' :: rest := by
        rw [skipSpace_indent, skipSpace_of_not_space (by decide)]
      rw [readMembers?_member read closes, if_neg (by decide), if_pos rfl]
      rfl
  | cons next others =>
      obtain ⟨following, after⟩ := next
      rw [prettyMembers_cons] at enough ⊢
      simp only [List.length_cons, List.length_append] at enough
      have read := printed.value value level
        (',' :: (prettyMembers level ((following, after) :: others) ++
          (indent close ++ '\x7d' :: rest))) fits.1 (stops_comma _) (by omega)
      have others := printed.members (putMember name (reread value) before) following after others
        level close rest fits.2 (by omega)
      rw [← readValue?_blank] at read
      rw [List.append_assoc, List.append_assoc, readMembers?_indent, List.cons_append,
        List.cons_append, List.append_assoc, List.cons_append]
      rw [readMembers?_member read (skipSpace_of_not_space (by decide) _), if_pos rfl]
      exact others

end ReadsPrinted

/-- Printed texts are read with fuel for every character. -/
theorem readsPrinted (fuel : Nat) : ReadsPrinted fuel := by
  -- All three readings at once: each hands the text on to another one with less fuel.
  induction fuel with
  | zero =>
      -- No printed text is empty.
      refine ⟨fun value level rest _ _ enough => ?_,
        fun element others level close rest _ enough => ?_,
        fun before name value others level close rest _ enough => ?_⟩
      · obtain ⟨first, chars, text, -⟩ := exists_prettyChars level value
        rw [text] at enough
        exact absurd enough (Nat.not_succ_le_zero _)
      · obtain ⟨behind, text⟩ := exists_prettyElements level element others
        rw [text] at enough
        exact absurd enough (Nat.not_succ_le_zero _)
      · obtain ⟨behind, text⟩ := exists_prettyMembers level name value others
        rw [text] at enough
        exact absurd enough (Nat.not_succ_le_zero _)
  | succ fuel ih => exact ⟨ih.value_succ, ih.elements_succ, ih.members_succ⟩

/-- **A printed value is read back**: as one value that the text consists of, with the line feed
that ends it. -/
theorem read?_pretty {value : Json} (fits : Fits value) :
    read? (value.pretty ++ "\n") = some (reread value) := by
  have text : (value.pretty ++ "\n").toList = prettyChars 0 value ++ ['\n'] := by
    rw [pretty, String.toList_append, String.toList_ofList]
    rfl
  have feed : Stops ['\n'] := by
    simp [Stops, isNumberChar]
  have read := (readsPrinted (2 * (prettyChars 0 value ++ ['\n']).length + 2)).value value 0 ['\n']
    fits feed (by rw [List.length_append]; omega)
  unfold read?
  rw [text]
  dsimp only
  rw [read]
  rfl

section Rereading

variable {members : List (String × Json)}

/-- A member of a new name is put behind the others. -/
theorem putMember_of_not_mem {name : String} (value : Json)
    (fresh : name ∉ members.map Prod.fst) :
    putMember name value members = members ++ [(name, value)] := by
  induction members with
  | nil => rfl
  | cons member rest ih =>
      rw [List.map_cons, List.mem_cons, not_or] at fresh
      rw [putMember, if_neg (Ne.symm fresh.1), ih fresh.2, List.cons_append]

/-- Members under different names are read one by one. -/
theorem rereadMembers_of_nodup (before : List (String × Json))
    (distinct : ((before ++ members).map Prod.fst).Nodup) :
    rereadMembers before members =
      before ++ members.map fun member => (member.1, reread member.2) := by
  induction members generalizing before with
  | nil => rw [rereadMembers, List.map_nil, List.append_nil]
  | cons member rest ih =>
      obtain ⟨name, value⟩ := member
      have fresh : name ∉ before.map Prod.fst := by
        rw [List.map_append, List.map_cons, List.nodup_append] at distinct
        exact fun old => distinct.2.2 name old name (List.mem_cons_self ..) rfl
      rw [rereadMembers, putMember_of_not_mem (reread value) fresh, ih _ ?_, List.map_cons,
        List.append_assoc]
      · rfl
      · simpa using distinct

/-- A member of an object whose names are different is read. -/
theorem member?_reread (distinct : (members.map Prod.fst).Nodup) (name : String) :
    (reread (.object members)).member? name = ((Json.object members).member? name).map reread := by
  rw [reread, rereadMembers_of_nodup [] distinct, List.nil_append]
  change (members.map fun member => (member.1, reread member.2)).lookup name =
    (members.lookup name).map reread
  induction members with
  | nil => rfl
  | cons member rest ih =>
      rw [List.map_cons, List.lookup_cons, List.lookup_cons]
      cases name == member.1 with
      | true => rfl
      | false => exact ih (List.nodup_cons.mp distinct).2

mutual

/-- A value without doubles, whose integers fit a machine word and whose objects do not repeat
names. -/
def Exact : Json → Prop
  | .integer value => -2 ^ 63 ≤ value ∧ value < 2 ^ 64
  | .double _ => False
  | .array elements => ExactElements elements
  | .object members => (members.map Prod.fst).Nodup ∧ ExactMembers members
  | _ => True

/-- Elements that are exact. -/
def ExactElements : List Json → Prop
  | [] => True
  | element :: rest => Exact element ∧ ExactElements rest

/-- Members whose values are exact. -/
def ExactMembers : List (String × Json) → Prop
  | [] => True
  | (_, value) :: rest => Exact value ∧ ExactMembers rest

end

mutual

/-- An exact document fits. -/
theorem fits_of_exact (value : Json) (exact : Exact value) : Fits value := by
  cases value with
  | integer value => exact exact
  | double value => exact False.elim exact
  | array elements => exact fitsElements_of_exact elements exact
  | object members => exact fitsMembers_of_exact members exact.2
  | null => trivial
  | bool value => trivial
  | string value => trivial

theorem fitsElements_of_exact (elements : List Json) (exact : ExactElements elements) :
    FitsElements elements := by
  cases elements with
  | nil => trivial
  | cons element rest =>
      exact ⟨fits_of_exact element exact.1, fitsElements_of_exact rest exact.2⟩

theorem fitsMembers_of_exact (members : List (String × Json)) (exact : ExactMembers members) :
    FitsMembers members := by
  cases members with
  | nil => trivial
  | cons member rest =>
      exact ⟨fits_of_exact member.2 exact.1, fitsMembers_of_exact rest exact.2⟩

end

mutual

/-- An exact value is read back as it is. -/
theorem reread_of_exact (value : Json) (exact : Exact value) : reread value = value := by
  cases value with
  | double value => exact False.elim exact
  | array elements => rw [reread, rereadElements_of_exact elements exact]
  | object members =>
      rw [reread, rereadMembers_of_nodup [] exact.1, List.nil_append,
        map_reread_of_exact members exact.2]
  | null => rfl
  | bool value => rfl
  | integer value => rfl
  | string value => rfl

/-- Exact elements are read back as they are. -/
theorem rereadElements_of_exact (elements : List Json) (exact : ExactElements elements) :
    rereadElements elements = elements := by
  cases elements with
  | nil => rfl
  | cons element rest =>
      rw [rereadElements, reread_of_exact element exact.1, rereadElements_of_exact rest exact.2]

/-- Exact members are read back as they are. -/
theorem map_reread_of_exact (members : List (String × Json)) (exact : ExactMembers members) :
    (members.map fun member => (member.1, reread member.2)) = members := by
  cases members with
  | nil => rfl
  | cons member rest =>
      obtain ⟨name, value⟩ := member
      rw [List.map_cons, reread_of_exact value exact.1, map_reread_of_exact rest exact.2]

end

end Rereading

end Json

end SchemaBootstrap
