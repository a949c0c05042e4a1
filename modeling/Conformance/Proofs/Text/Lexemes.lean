import Mathlib.Tactic.SplitIfs
import Conformance.Text.JsonLine

namespace Conformance.Text

/-!
# Reading objects on one line

A reader goes through a line character by character and keeps the lexemes that it
has read: punctuation, texts between quotes, and bare words such as numbers.  It
reads back every object that is written on a line, and it refuses line feeds.
-/

/-- A part of a line that belongs together. -/
inductive Lexeme where
  | opening
  | closing
  | colon
  | comma
  | text (value : String)
  | word (letters : String)
  deriving Repr, DecidableEq

/-- The punctuation outside of texts. -/
def punctuation? (character : Char) : Option Lexeme :=
  if character = '\x7b' then some .opening
  else if character = '\x7d' then some .closing
  else if character = ':' then some .colon
  else if character = ',' then some .comma
  else none

/--
Whether a character may stand in a bare word: a number, a truth
value or the null word.
-/
def isWordChar (character : Char) : Bool :=
  character.isAlphanum || character = '.' || character = '-' || character = '+'

theorem punctuation?_of_isWordChar
    {character : Char}
    (bare : isWordChar character = true) :
    punctuation? character = none := by
  unfold punctuation?
  split_ifs with opening closing colon comma
  · subst opening
    contradiction
  · subst closing
    contradiction
  · subst colon
    contradiction
  · subst comma
    contradiction
  · rfl

theorem ne_quote_of_isWordChar
    {character : Char}
    (bare : isWordChar character = true) :
    character ≠ '\"' := by
  rintro rfl
  contradiction

/-- The characters may all stand in a bare word. -/
def Bare (characters : List Char) : Prop :=
  ∀ character ∈ characters, isWordChar character = true

instance : DecidablePred Bare := fun _ =>
  decidable_of_iff _ List.all_eq_true

theorem Bare.append
    {first later : List Char}
    (firstBare : Bare first)
    (laterBare : Bare later) :
    Bare (first ++ later) :=
  List.forall_mem_append.mpr ⟨firstBare, laterBare⟩

/-- The decimal digits of a number are a bare word. -/
theorem Bare.digits (number : Nat) : Bare (Nat.toDigits 10 number) := by
  intro character member
  have isDigit := Nat.isDigit_of_mem_toDigits (by decide) (by decide) member
  simp [isWordChar, Char.isAlphanum, isDigit]

/-- The number that decimal digits are written for. -/
def number? (letters : String) : Option Nat :=
  if letters.toList.all Char.isDigit then
    some (Nat.ofDigitChars 10 letters.toList 0) else none

theorem number?_repr (number : Nat) : number? number.repr = some number := by
  have digits : number.repr.toList = Nat.toDigits 10 number := String.toList_ofList
  have allDigits : (Nat.toDigits 10 number).all Char.isDigit = true :=
    List.all_eq_true.mpr fun _ => Nat.isDigit_of_mem_toDigits (by decide) (by decide)
  rw [number?, digits, if_pos allDigits,
    Nat.ofDigitChars_toDigits (by decide) (by decide)]

/-- A text with anything but digits in it is no number. -/
theorem number?_eq_none
    {text : String}
    (letter : Char)
    (member : letter ∈ text.toList)
    (noDigit : letter.isDigit = false) :
    number? text = none := by
  have notAll : ¬ text.toList.all Char.isDigit = true := by
    intro all
    rw [List.all_eq_true.mp all letter member] at noDigit
    contradiction
  rw [number?, if_neg notAll]

/-- The value of a hexadecimal digit. -/
def hexDigit? (character : Char) : Option Nat :=
  if character.isDigit then some (character.toNat - 48)
  else if 'a' ≤ character ∧ character ≤ 'f' then some (character.toNat - 87)
  else if 'A' ≤ character ∧ character ≤ 'F' then some (character.toNat - 55)
  else none

/-- The character that a letter after a backslash stands for. -/
def unescaped? (letter : Char) : Option Char :=
  if letter = '\"' then some '\"'
  else if letter = '\\' then some '\\'
  else if letter = '/' then some '/'
  else if letter = 'n' then some '\n'
  else if letter = 'r' then some '\r'
  else if letter = 't' then some '\t'
  else if letter = 'b' then some '\x08'
  else if letter = 'f' then some '\x0c'
  else none

/-- Where a reader is in a line, with the lexemes that it has read before. -/
inductive Reading where
  | between (read : List Lexeme)
  | quoted (read : List Lexeme) (text : List Char)
  | escape (read : List Lexeme) (text : List Char)
  | code (read : List Lexeme) (text : List Char) (value more : Nat)
  | word (read : List Lexeme) (letters : List Char)
  | refused
  deriving Repr, DecidableEq

namespace Reading

/-- Reads one character. -/
def step : Reading → Char → Reading
  | .between read, character =>
      if character = '\"' then .quoted read []
      else
        match punctuation? character with
        | some mark => .between (read ++ [mark])
        | none => if isWordChar character then .word read [character] else .refused
  | .quoted read text, character =>
      if character = '\"' then .between (read ++ [.text (String.ofList text)])
      else if character = '\\' then .escape read text
      else if character.toNat < 32 then .refused
      else .quoted read (text ++ [character])
  | .escape read text, letter =>
      if letter = 'u' then .code read text 0 3
      else
        match unescaped? letter with
        | some character => .quoted read (text ++ [character])
        | none => .refused
  | .code read text value more, character =>
      match hexDigit? character with
      | none => .refused
      | some digit =>
          match more with
          | 0 => .quoted read (text ++ [Char.ofNat (16 * value + digit)])
          | more + 1 => .code read text (16 * value + digit) more
  | .word read letters, character =>
      match punctuation? character with
      | some mark => .between (read ++ [.word (String.ofList letters), mark])
      | none =>
          if isWordChar character then
            .word read (letters ++ [character]) else .refused
  | .refused, _ => .refused

/-- Reads characters in order. -/
def run (reading : Reading) (characters : List Char) : Reading :=
  characters.foldl step reading

@[simp] theorem run_nil (reading : Reading) : reading.run [] = reading :=
  rfl

@[simp] theorem run_cons (reading : Reading) (character : Char) (rest : List Char) :
    reading.run (character :: rest) = (reading.step character).run rest :=
  rfl

theorem run_append (reading : Reading) (first later : List Char) :
    reading.run (first ++ later) = (reading.run first).run later :=
  List.foldl_append

@[simp] theorem run_refused (characters : List Char) :
    refused.run characters = .refused := by
  induction characters with
  | nil => rfl
  | cons character rest inductionHypothesis => exact inductionHypothesis

theorem step_newline (reading : Reading) : reading.step '\n' = .refused := by
  cases reading <;> rfl

/-- What a reader does not refuse holds no line feed. -/
theorem no_newline_of_run
    {reading : Reading}
    {characters : List Char}
    (accepted : reading.run characters ≠ .refused) :
    '\n' ∉ characters := by
  intro member
  obtain ⟨before, after, rfl⟩ := List.mem_iff_append.mp member
  rw [run_append, run_cons, step_newline, run_refused] at accepted
  exact accepted rfl

theorem hexDigit?_digitChar :
    ∀ digit < 16, hexDigit? (Nat.digitChar digit) = some digit := by
  decide

theorem step_code_succ
    (read : List Lexeme)
    (text : List Char)
    (value more : Nat)
    {character : Char}
    {digit : Nat}
    (isDigit : hexDigit? character = some digit) :
    (code read text value (more + 1)).step character =
      .code read text (16 * value + digit) more := by
  simp only [step, isDigit]

theorem step_code_zero
    (read : List Lexeme)
    (text : List Char)
    (value : Nat)
    {character : Char}
    {digit : Nat}
    (isDigit : hexDigit? character = some digit) :
    (code read text value 0).step character =
      .quoted read (text ++ [Char.ofNat (16 * value + digit)]) := by
  simp only [step, isDigit]

/--
Four hexadecimal digits after a backslash and a `u` are read as the
character they number.
-/
theorem run_code
    (read : List Lexeme)
    (text : List Char)
    {high low : Nat}
    (highDigit : high < 16)
    (lowDigit : low < 16) :
    (quoted read text).run ['\\', 'u', '0', '0', Nat.digitChar high,
      Nat.digitChar low] =
      .quoted read (text ++ [Char.ofNat (16 * high + low)]) := by
  calc
    (quoted read text).run ['\\', 'u', '0', '0',
      Nat.digitChar high, Nat.digitChar low]
    _ = (code read text 0 1).run [Nat.digitChar high, Nat.digitChar low] := rfl
    _ = (code read text high 0).run [Nat.digitChar low] := by
        rw [run_cons, step_code_succ read text 0 0 (hexDigit?_digitChar high highDigit),
          Nat.mul_zero, Nat.zero_add]
    _ = .quoted read (text ++ [Char.ofNat (16 * high + low)]) :=
        step_code_zero read text high (hexDigit?_digitChar low lowDigit)

/-- An escaped character is read back as the character. -/
theorem run_escapedChar (read : List Lexeme) (text : List Char) (character : Char) :
    (quoted read text).run (escapedChar character) =
      .quoted read (text ++ [character]) := by
  unfold escapedChar
  split_ifs with quote backslash newline carriageReturn tab backspace formFeed low high
  · subst quote
    rfl
  · subst backslash
    rfl
  · subst newline
    rfl
  · subst carriageReturn
    rfl
  · subst tab
    rfl
  · subst backspace
    rfl
  · subst formFeed
    rfl
  · have control := run_code read text (by decide : 0 < 16) low
    rwa [Nat.mul_zero, Nat.zero_add, Char.ofNat_toNat] at control
  · have control :=
      run_code read text (by decide : 1 < 16) (by omega : character.toNat - 16 < 16)
    rwa [show 16 * 1 + (character.toNat - 16) = character.toNat by omega,
      Char.ofNat_toNat] at control
  · simp only [run_cons, run_nil, step, quote, backslash, high, if_false]

/-- The characters of an escaped text are read back as the text. -/
theorem run_escapedChars (read : List Lexeme) (text characters : List Char) :
    (quoted read text).run (characters.flatMap escapedChar) =
      .quoted read (text ++ characters) := by
  induction characters generalizing text with
  | nil => rw [List.flatMap_nil, run_nil, List.append_nil]
  | cons character rest inductionHypothesis =>
      rw [List.flatMap_cons, run_append, run_escapedChar, inductionHypothesis,
        List.append_assoc, List.singleton_append]

theorem run_escaped (read : List Lexeme) (text : String) :
    (between read).run (escaped text) = .between (read ++ [.text text]) := by
  rw [escaped, List.cons_append, run_cons, run_append]
  have opened : (between read).step '\"' = .quoted read [] := rfl
  rw [opened, run_escapedChars, List.nil_append, run_cons, run_nil]
  simp [step]

/-- The letters of a bare word are kept until punctuation ends it. -/
theorem run_letters
    (read : List Lexeme)
    (letters : List Char)
    {more : List Char}
    (bare : Bare more) :
    (word read letters).run more = .word read (letters ++ more) := by
  induction more generalizing letters with
  | nil => rw [run_nil, List.append_nil]
  | cons character rest inductionHypothesis =>
      obtain ⟨isBare, restBare⟩ := List.forall_mem_cons.mp bare
      rw [run_cons]
      simp only [step, punctuation?_of_isWordChar isBare, isBare, if_true]
      rw [inductionHypothesis _ restBare, List.append_assoc, List.singleton_append]

/-- A bare word is read when the punctuation after it is. -/
theorem run_word
    (read : List Lexeme)
    {letters : List Char}
    {mark : Char}
    {lexeme : Lexeme}
    (bare : Bare letters)
    (notEmpty : letters ≠ [])
    (punctuation : punctuation? mark = some lexeme) :
    (between read).run (letters ++ [mark]) =
      .between (read ++ [.word (String.ofList letters), lexeme]) := by
  cases letters with
  | nil => exact absurd rfl notEmpty
  | cons first rest =>
      obtain ⟨isBare, restBare⟩ := List.forall_mem_cons.mp bare
      have begun : (between read).step first = .word read [first] := by
        simp only [step, ne_quote_of_isWordChar isBare,
          punctuation?_of_isWordChar isBare, isBare, if_false, if_true]
      rw [List.cons_append, run_cons, begun, run_append,
        run_letters read [first] restBare, run_cons, run_nil, List.singleton_append]
      simp only [step, punctuation]

end Reading

namespace Scalar

/-- A value as a reader takes it in. -/
def lexeme : Scalar → Lexeme
  | .null => .word "null"
  | .flag value => .word (if value then "true" else "false")
  | .count value => .word value.repr
  | .decimal token => .word token
  | .text value => .text value

/-- A value that is a bare word in a line if it is a number. -/
inductive Legible : Scalar → Prop where
  | null : Legible .null
  | flag (value : Bool) : Legible (.flag value)
  | count (value : Nat) : Legible (.count value)
  | decimal
      {token : String}
      (bare : Bare token.toList)
      (notEmpty : token.toList ≠ []) :
      Legible (.decimal token)
  | text (value : String) : Legible (.text value)

end Scalar

namespace Reading

/-- A value and the punctuation after it are read as two lexemes. -/
theorem run_value
    (read : List Lexeme)
    {value : Scalar}
    {mark : Char}
    {lexeme : Lexeme}
    (legible : value.Legible)
    (punctuation : punctuation? mark = some lexeme) :
    (between read).run (value.write ++ [mark]) =
      .between (read ++ [value.lexeme, lexeme]) := by
  cases legible with
  | null => exact run_word read (by decide) (by decide) punctuation
  | flag value =>
      cases value <;> exact run_word read (by decide) (by decide) punctuation
  | count value =>
      exact run_word read (.digits value) Nat.toDigits_ne_nil punctuation
  | @decimal token bare notEmpty =>
      have word := run_word read bare notEmpty punctuation
      rwa [String.ofList_toList] at word
  | text value =>
      have notQuote : mark ≠ '\"' := by
        rintro rfl
        contradiction
      rw [Scalar.write, run_append, run_escaped, run_cons, run_nil]
      simp [step, notQuote, punctuation, Scalar.lexeme]

/-- A field and the punctuation after it. -/
theorem run_field
    (read : List Lexeme)
    {field : String × Scalar}
    {mark : Char}
    {lexeme : Lexeme}
    (legible : field.2.Legible)
    (punctuation : punctuation? mark = some lexeme) :
    (between read).run (fieldText field ++ [mark]) =
      .between (read ++ [.text field.1, .colon, field.2.lexeme, lexeme]) := by
  have colon (before : List Lexeme) :
      (between before).step ':' = .between (before ++ [.colon]) := rfl
  rw [fieldText, List.append_assoc, run_append, run_escaped, List.cons_append,
    run_cons, colon, run_value _ legible punctuation]
  simp

end Reading

/-- The fields that lexemes come to, up to the end of the object. -/
def fields? : List Lexeme → Option (List (String × Lexeme))
  | [.text key, .colon, value, .closing] => some [(key, value)]
  | .text key :: .colon :: value :: .comma :: rest =>
      (fields? rest).map ((key, value) :: ·)
  | _ => none

/-- The fields of the object on a line. -/
def object? (line : List Char) : Option (List (String × Lexeme)) :=
  match (Reading.between []).run line with
  | .between (.opening :: lexemes) => fields? lexemes
  | _ => none

/-- An object as it stands on its line, without the end of the line. -/
def objectText (fields : List (String × Scalar)) : List Char :=
  '\x7b' :: [','].intercalate (fields.map fieldText) ++ ['\x7d']

theorem objectLine_eq (fields : List (String × Scalar)) :
    objectLine fields = objectText (inKeyOrder fields) ++ ['\n'] := by
  simp [objectLine, objectText]

section Order

variable {fields ordered : List (String × Scalar)} {field other : String × Scalar}

theorem mem_putField (member : other ∈ putField field ordered) :
    other = field ∨ other ∈ ordered := by
  induction ordered with
  | nil => exact .inl (List.mem_singleton.mp member)
  | cons first rest inductionHypothesis =>
      rw [putField] at member
      split at member
      · exact (List.mem_cons.mp member).imp id (List.mem_cons_of_mem _)
      · split at member
        · exact List.mem_cons.mp member
        · rcases List.mem_cons.mp member with isFirst | inRest
          · exact .inr (isFirst ▸ List.mem_cons_self)
          · exact (inductionHypothesis inRest).imp id (List.mem_cons_of_mem _)

/-- Putting fields in order brings no new ones. -/
theorem mem_of_mem_inKeyOrder (member : other ∈ inKeyOrder fields) :
    other ∈ fields := by
  have noneNew : ∀ other ∈ inKeyOrder fields, other ∈ fields := by
    refine
      List.foldlRecOn (motive := fun ordered =>
        ∀ other ∈ ordered, other ∈ fields) fields _
        nofun ?_
    intro ordered fromFields field isField other inPut
    rcases mem_putField inPut with rfl | inOrdered
    · exact isField
    · exact fromFields other inOrdered
  exact noneNew other member

theorem putField_ne_nil : putField field ordered ≠ [] := by
  cases ordered with
  | nil => exact List.cons_ne_nil _ _
  | cons first rest =>
      rw [putField]
      split
      · exact List.cons_ne_nil _ _
      · split <;> exact List.cons_ne_nil _ _

theorem inKeyOrder_ne_nil (notEmpty : fields ≠ []) : inKeyOrder fields ≠ [] := by
  cases fields with
  | nil => contradiction
  | cons field rest =>
      exact
        List.foldlRecOn (motive := fun ordered => ordered ≠ []) rest _ putField_ne_nil
          fun _ _ _ _ => putField_ne_nil

theorem lookup_cons_eq_ite (key fieldKey : String) (value : Scalar) :
    ((fieldKey, value) :: ordered).lookup key =
      if key = fieldKey then some value else ordered.lookup key := by
  rw [List.lookup_cons]
  by_cases isKey : key = fieldKey
  · rw [beq_iff_eq.mpr isKey, if_pos isKey]
  · rw [beq_eq_false_iff_ne.mpr isKey, if_neg isKey]

/-- A field that is put in is found under its key, and the others as before. -/
theorem lookup_putField (key : String) :
    (putField field ordered).lookup key =
      if key = field.1 then some field.2 else ordered.lookup key := by
  obtain ⟨fieldKey, value⟩ := field
  induction ordered with
  | nil => exact lookup_cons_eq_ite key fieldKey value
  | cons first rest inductionHypothesis =>
      obtain ⟨firstKey, firstValue⟩ := first
      simp only [putField]
      by_cases same : fieldKey = firstKey
      · subst same
        simp only [↓reduceIte, lookup_cons_eq_ite]
        split <;> rfl
      · by_cases before : fieldKey < firstKey
        · simp only [same, before, ↓reduceIte, lookup_cons_eq_ite]
        · simp only [same, before, ↓reduceIte, lookup_cons_eq_ite,
            inductionHypothesis]
          by_cases isFirst : key = firstKey
          · subst isFirst
            simp [Ne.symm same]
          · simp [isFirst]

end Order

namespace Reading

/-- The fields of an object are read with the brace that closes it. -/
theorem run_fields
    (read : List Lexeme)
    {fields : List (String × Scalar)}
    (notEmpty : fields ≠ [])
    (legible : ∀ field ∈ fields, field.2.Legible) :
    ∃ lexemes,
      (between read).run ([','].intercalate (fields.map fieldText) ++ ['\x7d']) =
          .between (read ++ lexemes) ∧
        fields? lexemes = some (fields.map fun field => (field.1, field.2.lexeme)) := by
  induction fields generalizing read with
  | nil => exact absurd rfl notEmpty
  | cons field rest inductionHypothesis =>
      obtain ⟨fieldLegible, restLegible⟩ := List.forall_mem_cons.mp legible
      cases rest with
      | nil =>
          refine ⟨[.text field.1, .colon, field.2.lexeme, .closing], ?_, rfl⟩
          rw [List.map_singleton, List.intercalate_singleton,
            run_field read fieldLegible rfl]
      | cons next others =>
          obtain ⟨lexemes, runs, fieldsRead⟩ :=
            inductionHypothesis (read ++ [.text field.1, .colon, field.2.lexeme, .comma])
              (List.cons_ne_nil _ _) restLegible
          refine ⟨.text field.1 :: .colon :: field.2.lexeme :: .comma :: lexemes, ?_, ?_⟩
          · rw [List.map_cons, List.map_cons, List.intercalate_cons_cons,
              List.append_assoc, run_append, run_field read fieldLegible rfl]
            rw [← List.map_cons, runs]
            simp
          · rw [fields?, fieldsRead]
            rfl

end Reading

variable {fields : List (String × Scalar)}

theorem run_objectText
    (notEmpty : fields ≠ [])
    (legible : ∀ field ∈ fields, field.2.Legible) :
    ∃ lexemes,
      (Reading.between []).run (objectText fields) = .between (.opening :: lexemes) ∧
        fields? lexemes = some (fields.map fun field => (field.1, field.2.lexeme)) := by
  obtain ⟨lexemes, runs, fieldsRead⟩ :=
    Reading.run_fields [.opening] notEmpty legible
  exact ⟨lexemes, runs, fieldsRead⟩

/-- The object on a line is read back field by field. -/
theorem object?_objectText
    (notEmpty : fields ≠ [])
    (legible : ∀ field ∈ fields, field.2.Legible) :
    object? (objectText fields) =
      some (fields.map fun field => (field.1, field.2.lexeme)) := by
  obtain ⟨lexemes, runs, fieldsRead⟩ := run_objectText notEmpty legible
  rw [object?, runs]
  exact fieldsRead

theorem no_newline_objectText
    (notEmpty : fields ≠ [])
    (legible : ∀ field ∈ fields, field.2.Legible) :
    '\n' ∉ objectText fields := by
  obtain ⟨lexemes, runs, -⟩ := run_objectText notEmpty legible
  have accepted : (Reading.between []).run (objectText fields) ≠ .refused := by
    rw [runs]
    nofun
  exact Reading.no_newline_of_run accepted

end Conformance.Text
