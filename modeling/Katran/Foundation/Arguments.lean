import Mathlib.Data.List.Basic
import Mathlib.Tactic.Common

/-! # Numbers and flags in texts

Decimal numbers, lists of these with marks between them, and the arguments of a program: a flag
is given as `-name=value`, and the last value of a flag is the one that counts. Arguments without
blanks that are put together with blanks between them are told apart again (`splitArguments`).
-/

namespace Katran.Foundation

/-! ## Decimal numbers -/

/-- A number in decimal digits, with a sign if it is negative. -/
def itoa : Int → List Char
  | .ofNat num => Nat.toDigits 10 num
  | .negSucc num => '-' :: Nat.toDigits 10 (num + 1)

/-- The number that decimal digits stand for. -/
def digitsValue (text : List Char) : Option Nat :=
  if text ≠ [] ∧ text.all Char.isDigit = true then some (Nat.ofDigitChars 10 text 0) else none

/-- Digits with an optional sign in front of them. -/
def signedValue : List Char → Option Int
  | '-' :: digits => (digitsValue digits).map fun value : Nat => -(value : Int)
  | '+' :: digits => (digitsValue digits).map Int.ofNat
  | digits => (digitsValue digits).map Int.ofNat

/-- Signed digits of a number within a bound. -/
def readInt (bound : Nat) (text : List Char) : Option Int :=
  (signedValue text).bind fun value =>
    if -(bound : Int) ≤ value ∧ value < bound then some value else none

/-- The digits of a number have its value. -/
theorem digitsValue_toDigits (num : Nat) : digitsValue (Nat.toDigits 10 num) = some num := by
  have digits : (Nat.toDigits 10 num).all Char.isDigit = true := by
    rw [List.all_eq_true]
    intro digit member
    exact Nat.isDigit_of_mem_toDigits (by decide) (by decide) member
  rw [digitsValue, if_pos ⟨Nat.toDigits_ne_nil, digits⟩, Nat.ofDigitChars_ten_toDigits]

/-- A number is written with digits and a sign. -/
theorem isDigit_or_sign {num : Int} {digit : Char} (member : digit ∈ itoa num) :
    digit.isDigit = true ∨ digit = '-' := by
  cases num with
  | ofNat num => exact .inl (Nat.isDigit_of_mem_toDigits (by decide) (by decide) member)
  | negSucc num =>
      rcases List.mem_cons.mp member with sign | later
      · exact .inr sign
      · exact .inl (Nat.isDigit_of_mem_toDigits (by decide) (by decide) later)

/-- A character that is neither a digit nor a sign is not part of a number. -/
theorem notMem_itoa {mark : Char} (digit : mark.isDigit = false) (sign : mark ≠ '-') (num : Int) :
    mark ∉ itoa num := by
  intro member
  rcases isDigit_or_sign member with isDigit | same
  · rw [digit] at isDigit
    cases isDigit
  · exact sign same

/-- A number that is written can be read back. -/
theorem signedValue_itoa (num : Int) : signedValue (itoa num) = some num := by
  cases num with
  | negSucc num =>
      rw [itoa, signedValue, digitsValue_toDigits, Option.map_some]
      rfl
  | ofNat num =>
      rw [itoa]
      cases digits : Nat.toDigits 10 num with
      | nil => exact absurd digits Nat.toDigits_ne_nil
      | cons digit rest =>
          have isDigit : digit.isDigit = true :=
            Nat.isDigit_of_mem_toDigits (by decide) (by decide) (digits ▸ List.mem_cons_self)
          rw [signedValue]
          · rw [← digits, digitsValue_toDigits]
            rfl
          · rintro others ⟨rfl, rfl⟩
            cases isDigit
          · rintro others ⟨rfl, rfl⟩
            cases isDigit

/-- A decimal number is read as what it is, or not at all. -/
theorem eq_of_readInt_itoa {bound : Nat} {num value : Int}
    (read : readInt bound (itoa num) = some value) : value = num := by
  rw [readInt, signedValue_itoa, Option.bind_some] at read
  split at read
  · exact (Option.some.inj read).symm
  · cases read

/-- Different numbers are written differently. -/
theorem itoa_injective : Function.Injective itoa := by
  intro first second same
  have value := congrArg signedValue same
  rw [signedValue_itoa, signedValue_itoa] at value
  exact Option.some.inj value

/-! ## Lists of numbers -/

/-- Numbers with commas between them. -/
def commaSeparated (nums : List Int) : List Char := [','].intercalate (nums.map itoa)

/-- Numbers that a conversion reads between commas; an empty text has none. -/
def readNums (convert : List Char → Option Int) (line : List Char) : Option (List Int) :=
  if line = [] then some [] else (line.splitOn ',').mapM convert

/-- The first of several numbers is followed by a comma. -/
theorem commaSeparated_cons (num : Int) {nums : List Int} (nonempty : nums ≠ []) :
    commaSeparated (num :: nums) = itoa num ++ ',' :: commaSeparated nums := by
  obtain ⟨next, rest, rfl⟩ := List.exists_cons_of_ne_nil nonempty
  simp only [commaSeparated, List.intercalate, List.map_cons, List.intersperse_cons_cons,
    List.flatten_cons, List.singleton_append]

/-- A number is written with at least one character. -/
theorem itoa_ne_nil (num : Int) : itoa num ≠ [] := by
  cases num with
  | ofNat num => exact Nat.toDigits_ne_nil
  | negSucc num => exact List.cons_ne_nil _ _

/-- A list of numbers that is not empty is written with at least one character. -/
theorem commaSeparated_ne_nil {nums : List Int} (nonempty : nums ≠ []) :
    commaSeparated nums ≠ [] := by
  obtain ⟨num, rest, rfl⟩ := List.exists_cons_of_ne_nil nonempty
  by_cases last : rest = []
  · subst last
    simpa only [commaSeparated, List.map_cons, List.map_nil, List.intercalate_singleton] using
      itoa_ne_nil num
  · rw [commaSeparated_cons num last]
    exact List.append_ne_nil_of_right_ne_nil _ (List.cons_ne_nil _ _)

/-- Nothing else is in a list of numbers. -/
theorem notMem_commaSeparated {mark : Char} (digit : mark.isDigit = false) (sign : mark ≠ '-')
    (comma : mark ≠ ',') (nums : List Int) : mark ∉ commaSeparated nums := by
  induction nums with
  | nil => exact List.not_mem_nil
  | cons num nums ih =>
      have own := notMem_itoa digit sign num
      by_cases last : nums = []
      · subst last
        simpa only [commaSeparated, List.map_cons, List.map_nil, List.intercalate_singleton] using
          own
      · rw [commaSeparated_cons num last, List.mem_append, List.mem_cons, not_or, not_or]
        exact ⟨own, comma, ih⟩

/-- The numbers are read back, or none of them. -/
theorem eq_of_readNums {convert : List Char → Option Int} {nums values : List Int}
    (exact : ∀ num value, convert (itoa num) = some value → value = num)
    (read : readNums convert (commaSeparated nums) = some values) : values = nums := by
  by_cases none : nums = []
  · rw [none] at read ⊢
    exact (Option.some.inj read).symm
  · have apart : ∀ text ∈ nums.map itoa, ',' ∉ text := by
      intro text member
      obtain ⟨num, _, rfl⟩ := List.mem_map.mp member
      exact notMem_itoa rfl (by decide) num
    rw [readNums, if_neg (commaSeparated_ne_nil none), commaSeparated,
      List.splitOn_intercalate ',' apart (mt List.map_eq_nil_iff.mp none)] at read
    clear none apart
    induction nums generalizing values with
    | nil => exact (Option.some.inj read).symm
    | cons num nums ih =>
        rw [List.map_cons, List.mapM_cons] at read
        obtain ⟨value, converted, rest⟩ := Option.bind_eq_some_iff.mp read
        obtain ⟨others, further, same⟩ := Option.bind_eq_some_iff.mp rest
        obtain rfl := Option.some.inj same
        rw [exact num value converted, ih further]

/-! ## Arguments -/

/-- A flag with its value. -/
def argument (name value : List Char) : List Char := '-' :: name ++ '=' :: value

/-- Arguments with blanks between them. -/
def commandLine (flags : List (List Char × List Char)) : List Char :=
  [' '].intercalate (flags.map fun flag => argument flag.1 flag.2)

/-- A command line is its first argument, and the others behind spaces. -/
theorem commandLine_cons (flag : List Char × List Char) (flags : List (List Char × List Char)) :
    commandLine (flag :: flags) =
      argument flag.1 flag.2 ++ flags.flatMap fun other => ' ' :: argument other.1 other.2 := by
  induction flags generalizing flag with
  | nil =>
      simp only [commandLine, List.map_cons, List.map_nil, List.intercalate_singleton,
        List.flatMap_nil, List.append_nil]
  | cons next flags ih =>
      have step : commandLine (flag :: next :: flags) =
          argument flag.1 flag.2 ++ ' ' :: commandLine (next :: flags) := by
        simp only [commandLine, List.intercalate, List.map_cons, List.intersperse_cons_cons,
          List.flatten_cons, List.singleton_append]
      rw [step, ih, List.flatMap_cons, List.cons_append]

/-- The name and the value of a flag that is given in one argument; one or two dashes are in
front of the name. -/
def readArgument : List Char → Option (List Char × List Char)
  | '-' :: '-' :: text => splitAssignment text
  | '-' :: text => splitAssignment text
  | _ => none
where
  /-- What is in front of the first `=`, and what is behind it. -/
  splitAssignment (text : List Char) : Option (List Char × List Char) :=
    match text.dropWhile (· ≠ '=') with
    | _ :: value => some (text.takeWhile (· ≠ '='), value)
    | [] => none

/-- The last value that is given for a flag. -/
def flagValue (name : List Char) (arguments : List (List Char)) : Option (List Char) :=
  (arguments.filterMap readArgument).foldl
    (fun value flag => if flag.1 = name then some flag.2 else value) none

/-- An assignment is split at the first sign. -/
theorem splitAssignment_append {name : List Char} (plain : '=' ∉ name) (value : List Char) :
    readArgument.splitAssignment (name ++ '=' :: value) = some (name, value) := by
  have before : ∀ letter ∈ name, decide (letter ≠ '=') = true := by
    intro letter member
    rw [decide_eq_true_eq]
    rintro rfl
    exact plain member
  rw [readArgument.splitAssignment, List.dropWhile_append_of_pos before,
    List.takeWhile_append_of_pos before]
  simp only [ne_eq, not_true_eq_false, decide_false, Bool.false_eq_true, not_false_eq_true,
    List.dropWhile_cons_of_neg, List.takeWhile_cons_of_neg, List.append_nil]

/-- A name that can be given in an argument. -/
def IsFlagName (name : List Char) : Prop := '=' ∉ name ∧ ' ' ∉ name ∧ name.head? ≠ some '-'

instance (name : List Char) : Decidable (IsFlagName name) :=
  inferInstanceAs (Decidable ('=' ∉ name ∧ ' ' ∉ name ∧ name.head? ≠ some '-'))

/-- An argument that is written can be read back. -/
theorem readArgument_argument {name : List Char} (valid : IsFlagName name) (value : List Char) :
    readArgument (argument name value) = some (name, value) := by
  obtain ⟨plain, _, single⟩ := valid
  rw [argument, List.cons_append, readArgument]
  · exact splitAssignment_append plain value
  · intro text same
    cases name with
    | nil =>
        rw [List.nil_append] at same
        cases same
    | cons first rest =>
        rw [List.cons_append] at same
        exact single (congrArg some (List.cons.inj same).1)

/-- Arguments are told apart. -/
theorem splitOn_commandLine {flags : List (List Char × List Char)} (some : flags ≠ [])
    (valid : ∀ flag ∈ flags, IsFlagName flag.1 ∧ ' ' ∉ flag.2) :
    (commandLine flags).splitOn ' ' = flags.map fun flag => argument flag.1 flag.2 := by
  apply List.splitOn_intercalate
  · intro text member
    obtain ⟨flag, listed, rfl⟩ := List.mem_map.mp member
    obtain ⟨⟨_, name, _⟩, value⟩ := valid flag listed
    simp only [argument, List.cons_append, List.mem_cons, List.mem_append, not_or]
    exact ⟨by decide, name, by decide, value⟩
  · exact mt List.map_eq_nil_iff.mp some

/-- So a flag has the last value that it is given. -/
theorem flagValue_commandLine {before after : List (List Char × List Char)}
    {name value : List Char}
    (valid : ∀ flag ∈ before ++ (name, value) :: after, IsFlagName flag.1 ∧ ' ' ∉ flag.2)
    (last : ∀ flag ∈ after, flag.1 ≠ name) :
    flagValue name ((commandLine (before ++ (name, value) :: after)).splitOn ' ') =
      some value := by
  generalize whole : before ++ (name, value) :: after = flags at valid ⊢
  have nonempty : flags ≠ [] := whole ▸ List.append_ne_nil_of_right_ne_nil _ (List.cons_ne_nil _ _)
  have read : (flags.map fun flag => argument flag.1 flag.2).filterMap readArgument = flags := by
    rw [List.filterMap_map]
    have each : ∀ flag ∈ flags,
        (readArgument ∘ fun flag => argument flag.1 flag.2) flag = some flag := by
      intro flag member
      exact readArgument_argument (valid flag member).1 flag.2
    rw [List.filterMap_congr each, List.filterMap_some]
  rw [flagValue, splitOn_commandLine nonempty valid, read, ← whole, List.foldl_append,
    List.foldl_cons, if_pos rfl]
  clear whole valid nonempty read
  induction after with
  | nil => rfl
  | cons flag after ih =>
      rw [List.foldl_cons, if_neg (last flag List.mem_cons_self)]
      exact ih fun other later => last other (List.mem_cons_of_mem _ later)

end Katran.Foundation
