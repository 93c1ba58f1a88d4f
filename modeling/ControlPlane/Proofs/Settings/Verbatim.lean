import ControlPlane.Settings.Reading
import ControlPlane.Settings.Source
import Mathlib.Data.List.TakeWhile

/-!
Texts that variables of the environment give. The value of a variable is taken for a truth value or
a number where it can be, and written as a text again where a text is wanted. It comes out as it was
given exactly if it is written as such a value is, or is taken for none (`passed_eq_self_iff`); so a
text with a mark that no number is written with, such as a colon, does (`verbatim_of_mark`).
-/

namespace ControlPlane.Setting

/-! ### Whole numbers -/

/-- Whether there is a minus in front of a numeral, and what comes after its sign. -/
def signOf : List Char → Bool × List Char
  | '-' :: cs => (true, cs)
  | '+' :: cs => (false, cs)
  | cs => (false, cs)

theorem signOf_of_digit {c : Char} (digit : c.isDigit = true) (cs : List Char) :
    signOf (c :: cs) = (false, c :: cs) := by
  have minus : c ≠ '-' := by rintro rfl; cases digit
  have plus : c ≠ '+' := by rintro rfl; cases digit
  rw [signOf.eq_def]
  split
  · simp_all
  · simp_all
  · rfl

theorem wholeNumber?_eq (s : String) :
    wholeNumber? s =
      let ds := (signOf s.toList).2
      let n : Int := Decimal.digitsToNat ds
      let i := if (signOf s.toList).1 then -n else n
      if ds.isEmpty || !ds.all Char.isDigit then none
      else if Decimal.isSigned64 i then some i else none := rfl

/-- What is read as a whole number is digits after its sign, and fits. -/
theorem digits_of_wholeNumber? {s : String} {i : Int} (whole : wholeNumber? s = some i) :
    (∀ c ∈ (signOf s.toList).2, c.isDigit = true) ∧ Decimal.isSigned64 i = true := by
  rw [wholeNumber?_eq] at whole
  simp only [Option.ite_none_left_eq_some, Option.ite_none_right_eq_some, Option.some.injEq,
    Bool.or_eq_true, not_or, Bool.not_eq_true, Bool.not_eq_false'] at whole
  obtain ⟨⟨-, digits⟩, fits, rfl⟩ := whole
  exact ⟨List.all_eq_true.mp digits, fits⟩

theorem isDigit_of_mem_toDigits {n : Nat} {c : Char} (mem : c ∈ Nat.toDigits 10 n) :
    c.isDigit = true :=
  Nat.isDigit_of_mem_toDigits (by decide) (by decide) mem

theorem signOf_toDigits (n : Nat) : signOf (Nat.toDigits 10 n) = (false, Nat.toDigits 10 n) := by
  cases written : Nat.toDigits 10 n with
  | nil => rfl
  | cons c cs => exact signOf_of_digit (isDigit_of_mem_toDigits (written ▸ List.mem_cons_self)) cs

/-- A whole number is written as its digits, behind a minus if it is negative. -/
theorem toList_toString (i : Int) :
    (toString i).toList = (if i < 0 then ['-'] else []) ++ Nat.toDigits 10 i.natAbs := by
  cases i with
  | ofNat n => exact Nat.toList_repr
  | negSucc n =>
    have written : toString (Int.negSucc n) = "-" ++ (n + 1).repr := rfl
    have minus : "-".toList = ['-'] := by decide
    rw [written, String.toList_append, Nat.toList_repr, minus, if_pos (Int.negSucc_lt_zero n)]
    rfl

theorem signOf_toString (i : Int) :
    signOf (toString i).toList = (decide (i < 0), Nat.toDigits 10 i.natAbs) := by
  rw [toList_toString]
  by_cases negative : i < 0
  · simp [negative, signOf]
  · simp [negative, signOf_toDigits]

/-- A whole number of 64 bits is read as it is written. -/
theorem wholeNumber?_toString {i : Int} (fits : Decimal.isSigned64 i = true) :
    wholeNumber? (toString i) = some i := by
  have digits : (Nat.toDigits 10 i.natAbs).all Char.isDigit = true :=
    List.all_eq_true.mpr fun _ => isDigit_of_mem_toDigits
  have meant : Decimal.digitsToNat (Nat.toDigits 10 i.natAbs) = i.natAbs :=
    Nat.ofDigitChars_ten_toDigits
  have value : (if i < 0 then -(i.natAbs : Int) else i.natAbs) = i := by
    split <;> omega
  rw [wholeNumber?_eq]
  simp only [signOf_toString, meant, decide_eq_true_eq, value, digits, fits]
  simp [Nat.toDigits_ne_nil]

/-! ### Words -/

/-- A value that is taken for a truth value. -/
def IsFlag (value : String) : Prop := Text.lower value = "true" ∨ Text.lower value = "false"

theorem toLower_of_not_isAlpha {c : Char} (mark : c.isAlpha = false) : c.toLower = c := by
  have letter : c.isAlpha = (c.isUpper || c.isLower) := rfl
  rw [letter, Bool.or_eq_false_iff] at mark
  exact dif_neg (of_decide_eq_false mark.1)

/-- A character that is no letter stays in a text that is put in lower case. -/
theorem mem_lower {s : String} {c : Char} (mem : c ∈ s.toList) (ascii : c.toNat < 0x80)
    (mark : c.isAlpha = false) : c ∈ (Text.lower s).toList := by
  rw [Text.lower, String.toList_ofList, List.mem_flatMap]
  refine ⟨c, mem, ?_⟩
  rw [Text.lowerChar, if_pos ascii, toLower_of_not_isAlpha mark]
  exact List.mem_singleton_self c

theorem ne_of_mem_of_not_isAlpha {word s : String} {c : Char}
    (letters : word.toList.all Char.isAlpha = true) (mem : c ∈ s.toList)
    (mark : c.isAlpha = false) : s ≠ word := by
  rintro rfl
  rw [List.all_eq_true.mp letters c mem] at mark
  cases mark

theorem not_isFlag_of_mem {s : String} {c : Char} (mem : c ∈ s.toList) (ascii : c.toNat < 0x80)
    (mark : c.isAlpha = false) : ¬IsFlag s := by
  have stays := mem_lower mem ascii mark
  rintro (word | word)
  · exact ne_of_mem_of_not_isAlpha (by decide +kernel) stays mark word
  · exact ne_of_mem_of_not_isAlpha (by decide +kernel) stays mark word

theorem ascii_of_isDigit {c : Char} (digit : c.isDigit = true) :
    c.toNat < 0x80 ∧ c.isAlpha = false := by
  have letter : c.isAlpha = (decide (c.val ≥ 'A'.val ∧ c.val ≤ 'Z'.val) ||
      (decide (c.val ≥ 'a'.val) && decide (c.val ≤ 'z'.val))) := rfl
  have code : 48 ≤ c.toNat ∧ c.toNat ≤ 57 := by
    simpa [Char.isDigit, UInt32.le_iff_toNat_le] using digit
  constructor
  · omega
  · simp [letter, UInt32.le_iff_toNat_le]
    omega

/-- A whole number that is written is not taken for a truth value. -/
theorem not_isFlag_toString (i : Int) : ¬IsFlag (toString i) := by
  obtain ⟨c, mem⟩ := List.exists_mem_of_ne_nil _ (Nat.toDigits_ne_nil (n := i.natAbs) (b := 10))
  have ⟨ascii, mark⟩ := ascii_of_isDigit (isDigit_of_mem_toDigits mem)
  refine not_isFlag_of_mem ?_ ascii mark
  rw [toList_toString]
  exact List.mem_append_right _ mem

/-! ### Characters of numerals -/

/-- The characters that numerals are made of. -/
def IsNumeralChar (c : Char) : Prop := c.isDigit = true ∨ c ∈ ['+', '-', '.', 'e', 'E']

/-- All characters of a text are of those that numerals are made of. -/
def AllNumeral (cs : List Char) : Prop := ∀ c ∈ cs, IsNumeralChar c

theorem AllNumeral.cons {c : Char} {cs : List Char} (first : IsNumeralChar c)
    (rest : AllNumeral cs) : AllNumeral (c :: cs) :=
  List.forall_mem_cons.mpr ⟨first, rest⟩

theorem allNumeral_of_digits {cs : List Char} (rest : AllNumeral (cs.dropWhile Char.isDigit)) :
    AllNumeral cs := by
  rw [← List.takeWhile_append_dropWhile (p := Char.isDigit) (l := cs)]
  intro c mem
  rcases List.mem_append.mp mem with digit | later
  · exact .inl (List.mem_takeWhile_imp digit)
  · exact rest c later

theorem allNumeral_of_signOf {cs : List Char} (rest : AllNumeral (signOf cs).2) :
    AllNumeral cs := by
  rw [signOf.eq_def] at rest
  split at rest
  · exact .cons (.inr (by simp)) rest
  · exact .cons (.inr (by simp)) rest
  · exact rest

/-- What is read of an exponent after its mark: the exponent, and what comes after it. -/
def exponentOf (cs : List Char) : Option (Option Int × List Char) :=
  match (signOf cs).2.takeWhile Char.isDigit with
  | [] => none
  | ds =>
    let n : Int := Decimal.digitsToNat ds
    some (some (if (signOf cs).1 then -n else n), (signOf cs).2.dropWhile Char.isDigit)

theorem allNumeral_of_exponentOf {cs : List Char} {e : Option Int}
    (read : exponentOf cs = some (e, [])) : AllNumeral cs := by
  rw [exponentOf] at read
  split at read
  · cases read
  · apply allNumeral_of_signOf
    apply allNumeral_of_digits
    rw [(Prod.mk.inj (Option.some.inj read)).2]
    exact List.forall_mem_nil _

theorem allNumeral_of_readExponent {cs : List Char} {e : Option Int}
    (read : Decimal.readExponent cs = some (e, [])) : AllNumeral cs := by
  rw [Decimal.readExponent.eq_def] at read
  split at read
  · exact .cons (.inr (by simp)) (allNumeral_of_exponentOf read)
  · exact .cons (.inr (by simp)) (allNumeral_of_exponentOf read)
  · rw [(Prod.mk.inj (Option.some.inj read)).2]
    exact List.forall_mem_nil _

/-- The digits behind a point, if there is one, and what comes after them. -/
def pointOf : List Char → List Char × List Char
  | '.' :: rest => (rest.takeWhile Char.isDigit, rest.dropWhile Char.isDigit)
  | rest => ([], rest)

theorem allNumeral_of_pointOf {cs : List Char} (rest : AllNumeral (pointOf cs).2) :
    AllNumeral cs := by
  rw [pointOf.eq_def] at rest
  split at rest
  · exact .cons (.inr (by simp)) (allNumeral_of_digits rest)
  · exact rest

/-- What comes after the sign and the whole places of a numeral. -/
def afterWhole (cs : List Char) : List Char :=
  (signOf cs).2.drop ((signOf cs).2.takeWhile Char.isDigit).length

theorem afterWhole_eq (cs : List Char) :
    afterWhole cs = (signOf cs).2.dropWhile Char.isDigit := by
  have cut : (signOf cs).2.takeWhile Char.isDigit ++ (signOf cs).2.dropWhile Char.isDigit =
      (signOf cs).2 := List.takeWhile_append_dropWhile
  have after := congrArg (List.drop ((signOf cs).2.takeWhile Char.isDigit).length) cut
  rw [List.drop_left] at after
  exact after.symm

theorem ofNumeral?_eq (cs : List Char) :
    Decimal.ofNumeral? cs = (do
      let whole := (signOf cs).2.takeWhile Char.isDigit
      let places := (pointOf (afterWhole cs)).1
      if whole.isEmpty && places.isEmpty then none
      let e ← Decimal.readExponent (pointOf (afterWhole cs)).2
      if !e.2.isEmpty then none
      pure (Binary64.ofDecimal (signOf cs).1 (Decimal.digitsToNat (whole ++ places))
        (e.1.getD 0 - places.length))) := rfl

theorem allNumeral_of_ofNumeral? {cs : List Char} {x : Binary64}
    (h : Decimal.ofNumeral? cs = some x) : AllNumeral cs := by
  rw [ofNumeral?_eq] at h
  dsimp only at h
  split at h
  · cases h
  · obtain ⟨e, read, h⟩ := Option.bind_eq_some_iff.mp h
    split at h
    · cases h
    · rename_i done
      have consumed : e.2 = [] := by simpa using done
      apply allNumeral_of_signOf
      apply allNumeral_of_digits
      rw [← afterWhole_eq]
      apply allNumeral_of_pointOf
      apply allNumeral_of_readExponent (e := e.1)
      rw [read, ← consumed]

theorem mem_signOf {cs : List Char} {c : Char} (mem : c ∈ cs) (plus : c ≠ '+') (minus : c ≠ '-') :
    c ∈ (signOf cs).2 := by
  rw [signOf.eq_def]
  split
  · exact (List.mem_cons.mp mem).resolve_left minus
  · exact (List.mem_cons.mp mem).resolve_left plus
  · exact mem

theorem number?_eq (s : String) :
    number? s = match (String.ofList (signOf s.toList).2).toLower with
      | "inf" | "infinity" => some (.infinity (signOf s.toList).1)
      | "nan" => some .nan
      | _ => Decimal.ofNumeral? s.toList := rfl

/-! ### What comes out -/

/-- The text that a variable of this value gives to a setting that is a text. -/
def passed (value : String) : String :=
  match ofVariable value with
  | flag _ b => if b then "true" else "false"
  | int _ i => toString i
  | float _ x => Decimal.Layout.positional.render x
  | _ => value

/-- What the value of a variable is taken for. -/
inductive TakenFor (value : String) : Setting → Prop where
  | flag (b : Bool) (word : Text.lower value = if b then "true" else "false") :
      TakenFor value (.flag environmentOrigin b)
  | int {i : Int} (notFlag : ¬IsFlag value) (whole : wholeNumber? value = some i) :
      TakenFor value (.int environmentOrigin i)
  | float {x : Binary64} (notFlag : ¬IsFlag value) (notWhole : wholeNumber? value = none)
      (number : number? value = some x) : TakenFor value (.float environmentOrigin x)
  | text (notFlag : ¬IsFlag value) (notWhole : wholeNumber? value = none)
      (notNumber : number? value = none) : TakenFor value (.text environmentOrigin value)

theorem takenFor_ofVariable (value : String) : TakenFor value (ofVariable value) := by
  rw [ofVariable]
  split
  · exact .flag true ‹_›
  · exact .flag false ‹_›
  · have notFlag : ¬IsFlag value := by
      rintro (word | word)
      · contradiction
      · contradiction
    split
    · exact .int notFlag ‹_›
    · exact .float notFlag ‹_› ‹_›
    · exact .text notFlag ‹_› ‹_›

theorem overlay_ofVariable (below : Option Setting) (value : String) :
    overlay below (ofVariable value) = ofVariable value := by
  have taken := takenFor_ofVariable value
  generalize ofVariable value = v at taken ⊢
  cases taken <;> rfl

/-- Where a text is wanted, the value of a variable is read as one. -/
theorem readText_ofVariable (value : String) :
    (ofVariable value).readText = .ok (passed value) := by
  have taken := takenFor_ofVariable value
  rw [passed]
  generalize ofVariable value = v at taken ⊢
  cases taken <;> rfl

/-- The texts that come out as they are given: truth values and numbers as they are written, and
what is neither. -/
inductive Verbatim (value : String) : Prop where
  | flag (b : Bool) (word : value = if b then "true" else "false")
  | whole (i : Int) (fits : Decimal.isSigned64 i = true) (written : value = toString i)
  | number (x : Binary64) (notFlag : ¬IsFlag value) (notWhole : wholeNumber? value = none)
      (read : number? value = some x) (written : value = Decimal.Layout.positional.render x)
  | word (notFlag : ¬IsFlag value) (notWhole : wholeNumber? value = none)
      (notNumber : number? value = none)

/-- The text comes out as it is given exactly if it is one of those. -/
theorem passed_eq_self_iff (value : String) : passed value = value ↔ Verbatim value := by
  have taken := takenFor_ofVariable value
  rw [passed]
  generalize ofVariable value = v at taken ⊢
  have isFlag {b : Bool} (word : Text.lower value = if b then "true" else "false") :
      IsFlag value := by
    cases b
    · exact .inr word
    · exact .inl word
  constructor
  · intro same
    cases taken with
    | flag b word => exact .flag b same.symm
    | int notFlag whole => exact .whole _ (digits_of_wholeNumber? whole).2 same.symm
    | float notFlag notWhole number => exact .number _ notFlag notWhole number same.symm
    | text notFlag notWhole notNumber => exact .word notFlag notWhole notNumber
  · intro verbatim
    cases verbatim with
    | flag b word =>
      have small : Text.lower value = value := by
        rw [word]
        cases b <;> decide +kernel
      have flag : IsFlag value := isFlag (small.trans word)
      cases taken with
      | flag b' word' => exact word'.symm.trans small
      | int notFlag => exact absurd flag notFlag
      | float notFlag => exact absurd flag notFlag
      | text => rfl
    | whole i fits written =>
      have whole : wholeNumber? value = some i := written ▸ wholeNumber?_toString fits
      cases taken with
      | flag b word => exact absurd (isFlag word) (written ▸ not_isFlag_toString i)
      | int notFlag whole' =>
        obtain rfl := Option.some.inj (whole.symm.trans whole')
        exact written.symm
      | float notFlag notWhole => simp [whole] at notWhole
      | text => rfl
    | number x notFlag notWhole number written =>
      cases taken with
      | flag b word => exact absurd (isFlag word) notFlag
      | int notFlag whole => simp [whole] at notWhole
      | float notFlag notWhole number' =>
        obtain rfl := Option.some.inj (number.symm.trans number')
        exact written.symm
      | text => rfl
    | word notFlag notWhole notNumber =>
      cases taken with
      | flag b word => exact absurd (isFlag word) notFlag
      | int notFlag whole => simp [whole] at notWhole
      | float notFlag notWhole number => simp [notNumber] at number
      | text => rfl

/-- A text with a mark that no number is written with comes out as it is given. -/
theorem verbatim_of_mark {value : String} {c : Char} (mem : c ∈ value.toList)
    (ascii : c.toNat < 0x80) (letter : c.isAlpha = false) (mark : ¬IsNumeralChar c) :
    Verbatim value := by
  have body : c ∈ (signOf value.toList).2 := by
    refine mem_signOf mem ?_ ?_ <;> (rintro rfl; exact mark (.inr (by simp)))
  refine .word (not_isFlag_of_mem mem ascii letter) ?_ ?_
  · refine Option.eq_none_iff_forall_ne_some.mpr fun i whole => ?_
    exact mark (.inl ((digits_of_wholeNumber? whole).1 c body))
  · have stays : c ∈ (String.ofList (signOf value.toList).2).toLower.toList := by
      show c ∈ ((String.ofList (signOf value.toList).2).map Char.toLower).toList
      rw [String.toList_map, String.toList_ofList]
      exact List.mem_map.mpr ⟨c, body, toLower_of_not_isAlpha letter⟩
    have word {w : String} (letters : w.toList.all Char.isAlpha = true) :=
      ne_of_mem_of_not_isAlpha letters stays letter
    rw [number?_eq]
    split
    · exact absurd ‹_› (word (by decide +kernel))
    · exact absurd ‹_› (word (by decide +kernel))
    · exact absurd ‹_› (word (by decide +kernel))
    · refine Option.eq_none_iff_forall_ne_some.mpr fun x read => ?_
      exact mark (allNumeral_of_ofNumeral? read c mem)

end ControlPlane.Setting
