import SharedEditing.Json.Printer
import SharedEditing.Json.Reader

/-! # Numbers as text

Every number is written as a numeral, and a reader takes exactly this numeral from the
text. An integer of 64 bits is read back as itself. -/

namespace SharedEditing

namespace Decimal

/-! ## Digits -/

structure IsDigits (digits : List Nat) : Prop where
  filled : digits ≠ []
  below : ∀ digit ∈ digits, digit < 10

theorem isDigit_digitChar {digit : Nat} (below : digit < 10) :
    (Char.ofNat ('0'.toNat + digit)).isDigit = true := by
  revert digit
  decide

theorem toNat_digitChar {digit : Nat} (below : digit < 10) :
    (Char.ofNat ('0'.toNat + digit)).toNat - '0'.toNat = digit := by
  revert digit
  decide

theorem digitChar_of_isDigit {character : Char} (digit : character.isDigit = true) :
    Char.ofNat ('0'.toNat + (character.toNat - '0'.toNat)) = character := by
  have bounds := Char.isDigit_iff_toNat.mp digit
  rw [Nat.add_sub_cancel' bounds.1, Char.ofNat_toNat]

theorem below_of_isDigit {character : Char} (digit : character.isDigit = true) :
    character.toNat - '0'.toNat < 10 := by
  have bounds := Char.isDigit_iff_toNat.mp digit
  have nine : '9'.toNat = '0'.toNat + 9 := rfl
  omega

theorem isDigits_zero : IsDigits [0] := ⟨nofun, by decide⟩

theorem digitChars_digitsOf (value : Nat) :
    digitChars (digitsOf value) = Nat.toDigits 10 value := by
  rw [digitChars, digitsOf, List.map_map]
  refine (List.map_congr_left fun character written => ?_).trans (List.map_id _)
  exact digitChar_of_isDigit (Nat.isDigit_of_mem_toDigits (by decide) (by decide) written)

theorem isDigits_digitsOf (value : Nat) : IsDigits (digitsOf value) where
  filled := by
    simp [digitsOf, Nat.toDigits_ne_nil]
  below := by
    intro digit member
    rcases List.mem_map.mp member with ⟨character, written, rfl⟩
    exact below_of_isDigit (Nat.isDigit_of_mem_toDigits (by decide) (by decide) written)

theorem foldl_digitsOf (value : Nat) :
    (digitsOf value).foldl (fun sum digit => sum * 10 + digit) 0 = value := by
  have written := @Nat.ofDigitChars_ten_toDigits value
  rw [Nat.ofDigitChars_eq_foldl] at written
  rw [digitsOf, List.foldl_map]
  simpa only [Nat.mul_comm 10] using written

theorem digitsOf_of_ten_le {value : Nat} (large : 10 ≤ value) :
    digitsOf value = digitsOf (value / 10) ++ digitsOf (value % 10) := by
  have last : Nat.toDigits 10 (value % 10) = [(value % 10).digitChar] :=
    Nat.toDigits_of_lt_base (Nat.mod_lt value (by decide))
  rw [digitsOf, digitsOf, digitsOf, Nat.toDigits_of_base_le (by decide) large, List.map_append,
    last]

theorem head?_digitsOf {value : Nat} (positive : 0 < value) :
    (digitsOf value).head? ≠ some 0 := by
  induction value using Nat.strongRecOn with
  | ind value induction =>
      by_cases large : 10 ≤ value
      · have front := induction (value / 10) (by omega) (by omega)
        rw [digitsOf_of_ten_le large, List.head?_append]
        cases digits : digitsOf (value / 10) with
        | nil => exact False.elim ((isDigits_digitsOf _).filled digits)
        | cons digit rest => simpa [digits] using front
      · revert positive
        have small : value < 10 := by omega
        revert small
        clear large induction
        revert value
        decide

end Decimal

/-! ## Numerals -/

open Decimal

namespace Numeral

structure WellFormed (numeral : Numeral) : Prop where
  whole : IsDigits numeral.whole
  /-- No zero stands in front of other digits. -/
  leading : numeral.whole.head? = some 0 → numeral.whole = [0]
  fraction : ∀ digits, numeral.fraction = some digits → IsDigits digits
  exponent : ∀ negative digits, numeral.exponent = some (negative, digits) → IsDigits digits

def fractionText : Option (List Nat) → List Char
  | none => []
  | some digits => '.' :: digitChars digits

def exponentText : Option (Bool × List Nat) → List Char
  | none => []
  | some (negative, digits) => 'e' :: (if negative then '-' else '+') :: digitChars digits

def text (numeral : Numeral) : List Char :=
  (if numeral.negative then ['-'] else []) ++ (digitChars numeral.whole ++
    (fractionText numeral.fraction ++ exponentText numeral.exponent))

end Numeral

namespace Written.Reader

/-- Characters after which no numeral goes on. -/
def Ends (text : List Char) : Prop :=
  ∀ character, text.head? = some character →
    character.isDigit = false ∧ character ≠ '.' ∧ character ≠ 'e' ∧ character ≠ 'E'

def NoDigit (text : List Char) : Prop :=
  ∀ character, text.head? = some character → character.isDigit = false

variable {rest : List Char}

theorem digits_digitChars {read : List Nat} (isDigits : IsDigits read) (ends : NoDigit rest) :
    digits (digitChars read ++ rest) = (read, rest) := by
  have all : ∀ character ∈ digitChars read, character.isDigit = true := by
    intro character member
    rcases List.mem_map.mp member with ⟨digit, present, rfl⟩
    exact isDigit_digitChar (isDigits.below digit present)
  have stopped : rest.takeWhile Char.isDigit = [] ∧ rest.dropWhile Char.isDigit = rest := by
    cases rest with
    | nil => exact ⟨rfl, rfl⟩
    | cons character rest =>
        have other := ends character rfl
        simp [other]
  rw [digits, List.takeWhile_append_of_pos all, List.dropWhile_append_of_pos all, stopped.1,
    stopped.2, List.append_nil, digitChars, List.map_map]
  refine congrArg (Prod.mk · rest) ?_
  refine (List.map_congr_left fun digit present => ?_).trans (List.map_id _)
  exact toNat_digitChar (isDigits.below digit present)

theorem someDigits?_digitChars {read : List Nat} (isDigits : IsDigits read)
    (ends : NoDigit rest) : someDigits? (digitChars read ++ rest) = some (read, rest) := by
  rw [someDigits?, digits_digitChars isDigits ends]
  cases read with
  | nil => exact False.elim (isDigits.filled rfl)
  | cons digit read => rfl

theorem whole?_digitChars {read : List Nat} (isDigits : IsDigits read)
    (leading : read.head? = some 0 → read = [0]) (ends : NoDigit rest) :
    whole? (digitChars read ++ rest) = some (read, rest) := by
  have digits := someDigits?_digitChars isDigits ends
  cases read with
  | nil => exact False.elim (isDigits.filled rfl)
  | cons digit read =>
      by_cases zero : digit = 0
      · subst zero
        cases leading rfl
        rfl
      · have different : Char.ofNat ('0'.toNat + digit) ≠ '0' := by
          intro same
          have value := toNat_digitChar (isDigits.below digit (.head read))
          rw [same] at value
          exact zero value.symm
        rw [← digits, digitChars, List.map_cons, List.cons_append, whole?]
        intro tail same
        exact different (List.cons.inj same).1

theorem fraction?_fractionText {read : Option (List Nat)}
    (isDigits : ∀ digits, read = some digits → IsDigits digits) (ends : NoDigit rest)
    (pointless : rest.head? ≠ some '.') :
    fraction? (Numeral.fractionText read ++ rest) = some (read, rest) := by
  cases read with
  | none =>
      cases rest with
      | nil => rfl
      | cons character rest =>
          have different : character ≠ '.' := fun same => pointless (congrArg some same)
          simp [Numeral.fractionText, fraction?, different]
  | some digits =>
      have read := someDigits?_digitChars (isDigits digits rfl) ends
      simp [Numeral.fractionText, fraction?, read]

theorem exponent?_exponentText {read : Option (Bool × List Nat)}
    (isDigits : ∀ negative digits, read = some (negative, digits) → IsDigits digits)
    (ends : Ends rest) :
    exponent? (Numeral.exponentText read ++ rest) = some (read, rest) := by
  cases read with
  | none =>
      cases rest with
      | nil => rfl
      | cons character rest =>
          have others := ends character rfl
          simp [Numeral.exponentText, exponent?, others.2.2.1, others.2.2.2]
  | some pair =>
      obtain ⟨negative, digits⟩ := pair
      have read := someDigits?_digitChars (isDigits negative digits rfl)
        fun character first => (ends character first).1
      cases negative <;> simp [Numeral.exponentText, exponent?, exponentSign, read]

theorem noDigit_exponentText (read : Option (Bool × List Nat)) (ends : Ends rest) :
    NoDigit (Numeral.exponentText read ++ rest) ∧
      (Numeral.exponentText read ++ rest).head? ≠ some '.' := by
  cases read with
  | none =>
      exact ⟨fun character first => (ends character first).1,
        fun first => (ends '.' first).2.1 rfl⟩
  | some pair =>
      refine ⟨fun character first => ?_, by simp [Numeral.exponentText]⟩
      cases Option.some.inj first
      rfl

theorem noDigit_fractionText (read : Option (List Nat)) (ends : NoDigit rest) :
    NoDigit (Numeral.fractionText read ++ rest) := by
  cases read with
  | none => exact ends
  | some digits =>
      intro character first
      cases Option.some.inj first
      rfl

theorem sign_digitChars (negative : Bool) {read : List Nat} (isDigits : IsDigits read)
    (rest : List Char) :
    sign ((if negative then ['-'] else []) ++ (digitChars read ++ rest)) =
      (negative, digitChars read ++ rest) := by
  cases negative with
  | true => rfl
  | false =>
      cases read with
      | nil => exact False.elim (isDigits.filled rfl)
      | cons digit read =>
          have different : Char.ofNat ('0'.toNat + digit) ≠ '-' := by
            intro same
            have digital := isDigit_digitChar (isDigits.below digit (.head read))
            rw [same] at digital
            cases digital
          simp only [Bool.false_eq_true, if_false, List.nil_append, digitChars, List.map_cons,
            List.cons_append]
          rw [sign]
          intro tail same
          exact different (List.cons.inj same).1

theorem numeral?_text {numeral : Numeral} (wellFormed : numeral.WellFormed) (ends : Ends rest) :
    numeral? (numeral.text ++ rest) = some (numeral, rest) := by
  obtain ⟨negative, whole, fraction, exponent⟩ := numeral
  have powers := exponent?_exponentText wellFormed.exponent ends
  have pointless := noDigit_exponentText exponent ends
  have decimals := fraction?_fractionText wellFormed.fraction pointless.1 pointless.2
  have units := whole?_digitChars wellFormed.whole wellFormed.leading
    (noDigit_fractionText fraction pointless.1)
  have first := sign_digitChars negative wellFormed.whole
    (Numeral.fractionText fraction ++ (Numeral.exponentText exponent ++ rest))
  simp only [numeral?, Numeral.text, List.append_assoc, first, units, decimals, powers,
    Option.bind_eq_bind, Option.bind_some, Option.pure_def]

end Written.Reader

/-! ## Numbers -/

namespace Numeral

def ofInt (value : Int) : Numeral := ⟨decide (value < 0), digitsOf value.natAbs, none, none⟩

theorem wellFormed_ofInt (value : Int) : (ofInt value).WellFormed where
  whole := isDigits_digitsOf value.natAbs
  leading := by
    intro leading
    by_cases zero : value.natAbs = 0
    · simp only [ofInt, zero]
      rfl
    · exact False.elim (head?_digitsOf (by omega) leading)
  fraction _ none := nomatch none
  exponent _ _ none := nomatch none

theorem text_ofInt (value : Int) : (ofInt value).text = (toString value).toList := by
  have body : digitChars (ofInt value).whole ++ (fractionText (ofInt value).fraction ++
      exponentText (ofInt value).exponent) = Nat.toDigits 10 value.natAbs := by
    simp only [ofInt, fractionText, exponentText, List.append_nil, digitChars_digitsOf]
  rw [text, body]
  cases value with
  | ofNat value =>
      have natural : (ofInt (Int.ofNat value)).negative = false := by simp [ofInt]
      rw [natural]
      exact Nat.toList_repr.symm
  | negSucc value =>
      have negative : (ofInt (Int.negSucc value)).negative = true := by simp [ofInt]
      have written : (toString (Int.negSucc value)).toList =
          '-' :: (Nat.repr (value + 1)).toList := by
        exact String.toList_append
      rw [negative, written, Nat.toList_repr]
      rfl

theorem le_foldl_digits (sum : Nat) (digits : List Nat) :
    sum ≤ digits.foldl (fun sum digit => sum * 10 + digit) sum := by
  induction digits generalizing sum with
  | nil => exact Nat.le_refl sum
  | cons digit digits induction =>
      have later := induction (sum * 10 + digit)
      rw [List.foldl_cons]
      omega

theorem absorb_of_le {sum : Nat} {digits : List Nat}
    (bound : digits.foldl (fun sum digit => sum * 10 + digit) sum ≤ greatestWord) :
    absorb sum digits = (digits.foldl (fun sum digit => sum * 10 + digit) sum, []) := by
  induction digits generalizing sum with
  | nil => rfl
  | cons digit digits induction =>
      have grows := le_foldl_digits (sum * 10 + digit) digits
      rw [absorb, if_pos (Nat.le_trans grows bound)]
      exact induction bound

theorem number?_ofInt {value : Int} (least : -((Nat.pow 2 63 : Nat) : Int) ≤ value)
    (greatest : value ≤ (greatestWord : Int)) :
    (ofInt value).number? = some (.integer value) := by
  have limit : Nat.pow 2 63 ≤ greatestWord := by decide
  have absorbed : absorb 0 (digitsOf value.natAbs) = (value.natAbs, []) := by
    have sum := foldl_digitsOf value.natAbs
    rw [absorb_of_le, sum]
    rw [sum]
    omega
  simp only [number?, ofInt, absorbed]
  by_cases negative : value < 0
  · have negated : Int.negOfNat value.natAbs = value := by
      rw [Int.negOfNat_eq, Int.ofNat_eq_natCast]
      omega
    have positive : 0 < value.natAbs := by omega
    have small : value.natAbs ≤ Nat.pow 2 63 := by omega
    simp [negative, positive, small, negated]
  · have natural : (value.natAbs : Int) = value := by omega
    simp [negative, natural]

end Numeral

/-! ## Shortest digits -/

namespace Decimal

namespace Binary64

variable (number : Binary64)

theorem interval_pos (nonzero : number.isZero = false) :
    0 < number.interval.low ∧ 0 < number.interval.denominator := by
  have significant : number.significand ≠ 0 := by simpa [isZero] using nonzero
  have units : 0 < (scaleByTwo (number.exponent - 2) 1 1).1 ∧
      0 < (scaleByTwo (number.exponent - 2) 1 1).2 := by
    rw [scaleByTwo]
    split
    · exact ⟨Nat.mul_pos Nat.one_pos (Nat.two_pow_pos _), Nat.one_pos⟩
    · exact ⟨Nat.one_pos, Nat.mul_pos Nat.one_pos (Nat.two_pow_pos _)⟩
  refine ⟨Nat.mul_pos ?_ units.1, units.2⟩
  split <;> omega

theorem holds_zero (nonzero : number.isZero = false) (power : Int) :
    number.interval.holds 0 power = false := by
  have low := (number.interval_pos nonzero).1
  have scaled (scale : Nat) (positive : 0 < scale) : 0 < number.interval.low * scale :=
    Nat.mul_pos low positive
  rw [Interval.holds]
  by_cases whole : 0 ≤ power
  · have bound := scaled 1 (by decide)
    simp only [if_pos whole, Nat.zero_mul]
    split <;> simp only [Bool.and_eq_false_iff, decide_eq_false_iff_not] <;> omega
  · have bound := scaled (Nat.pow 10 (-power).toNat) (Nat.pow_pos (by decide))
    simp only [if_neg whole, Nat.zero_mul]
    split <;> simp only [Bool.and_eq_false_iff, decide_eq_false_iff_not] <;> omega

theorem le_nearestQuotient (numerator denominator : Nat) :
    numerator / denominator ≤ nearestQuotient numerator denominator := by
  simp only [nearestQuotient]
  split
  · exact Nat.le_refl _
  · split <;> omega

theorem pos_of_onGrid? (nonzero : number.isZero = false) {power : Int} {multiple : Nat}
    (found : number.interval.onGrid? power = some multiple) : 0 < multiple := by
  have holds (value : Nat) (held : number.interval.holds value power = true) : 0 < value := by
    apply Nat.pos_of_ne_zero
    rintro rfl
    rw [number.holds_zero nonzero] at held
    cases held
  simp only [Interval.onGrid?] at found
  split at found
  · rename_i below above
    cases found
    exact Nat.lt_of_lt_of_le (holds _ below) (le_nearestQuotient ..)
  · rename_i below above
    cases found
    exact holds _ below
  · cases found
    exact Nat.succ_pos _
  · cases found

/-- The multiple that is found is positive, or stands behind the point. -/
theorem pos_or_neg_of_searchGrids (nonzero : number.isZero = false) {exponent : Int}
    (large : 0 ≤ exponent → 0 < number.interval.centre / number.interval.denominator)
    (grids : Nat) {count : Nat} (counted : 0 < count) :
    0 < (searchGrids number.interval exponent grids count).1 ∨
      (searchGrids number.interval exponent grids count).2 < 0 := by
  induction grids generalizing count with
  | zero =>
      by_cases whole : 0 ≤ exponent
      · exact .inl (large whole)
      · refine .inr ?_
        simp only [searchGrids]
        omega
  | succ grids induction =>
      simp only [searchGrids]
      split
      · rename_i multiple found
        exact .inl (number.pos_of_onGrid? nonzero found)
      · exact induction (Nat.succ_pos count)

theorem large_of_decimalExponent {numerator denominator : Nat} (positive : 0 < denominator)
    (whole : 0 ≤ decimalExponent numerator denominator) : 0 < numerator / denominator := by
  by_cases large : denominator ≤ numerator
  · exact Nat.div_pos large positive
  · rw [decimalExponent, if_neg large] at whole
    have filled := List.length_pos_iff.mpr
      (isDigits_digitsOf ((denominator + numerator - 1) / numerator - 1)).filled
    simp only [Int.negOfNat_eq, Int.ofNat_eq_natCast] at whole
    omega

end Binary64

theorem exists_significant {digits : List Nat} (filled : digits ≠ [])
    (leading : digits.head? ≠ some 0) :
    ∃ digit rest, digit ≠ 0 ∧ (digits.reverse.dropWhile (· == 0)).reverse = digit :: rest := by
  cases digits with
  | nil => exact False.elim (filled rfl)
  | cons digit rest =>
      have counts : digit ≠ 0 := fun zero => leading (congrArg some zero)
      rw [List.reverse_cons, List.dropWhile_append]
      split
      · exact ⟨digit, [], counts, by simp [counts]⟩
      · exact ⟨digit, _, counts, by rw [List.reverse_append]; rfl⟩

namespace Binary64

/-- Digits of which the first counts, unless all of them stand behind the point. -/
theorem isDigits_shortestDigits (number : Binary64) (nonzero : number.isZero = false) :
    IsDigits number.shortestDigits.digits ∧
      (0 ≤ number.shortestDigits.exponent → number.shortestDigits.digits.head? ≠ some 0) := by
  have place := number.pos_or_neg_of_searchGrids nonzero
    (large_of_decimalExponent (number.interval_pos nonzero).2) 17 Nat.one_pos
  simp only [shortestDigits]
  generalize searchGrids number.interval
    (decimalExponent number.interval.centre number.interval.denominator) 17 1 = found at place
  obtain ⟨multiple, power⟩ := found
  have written := isDigits_digitsOf multiple
  by_cases positive : 0 < multiple
  · rcases exists_significant written.filled (head?_digitsOf positive) with
      ⟨digit, rest, counts, kept⟩
    have below : ∀ other ∈ digit :: rest, other < 10 := by
      intro other member
      rw [← kept, List.mem_reverse] at member
      exact written.below other (List.mem_reverse.mp ((List.dropWhile_sublist _).subset member))
    simp only [kept]
    exact ⟨⟨nofun, below⟩, fun _ zero => counts (Option.some.inj zero)⟩
  · have zero : multiple = 0 := by omega
    have behind : power < 0 := place.resolve_left positive
    subst zero
    have single : digitsOf 0 = [0] := rfl
    have empty : ([0].reverse.dropWhile (· == 0)).reverse = ([] : List Nat) := rfl
    simp only [single, empty, List.isEmpty_nil, if_true, List.length_singleton]
    exact ⟨⟨nofun, by decide⟩, fun whole => by omega⟩

end Binary64

end Decimal

/-! ## Decimal numbers -/

namespace Numeral

def plain (negative : Bool) (digits : List Nat) (exponent : Int) : Numeral :=
  if exponent < 0 then
    ⟨negative, [0], some (List.replicate ((-exponent).toNat - 1) 0 ++ digits), none⟩
  else
    let whole := exponent.toNat + 1
    if digits.length ≤ whole then
      ⟨negative, digits ++ List.replicate (whole - digits.length) 0, some [0], none⟩
    else
      ⟨negative, digits.take whole, some (digits.drop whole), none⟩

def scientific (negative : Bool) (digits : List Nat) (exponent : Int) : Numeral :=
  ⟨negative, digits.take 1, if digits.drop 1 = [] then none else some (digits.drop 1),
    some (decide (exponent < 0), digitsOf exponent.natAbs)⟩

def ofDecimal (number : Binary64) : Numeral :=
  if number.isZero then ⟨number.negative, [0], some [0], none⟩
  else
    let shortest := number.shortestDigits
    if Json.decimalLayout.leastPlain ≤ shortest.exponent &&
        shortest.exponent ≤ Json.decimalLayout.greatestPlain then
      plain number.negative shortest.digits shortest.exponent
    else
      scientific number.negative shortest.digits shortest.exponent

section Decimals

variable (negative : Bool) {digits : List Nat} {exponent : Int}

theorem isDigits_append {front back : List Nat} (first : ∀ digit ∈ front, digit < 10)
    (second : IsDigits back) : IsDigits (front ++ back) where
  filled := by simp [second.filled]
  below digit member := (List.mem_append.mp member).elim (first digit) (second.below digit)

theorem wellFormed_plain (isDigits : IsDigits digits)
    (leading : 0 ≤ exponent → digits.head? ≠ some 0) :
    (plain negative digits exponent).WellFormed := by
  have zeros (count : Nat) : ∀ digit ∈ List.replicate count 0, digit < 10 := by
    intro digit member
    rw [List.eq_of_mem_replicate member]
    decide
  have nothing : ∀ negative digits, (none : Option (Bool × List Nat)) = some (negative, digits) →
      IsDigits digits := fun _ _ none => nomatch none
  rw [plain]
  split
  · refine ⟨isDigits_zero, fun _ => rfl, fun digits same => ?_, nothing⟩
    cases same
    exact isDigits_append (zeros _) isDigits
  · rename_i whole
    have counts := leading (by omega)
    cases digits with
    | nil => exact False.elim (isDigits.filled rfl)
    | cons digit rest =>
        -- The first digit counts, and it is the first digit of the whole part, too.
        have first : digit ≠ 0 := fun zero => counts (congrArg some zero)
        simp only
        split
        · refine ⟨⟨nofun, fun other member => ?_⟩, fun zero => ?_, fun fraction same => ?_, nothing⟩
          · exact (List.mem_append.mp member).elim (isDigits.below other) (zeros _ other)
          · exact False.elim (first (Option.some.inj zero))
          · cases same
            exact isDigits_zero
        · rename_i long
          refine ⟨⟨nofun, fun other member => ?_⟩, fun zero => ?_, fun fraction same => ?_, nothing⟩
          · exact isDigits.below other (List.mem_of_mem_take member)
          · exact False.elim (first (Option.some.inj zero))
          · cases same
            refine ⟨fun emptied => long ?_, fun other member => ?_⟩
            · exact List.drop_eq_nil_iff.mp emptied
            · exact isDigits.below other (List.mem_of_mem_drop member)

theorem wellFormed_scientific (isDigits : IsDigits digits) (exponent : Int) :
    (scientific negative digits exponent).WellFormed := by
  cases digits with
  | nil => exact False.elim (isDigits.filled rfl)
  | cons digit rest =>
      refine ⟨⟨nofun, fun other member => ?_⟩, fun zero => ?_, fun fraction same => ?_,
        fun sign power same => ?_⟩
      · exact isDigits.below other (List.mem_of_mem_take member)
      · rw [Option.some.inj zero]
        rfl
      · simp only [scientific, Option.ite_none_left_eq_some, Option.some.injEq] at same
        rcases same with ⟨filled, rfl⟩
        exact ⟨filled, fun other member => isDigits.below other (List.mem_of_mem_drop member)⟩
      · simp only [scientific, Option.some.injEq, Prod.mk.injEq] at same
        exact same.2 ▸ isDigits_digitsOf exponent.natAbs

theorem wellFormed_ofDecimal (number : Binary64) : (ofDecimal number).WellFormed := by
  rw [ofDecimal]
  split
  · refine ⟨isDigits_zero, fun _ => rfl, fun fraction same => ?_, fun _ _ none => nomatch none⟩
    cases same
    exact isDigits_zero
  · rename_i nonzero
    have shortest := number.isDigits_shortestDigits (Bool.eq_false_iff.mpr nonzero)
    simp only
    split
    · exact wellFormed_plain number.negative shortest.1 shortest.2
    · exact wellFormed_scientific number.negative shortest.1 _

theorem text_plain (digits : List Nat) (exponent : Int) :
    (plain negative digits exponent).text =
      (if negative then ['-'] else []) ++ Layout.plain (digitChars digits) exponent := by
  have length : (digitChars digits).length = digits.length := List.length_map _
  rw [plain, Layout.plain, length]
  split
  · simp [text, fractionText, exponentText, digitChars, zeros, List.map_replicate]
  · simp only
    split
    · simp [text, fractionText, exponentText, digitChars, zeros, List.map_replicate]
    · simp [text, fractionText, exponentText, digitChars, List.map_take, List.map_drop]

theorem text_scientific (digits : List Nat) (exponent : Int) :
    (scientific negative digits exponent).text =
      (if negative then ['-'] else []) ++
        Json.decimalLayout.scientific (digitChars digits) exponent := by
  have sign : (if decide (exponent < 0) then '-' else '+') ::
        digitChars (digitsOf exponent.natAbs) =
      (if exponent < 0 then ['-']
        else if Json.decimalLayout.signPositiveExponent then ['+'] else []) ++
        Nat.toDigits 10 exponent.natAbs := by
    rw [digitChars_digitsOf]
    by_cases below : exponent < 0 <;> simp [below, Json.decimalLayout]
  rw [text, scientific, exponentText, sign, Layout.scientific]
  rcases digits with _ | ⟨first, _ | ⟨second, rest⟩⟩ <;>
    simp [fractionText, digitChars, Json.decimalLayout]

theorem text_ofDecimal (number : Binary64) :
    (ofDecimal number).text = (Json.decimalLayout.write number).toList := by
  rw [Layout.write, String.toList_ofList, ofDecimal]
  by_cases zero : number.isZero
  · simp only [if_pos zero]
    rfl
  · simp only [if_neg zero]
    split
    · exact text_plain number.negative _ _
    · exact text_scientific number.negative _ _

end Decimals

end Numeral

/-! ## Any number -/

def Number.numeral : Number → Numeral
  | .integer value => .ofInt value
  | .decimal value => .ofDecimal value

theorem Number.wellFormed_numeral (number : Number) : number.numeral.WellFormed := by
  cases number with
  | integer value => exact Numeral.wellFormed_ofInt value
  | decimal value => exact Numeral.wellFormed_ofDecimal value

theorem Number.text_numeral (number : Number) : number.numeral.text = Json.numberText number := by
  cases number with
  | integer value => exact Numeral.text_ofInt value
  | decimal value => exact Numeral.text_ofDecimal value

end SharedEditing
