import Mathlib.Tactic.SplitIfs
import SharedEditing.Proofs.Json.Numerals

/-! # Reading what was written

The text of a value is read as that value. Only a number that is no integer of 64 bits
may come back as another one, since its digits are rounded again when they are read. -/

namespace SharedEditing

/-! ## Strings -/

namespace Written.Reader

open Json

def StandsFor (part : StringPart) (character : Char) : Prop :=
  ∀ more, characters? (part :: more) = (characters? more).map (character :: ·)

theorem standsFor_character (character : Char) : StandsFor (.character character) character :=
  fun _ => rfl

theorem standsFor_unit {character : Char} (control : character.toNat < 0x20) :
    StandsFor (.unit character.toNat) character := by
  intro more
  have high : isHighSurrogate character.toNat = false := by
    simp only [isHighSurrogate, Bool.and_eq_false_iff, decide_eq_false_iff_not]
    omega
  have low : isLowSurrogate character.toNat = false := by
    simp only [isLowSurrogate, Bool.and_eq_false_iff, decide_eq_false_iff_not]
    omega
  rw [characters?.eq_def]
  simp [high, low, Char.ofNat_toNat]

theorem unit?_control {code : Nat} (control : code < 0x20) :
    unit? '0' '0' (hexDigit (code / 16)) (hexDigit (code % 16)) = some code := by
  revert code
  decide

theorem parts?_named {letter character : Char} (names : simpleEscape? letter = some character)
    (unmarked : letter ≠ 'u') (rest : List Char) :
    parts? ('\\' :: letter :: rest) =
      (parts? rest).map fun read => (.character character :: read.1, read.2) := by
  rw [parts?.eq_4 _ _ fun _ _ _ _ _ marked => False.elim (unmarked marked), names]
  cases parts? rest <;> rfl

theorem parts?_unit {first second third fourth : Char} {code : Nat}
    (reads : unit? first second third fourth = some code) (rest : List Char) :
    parts? ('\\' :: 'u' :: first :: second :: third :: fourth :: rest) =
      (parts? rest).map fun read => (.unit code :: read.1, read.2) := by
  rw [parts?.eq_3, reads]
  cases parts? rest <;> rfl

theorem parts?_plain {character : Char} (quote : character ≠ '"') (escape : character ≠ '\\')
    (control : ¬ character.toNat < 0x20) (rest : List Char) :
    parts? (character :: rest) =
      (parts? rest).map fun read => (.character character :: read.1, read.2) := by
  rw [parts?.eq_5 _ _ quote (fun _ _ _ _ _ same => False.elim (escape same))
    (fun _ _ same => False.elim (escape same))]
  rw [if_neg fun either => either.elim escape control]
  cases parts? rest <;> rfl

theorem parts?_escape (character : Char) (rest : List Char) :
    ∃ part, StandsFor part character ∧
      parts? (escape character ++ rest) =
        (parts? rest).map fun read => (part :: read.1, read.2) := by
  have named {letter other : Char} (same : character = other)
      (names : simpleEscape? letter = some other) (unmarked : letter ≠ 'u') :
      ∃ part, StandsFor part character ∧
        parts? ('\\' :: letter :: rest) =
          (parts? rest).map fun read => (part :: read.1, read.2) :=
    ⟨_, standsFor_character character, parts?_named (same ▸ names) unmarked rest⟩
  rw [escape]
  split_ifs with quote backslash backspace tab newline feed return_ control
  · exact named quote rfl (by decide)
  · exact named backslash rfl (by decide)
  · exact named backspace rfl (by decide)
  · exact named tab rfl (by decide)
  · exact named newline rfl (by decide)
  · exact named feed rfl (by decide)
  · exact named return_ rfl (by decide)
  · exact ⟨_, standsFor_unit control, parts?_unit (unit?_control control) rest⟩
  · exact ⟨_, standsFor_character character, parts?_plain quote backslash control rest⟩

theorem parts?_quoted (text rest : List Char) :
    ∃ parts, parts? (text.flatMap escape ++ '"' :: rest) = some (parts, rest) ∧
      characters? parts = some text := by
  induction text with
  | nil => exact ⟨[], rfl, rfl⟩
  | cons character text induction =>
      rcases induction with ⟨parts, read, stands⟩
      rcases parts?_escape character (text.flatMap escape ++ '"' :: rest) with
        ⟨part, standsFor, first⟩
      refine ⟨part :: parts, ?_, ?_⟩
      · rw [List.flatMap_cons, List.append_assoc, first, read]
        rfl
      · rw [standsFor parts, stands]
        rfl

theorem string?_quoted (text : String) (rest : List Char) :
    string? (text.toList.flatMap escape ++ '"' :: rest) = some (some text, rest) := by
  rcases parts?_quoted text.toList rest with ⟨parts, read, stands⟩
  rw [string?, read]
  simp [stands]

end Written.Reader

/-! ## Values -/

namespace Json

mutual

def written : Json → Written
  | null => .null
  | bool value => .bool value
  | number value => .number value.numeral.number?
  | string text => .string (some text)
  | array items => .array (writtenItems items)
  | object members => .object (writtenMembers members)

def writtenItems : List Json → List Written
  | [] => []
  | item :: rest => written item :: writtenItems rest

def writtenMembers : List (String × Json) → List (Option String × Written)
  | [] => []
  | (key, value) :: rest => (some key, written value) :: writtenMembers rest

end

end Json

namespace Written.Reader

open Decimal Json

variable {value item : Json} {items : List Json} {members : Members} {key : String}

def Begins (text : List Char) : Prop :=
  ∃ first more, text = first :: more ∧ isSpace first = false ∧ first ≠ ']'

theorem skipSpace_cons {first : Char} (token : isSpace first = false) (rest : List Char) :
    skipSpace (first :: rest) = first :: rest := by
  rw [skipSpace, List.dropWhile_cons, token]
  rfl

theorem ends_cons {first : Char} (digit : first.isDigit = false)
    (other : first ≠ '.' ∧ first ≠ 'e' ∧ first ≠ 'E') (rest : List Char) :
    Ends (first :: rest) := by
  intro character head
  cases head
  exact ⟨digit, other⟩

theorem head_text {numeral : Numeral} (wellFormed : numeral.WellFormed) :
    ∃ first more, numeral.text = first :: more ∧ (first = '-' ∨ first.isDigit = true) := by
  rw [Numeral.text]
  cases numeral.negative with
  | true => exact ⟨'-', _, rfl, Or.inl rfl⟩
  | false =>
      cases whole : numeral.whole with
      | nil => exact False.elim (wellFormed.whole.filled whole)
      | cons digit digits =>
          have below : digit < 10 := wellFormed.whole.below digit (by simp [whole])
          exact ⟨_, _, rfl, Or.inr (isDigit_digitChar below)⟩

theorem begins_number {first : Char} (starts : first = '-' ∨ first.isDigit = true) :
    isSpace first = false ∧ first ≠ ']' := by
  rcases starts with rfl | digit
  · exact ⟨rfl, by decide⟩
  · constructor
    · cases space : isSpace first with
      | false => rfl
      | true =>
          simp only [isSpace, Bool.or_eq_true, beq_iff_eq] at space
          rcases space with ((rfl | rfl) | rfl) | rfl <;> exact absurd digit (by decide)
    · rintro rfl
      exact absurd digit (by decide)

theorem begins_render (value : Json) : Begins value.render := by
  cases value with
  | null => exact ⟨_, _, rfl, rfl, by decide⟩
  | bool value => cases value <;> exact ⟨_, _, rfl, rfl, by decide⟩
  | number value =>
      rcases head_text value.wellFormed_numeral with ⟨first, more, text, starts⟩
      rw [value.text_numeral] at text
      exact ⟨first, more, text, begins_number starts⟩
  | string text => exact ⟨_, _, rfl, rfl, by decide⟩
  | array items => exact ⟨_, _, rfl, rfl, by decide⟩
  | object members => exact ⟨_, _, rfl, rfl, by decide⟩

theorem value?_numeral {first : Char} (starts : first = '-' ∨ first.isDigit = true) (bound : Nat)
    (rest : List Char) :
    value? (bound + 1) (first :: rest) =
      (numeral? (first :: rest)).map fun read => (.number read.1.number?, read.2) := by
  rw [value?, skipSpace_cons (begins_number starts).1]
  split
  case h_7 => rfl
  all_goals
    rename_i same
    rcases List.cons.inj same with ⟨rfl, _⟩
    exact absurd starts (by decide)

/-! What is read back, from the least values up. Every bound is above the length of the text. -/

def ReadsBack (value : Json) : Prop :=
  ∀ bound rest, value.render.length < bound → Ends rest →
    value? bound (value.render ++ rest) = some (value.written, rest)

def ItemsReadBack (items : List Json) : Prop :=
  items ≠ [] → ∀ bound rest, (renderItems items).length + 1 < bound →
    items? bound (renderItems items ++ ']' :: rest) = some (writtenItems items, rest)

def MembersReadBack (members : Members) : Prop :=
  members ≠ [] → ∀ bound rest, (renderMembers members).length + 1 < bound →
    members? bound (renderMembers members ++ '\x7d' :: rest) = some (writtenMembers members, rest)

theorem readsBack_null : ReadsBack .null := by
  intro bound rest enough ends
  obtain ⟨bound, rfl⟩ := Nat.exists_eq_add_one_of_ne_zero (Nat.ne_zero_of_lt enough)
  rw [value?]
  rfl

theorem readsBack_bool (value : Bool) : ReadsBack (.bool value) := by
  intro bound rest enough ends
  obtain ⟨bound, rfl⟩ := Nat.exists_eq_add_one_of_ne_zero (Nat.ne_zero_of_lt enough)
  rw [value?]
  cases value <;> rfl

theorem readsBack_number (value : Number) : ReadsBack (.number value) := by
  intro bound rest enough ends
  obtain ⟨bound, rfl⟩ := Nat.exists_eq_add_one_of_ne_zero (Nat.ne_zero_of_lt enough)
  rcases head_text value.wellFormed_numeral with ⟨first, more, text, starts⟩
  have read := numeral?_text value.wellFormed_numeral ends
  rw [render, ← value.text_numeral, text, List.cons_append, value?_numeral starts]
  rw [← List.cons_append, ← text, read]
  rfl

theorem readsBack_string (text : String) : ReadsBack (.string text) := by
  intro bound rest enough ends
  obtain ⟨bound, rfl⟩ := Nat.exists_eq_add_one_of_ne_zero (Nat.ne_zero_of_lt enough)
  have read := string?_quoted text rest
  rw [render, quote, List.cons_append, List.append_assoc, List.singleton_append, value?,
    skipSpace_cons rfl]
  simp only [read, Option.map_some, written]

theorem begins_renderItems (filled : items ≠ []) : Begins (renderItems items) := by
  match items with
  | [item] =>
      rw [renderItems]
      exact begins_render item
  | item :: other :: more =>
      rcases begins_render item with ⟨first, rest, text, begins⟩
      rw [renderItems, text]
      · exact ⟨first, _, rfl, begins⟩
      · exact nofun

/-- Where items follow, no closing bracket stands first. -/
theorem value?_items (filled : items ≠ []) (bound : Nat) (rest : List Char) :
    value? (bound + 1) ('[' :: (renderItems items ++ rest)) =
      (items? bound (renderItems items ++ rest)).map fun read => (.array read.1, read.2) := by
  rcases begins_renderItems filled with ⟨first, more, text, token, other⟩
  rw [value?, skipSpace_cons rfl, text, List.cons_append]
  simp only [skipSpace_cons token]
  split
  · rename_i same
    exact False.elim (other (List.cons.inj same).1)
  · rfl

theorem readsBack_array (inside : ItemsReadBack items) : ReadsBack (.array items) := by
  intro bound rest enough ends
  obtain ⟨bound, rfl⟩ := Nat.exists_eq_add_one_of_ne_zero (Nat.ne_zero_of_lt enough)
  rw [render, List.cons_append, List.append_assoc, List.singleton_append, written]
  by_cases filled : items = []
  · rw [filled, value?]
    rfl
  · have small : (renderItems items).length + 1 < bound := by
      simpa [render] using enough
    rw [value?_items filled, inside filled bound rest small]
    rfl

theorem quote_append (text : String) (rest : List Char) :
    quote text ++ rest = '"' :: (text.toList.flatMap escape ++ '"' :: rest) := by
  rw [quote, List.cons_append, List.append_assoc, List.singleton_append]

theorem value?_members (filled : members ≠ []) (bound : Nat) (rest : List Char) :
    value? (bound + 1) ('\x7b' :: (renderMembers members ++ rest)) =
      (members? bound (renderMembers members ++ rest)).map fun read =>
        (.object read.1, read.2) := by
  have quoted : ∃ more, renderMembers members = '"' :: more := by
    match members with
    | [(key, value)] => exact ⟨_, by rw [renderMembers, quote_append]⟩
    | (key, value) :: other :: more =>
        exact ⟨_, by rw [renderMembers.eq_3 key value (other :: more) nofun, quote_append]⟩
  rcases quoted with ⟨more, text⟩
  rw [text, value?]
  rfl

theorem readsBack_object (inside : MembersReadBack members) : ReadsBack (.object members) := by
  intro bound rest enough ends
  obtain ⟨bound, rfl⟩ := Nat.exists_eq_add_one_of_ne_zero (Nat.ne_zero_of_lt enough)
  rw [render, List.cons_append, List.append_assoc, List.singleton_append, written]
  by_cases filled : members = []
  · rw [filled, value?]
    rfl
  · have small : (renderMembers members).length + 1 < bound := by
      simpa [render] using enough
    rw [value?_members filled, inside filled bound rest small]
    rfl

theorem itemsReadBack_nil : ItemsReadBack [] := fun filled => False.elim (filled rfl)

theorem itemsReadBack_singleton (first : ReadsBack item) : ItemsReadBack [item] := by
  intro _ bound rest enough
  obtain ⟨bound, rfl⟩ := Nat.exists_eq_add_one_of_ne_zero (Nat.ne_zero_of_lt enough)
  have read := first bound (']' :: rest) (by simpa [renderItems] using enough)
    (ends_cons rfl (by decide) rest)
  rw [renderItems, items?, read]
  rfl

theorem itemsReadBack_cons (more : items ≠ []) (first : ReadsBack item)
    (others : ItemsReadBack items) : ItemsReadBack (item :: items) := by
  intro _ bound rest enough
  obtain ⟨bound, rfl⟩ := Nat.exists_eq_add_one_of_ne_zero (Nat.ne_zero_of_lt enough)
  rw [renderItems.eq_3 item items more, List.length_append, List.length_cons] at enough
  have read := first bound (',' :: (renderItems items ++ ']' :: rest)) (by omega)
    (ends_cons rfl (by decide) _)
  rw [renderItems.eq_3 item items more, List.append_assoc, List.cons_append, items?, read]
  simp only [skipSpace_cons (show isSpace ',' = false from rfl)]
  rw [others more bound rest (by omega)]
  rfl

theorem membersReadBack_nil : MembersReadBack [] := fun filled => False.elim (filled rfl)

variable {bound : Nat} {text rest : List Char} {read : Written}

theorem members?_last (last : value? bound text = some (read, '\x7d' :: rest)) :
    members? (bound + 1) (quote key ++ ':' :: text) = some ([(some key, read)], rest) := by
  rw [quote_append, members?, skipSpace_cons rfl]
  simp only [string?_quoted]
  rw [skipSpace_cons rfl]
  simp only [last]
  rfl

theorem members?_next (first : value? bound text = some (read, ',' :: rest)) :
    members? (bound + 1) (quote key ++ ':' :: text) =
      (members? bound rest).map fun more => ((some key, read) :: more.1, more.2) := by
  rw [quote_append, members?, skipSpace_cons rfl]
  simp only [string?_quoted]
  rw [skipSpace_cons rfl]
  simp only [first]
  rfl

theorem membersReadBack_singleton (first : ReadsBack value) :
    MembersReadBack [(key, value)] := by
  intro _ bound rest enough
  obtain ⟨bound, rfl⟩ := Nat.exists_eq_add_one_of_ne_zero (Nat.ne_zero_of_lt enough)
  rw [renderMembers, List.length_append, List.length_cons] at enough
  have read := first bound ('\x7d' :: rest) (by omega) (ends_cons rfl (by decide) rest)
  rw [renderMembers, List.append_assoc, List.cons_append]
  exact members?_last read

theorem membersReadBack_cons (more : members ≠ []) (first : ReadsBack value)
    (others : MembersReadBack members) : MembersReadBack ((key, value) :: members) := by
  intro _ bound rest enough
  obtain ⟨bound, rfl⟩ := Nat.exists_eq_add_one_of_ne_zero (Nat.ne_zero_of_lt enough)
  rw [renderMembers.eq_3 key value members more, List.length_append, List.length_cons,
    List.length_append, List.length_cons] at enough
  have read := first bound (',' :: (renderMembers members ++ '\x7d' :: rest)) (by omega)
    (ends_cons rfl (by decide) _)
  rw [renderMembers.eq_3 key value members more, List.append_assoc, List.cons_append,
    List.append_assoc, List.cons_append, members?_next read, others more bound rest (by omega)]
  rfl

theorem readsBack (value : Json) : ReadsBack value := by
  apply Json.render.induct ReadsBack MembersReadBack ItemsReadBack
  case case1 => exact readsBack_null
  case case2 => exact readsBack_bool true
  case case3 => exact readsBack_bool false
  case case4 => exact readsBack_number
  case case5 => exact readsBack_string
  case case6 => exact fun _ => readsBack_array
  case case7 => exact fun _ => readsBack_object
  case case8 => exact itemsReadBack_nil
  case case9 => exact fun _ => itemsReadBack_singleton
  case case10 => exact fun _ _ => itemsReadBack_cons
  case case11 => exact membersReadBack_nil
  case case12 => exact fun _ _ => membersReadBack_singleton
  case case13 => exact fun _ _ _ => membersReadBack_cons

end Written.Reader

open Written.Reader

theorem Written.ofText?_text (value : Json) : ofText? value.text = some value.written := by
  have ended : Ends [] := nofun
  have read := readsBack value (value.render.length + 1) [] (Nat.lt_succ_self _) ended
  rw [List.append_nil] at read
  rw [ofText?, Json.text, String.toList_ofList]
  simp only [read]
  rfl

/-! ## Numbers in a value -/

/-- The text of the number is read as the number itself. -/
def Number.IsKept (number : Number) : Prop := number.numeral.number? = some number

instance (number : Number) : Decidable number.IsKept :=
  inferInstanceAs (Decidable (number.numeral.number? = some number))

theorem Number.isKept_integer {value : Int} (least : -((Nat.pow 2 63 : Nat) : Int) ≤ value)
    (greatest : value ≤ (Numeral.greatestWord : Int)) : (Number.integer value).IsKept :=
  Numeral.number?_ofInt least greatest

/-- A decimal with few digits after its point is rounded twice: once as a natural number,
once as a quotient. -/
theorem Numeral.decimal?_of_near {power : Int} (below : power < 0) (near : -308 ≤ power)
    (negative : Bool) (significand : Nat) :
    decimal? negative significand power =
      (Decimal.Binary64.ofNat? false significand).bind fun whole =>
        ((Decimal.Binary64.powerOfTen? (-power).toNat).bind whole.over?).map
          (Decimal.Binary64.withSign negative) := by
  have scaled (value : Decimal.Binary64) : scale? value power =
      (Decimal.Binary64.powerOfTen? (-power).toNat).bind value.over? := by
    rw [scale?, if_neg (Int.not_le.mpr below), if_pos near]
  simp only [decimal?, scaled, Option.bind_eq_bind, Option.pure_def, Option.map_eq_bind,
    Function.comp_def]

theorem Numeral.number?_drifts :
    let received : Numeral :=
      ⟨false, [1, 8], some [0, 2, 7, 5, 7, 7, 0, 9, 2, 9, 8, 1, 4, 1, 1], none⟩
    let read : Number := .decimal ⟨false, 5074311842396499, -48⟩
    received.number? = some read ∧
      read.numeral.number? = some (.decimal ⟨false, 5074311842396500, -48⟩) := by
  intro received read
  have rounded (significand : Nat) := decimal?_of_near (show (-15 : Int) < 0 by decide)
    (by decide) false significand
  constructor
  · change (decimal? false 18027577092981411 (-15)).map Number.decimal = _
    rw [rounded]
    decide +kernel
  · have written : read.numeral =
        ⟨false, [1, 8], some [0, 2, 7, 5, 7, 7, 0, 9, 2, 9, 8, 1, 4, 1, 4], none⟩ := by
      decide +kernel
    rw [written]
    change (decimal? false 18027577092981414 (-15)).map Number.decimal = _
    rw [rounded]
    decide +kernel

namespace Json

mutual

def numbers : Json → List Number
  | number value => [value]
  | array items => itemNumbers items
  | object members => memberNumbers members
  | _ => []

def itemNumbers : List Json → List Number
  | [] => []
  | item :: rest => numbers item ++ itemNumbers rest

def memberNumbers : List (String × Json) → List Number
  | [] => []
  | (_, value) :: rest => numbers value ++ memberNumbers rest

end

mutual

theorem written_eq_ofValue_iff (value : Json) :
    value.written = .ofValue value ↔ ∀ number ∈ value.numbers, number.IsKept := by
  cases value with
  | null => simp [written, Written.ofValue, numbers]
  | bool value => simp [written, Written.ofValue, numbers]
  | number value => simp [written, Written.ofValue, numbers, Number.IsKept]
  | string text => simp [written, Written.ofValue, numbers]
  | array items =>
      simpa [written, Written.ofValue, numbers] using writtenItems_eq_ofItems_iff items
  | object members =>
      simpa [written, Written.ofValue, numbers] using writtenMembers_eq_ofMembers_iff members

theorem writtenItems_eq_ofItems_iff (items : List Json) :
    writtenItems items = Written.ofItems items ↔ ∀ number ∈ itemNumbers items, number.IsKept := by
  cases items with
  | nil => simp [writtenItems, Written.ofItems, itemNumbers]
  | cons item rest =>
      have first := written_eq_ofValue_iff item
      have others := writtenItems_eq_ofItems_iff rest
      simp only [writtenItems, Written.ofItems, itemNumbers, List.cons.injEq, first, others,
        List.forall_mem_append]

theorem writtenMembers_eq_ofMembers_iff (members : List (String × Json)) :
    writtenMembers members = Written.ofMembers members ↔
      ∀ number ∈ memberNumbers members, number.IsKept := by
  match members with
  | [] => simp [writtenMembers, Written.ofMembers, memberNumbers]
  | (key, value) :: rest =>
      have first := written_eq_ofValue_iff value
      have others := writtenMembers_eq_ofMembers_iff rest
      simp only [writtenMembers, Written.ofMembers, memberNumbers, List.cons.injEq, Prod.mk.injEq,
        true_and, first, others, List.forall_mem_append]

end

end Json

end SharedEditing
