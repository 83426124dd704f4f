import SharedEditing.Proofs.Json.Members
import SharedEditing.Proofs.Json.Reading

/-! # Free-form values that are read again

A free-form value is read as itself, except where one of its objects begins with the key that
marks an embedded text: what is read then is the value of the text, or nothing. -/

namespace SharedEditing

open Written

def Members.IsMarked (members : Members) : Prop :=
  members.head?.map Prod.fst = some embeddedKey

instance (members : Members) : Decidable members.IsMarked :=
  inferInstanceAs (Decidable (_ = _))

instance (members : Members) : Decidable members.Sorted :=
  inferInstanceAs (Decidable (List.Pairwise _ _))

namespace Json

mutual

def objects : Json → List Members
  | array items => itemObjects items
  | object members => members :: memberObjects members
  | _ => []

def itemObjects : List Json → List Members
  | [] => []
  | item :: rest => objects item ++ itemObjects rest

def memberObjects : List (String × Json) → List Members
  | [] => []
  | (_, value) :: rest => objects value ++ memberObjects rest

end

end Json

/-! ## What no text stands for -/

namespace Written

variable {embedded? : String → Option Json}

theorem isEmbedding_ofMembers (members : Members) :
    isEmbedding (ofMembers members) = true ↔ members.IsMarked := by
  cases members with
  | nil => exact ⟨nofun, nofun⟩
  | cons member rest => simp [ofMembers, isEmbedding, Members.IsMarked]

theorem has_first_key {key : String} {item : Written} {rest : List (Option String × Written)}
    {values : List (String × Json)}
    (read : memberValues? embedded? ((some key, item) :: rest) = some values) :
    (Members.ofList values).get? key ≠ none := by
  rw [memberValues?.eq_def] at read
  dsimp only at read
  split at read
  · rename_i first value later same _ _
    cases same
    cases read
    rw [Members.get?_ofList, List.filter_cons, if_pos (beq_self_eq_true key)]
    simp
  · cases read

def NeverMarked (embedded? : String → Option Json) : Prop :=
  ∀ text value, embedded? text ≠ some (.object [(embeddedKey, value)])

theorem valueWith?_ne_marked (inside : NeverMarked embedded?) (written : Written) (value : Json) :
    valueWith? embedded? written ≠ some (.object [(embeddedKey, value)]) := by
  intro read
  cases written with
  | object members =>
      rw [valueWith?] at read
      split at read
      · rcases Option.bind_eq_some_iff.mp read with ⟨text, _, found⟩
        exact inside text value found
      · rename_i unmarked
        rcases Option.map_eq_some_iff.mp read with ⟨values, valued, same⟩
        injection same with same
        rcases members with _ | ⟨⟨key | key, item⟩, rest⟩
        · cases valued
          cases same
        · rw [memberValues?.eq_def] at valued
          cases valued
        · have other : embeddedKey ≠ key := by
            rintro rfl
            exact unmarked (beq_self_eq_true _)
          have found := has_first_key valued
          rw [same, Members.get?_cons, if_neg other] at found
          exact found rfl
  | null => cases read
  | bool => cases read
  | number => simp [valueWith?] at read
  | string => simp [valueWith?] at read
  | array => simp [valueWith?] at read

end Written

theorem Json.neverMarked_ofTextWithin? (depth : Nat) : NeverMarked (ofTextWithin? depth) := by
  induction depth with
  | zero => exact fun _ _ => nofun
  | succ depth induction =>
      intro text value
      rw [ofTextWithin?]
      split
      · split
        · exact valueWith?_ne_marked induction _ value
        · exact nofun
      · exact nofun

theorem Json.neverMarked_ofText? : NeverMarked ofText? := fun text =>
  neverMarked_ofTextWithin? (text.length + 1) text

/-! ## What is read as itself -/

namespace Written

variable {embedded? : String → Option Json} {members : Members} {values : List (String × Json)}

theorem keys_of_memberValues? (read : memberValues? embedded? (ofMembers members) = some values) :
    values.map Prod.fst = members.map Prod.fst := by
  induction members generalizing values with
  | nil =>
      cases read
      rfl
  | cons member rest induction =>
      rw [ofMembers, memberValues?.eq_def] at read
      dsimp only at read
      split at read
      · rename_i key value later same _ others
        cases same
        cases read
        rw [List.map_cons, List.map_cons, induction others]
      · cases read

theorem sorted_of_keys (keys : values.map Prod.fst = members.map Prod.fst)
    (sorted : members.Sorted) : Members.Sorted values := by
  have ordered : (members.map Prod.fst).Pairwise (· < ·) := List.pairwise_map.mpr sorted
  exact List.pairwise_map.mp (keys ▸ ordered)

theorem ofList_memberValues?_iff (sorted : members.Sorted) :
    (memberValues? embedded? (ofMembers members)).map Members.ofList = some members ↔
      memberValues? embedded? (ofMembers members) = some members := by
  constructor
  · intro read
    rcases Option.map_eq_some_iff.mp read with ⟨values, valued, same⟩
    rw [Members.ofList_of_sorted (sorted_of_keys (keys_of_memberValues? valued) sorted)] at same
    rw [valued, same]
  · intro read
    rw [read, Option.map_some, Members.ofList_of_sorted sorted]

theorem valueWith?_marked (inside : NeverMarked embedded?) (marked : members.IsMarked) :
    valueWith? embedded? (ofValue (.object members)) ≠ some (.object members) := by
  intro read
  rw [ofValue, valueWith?, if_pos ((isEmbedding_ofMembers members).mpr marked)] at read
  rcases Option.bind_eq_some_iff.mp read with ⟨text, embeds, found⟩
  rcases members with _ | ⟨⟨key, value⟩, _ | ⟨next, rest⟩⟩
  · cases embeds
  · have same : key = embeddedKey := Option.some.inj marked
    rw [same] at found
    exact inside text value found
  · simp [ofMembers, embeddedText?] at embeds

theorem valueWith?_unmarked (unmarked : ¬members.IsMarked) (sorted : members.Sorted) :
    valueWith? embedded? (ofValue (.object members)) = some (.object members) ↔
      memberValues? embedded? (ofMembers members) = some members := by
  rw [ofValue, valueWith?, if_neg (unmarked ∘ (isEmbedding_ofMembers members).mp),
    ← ofList_memberValues?_iff sorted]
  cases memberValues? embedded? (ofMembers members) <;> simp

mutual

theorem valueWith?_ofValue_iff (inside : NeverMarked embedded?) (value : Json)
    (sorted : ∀ members ∈ value.objects, members.Sorted) :
    valueWith? embedded? (ofValue value) = some value ↔
      ∀ members ∈ value.objects, ¬members.IsMarked := by
  cases value with
  | null => simp [ofValue, valueWith?, Json.objects]
  | bool value => simp [ofValue, valueWith?, Json.objects]
  | number value => simp [ofValue, valueWith?, Json.objects]
  | string text => simp [ofValue, valueWith?, Json.objects]
  | array items =>
      have each := itemValues?_ofItems_iff inside items sorted
      simpa [ofValue, valueWith?, Json.objects] using each
  | object members =>
      rcases List.forall_mem_cons.mp sorted with ⟨outside, nested⟩
      have each := memberValues?_ofMembers_iff inside members nested
      rw [Json.objects, List.forall_mem_cons]
      by_cases marked : Members.IsMarked members
      · exact iff_of_false (valueWith?_marked inside marked) fun neither => neither.1 marked
      · rw [valueWith?_unmarked marked outside, each, and_iff_right marked]

theorem itemValues?_ofItems_iff (inside : NeverMarked embedded?) (items : List Json)
    (sorted : ∀ members ∈ Json.itemObjects items, members.Sorted) :
    itemValues? embedded? (ofItems items) = some items ↔
      ∀ members ∈ Json.itemObjects items, ¬members.IsMarked := by
  cases items with
  | nil => simp [ofItems, itemValues?, Json.itemObjects]
  | cons item rest =>
      rcases List.forall_mem_append.mp sorted with ⟨here, there⟩
      have first := valueWith?_ofValue_iff inside item here
      have others := itemValues?_ofItems_iff inside rest there
      rw [Json.itemObjects, List.forall_mem_append, ← first, ← others, ofItems, itemValues?]
      cases valueWith? embedded? (ofValue item) <;>
        cases itemValues? embedded? (ofItems rest) <;> simp

theorem memberValues?_ofMembers_iff (inside : NeverMarked embedded?)
    (members : List (String × Json))
    (sorted : ∀ inner ∈ Json.memberObjects members, inner.Sorted) :
    memberValues? embedded? (ofMembers members) = some members ↔
      ∀ inner ∈ Json.memberObjects members, ¬inner.IsMarked := by
  match members with
  | [] => simp [ofMembers, memberValues?, Json.memberObjects]
  | (key, value) :: rest =>
      rcases List.forall_mem_append.mp sorted with ⟨here, there⟩
      have first := valueWith?_ofValue_iff inside value here
      have others := memberValues?_ofMembers_iff inside rest there
      rw [Json.memberObjects, List.forall_mem_append, ← first, ← others, ofMembers,
        memberValues?.eq_def]
      dsimp only
      cases valueWith? embedded? (ofValue value) <;>
        cases memberValues? embedded? (ofMembers rest) <;> simp

end

/-- A free-form object is read as itself exactly when no object inside it is marked. -/
theorem freeMembers?_ofMembers_iff (sorted : members.Sorted)
    (nested : ∀ inner ∈ Json.memberObjects members, inner.Sorted) :
    freeMembers? (ofMembers members) = some members ↔
      ∀ inner ∈ Json.memberObjects members, ¬inner.IsMarked := by
  rw [freeMembers?, ofList_memberValues?_iff sorted]
  exact memberValues?_ofMembers_iff Json.neverMarked_ofText? members nested

end Written

end SharedEditing
