import SharedEditing.Json.FreeForm
import SharedEditing.Proofs.Change.Presentation

/-! # Members of a free-form object

What is written under a key is found under that key, and of equal keys the last counts. -/

namespace SharedEditing

namespace Members

theorem get?_foldl_insert (values : List (String × Json)) (members : Members) (key : String) :
    (values.foldl (fun sorted member => sorted.insert member.1 member.2) members).get? key =
      ((values.filter fun member => member.1 == key).getLast?.map Prod.snd).or
        (members.get? key) := by
  induction values generalizing members with
  | nil => rfl
  | cons member rest induction =>
      rw [List.foldl_cons, induction, get?_insert, List.filter_cons]
      by_cases same : member.1 = key
      · rw [if_pos same, if_pos (beq_iff_eq.mpr same), List.getLast?_cons]
        cases (rest.filter fun member => member.1 == key).getLast? <;> rfl
      · rw [if_neg same, if_neg (same ∘ beq_iff_eq.mp)]

theorem get?_ofList (values : List (String × Json)) (key : String) :
    (ofList values).get? key =
      (values.filter fun member => member.1 == key).getLast?.map Prod.snd := by
  rw [ofList, get?_foldl_insert, get?_nil, Option.or_none]

theorem sorted_ofList (values : List (String × Json)) : (ofList values).Sorted := by
  have grown (members : Members) (sorted : members.Sorted) :
      (values.foldl (fun sorted member => sorted.insert member.1 member.2) members).Sorted := by
    induction values generalizing members with
    | nil => exact sorted
    | cons member rest induction => exact induction _ (sorted_insert sorted member.1 member.2)
  exact grown [] List.Pairwise.nil

theorem filter_key_of_sorted {members : Members} (sorted : members.Sorted) (key : String) :
    (members.filter fun member => member.1 == key).map Prod.snd = (members.get? key).toList := by
  induction members with
  | nil => rfl
  | cons member rest induction =>
      rcases List.pairwise_cons.mp sorted with ⟨least, later⟩
      rw [List.filter_cons, get?_cons]
      by_cases same : member.1 = key
      · have none : (rest.filter fun member => member.1 == key) = [] := by
          apply List.filter_eq_nil_iff.mpr
          intro other present
          have behind := least other present
          simp only [beq_iff_eq]
          rintro rfl
          exact lt_irrefl _ (same ▸ behind)
        rw [if_pos (beq_iff_eq.mpr same), if_pos same, none]
        rfl
      · rw [if_neg (same ∘ beq_iff_eq.mp), if_neg same]
        exact induction later

theorem get?_eq_none_of_lt {members : Members} {key : String}
    (least : ∀ member ∈ members, key < member.1) : members.get? key = none := by
  induction members with
  | nil => rfl
  | cons member rest induction =>
      have before := least member (.head rest)
      rw [get?_cons, if_neg (ne_of_gt before)]
      exact induction fun other later => least other (.tail member later)

theorem eq_of_get?_eq {left right : Members} (leftSorted : left.Sorted)
    (rightSorted : right.Sorted) (alike : ∀ key, left.get? key = right.get? key) :
    left = right := by
  induction left generalizing right with
  | nil =>
      cases right with
      | nil => rfl
      | cons member rest =>
          have found := alike member.1
          rw [get?_nil, get?_cons, if_pos rfl] at found
          cases found
  | cons first others induction =>
      cases right with
      | nil =>
          have found := alike first.1
          rw [get?_nil, get?_cons, if_pos rfl] at found
          cases found
      | cons member rest =>
          rcases List.pairwise_cons.mp leftSorted with ⟨leastLeft, laterLeft⟩
          rcases List.pairwise_cons.mp rightSorted with ⟨leastRight, laterRight⟩
          -- A key in front of the other list would not be found in it.
          have same : first.1 = member.1 := by
            rcases lt_trichotomy first.1 member.1 with before | same | behind
            · have missing : get? (member :: rest) first.1 = none :=
                get?_eq_none_of_lt (List.forall_mem_cons.mpr
                  ⟨before, fun other later => lt_trans before (leastRight other later)⟩)
              have found := alike first.1
              rw [missing, get?_cons, if_pos rfl] at found
              cases found
            · exact same
            · have missing : get? (first :: others) member.1 = none :=
                get?_eq_none_of_lt (List.forall_mem_cons.mpr
                  ⟨behind, fun other later => lt_trans behind (leastLeft other later)⟩)
              have found := alike member.1
              rw [missing, get?_cons, if_pos rfl] at found
              cases found
          have value : first.2 = member.2 := by
            have found := alike first.1
            rw [get?_cons, get?_cons, if_pos rfl, if_pos same.symm] at found
            exact Option.some.inj found
          have tails : others = rest := by
            refine induction laterLeft laterRight fun key => ?_
            by_cases own : first.1 = key
            · rw [get?_eq_none_of_lt (own ▸ leastLeft),
                get?_eq_none_of_lt (own ▸ same ▸ leastRight)]
            · have found := alike key
              rwa [get?_cons, get?_cons, if_neg own, if_neg (same ▸ own)] at found
          rw [tails, Prod.ext same value]

theorem has_eq_isSome (members : Members) (key : String) :
    members.has key = (members.get? key).isSome := by
  induction members with
  | nil => rfl
  | cons member rest induction =>
      rw [has, List.any_cons, get?_cons]
      by_cases same : member.1 = key
      · simp [same]
      · rw [if_neg same, ← induction, has]
        simp [same]

theorem ofList_of_sorted {members : Members} (sorted : members.Sorted) :
    ofList members = members := by
  refine eq_of_get?_eq (sorted_ofList members) sorted fun key => ?_
  rw [get?_ofList, ← List.getLast?_map, filter_key_of_sorted sorted]
  cases members.get? key <;> rfl

end Members

namespace Written

def ofKeyed (members : List (String × Written)) : List (Option String × Written) :=
  members.map fun member => (some member.1, member.2)

theorem keyed?_ofKeyed (members : List (String × Written)) :
    keyed? (ofKeyed members) = some members := by
  induction members with
  | nil => rfl
  | cons member rest induction =>
      rw [ofKeyed] at induction ⊢
      rw [List.map_cons, keyed?.eq_def]
      simp only [induction]

theorem keyed?_eq_some_iff {members : List (Option String × Written)}
    {keyed : List (String × Written)} : keyed? members = some keyed ↔ members = ofKeyed keyed := by
  constructor
  · intro keys
    induction members generalizing keyed with
    | nil =>
        cases keys
        rfl
    | cons member rest induction =>
        rw [keyed?.eq_def] at keys
        dsimp only at keys
        split at keys
        · rename_i key later named others
          cases keys
          rw [induction others]
          exact congrArg (· :: _) (Prod.ext named rfl)
        · cases keys
  · rintro rfl
    exact keyed?_ofKeyed keyed

theorem occurrences_cons {α : Type} (member : String × α) (rest : List (String × α))
    (key : String) :
    occurrences (member :: rest) key =
      (if key = member.1 then [member.2] else []) ++ occurrences rest key := by
  rw [occurrences, List.filter_cons]
  by_cases same : member.1 = key
  · rw [if_pos (beq_iff_eq.mpr same), if_pos same.symm]
    rfl
  · rw [if_neg (same ∘ beq_iff_eq.mp), if_neg (Ne.symm same)]
    rfl

theorem occurrences_append {α : Type} (front back : List (String × α)) (key : String) :
    occurrences (front ++ back) key = occurrences front key ++ occurrences back key := by
  rw [occurrences, List.filter_append, List.map_append]
  rfl

variable {embedded? : String → Option Json} {member : String × Written}
  {members : List (String × Written)} {values : List (String × Json)}

theorem memberValues?_cons
    (read : memberValues? embedded? (ofKeyed (member :: members)) = some values) :
    ∃ value later, valueWith? embedded? member.2 = some value ∧
      memberValues? embedded? (ofKeyed members) = some later ∧
      values = (member.1, value) :: later := by
  rw [ofKeyed, List.map_cons, memberValues?.eq_def] at read
  dsimp only at read
  split at read
  · rename_i key value later same first others
    cases same
    cases read
    exact ⟨value, later, first, others, rfl⟩
  · cases read

theorem occurrences_of_memberValues?
    (read : memberValues? embedded? (ofKeyed members) = some values) (key : String) :
    (occurrences members key).map (valueWith? embedded?) =
      ((values.filter fun member => member.1 == key).map Prod.snd).map some := by
  induction members generalizing values with
  | nil =>
      cases read
      rfl
  | cons member rest induction =>
      rcases memberValues?_cons read with ⟨value, later, first, others, rfl⟩
      have below := induction others
      rw [occurrences] at below ⊢
      rw [List.filter_cons, List.filter_cons]
      by_cases same : member.1 = key
      · rw [if_pos (beq_iff_eq.mpr same), if_pos (beq_iff_eq.mpr same)]
        simp only [List.map_cons, first, below]
      · rw [if_neg (same ∘ beq_iff_eq.mp), if_neg (same ∘ beq_iff_eq.mp)]
        exact below

theorem get?_freeMembers? {free : Members}
    (read : freeMembers? (ofKeyed members) = some free) (key : String) :
    (free.get? key).map some = (occurrences members key).getLast?.map value? := by
  rcases Option.map_eq_some_iff.mp read with ⟨values, valued, rfl⟩
  have each := occurrences_of_memberValues? valued key
  rw [Members.get?_ofList, ← List.getLast?_map, ← List.getLast?_map, ← each, List.getLast?_map]
  rfl

end Written

end SharedEditing
