import Mathlib.Data.List.DropRight
import SharedEditing.Text.Blank

/-! # Pieces, halves and edges of a text

A text is split like any list, at its first separator or at all of them. A trimmed text has
nothing blank at its edges, and nothing but blank characters stood around it. -/

namespace SharedEditing.Text

variable {separator : Char} {text before after : List Char}

/-! ## Splitting -/

theorem piecesList_eq_splitOn (separator : Char) (text : List Char) :
    piecesList separator text = text.splitOn separator := by
  induction text with
  | nil => rfl
  | cons character rest induction =>
      have pieced : piecesList separator rest ≠ [] := induction ▸ List.splitOn_ne_nil _ _
      rw [List.splitOn_cons_eq_if_modifyHead, ← induction]
      simp only [piecesList, beq_iff_eq]
      split
      · rfl
      · cases pieces : piecesList separator rest with
        | nil => exact absurd pieces pieced
        | cons piece others => rfl

theorem not_mem_of_mem_splitOn {piece : List Char} (member : piece ∈ text.splitOn separator) :
    separator ∉ piece := by
  induction text generalizing piece with
  | nil =>
      rw [List.splitOn_nil, List.mem_singleton] at member
      exact member ▸ List.not_mem_nil
  | cons character rest induction =>
      rw [List.splitOn_cons_eq_if_modifyHead] at member
      split_ifs at member with same
      · rcases List.mem_cons.mp member with rfl | later
        · exact List.not_mem_nil
        · exact induction later
      · cases pieces : rest.splitOn separator with
        | nil => exact absurd pieces (List.splitOn_ne_nil separator rest)
        | cons first others =>
            rw [pieces] at member induction
            rcases List.mem_cons.mp member with rfl | later
            · have absent := induction (.head others)
              exact List.not_mem_cons_of_ne_of_not_mem (Ne.symm (by simpa using same)) absent
            · exact induction (.tail first later)

theorem splitFirst?_append (absent : separator ∉ before) (after : List Char) :
    splitFirst? separator (before ++ separator :: after) = some (before, after) := by
  induction before with
  | nil => simp [splitFirst?]
  | cons character rest induction =>
      rw [List.mem_cons, not_or] at absent
      rw [List.cons_append, splitFirst?, if_neg (Ne.symm absent.1), induction absent.2]
      rfl

theorem of_splitFirst? (split : splitFirst? separator text = some (before, after)) :
    text = before ++ separator :: after ∧ separator ∉ before := by
  induction text generalizing before with
  | nil => cases split
  | cons character rest induction =>
      rw [splitFirst?] at split
      split_ifs at split with same
      · cases split
        exact ⟨congrArg (· :: _) same, List.not_mem_nil⟩
      · rcases Option.map_eq_some_iff.mp split with ⟨⟨ahead, behind⟩, halves, equal⟩
        cases equal
        rcases induction halves with ⟨rfl, absent⟩
        exact ⟨rfl, List.not_mem_cons_of_ne_of_not_mem (Ne.symm same) absent⟩

theorem splitFirst?_eq_some_iff :
    splitFirst? separator text = some (before, after) ↔
      text = before ++ separator :: after ∧ separator ∉ before := by
  refine ⟨of_splitFirst?, ?_⟩
  rintro ⟨rfl, absent⟩
  exact splitFirst?_append absent after

/-! ## Trimming -/

structure Bare (text : List Char) : Prop where
  first : ∀ character ∈ text.head?, isBlank character = false
  last : ∀ character ∈ text.getLast?, isBlank character = false

/-- What remains of a text without the blank characters around it. -/
structure TrimsTo (text core : List Char) : Prop where
  bare : Bare core
  around : ∃ before after, text = before ++ (core ++ after) ∧
    (∀ character ∈ before, isBlank character = true) ∧
    ∀ character ∈ after, isBlank character = true

theorem Bare.trimsTo (bare : Bare text) : TrimsTo text text :=
  ⟨bare, [], [], by simp, nofun, nofun⟩

theorem dropWhile_of_head? {drops : Char → Bool}
    (first : ∀ character ∈ text.head?, drops character = false) :
    text.dropWhile drops = text := by
  cases text with
  | nil => rfl
  | cons character rest => exact List.dropWhile_cons_of_neg (by simpa using first character rfl)

theorem TrimsTo.subset {core : List Char} (trims : TrimsTo text core) : core ⊆ text := by
  rcases trims.around with ⟨before, after, rfl, _, _⟩
  exact fun character member => List.mem_append_right _ (List.mem_append_left _ member)

theorem rdropWhile_eq_iff {drops : Char → Bool} {core : List Char} :
    text.rdropWhile drops = core ↔
      (∀ character ∈ core.getLast?, drops character = false) ∧
        ∃ after, text = core ++ after ∧ ∀ character ∈ after, drops character = true := by
  constructor
  · rintro rfl
    refine ⟨fun character last => ?_, text.rtakeWhile drops,
      List.rdropWhile_append_rtakeWhile.symm, fun _ => List.mem_rtakeWhile_imp⟩
    rcases List.mem_getLast?_eq_getLast last with ⟨filled, rfl⟩
    exact Bool.eq_false_iff.mpr (List.rdropWhile_last_not drops text filled)
  · rintro ⟨last, after, rfl, behind⟩
    rw [List.rdropWhile, List.reverse_append, List.dropWhile_append_of_pos (by simpa using behind),
      dropWhile_of_head? (by simpa using last), List.reverse_reverse]

theorem trimsTo_trimList (text : List Char) : TrimsTo text (trimList text) := by
  have front : text.takeWhile isBlank ++ text.dropWhile isBlank = text :=
    List.takeWhile_append_dropWhile
  have trimmed : (text.dropWhile isBlank).rdropWhile isBlank = trimList text := rfl
  rcases rdropWhile_eq_iff.mp trimmed with ⟨last, after, back, behind⟩
  refine ⟨⟨fun character head => ?_, last⟩, text.takeWhile isBlank, after, ?_,
    fun _ => List.mem_takeWhile_imp, behind⟩
  · have kept : (text.dropWhile isBlank).head? = some character := by
      rw [back, List.head?_append, head]
      rfl
    have stopped := List.head?_dropWhile_not isBlank text
    rwa [kept] at stopped
  · rw [← back, front]

theorem TrimsTo.trimList_eq {core : List Char} (trims : TrimsTo text core) :
    trimList text = core := by
  rcases trims with ⟨⟨first, last⟩, before, after, rfl, ahead, behind⟩
  have back : (core ++ after).rdropWhile isBlank = core :=
    rdropWhile_eq_iff.mpr ⟨last, after, rfl, behind⟩
  have front : (before ++ (core ++ after)).dropWhile isBlank =
      if core = [] then [] else core ++ after := by
    rw [List.dropWhile_append_of_pos ahead]
    cases core with
    | nil => simpa using behind
    | cons character rest => exact dropWhile_of_head? first
  unfold trimList
  rw [front]
  split
  · rename_i nothing
    rw [nothing]
    rfl
  · exact back

theorem trimList_eq_iff {core : List Char} : trimList text = core ↔ TrimsTo text core := by
  refine ⟨?_, TrimsTo.trimList_eq⟩
  rintro rfl
  exact trimsTo_trimList text

end SharedEditing.Text
