import SharedEditing.Settings.Branch
import SharedEditing.Settings.Reading

/-! # Settings from environment variables

A variable counts when its name, in any case, starts with the service's own
label. What follows is a path, in which a double underscore or a point separates
one level from the next. All values are text, so numbers, switches and stages are
read from words; names that no section declares are passed over. -/

namespace SharedEditing

namespace Text

/-- The letters that are an ASCII letter in lower case: A to Z, and the Kelvin sign. -/
def lowerCharacter (character : Char) : Char :=
  if character = '\u212a' then 'k' else character.toLower

def lowered (text : String) : String := String.ofList (text.toList.map lowerCharacter)

end Text

abbrev Variables := List (String × String)

namespace Variables

def label : List Char := "collab_rts__".toList

/-- Every double underscore, from the left, becomes a point. -/
def pointed : List Char → List Char
  | '_' :: '_' :: rest => '.' :: pointed rest
  | character :: rest => character :: pointed rest
  | [] => []

def path? (name : String) : Option (List Step) :=
  let lowered := (Text.lowered name).toList
  if label.isPrefixOf lowered then some (Step.path (pointed (lowered.drop label.length)))
  else none

/-- All variables that count, as one tree. Of two with one path the later stays. There
is no tree if an index is out of reach. -/
def tree? (environment : Variables) : Option Branch :=
  environment.foldlM
    (fun branch setting =>
      match path? setting.1 with
      | some path => branch.put? setting.2 path
      | none => some branch)
    (.names [])

inductive Fault where
  /-- An index leads out of its list. -/
  | outOfReach
  /-- A value is missing or cannot be read. -/
  | unreadable
  deriving DecidableEq, Repr

end Variables

/-! ## Reading words -/

namespace Branch

def word? {α : Type} (read : String → Option α) : Branch → Option α
  | word text => read text
  | _ => none

def digits? (text : String) : Option Nat :=
  let digits := match text.toList with
    | '+' :: rest => rest
    | characters => characters
  if digits.isEmpty then none
  else if digits.all Char.isDigit then
    some (digits.foldl (fun value digit => value * 10 + (digit.toNat - '0'.toNat)) 0)
  else none

/-- A number, or a word for one or zero. -/
def natural? (bound : Nat) (text : String) : Option Nat :=
  let value :=
    if ["true", "on", "yes"].contains (Text.lowered text) then some 1
    else if ["false", "off", "no"].contains (Text.lowered text) then some 0
    else (digits? text).filter (· < bound64)
  value.filter (· < bound)

def switch? (text : String) : Option Bool :=
  if ["1", "true", "on", "yes"].contains (Text.lowered text) then some true
  else if ["0", "false", "off", "no"].contains (Text.lowered text) then some false
  else none

def stageNamed? (text : String) : Option Stage :=
  Stage.all.find? fun stage => stage.name == Text.lowered text

/-- A stage is written as a word, or as the one name of a level; what stands under
that name does not matter. -/
def stage? : Branch → Option Stage
  | word text => stageNamed? text
  | names [(name, _)] => stageNamed? name
  | _ => none

def isNothing : Branch → Bool
  | nothing => true
  | _ => false

end Branch

def Reading.tree : Reading Branch where
  fields? := Branch.fields?
  text? := Branch.word? some
  natural? bound := Branch.word? (Branch.natural? bound)
  switch? := Branch.word? Branch.switch?
  stage? := Branch.stage?
  isNothing := Branch.isNothing

/-- The settings that variables give. The tree is made before anything is read from it. -/
def Variables.settings (environment : Variables) : Except Variables.Fault Settings :=
  match environment.tree? with
  | none => .error .outOfReach
  | some tree =>
      match Reading.tree.settings? tree with
      | some settings => .ok settings
      | none => .error .unreadable

end SharedEditing
