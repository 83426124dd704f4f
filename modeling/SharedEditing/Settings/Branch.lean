import SharedEditing.Json.Shape
import SharedEditing.Text.Blank

/-! # Trees of words

Words are put into a tree one by one, each at the end of a path. A step of a
path is a name, or an index in brackets. Where a path meets something that it
cannot go into, it puts a new level in its place. -/

namespace SharedEditing

/-- A step of a path. A negative index counts from the end. -/
inductive Step where
  | name (name : String)
  | index (index : Int)
  deriving DecidableEq, Repr

namespace Step

def isNameCharacter (character : Char) : Bool :=
  character.isAlphanum || character == '_' || character == '-' || character == ' '

def isSpace (character : Char) : Bool := character == ' ' || character == '\t'

def indexBound : Nat := Nat.pow 2 63

def index? (text : List Char) : Option Int :=
  let trimmed := ((text.dropWhile isSpace).reverse.dropWhile isSpace).reverse
  let (isNegative, digits) := match trimmed with
    | '-' :: rest => (true, rest)
    | rest => (false, rest)
  if digits.isEmpty || !digits.all Char.isDigit then none
  else
    let size := digits.foldl (fun value digit => value * 10 + (digit.toNat - '0'.toNat)) 0
    if isNegative then
      if size ≤ indexBound then some (Int.negOfNat size) else none
    else if size < indexBound then some (Int.ofNat size)
    else none

def bracketed? : List Char → Option Step
  | '[' :: inside => (index? inside).map index
  | _ => none

def indices? (text : List Char) : Option (List Step) :=
  match (Text.piecesList ']' text).reverse with
  | [] :: closed => closed.reverse.mapM bracketed?
  | _ => none

def level? (text : List Char) : Option (List Step) :=
  let written := text.takeWhile isNameCharacter
  if written.isEmpty then none
  else
    (indices? (text.dropWhile isNameCharacter)).map fun indices =>
      name (String.ofList written) :: indices

/-- A path: levels with points between them. What is no path is one name as a whole. -/
def path (text : List Char) : List Step :=
  match (Text.piecesList '.' text).mapM level? with
  | some levels => levels.flatten
  | none => [name (String.ofList text)]

example : path "server.port".toList = [name "server", name "port"] := by rfl

example : path "fanout[ 0 ]".toList = [name "fanout", index 0] := by rfl

example : path "server..port".toList = [name "server..port"] := by rfl

end Step

inductive Branch where
  /-- A place that was made and not filled. -/
  | nothing
  | word (text : String)
  | names (entries : List (String × Branch))
  | places (items : List Branch)
  deriving Repr, Inhabited

namespace Branch

def under? (entries : List (String × Branch)) (name : String) : Option Branch :=
  (entries.find? fun entry => entry.1 == name).map Prod.snd

/-- No list has so many items. -/
def placeLimit : Nat := Nat.pow 2 56

/-- Make room for an index: the items with that place among them, and the place. A
place from the end must be there already. -/
def makePlace? (items : List Branch) (index : Int) : Option (List Branch × Nat) :=
  match index with
  | .ofNat place =>
      if place < placeLimit then
        some (items ++ List.replicate (place + 1 - items.length) nothing, place)
      else
        none
  | .negSucc before =>
      if before < items.length then some (items, items.length - (before + 1)) else none

/-- Put a word at the end of a path; none if an index on it is out of reach. -/
def put? (text : String) : List Step → Branch → Option Branch
  | [], _ => some (word text)
  | .name name :: rest, branch =>
      let entries := match branch with
        | names entries => entries
        | _ => []
      (put? text rest ((under? entries name).getD nothing)).map fun below =>
        names ((name, below) :: entries.filter fun entry => entry.1 != name)
  | .index index :: rest, branch =>
      let items := match branch with
        | places items => items
        | _ => []
      (makePlace? items index).bind fun (items, place) =>
        (put? text rest (items.getD place nothing)).map fun below =>
          places (items.set place below)

def placed? : List Written.Field → List Branch → Option (List (Option Branch))
  | [], _ => some []
  | field :: fields, [] =>
      if field.absence = .default then (placed? fields []).map (none :: ·) else none
  | _ :: fields, item :: rest => (placed? fields rest).map (some item :: ·)

def member? (entries : List (String × Branch)) (field : Written.Field) :
    Option (Option Branch) :=
  match under? entries field.name with
  | none => if field.absence = .refused then none else some none
  | some branch => some (some branch)

def fields? (declared : List Written.Field) : Branch → Option (List (Option Branch))
  | names entries => declared.mapM (member? entries)
  | places items => placed? declared items
  | _ => none

end Branch

end SharedEditing
