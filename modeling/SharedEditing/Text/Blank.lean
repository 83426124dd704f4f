/-! # Blank characters and pieces of text

The characters that count as blank are those of Unicode's White_Space
property, twenty-five in all. Zero-width characters and the byte order mark are
not among them. Splitting and trimming are defined on character lists, and the
versions on strings only wrap them. -/

namespace SharedEditing.Text

/-- Unicode's White_Space property. -/
def isBlank (character : Char) : Bool :=
  let code := character.toNat
  (0x09 ≤ code && code ≤ 0x0D) || code == 0x20 || code == 0x85 || code == 0xA0 ||
    code == 0x1680 || (0x2000 ≤ code && code ≤ 0x200A) || code == 0x2028 ||
    code == 0x2029 || code == 0x202F || code == 0x205F || code == 0x3000

example : isBlank '\u3000' ∧ isBlank '\u0085' ∧ ¬ isBlank '\u200b' ∧ ¬ isBlank '\ufeff' := by
  decide

def trimList (characters : List Char) : List Char :=
  ((characters.dropWhile isBlank).reverse.dropWhile isBlank).reverse

def trim (text : String) : String :=
  String.ofList (trimList text.toList)

def isAllBlank (text : String) : Bool :=
  text.toList.all isBlank

/-- The pieces between separators. There is one piece more than separators. -/
def piecesList (separator : Char) : List Char → List (List Char)
  | [] => [[]]
  | character :: rest =>
      if character = separator then
        [] :: piecesList separator rest
      else
        match piecesList separator rest with
        | [] => [[character]]
        | piece :: pieces => (character :: piece) :: pieces

def pieces (separator : Char) (text : String) : List String :=
  (piecesList separator text.toList).map String.ofList

example : piecesList ';' ['a', ';', ';'] = [['a'], [], []] := by decide

def splitFirst? (separator : Char) : List Char → Option (List Char × List Char)
  | [] => none
  | character :: rest =>
      if character = separator then
        some ([], rest)
      else
        (splitFirst? separator rest).map fun halves => (character :: halves.1, halves.2)

/-- What stands after the last separator, or all of the text if there is none. -/
def afterLast (separator : Char) (characters : List Char) : List Char :=
  (characters.reverse.takeWhile (· ≠ separator)).reverse

end SharedEditing.Text
