import SharedEditing.Proofs.Text.Pieces
import SharedEditing.Session.Credential

/-! # Session cookies

Cookie headers make one jar of pieces, and headers that are not readable are left out of it.
The credential is the value of the first piece that is a session cookie. Only this cookie is
forwarded, and whoever reads what is forwarded finds the same credential. -/

namespace SharedEditing.Session.Credential

open Text

variable {piece value : List Char} {credential : Credential} {header : String}

/-! ## Readable headers -/

def Printable (byte : UInt8) : Prop := byte = 9 ∨ 0x20 ≤ byte ∧ byte ≤ 0x7E

theorem printable_ofNat_iff {code : Nat} (small : code < 256) :
    Printable (UInt8.ofNat code) ↔ code = 9 ∨ 0x20 ≤ code ∧ code ≤ 0x7E := by
  simp only [Printable, ← UInt8.toNat_inj, UInt8.le_iff_toNat_le, UInt8.toNat_ofNat',
    UInt8.reduceToNat]
  omega

theorem printable_character_iff (character : Char) :
    (∀ byte ∈ String.utf8EncodeChar character, Printable byte) ↔
      character.toNat = 9 ∨ 0x20 ≤ character.toNat ∧ character.toNat ≤ 0x7E := by
  have code : character.val.toNat = character.toNat := rfl
  simp only [String.utf8EncodeChar, code]
  split
  · rename_i single
    simp only [List.mem_singleton, forall_eq]
    exact printable_ofNat_iff (by omega)
  · rename_i several
    -- The first of several bytes is not printable, and neither is the character.
    have foreign : ¬ (character.toNat = 9 ∨ 0x20 ≤ character.toNat ∧ character.toNat ≤ 0x7E) := by
      omega
    refine iff_of_false (fun printable => ?_) foreign
    split at printable
    · have first := (printable_ofNat_iff (by omega)).mp (printable _ (.head _))
      omega
    · split at printable
      · have first := (printable_ofNat_iff (by omega)).mp (printable _ (.head _))
        omega
      · have first := (printable_ofNat_iff (by omega)).mp (printable _ (.head _))
        omega

theorem isReadable_iff :
    isReadable header = true ↔ ∀ byte ∈ header.toUTF8.data, Printable byte := by
  have bytes : header.toUTF8.data = (header.toList.flatMap String.utf8EncodeChar).toArray := by
    rw [String.toUTF8, ← String.utf8Encode_toList, List.utf8Encode, List.data_toByteArray]
  have tab (character : Char) : character = '\t' ↔ character.toNat = 9 := Char.toNat_inj.symm
  rw [bytes, isReadable, List.all_eq_true]
  simp only [Bool.or_eq_true, Bool.and_eq_true, beq_iff_eq, decide_eq_true_eq, tab,
    ← printable_character_iff, List.mem_toArray, List.mem_flatMap]
  constructor
  · rintro readable byte ⟨character, member, encoded⟩
    exact readable character member byte encoded
  · intro readable character member byte encoded
    exact readable byte ⟨character, member, encoded⟩

/-! ## The first session cookie -/

/-- A piece is a session cookie: blank characters around it apart, it has the name of the cookie
before its first equals sign, and a value behind it. -/
structure Presents (piece value : List Char) : Prop where
  pair : TrimsTo piece (cookieName.toList ++ '=' :: value)
  filled : value ≠ []

theorem not_mem_cookieName : '=' ∉ cookieName.toList := by decide

theorem valueOfPiece?_eq_some_iff : valueOfPiece? piece = some value ↔ Presents piece value := by
  unfold valueOfPiece?
  constructor
  · intro found
    split at found
    · rename_i name behind halves
      split_ifs at found with cookie
      cases found
      rcases cookie with ⟨rfl, filled⟩
      rcases splitFirst?_eq_some_iff.mp halves with ⟨split, _⟩
      exact ⟨trimList_eq_iff.mp split, filled⟩
    · cases found
  · rintro ⟨pair, filled⟩
    rw [pair.trimList_eq, splitFirst?_append not_mem_cookieName]
    exact if_pos ⟨rfl, filled⟩

theorem valueOfPiece?_eq_none_iff :
    valueOfPiece? piece = none ↔ ∀ value, ¬ Presents piece value := by
  simp only [Option.eq_none_iff_forall_ne_some, ne_eq, valueOfPiece?_eq_some_iff]

def found? (jar : List (List Char)) : Option Credential :=
  (jar.findSome? valueOfPiece?).map fun value => ⟨String.ofList value⟩

def FirstIn (jar : List (List Char)) (credential : Credential) : Prop :=
  ∃ before piece after, jar = before ++ piece :: after ∧
    Presents piece credential.value.toList ∧ ∀ other ∈ before, ∀ value, ¬ Presents other value

variable {jar : List (List Char)}

theorem found?_eq_some_iff : found? jar = some credential ↔ FirstIn jar credential := by
  have sameText (value : List Char) :
      (⟨String.ofList value⟩ : Credential) = credential ↔ value = credential.value.toList := by
    constructor
    · rintro rfl
      exact String.toList_ofList.symm
    · rintro rfl
      rw [String.ofList_toList]
  rw [found?, Option.map_eq_some_iff]
  simp only [sameText, exists_eq_right, List.findSome?_eq_some_iff, valueOfPiece?_eq_some_iff,
    valueOfPiece?_eq_none_iff]
  rfl

theorem found?_eq_none_iff :
    found? jar = none ↔ ∀ piece ∈ jar, ∀ value, ¬ Presents piece value := by
  rw [found?, Option.map_eq_none_iff, List.findSome?_eq_none_iff]
  simp only [valueOfPiece?_eq_none_iff]

theorem found?_append (jar more : List (List Char)) :
    found? (jar ++ more) = (found? jar).or (found? more) := by
  rw [found?, List.findSome?_append, Option.map_or]
  rfl

/-! ## Headers and jars -/

theorem ofHeader?_eq_found? (header : String) :
    ofHeader? header = found? (header.toList.splitOn ';') := by
  rw [ofHeader?, piecesList_eq_splitOn]
  rfl

def jarOf (headers : List String) : List (List Char) :=
  headers.flatMap fun header => header.toList.splitOn ';'

theorem jarOf_cons (header : String) (rest : List String) :
    jarOf (header :: rest) = header.toList.splitOn ';' ++ jarOf rest := rfl

theorem findSome?_ofHeader? (headers : List String) :
    headers.findSome? ofHeader? = found? (jarOf headers) := by
  induction headers with
  | nil => rfl
  | cons header rest induction =>
      rw [List.findSome?_cons, induction, jarOf_cons, found?_append, ← ofHeader?_eq_found?]
      cases ofHeader? header <;> rfl

theorem splitOn_intercalate {header : String} {rest : List String} :
    (";".intercalate (header :: rest)).toList.splitOn ';' = jarOf (header :: rest) := by
  rw [String.toList_intercalate]
  induction rest generalizing header with
  | nil => simp [jarOf]
  | cons next others induction =>
      have joined : ";".toList.intercalate ((header :: next :: others).map String.toList) =
          header.toList ++ ';' :: ";".toList.intercalate ((next :: others).map String.toList) := by
        simp
      rw [joined, List.splitOn_append_cons_self, induction]
      rfl

/-- Headers that are joined to one make the jar that they make each on their own. -/
theorem ofHeader?_intercalate (headers : List String) :
    ofHeader? (";".intercalate headers) = found? (jarOf headers) := by
  cases headers with
  | nil => rfl
  | cons header rest => rw [ofHeader?_eq_found?, splitOn_intercalate]

/-! ## What is forwarded -/

/-- A credential goes out alone: as one pair that stands in the jar, and is read as itself. -/
structure GoesAlone (header : String) (credential : Credential) : Prop where
  again : ofHeader? credential.header = some credential
  pair : credential.header = "SESSION=" ++ credential.value
  undivided : ';' ∉ credential.header.toList
  kept : ∃ piece ∈ header.toList.splitOn ';', TrimsTo piece credential.header.toList

theorem toList_header (credential : Credential) :
    credential.header.toList = cookieName.toList ++ '=' :: credential.value.toList := by
  simp [Credential.header]

theorem goesAlone_of_ofHeader? (read : ofHeader? header = some credential) :
    GoesAlone header credential := by
  rw [ofHeader?_eq_found?, found?_eq_some_iff] at read
  rcases read with ⟨before, piece, after, split, presents, _⟩
  have member : piece ∈ header.toList.splitOn ';' := by simp [split]
  have trims : TrimsTo piece credential.header.toList := credential.toList_header ▸ presents.pair
  have undivided : ';' ∉ credential.header.toList := fun divided =>
    not_mem_of_mem_splitOn member (trims.subset divided)
  refine ⟨?_, rfl, undivided, piece, member, trims⟩
  rw [ofHeader?_eq_found?, List.splitOn_eq_singleton undivided, found?_eq_some_iff]
  refine ⟨[], _, [], rfl, ⟨?_, presents.filled⟩, nofun⟩
  rw [← toList_header]
  exact trims.bare.trimsTo

/-- The credential of headers is that of the readable ones joined to one: the value of their
first session cookie, if there is one. What is forwarded for it is this cookie and nothing
else, in which the same credential is read again. -/
theorem credential_is_first_cookie (headers : List String) :
    ofHeaders? headers = ofHeader? (";".intercalate (headers.filter isReadable)) ∧
      (∀ header, isReadable header = true ↔ ∀ byte ∈ header.toUTF8.data, Printable byte) ∧
      (∀ credential, ofHeaders? headers = some credential ↔
        FirstIn (jarOf (headers.filter isReadable)) credential) ∧
      (ofHeaders? headers = none ↔
        ∀ piece ∈ jarOf (headers.filter isReadable), ∀ value, ¬ Presents piece value) ∧
      ∀ header credential, ofHeader? header = some credential → GoesAlone header credential := by
  have found : ofHeaders? headers = found? (jarOf (headers.filter isReadable)) :=
    findSome?_ofHeader? _
  rw [found, ofHeader?_intercalate]
  exact ⟨rfl, fun _ => isReadable_iff, fun _ => found?_eq_some_iff, found?_eq_none_iff,
    fun _ _ => goesAlone_of_ofHeader?⟩

/-- A header that is not readable, another whose cookies have similar names or no value, and a
third with the session between blank characters. -/
theorem credential_is_first_cookie_of_lookalikes :
    let headers := ["SESSION=\u00e9", "XSESSION=1; SESSION=; session=2",
      "SESSION =3;\tSESSION= a=b ;c"]
    let credential : Credential := ⟨" a=b"⟩
    ofHeaders? headers = some credential ∧
      FirstIn (jarOf (headers.filter isReadable)) credential ∧
      ofHeader? "SESSION =3;\tSESSION= a=b ;c" = some credential ∧
      GoesAlone "SESSION =3;\tSESSION= a=b ;c" credential := by
  intro headers credential
  have found : ofHeaders? headers = some credential := by decide
  have read : ofHeader? "SESSION =3;\tSESSION= a=b ;c" = some credential := by decide
  rcases credential_is_first_cookie headers with ⟨_, _, first, _, alone⟩
  exact ⟨found, (first credential).mp found, read, alone _ credential read⟩

end SharedEditing.Session.Credential
