import Specimen.Json.Basic
import Specimen.Numeral

/-!
# Specimen.Pointer

JSON Pointers: positions inside a JSON document.

* `Pointer` — the keys and array indices on the way from the root, as texts;
* `Pointer.text` — the written form, behind a number sign: each token follows a slash, with
  `~` written as `~0` and `/` as `~1`;
* `Pointer.parse?` — reads the written form without its number sign;
* `Pointer.ofFragment?` — reads a URI fragment, which is percent-decoded first;
* `Pointer.lookup` — the value at a position.
-/

namespace Specimen

/-- A position inside a JSON document. -/
structure Pointer where
  /-- The object keys and array indices on the way from the root. -/
  tokens : List String
  deriving DecidableEq, Inhabited

namespace Pointer

/-- The position of the whole document. -/
def root : Pointer := ⟨[]⟩

/-- The position one step below. -/
def push (pointer : Pointer) (token : String) : Pointer := ⟨pointer.tokens ++ [token]⟩

/-- The position one step below, in an array. -/
def pushIndex (pointer : Pointer) (index : Nat) : Pointer := pointer.push (toString index)

/-- Token by token, and by code points inside a token. -/
instance : Ord Pointer where
  compare a b := List.compareLex compare a.tokens b.tokens

/-! ### Written form -/

/-- Escapes the characters of a token. -/
def escape : List Char → List Char
  | [] => []
  | '~' :: rest => '~' :: '0' :: escape rest
  | '/' :: rest => '~' :: '1' :: escape rest
  | c :: rest => c :: escape rest

/-- Reads an escaped token; a `~` before anything but `0` and `1` stands for itself. -/
def unescape : List Char → List Char
  | [] => []
  | '~' :: '1' :: rest => '/' :: unescape rest
  | '~' :: '0' :: rest => '~' :: unescape rest
  | c :: rest => c :: unescape rest

/-- The parts of a text between its slashes. -/
def segments : List Char → List (List Char)
  | [] => [[]]
  | '/' :: rest => [] :: segments rest
  | c :: rest =>
    match segments rest with
    | [] => [[c]]
    | segment :: others => (c :: segment) :: others

/-- The written form, which starts with a number sign. -/
def text (pointer : Pointer) : String :=
  String.ofList ('#' :: pointer.tokens.flatMap (fun token => '/' :: escape token.toList))

instance : ToString Pointer := ⟨text⟩

/-- Reads a pointer: nothing for the root, otherwise each token behind a slash. -/
def parse? (text : String) : Option Pointer :=
  match text.toList with
  | [] => some root
  | '/' :: rest => some ⟨(segments rest).map (fun token => String.ofList (unescape token))⟩
  | _ => none

/-- Decodes percent-encoded bytes. A percent sign that two hexadecimal digits do not follow
stands for itself. -/
def percentDecodeBytes : List UInt8 → List UInt8
  | [] => []
  | 0x25 :: high :: low :: rest =>
    match Numeral.hexValue? (Char.ofNat high.toNat), Numeral.hexValue? (Char.ofNat low.toNat) with
    | some h, some l => UInt8.ofNat (16 * h + l) :: percentDecodeBytes rest
    | _, _ => 0x25 :: percentDecodeBytes (high :: low :: rest)
  | byte :: rest => byte :: percentDecodeBytes rest

/-- Decodes a percent-encoded text; the bytes must be UTF-8. -/
def percentDecode? (text : String) : Option String :=
  String.fromUTF8? ⟨(percentDecodeBytes text.toUTF8.toList).toArray⟩

/-- Reads a pointer from the part of a reference behind its number sign. -/
def ofFragment? (fragment : String) : Option Pointer := percentDecode? fragment >>= parse?

/-! ### Looking up -/

/-- Reads an array index. It has no leading zero, though a plus sign may stand before it. -/
def index? (token : String) : Option Nat :=
  if 1 < token.utf8ByteSize ∧ token.toList.head? = some '0' then none
  else Numeral.unsigned64? token

end Pointer

namespace Json

/-- The part of a value under one token of a pointer. -/
def child? (value : Json) (token : String) : Option Json :=
  match value with
  | .obj members => members.lookup token
  | .arr elements => Pointer.index? token >>= (elements[·]?)
  | _ => none

end Json

namespace Pointer

/-- The value at a position of a document. -/
def lookup (pointer : Pointer) (document : Json) : Option Json :=
  pointer.tokens.foldlM Json.child? document

end Pointer

end Specimen
