import Mathlib

/-!
# AdapterRuntime — texts and their recognizers

A `std::string` is a byte string. The recognizers of `internal.hpp` and
`bootstrap.cpp` are the gate through which every identifier, digest and path
of the Runtime Link passes; they are translated here byte for byte, with the
scanning loops as structural recursions.
-/

namespace AdapterRuntime.Model

/-- A `std::string`: any sequence of bytes. -/
abbrev Text := List UInt8

/-- The bytes of a literal. -/
def text (s : String) : Text := s.toUTF8.data.toList

/-- String literals stand for their UTF-8 bytes. -/
instance : Coe String Text := ⟨text⟩

/-- The byte of an ASCII character literal. -/
def ascii (c : Char) : UInt8 := UInt8.ofNat c.toNat

/-- `std::numeric_limits<std::size_t>::max()` and `uint64_t` maximum. -/
def sizeMax : Nat := 2 ^ 64 - 1

/-- `internal::kCanonicalSha256TextBytes`. -/
def kCanonicalSha256TextBytes : Nat := 71

/-- The blanks of the C locale. -/
def isAsciiWhitespace (c : UInt8) : Bool :=
  c == ascii ' ' || c == 9 || c == 11 || c == 12 || c == 13 || c == 10

/-- `internal::IsCanonicalText`. -/
def isCanonicalText (value : Text) : Bool :=
  match value.head?, value.getLast? with
  | some front, some back =>
    !isAsciiWhitespace front && !isAsciiWhitespace back &&
      !value.contains 0 && !value.contains 13 && !value.contains 10
  | _, _ => false

/-- A lower-case ASCII letter. -/
def isLowerAlpha (c : UInt8) : Bool := ascii 'a' ≤ c && c ≤ ascii 'z'

/-- An ASCII digit. -/
def isDigit (c : UInt8) : Bool := ascii '0' ≤ c && c ≤ ascii '9'

/-- A digit of a canonical digest. -/
def isLowerHex (c : UInt8) : Bool := isDigit c || (ascii 'a' ≤ c && c ≤ ascii 'f')

/-- The character loop of `IsCanonicalIdentifier`; `separator` is its flag. -/
def identifierLoop (separator : Bool) : Text → Bool
  | [] => !separator
  | c :: rest =>
    if isLowerAlpha c || isDigit c then identifierLoop false rest
    else if (c == ascii '.' || c == ascii '_' || c == ascii '-') && !separator then
      identifierLoop true rest
    else false

/-- `internal::IsCanonicalIdentifier`. -/
def isCanonicalIdentifier (value : Text) : Bool :=
  match value with
  | [] => false
  | front :: _ => isLowerAlpha front && identifierLoop false value

/-- `internal::IsCanonicalSha256`. -/
def isCanonicalSha256 (value : Text) : Bool :=
  value.length == 71 && value.take 7 == text "sha256:" && (value.drop 7).all isLowerHex

/-- The index loop of `IsCanonicalCapabilityId`: every character at index 0 or
right after a dot is a lowercase letter. -/
def segmentHeads (atStart : Bool) : Text → Bool
  | [] => true
  | c :: rest => (!atStart || isLowerAlpha c) && segmentHeads (c == ascii '.') rest

/-- `IsCanonicalCapabilityId`. -/
def isCanonicalCapabilityId (value : Text) : Bool :=
  value.contains (ascii '.') && isCanonicalIdentifier value && segmentHeads true value

/-- `IsCanonicalInstanceId`. -/
def isCanonicalInstanceId (value : Text) : Bool :=
  value.length == 36 && value.take 4 == text "ari-" && (value.drop 4).all isLowerHex

/-- The component loop of `ValidateRuntimeTarget`. `rest` is the socket path
from `component_start` on; the loop body runs once per component. -/
def componentLoop : Nat → Text → Bool
  | 0, _ => true
  | fuel + 1, rest =>
    if rest.isEmpty then true
    else
      let component := rest.takeWhile (· != ascii '/')
      if component.isEmpty || component == text "." || component == text ".." then false
      else if component.length == rest.length then true
      else componentLoop fuel (rest.drop (component.length + 1))

/-- `internal::ValidateRuntimeTarget`. Each turn of the component loop consumes
a byte, so the path length bounds the number of turns. -/
def validateRuntimeTarget (target : Text) : Except Text Unit :=
  let path :=
    if target.take 7 == text "unix://" then some (target.drop 7)
    else if target.take 5 == text "unix:" then some (target.drop 5)
    else none
  match path with
  | none => .error (text "runtime_target must use the unix scheme")
  | some path =>
    if path.length ≤ 1 || path.head? != some (ascii '/') || path.getLast? == some (ascii '/') ||
        !componentLoop path.length (path.drop 1) then
      .error (text "unix target must contain a canonical absolute socket path")
    else .ok ()

/-- Decimal digits, `std::to_string`. -/
def decimal (n : Nat) : Text := text (toString n)

/-- `internal::ContractKey`. -/
def contractKey (capabilityId : Text) (version : Nat) (digest : Text) : Text :=
  capabilityId ++ text "\n" ++ decimal version ++ text "\n" ++ digest

/-- `FitsByteBudget`. -/
def fitsByteBudget (used added maximum : Nat) : Bool :=
  added ≤ maximum && used ≤ maximum - added

/-- The budget check is the bound it stands for, on unbounded counters. -/
theorem fitsByteBudget_iff {used added maximum : Nat} :
    fitsByteBudget used added maximum = true ↔ used + added ≤ maximum := by
  simp only [fitsByteBudget, Bool.and_eq_true, decide_eq_true_eq]
  omega

end AdapterRuntime.Model
