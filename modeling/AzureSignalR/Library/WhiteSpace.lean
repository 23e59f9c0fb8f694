import Mathlib.Data.List.Basic

/-!
Contract: white space in texts.

Owns: which characters are white space, trimming, and that trimming takes off exactly what was put
around a text that has none at its ends.

Does not own: what the texts mean.
-/

set_option autoImplicit false

namespace AzureSignalR.Library.WhiteSpace

/-- The white space of Unicode. -/
def isWhiteSpace (character : Char) : Bool :=
  let code := character.toNat
  (0x9 ≤ code && code ≤ 0xD) || (0x2000 ≤ code && code ≤ 0x200A) ||
    code ∈ [0x20, 0x85, 0xA0, 0x1680, 0x2028, 0x2029, 0x202F, 0x205F, 0x3000]

def isNullOrWhiteSpace : Option String → Bool
  | none => true
  | some text => text.toList.all isWhiteSpace

def trimBy (isTrimmed : Char → Bool) (text : List Char) : List Char :=
  ((text.dropWhile isTrimmed).reverse.dropWhile isTrimmed).reverse

def trim (text : List Char) : List Char := trimBy isWhiteSpace text

def IsWhite (text : List Char) : Prop := ∀ character ∈ text, isWhiteSpace character = true

/-- There is no white space around the text. -/
def Trimmed (text : List Char) : Prop :=
  text.head?.any isWhiteSpace = false ∧ text.getLast?.any isWhiteSpace = false

instance : DecidablePred IsWhite := fun text =>
  List.decidableBAll (fun character => isWhiteSpace character = true) text

instance : DecidablePred Trimmed := fun text =>
  inferInstanceAs (Decidable (text.head?.any isWhiteSpace = false ∧ _))

theorem dropWhile_white {before text : List Char} (white : IsWhite before)
    (starts : text.head?.any isWhiteSpace = false) :
    (before ++ text).dropWhile isWhiteSpace = text := by
  rw [List.dropWhile_append_of_pos white]
  cases text with
  | nil => rfl
  | cons character text =>
      have visible : isWhiteSpace character = false := starts
      rw [List.dropWhile_cons_of_neg]
      rw [visible]
      nofun

theorem trim_padded {before text after : List Char} (white : IsWhite before)
    (trimmed : Trimmed text) (alsoWhite : IsWhite after) :
    trim (before ++ text ++ after) = text := by
  cases text with
  | nil =>
      have allWhite : (before ++ [] ++ after).dropWhile isWhiteSpace = [] := by
        rw [List.append_nil, List.dropWhile_append_of_pos white, ← List.append_nil after]
        exact dropWhile_white alsoWhite rfl
      rw [trim, trimBy, allWhite]
      rfl
  | cons character text =>
      have whiteEnd : IsWhite after.reverse := fun other member =>
        alsoWhite other (List.mem_reverse.mp member)
      have front : (before ++ (character :: text ++ after)).dropWhile isWhiteSpace =
          character :: text ++ after := dropWhile_white white trimmed.1
      have back : (after.reverse ++ (character :: text).reverse).dropWhile isWhiteSpace =
          (character :: text).reverse := by
        apply dropWhile_white whiteEnd
        rw [List.head?_reverse]
        exact trimmed.2
      rw [trim, trimBy, List.append_assoc, front, List.reverse_append, back, List.reverse_reverse]

theorem not_mem_of_isWhite {text : List Char} (white : IsWhite text) {character : Char}
    (visible : isWhiteSpace character = false) : character ∉ text := by
  intro member
  rw [white character member] at visible
  cases visible

end AzureSignalR.Library.WhiteSpace
