import AzureSignalR.Library.FiniteMap
import AzureSignalR.Library.Framing
import AzureSignalR.Library.WhiteSpace

/-!
Contract: the properties of a connection string.

Owns: `ToDictionary`, with splitting, trimming, skipping and the test for duplicates, and what it
gives for a connection string that is written from its properties.

Does not own: what the properties mean. Keys are equal if their upper-case forms are; `upper` is
the mapping of characters that `StringComparer.OrdinalIgnoreCase` compares by.
-/

set_option autoImplicit false

namespace AzureSignalR.Utilities.ConnectionStringParser

open Library (splitAtSeparator splitAtSeparator_append splitAtSeparator_eq_none)
open Library.FiniteMap Library.WhiteSpace

inductive Failure where
  | argument (message : String)
deriving DecidableEq, Repr

def endpointProperty : String := "endpoint"

def missingEndpointProperty : String :=
  "Connection string missing required properties " ++ endpointProperty ++ "."

def duplicateProperty (key : List Char) : String :=
  "Duplicate properties found in connection string: " ++ String.ofList key ++ "."

/-- A text that is compared ignoring case. -/
def Key (_upper : Char → Char) : Type := List Char

section Keys

variable {upper : Char → Char}

instance : Setoid (Key upper) where
  r first second := List.map upper first = List.map upper second
  iseqv := ⟨fun _ => rfl, Eq.symm, Eq.trans⟩

instance (first second : Key upper) : Decidable (first ≈ second) :=
  inferInstanceAs (Decidable (List.map upper first = List.map upper second))

instance : DecidableEq (Key upper) := inferInstanceAs (DecidableEq (List Char))

end Keys

section Parser

variable (upper : Char → Char)

/-- `Split(KeyValueSeparator, 2)`, if it has two parts, and both trimmed. -/
def readProperty (property : List Char) : Option (Key upper × List Char) :=
  (splitAtSeparator '=' property).map fun kvp => (trim kvp.1, trim kvp.2)

/-- The loop of `ToDictionary`. -/
def addProperties (dict : List (Key upper × List Char)) :
    List (List Char) → Except Failure (List (Key upper × List Char))
  | [] => .ok dict
  | property :: rest =>
      match readProperty upper property with
      | none => addProperties dict rest
      | some (key, value) =>
          if (lookup dict key).isSome then .error (.argument (duplicateProperty key))
          else addProperties (dict ++ [(key, value)]) rest

/-- `Split(PropertySeparator, RemoveEmptyEntries)`. -/
def splitProperties (connectionString : List Char) : List (List Char) :=
  (connectionString.splitOn ';').filter (· ≠ [])

def toDictionary (connectionString : List Char) :
    Except Failure (List (Key upper × List Char)) :=
  let properties := splitProperties connectionString
  if properties.length < 2 then .error (.argument missingEndpointProperty)
  else addProperties upper [] properties

end Parser

/-! ## Writing -/

/-- What stands between two semicolons. -/
inductive Segment where
  /-- A key and a value, with white space around them. -/
  | property (key value beforeKey afterKey beforeValue afterValue : List Char)
  /-- A text without `=`. -/
  | other (text : List Char)
deriving DecidableEq, Repr

def Segment.text : Segment → List Char
  | .property key value beforeKey afterKey beforeValue afterValue =>
      (beforeKey ++ key ++ afterKey) ++ '=' :: (beforeValue ++ value ++ afterValue)
  | .other text => text

/-- The key may be empty: then the segment starts with `=`, or has white space in front of it. -/
def Segment.WellFormed : Segment → Prop
  | .property key value beforeKey afterKey beforeValue afterValue =>
      (Trimmed key ∧ '=' ∉ key ∧ ';' ∉ key) ∧ (Trimmed value ∧ ';' ∉ value) ∧
        IsWhite beforeKey ∧ IsWhite afterKey ∧ IsWhite beforeValue ∧ IsWhite afterValue
  | .other text => '=' ∉ text ∧ ';' ∉ text

instance : DecidablePred Segment.WellFormed
  | .property key value beforeKey afterKey beforeValue afterValue =>
      inferInstanceAs (Decidable ((Trimmed key ∧ '=' ∉ key ∧ ';' ∉ key) ∧
        (Trimmed value ∧ ';' ∉ value) ∧
          IsWhite beforeKey ∧ IsWhite afterKey ∧ IsWhite beforeValue ∧ IsWhite afterValue))
  | .other text => inferInstanceAs (Decidable ('=' ∉ text ∧ ';' ∉ text))

def connectionString (segments : List Segment) : List Char :=
  [';'].intercalate (segments.map Segment.text)

/-- The pair of a segment. -/
def Segment.pair (upper : Char → Char) : Segment → Option (Key upper × List Char)
  | .property key value _ _ _ _ => some (key, value)
  | .other _ => none

def pairs (upper : Char → Char) (segments : List Segment) : List (Key upper × List Char) :=
  segments.filterMap (Segment.pair upper)

/-! ## What the loop gives -/

section Loop

variable {upper : Char → Char} {dict : List (Key upper × List Char)}
  {properties : List (List Char)}

/-- Without equal keys the loop adds the pairs of the properties, in their order. -/
theorem addProperties_of_distinct
    (distinct : Distinct (dict ++ properties.filterMap (readProperty upper))) :
    addProperties upper dict properties =
      .ok (dict ++ properties.filterMap (readProperty upper)) := by
  induction properties generalizing dict with
  | nil =>
      rw [addProperties]
      show _ = Except.ok (dict ++ [])
      rw [List.append_nil]
  | cons property rest inductionHypothesis =>
      rw [addProperties]
      cases read : readProperty upper property with
      | none =>
          rw [List.filterMap_cons_none read] at distinct ⊢
          exact inductionHypothesis distinct
      | some pair =>
          obtain ⟨key, value⟩ := pair
          rw [List.filterMap_cons_some read, List.append_cons] at distinct ⊢
          have absent : ¬ (lookup dict key).isSome = true := by
            rw [Option.not_isSome_iff_eq_none, lookup_eq_none_iff]
            intro entry member same
            have apart := (List.pairwise_append.mp (List.pairwise_append.mp distinct).1).2.2
            exact apart entry member (key, value) List.mem_cons_self (Setoid.symm same)
          show (if (lookup dict key).isSome then _ else _) = _
          rw [if_neg absent]
          exact inductionHypothesis distinct

/-- With equal keys it throws. -/
theorem addProperties_of_not_distinct (distinct : Distinct dict)
    (repeated : ¬ Distinct (dict ++ properties.filterMap (readProperty upper))) :
    ∃ failure, addProperties upper dict properties = .error failure := by
  induction properties generalizing dict with
  | nil =>
      rw [List.filterMap_nil, List.append_nil] at repeated
      exact absurd distinct repeated
  | cons property rest inductionHypothesis =>
      rw [addProperties]
      cases read : readProperty upper property with
      | none =>
          rw [List.filterMap_cons_none read] at repeated
          exact inductionHypothesis distinct repeated
      | some pair =>
          obtain ⟨key, value⟩ := pair
          rw [List.filterMap_cons_some read, List.append_cons] at repeated
          show ∃ failure, (if (lookup dict key).isSome then _ else _) = _
          split_ifs with present
          · exact ⟨_, rfl⟩
          · exact inductionHypothesis
              (distinct.append_singleton value (Option.not_isSome_iff_eq_none.mp present)) repeated

/-- Empty segments have no pair. -/
theorem filterMap_splitProperties (connectionString : List Char) :
    (splitProperties connectionString).filterMap (readProperty upper) =
      (connectionString.splitOn ';').filterMap (readProperty upper) := by
  rw [splitProperties, List.filterMap_filter]
  apply List.filterMap_congr
  intro segment _
  cases segment with
  | nil => rfl
  | cons character segment => rfl

theorem toDictionary_of_distinct {connectionString : List Char}
    {pairs : List (Key upper × List Char)}
    (isPairs : (connectionString.splitOn ';').filterMap (readProperty upper) = pairs)
    (two : 2 ≤ pairs.length) (distinct : Distinct pairs) :
    toDictionary upper connectionString = .ok pairs := by
  have isRead := (filterMap_splitProperties connectionString).trans isPairs
  have many := List.length_filterMap_le (readProperty upper) (splitProperties connectionString)
  rw [isRead] at many
  rw [toDictionary, if_neg (by omega), addProperties_of_distinct]
  · rw [List.nil_append, isRead]
  · rw [List.nil_append, isRead]
    exact distinct

theorem toDictionary_of_not_distinct {connectionString : List Char}
    (repeated : ¬ Distinct ((connectionString.splitOn ';').filterMap (readProperty upper))) :
    ∃ failure, toDictionary upper connectionString = .error failure := by
  rw [← filterMap_splitProperties] at repeated
  rw [toDictionary]
  split_ifs
  · exact ⟨_, rfl⟩
  · exact addProperties_of_not_distinct List.Pairwise.nil repeated

end Loop

/-! ## Reading what is written -/

/-- A segment is read as the pair it is written from. -/
theorem readProperty_text (upper : Char → Char) {segment : Segment}
    (wellFormed : segment.WellFormed) :
    readProperty upper segment.text = segment.pair upper := by
  cases segment with
  | other text =>
      rw [readProperty, Segment.text, splitAtSeparator_eq_none.2 wellFormed.1]
      rfl
  | property key value beforeKey afterKey beforeValue afterValue =>
      obtain ⟨⟨trimmedKey, separates, -⟩, ⟨trimmedValue, -⟩, whiteBefore, whiteAfter, whiteLeft,
        whiteRight⟩ := wellFormed
      have visible : isWhiteSpace '=' = false := by decide
      have noSeparator : '=' ∉ beforeKey ++ key ++ afterKey := by
        rw [List.mem_append, List.mem_append]
        rintro ((before | inside) | after)
        · exact not_mem_of_isWhite whiteBefore visible before
        · exact separates inside
        · exact not_mem_of_isWhite whiteAfter visible after
      rw [readProperty, Segment.text, splitAtSeparator_append noSeparator]
      show some (trim _, trim _) = some (key, value)
      rw [trim_padded whiteBefore trimmedKey whiteAfter,
        trim_padded whiteLeft trimmedValue whiteRight]

/-- A segment has no semicolon. -/
theorem not_mem_text {segment : Segment} (wellFormed : segment.WellFormed) :
    ';' ∉ segment.text := by
  cases segment with
  | other text => exact wellFormed.2
  | property key value beforeKey afterKey beforeValue afterValue =>
      obtain ⟨⟨-, -, inKey⟩, ⟨-, inValue⟩, whiteBefore, whiteAfter, whiteLeft, whiteRight⟩ :=
        wellFormed
      have visible : isWhiteSpace ';' = false := by decide
      rw [Segment.text, List.mem_append, List.mem_append, List.mem_append, List.mem_cons,
        List.mem_append, List.mem_append]
      rintro (((before | inside) | after) | (isEquals | ((left | inside) | right)))
      · exact not_mem_of_isWhite whiteBefore visible before
      · exact inKey inside
      · exact not_mem_of_isWhite whiteAfter visible after
      · cases isEquals
      · exact not_mem_of_isWhite whiteLeft visible left
      · exact inValue inside
      · exact not_mem_of_isWhite whiteRight visible right

theorem filterMap_connectionString (upper : Char → Char) {segments : List Segment}
    (wellFormed : ∀ segment ∈ segments, segment.WellFormed) (nonempty : segments ≠ []) :
    ((connectionString segments).splitOn ';').filterMap (readProperty upper) =
      pairs upper segments := by
  have isSplit : (connectionString segments).splitOn ';' = segments.map Segment.text := by
    apply List.splitOn_intercalate
    · intro text member
      obtain ⟨segment, isSegment, rfl⟩ := List.mem_map.mp member
      exact not_mem_text (wellFormed segment isSegment)
    · exact fun empty => nonempty (List.map_eq_nil_iff.mp empty)
  rw [isSplit, List.filterMap_map]
  exact List.filterMap_congr fun segment member =>
    readProperty_text upper (wellFormed segment member)

/-- Two segments with equal keys are not distinct. -/
theorem not_distinct_of_sublist {upper : Char → Char} {texts : List (List Char)}
    {first second : List Char} (sublist : [first, second].Sublist texts)
    {firstPair secondPair : Key upper × List Char}
    (isFirst : readProperty upper first = some firstPair)
    (isSecond : readProperty upper second = some secondPair) (same : firstPair.1 ≈ secondPair.1) :
    ¬ Distinct (texts.filterMap (readProperty upper)) := by
  intro distinct
  have inPairs := sublist.filterMap (readProperty upper)
  rw [List.filterMap_cons_some isFirst, List.filterMap_cons_some isSecond] at inPairs
  exact (List.pairwise_cons.mp (distinct.sublist inPairs)).1 secondPair List.mem_cons_self same

/-- A connection string that is written from pairs with different keys is read as these pairs; one
with two equal keys is refused. -/
theorem connection_string_pairs (upper : Char → Char) :
    (∀ segments : List Segment, (∀ segment ∈ segments, segment.WellFormed) →
      2 ≤ (pairs upper segments).length → Distinct (pairs upper segments) →
        ∃ dict, toDictionary upper (connectionString segments) = .ok dict ∧
          dict.length = (pairs upper segments).length ∧
          ∀ key value, lookup dict key = some value ↔
            ∃ pair ∈ pairs upper segments, key ≈ pair.1 ∧ pair.2 = value) ∧
    ∀ (text first second : List Char) (firstPair secondPair : Key upper × List Char),
      [first, second].Sublist (text.splitOn ';') → readProperty upper first = some firstPair →
        readProperty upper second = some secondPair → firstPair.1 ≈ secondPair.1 →
          ∃ failure, toDictionary upper text = .error failure := by
  constructor
  · intro segments wellFormed two distinct
    have nonempty : segments ≠ [] := by
      rintro rfl
      exact absurd two (Nat.not_succ_le_zero 1)
    exact ⟨pairs upper segments,
      toDictionary_of_distinct (filterMap_connectionString upper wellFormed nonempty) two distinct,
      rfl, fun key value => lookup_eq_some_iff distinct⟩
  · intro text first second firstPair secondPair sublist isFirst isSecond same
    exact toDictionary_of_not_distinct (not_distinct_of_sublist sublist isFirst isSecond same)

theorem connection_string_pairs_two :
    ∃ dict, toDictionary Char.toUpper "Endpoint = a;; accessKey =b==".toList = .ok dict ∧
      lookup dict "ACCESSKEY".toList = some "b==".toList := by
  obtain ⟨dict, isDict, -, lookups⟩ := (connection_string_pairs Char.toUpper).1
    [.property "Endpoint".toList "a".toList [] [' '] [' '] [], .other [],
      .property "accessKey".toList "b==".toList [' '] [' '] [] []]
    (by decide) (by decide) (by decide)
  have same : @HasEquiv.Equiv (Key Char.toUpper) _ "ACCESSKEY".toList "accessKey".toList := by
    show List.map Char.toUpper _ = List.map Char.toUpper _
    decide
  exact ⟨dict, isDict, (lookups _ _).mpr ⟨("accessKey".toList, "b==".toList), by decide, same, rfl⟩⟩

/-- A segment of `=` alone is a pair with an empty key, and a second one is refused. -/
theorem separator_only_segment :
    toDictionary Char.toUpper "a=1;b=2;=".toList =
      .ok [("a".toList, "1".toList), ("b".toList, "2".toList), ([], [])] ∧
    toDictionary Char.toUpper "a=1;b=2;=;=".toList = .error (.argument (duplicateProperty [])) := by
  decide

end AzureSignalR.Utilities.ConnectionStringParser
