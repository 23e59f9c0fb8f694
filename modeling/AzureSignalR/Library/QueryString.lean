import AzureSignalR.Library.Framing
import Mathlib.Data.List.Induction

/-!
Contract: query strings, names and values between separators.

Owns: the parameters of a query string in their order, the values that one name has, and the text
that stands for several values.

Does not own: the encoding of names and values, which is a parameter.
-/

set_option autoImplicit false

namespace AzureSignalR.Library

abbrev Text := List Char

/-- How names and values are written and read. `decodeBare` reads a segment without a value. -/
structure QueryCodec where
  urlEncode : Text → Text
  decodeName : Text → Text
  decodeBare : Text → Text
  decodeValue : Text → Text
  toUpperInvariant : Char → Char
  /-- The separator between values that become one text is also written beside an empty value. -/
  keepsEmpty : Bool
  separator_notMem_urlEncode : ∀ text, '&' ∉ urlEncode text
  decodeValue_urlEncode : ∀ text, decodeValue (urlEncode text) = text
  /-- Letters, digits, dots and underscores stand for themselves. -/
  decodeName_plain : ∀ name : Text,
    (name.all fun char => char.isAlphanum || char = '.' || char = '_') = true →
      decodeName name = name

namespace QueryCodec

variable (codec : QueryCodec)

def parameter (segment : Text) : Option (Text × Text) :=
  if segment = [] then none
  else
    match splitAtSeparator '=' segment with
    | some (name, value) => some (codec.decodeName name, codec.decodeValue value)
    | none => some (codec.decodeBare segment, [])

def parameters (text : Text) : List (Text × Text) := (text.splitOn '&').filterMap codec.parameter

/-- Names are compared without regard to case. -/
def SameName (name other : Text) : Prop :=
  name.map codec.toUpperInvariant = other.map codec.toUpperInvariant

instance (name other : Text) : Decidable (codec.SameName name other) :=
  inferInstanceAs (Decidable (_ = _))

def valuesOf (name : Text) (parameters : List (Text × Text)) : List Text :=
  (parameters.filter fun parameter => codec.SameName parameter.1 name).map Prod.snd

/-- Several values as one text. -/
def joined (values : List Text) : Text :=
  [','].intercalate (if codec.keepsEmpty then values else values.filter (· ≠ []))

theorem parameters_append (front behind : Text) :
    codec.parameters (front ++ '&' :: behind) =
      codec.parameters front ++ codec.parameters behind := by
  rw [parameters, List.splitOn_append_cons_self, List.filterMap_append]
  rfl

theorem parameters_single {name value : Text} (plainName : '&' ∉ name) (isName : '=' ∉ name)
    (plainValue : '&' ∉ value) :
    codec.parameters (name ++ '=' :: value) =
      [(codec.decodeName name, codec.decodeValue value)] := by
  have whole : '&' ∉ name ++ '=' :: value := by
    simp [plainName, plainValue]
  rw [parameters, List.splitOn_eq_singleton whole, List.filterMap_cons, parameter,
    if_neg (by simp), splitAtSeparator_append isName]
  rfl

@[simp]
theorem valuesOf_append (name : Text) (first second : List (Text × Text)) :
    codec.valuesOf name (first ++ second) =
      codec.valuesOf name first ++ codec.valuesOf name second := by
  simp [valuesOf]

theorem valuesOf_same (name value : Text) : codec.valuesOf name [(name, value)] = [value] := by
  rw [valuesOf, List.filter_cons, if_pos (by simp [SameName])]
  rfl

/-- Names of different lengths are different. -/
theorem valuesOf_other {name other : Text} (different : other.length ≠ name.length)
    (value : Text) : codec.valuesOf name [(other, value)] = [] := by
  have otherName : ¬ codec.SameName other name := by
    intro same
    have lengths := congrArg List.length same
    rw [List.length_map, List.length_map] at lengths
    exact different lengths
  rw [valuesOf, List.filter_cons, if_neg (by simpa using otherName)]
  rfl

/-! ## Several values -/

theorem intercalate_concat (values : List Text) (last : Text) :
    [','].intercalate (values ++ [last]) =
      (values.flatMap fun value => value ++ [',']) ++ last := by
  induction values with
  | nil => exact List.intercalate_singleton
  | cons value values inductionHypothesis =>
      rw [List.cons_append, List.intercalate_cons_of_ne_nil (by simp), inductionHypothesis,
        List.flatMap_cons, List.append_assoc, List.append_assoc, List.append_assoc]

theorem intercalate_concat_eq_iff (values : List Text) (last : Text) :
    [','].intercalate (values ++ [last]) = last ↔ values = [] := by
  rw [intercalate_concat, List.append_left_eq_self, List.flatMap_eq_nil_iff]
  constructor
  · intro none
    cases values with
    | nil => rfl
    | cons value values =>
        have isNone := none value List.mem_cons_self
        simp at isNone
  · rintro rfl
    simp

theorem intercalate_eq_nil_iff {values : List Text} (nonempty : ∀ value ∈ values, value ≠ []) :
    [','].intercalate values = [] ↔ values = [] := by
  constructor
  · intro none
    cases values using List.reverseRecOn with
    | nil => rfl
    | append_singleton values last =>
        rw [intercalate_concat, List.append_eq_nil_iff] at none
        exact absurd none.2 (nonempty last (by simp))
  · rintro rfl
    rfl

/-- A value comes back as the last of several exactly when the others leave no trace. -/
theorem joined_concat_eq_iff (values : List Text) (last : Text) :
    codec.joined (values ++ [last]) = last ↔
      if codec.keepsEmpty then values = [] else ∀ value ∈ values, value = [] := by
  rw [joined]
  split_ifs with keeps
  · exact intercalate_concat_eq_iff values last
  · have noTrace : values.filter (· ≠ []) = [] ↔ ∀ value ∈ values, value = [] := by
      simp
    rw [← noTrace, List.filter_append]
    by_cases empty : last = []
    · have alone : [last].filter (· ≠ []) = [] := by simp [empty]
      rw [alone, List.append_nil, empty]
      exact intercalate_eq_nil_iff (by simp)
    · have alone : [last].filter (· ≠ []) = [last] := by simp [empty]
      rw [alone]
      exact intercalate_concat_eq_iff _ last

end QueryCodec

end AzureSignalR.Library
