import Mathlib.Data.List.Basic

/-!
Contract: parsers that take one frame off the front of a stream that is still
arriving.

Owns: what such a parser guarantees under more input, that its frames are a
prefix code, the greedy split of a stream into frames and a residue, and how
the split grows when input arrives.

Does not own: any wire format. `ν` is what the parser returns for a frame.
-/

set_option autoImplicit false

namespace AzureSignalR.Library

/-- A frame parser says "not yet", returns the first frame, or fails for good:
more input never changes a frame it has returned nor a failure. -/
structure FrameParser (β ν ε : Type) where
  parse : List β → Except ε (Option (ν × List β))
  parse_nil : parse [] = .ok none
  parse_some : ∀ {input value rest}, parse input = .ok (some (value, rest)) →
    ∃ frame, frame ≠ [] ∧ input = frame ++ rest ∧
      ∀ more, parse (frame ++ more) = .ok (some (value, more))
  parse_error : ∀ {input error}, parse input = .error error →
    ∀ more, parse (input ++ more) = .error error

namespace FrameParser

variable {β ν ε : Type} (parser : FrameParser β ν ε)

theorem length_lt {input rest : List β} {value : ν}
    (parsed : parser.parse input = .ok (some (value, rest))) :
    rest.length < input.length := by
  obtain ⟨frame, nonempty, split, -⟩ := parser.parse_some parsed
  have positive := List.length_pos_iff.mpr nonempty
  rw [split, List.length_append]
  omega

theorem parse_append {input rest : List β} {value : ν}
    (parsed : parser.parse input = .ok (some (value, rest))) (more : List β) :
    parser.parse (input ++ more) = .ok (some (value, rest ++ more)) := by
  obtain ⟨frame, -, split, stable⟩ := parser.parse_some parsed
  rw [split, List.append_assoc]
  exact stable (rest ++ more)

/-! ## Frames as a code -/

/-- The whole list is one frame. -/
def IsFrame (frame : List β) (value : ν) : Prop := parser.parse frame = .ok (some (value, []))

namespace IsFrame

variable {parser} {frame otherFrame : List β} {value otherValue : ν}

theorem parse_append (isFrame : parser.IsFrame frame value) (rest : List β) :
    parser.parse (frame ++ rest) = .ok (some (value, rest)) :=
  parser.parse_append isFrame rest

/-- A proper part of a frame is not an answer yet. -/
theorem parse_part {part : List β} (isFrame : parser.IsFrame frame value)
    (isPart : part <+: frame) (proper : part ≠ frame) : parser.parse part = .ok none := by
  obtain ⟨missing, rfl⟩ := isPart
  have whole : parser.parse (part ++ missing) = .ok (some (value, [])) := isFrame
  cases parsed : parser.parse part with
  | error error =>
      rw [parser.parse_error parsed missing] at whole
      cases whole
  | ok found =>
      cases found with
      | none => rfl
      | some taken =>
          rw [parser.parse_append parsed missing] at whole
          simp only [Except.ok.injEq, Option.some.injEq, Prod.mk.injEq,
            List.append_eq_nil_iff] at whole
          apply absurd _ proper
          rw [whole.2.2, List.append_nil]

/-- No frame is a prefix of another one, and a frame has one value. -/
theorem eq_of_prefix (isFrame : parser.IsFrame frame value)
    (other : parser.IsFrame otherFrame otherValue) (isPrefix : frame <+: otherFrame) :
    frame = otherFrame ∧ value = otherValue := by
  obtain ⟨rest, rfl⟩ := isPrefix
  have parsed := isFrame.parse_append rest
  rw [other] at parsed
  simp only [Except.ok.injEq, Option.some.injEq, Prod.mk.injEq] at parsed
  refine ⟨?_, parsed.1.symm⟩
  rw [← parsed.2, List.append_nil]

end IsFrame

/-- No frame can be taken off the input. -/
def Halts (input : List β) : Prop :=
  ∀ value rest, parser.parse input ≠ .ok (some (value, rest))

theorem halts_of_none {input : List β} (none : parser.parse input = .ok none) :
    parser.Halts input := by
  intro value rest parsed
  rw [none] at parsed
  exact nomatch parsed

theorem halts_of_error {input : List β} {error : ε}
    (failed : parser.parse input = .error error) : parser.Halts input := by
  intro value rest parsed
  rw [failed] at parsed
  exact nomatch parsed

/-- Taking the frames `values` off `input` leaves `rest`. -/
inductive Takes : List β → List ν → List β → Prop where
  | nil (input : List β) : Takes input [] input
  | cons {input middle rest : List β} {value : ν} {values : List ν}
      (parsed : parser.parse input = .ok (some (value, middle)))
      (others : Takes middle values rest) : Takes input (value :: values) rest

namespace Takes

variable {parser} {input rest : List β} {values : List ν}

theorem append (taken : parser.Takes input values rest) (more : List β) :
    parser.Takes (input ++ more) values (rest ++ more) := by
  induction taken with
  | nil input => exact .nil (input ++ more)
  | cons parsed others inductionHypothesis =>
      exact .cons (parser.parse_append parsed more) inductionHypothesis

theorem eq_of_nil (taken : parser.Takes input [] rest) : rest = input := by
  cases taken
  rfl

theorem trans {final : List β} {others : List ν}
    (taken : parser.Takes input values rest) (next : parser.Takes rest others final) :
    parser.Takes input (values ++ others) final := by
  induction taken with
  | nil input => exact next
  | cons parsed tail inductionHypothesis => exact .cons parsed (inductionHypothesis next)

theorem snoc {final : List β} {value : ν} (taken : parser.Takes input values rest)
    (parsed : parser.parse rest = .ok (some (value, final))) :
    parser.Takes input (values ++ [value]) final :=
  taken.trans (.cons parsed (.nil final))

theorem length_le (taken : parser.Takes input values rest) :
    rest.length + values.length ≤ input.length := by
  induction taken with
  | nil input => simp
  | cons parsed others inductionHypothesis =>
      have shorter := parser.length_lt parsed
      rw [List.length_cons]
      omega

/-- Where no frame can be taken any more, the frames are determined. -/
theorem unique {otherRest : List β} {others : List ν}
    (taken : parser.Takes input values rest) (halts : parser.Halts rest)
    (also : parser.Takes input others otherRest) :
    ∃ more, values = others ++ more ∧ parser.Takes otherRest more rest := by
  induction also generalizing values with
  | nil input => exact ⟨values, rfl, taken⟩
  | cons parsed others inductionHypothesis =>
      cases taken with
      | nil => exact absurd parsed (halts _ _)
      | cons parsedToo tail =>
          rw [parsed] at parsedToo
          cases parsedToo
          obtain ⟨more, split, after⟩ := inductionHypothesis tail
          exact ⟨more, by rw [split, List.cons_append], after⟩

end Takes

/-- Every input splits into frames and a part without a leading frame. -/
theorem exists_takes (input : List β) :
    ∃ values rest, parser.Takes input values rest ∧ parser.Halts rest := by
  induction length : input.length using Nat.strongRecOn generalizing input with
  | _ size inductionHypothesis =>
      by_cases halts : parser.Halts input
      · exact ⟨[], input, .nil input, halts⟩
      · simp only [Halts, not_forall, not_not] at halts
        obtain ⟨value, middle, parsed⟩ := halts
        have shorter := parser.length_lt parsed
        obtain ⟨values, rest, taken, halts⟩ :=
          inductionHypothesis middle.length (by omega) middle rfl
        exact ⟨value :: values, rest, .cons parsed taken, halts⟩

/-- The parser that also returns the bytes of the frame. -/
def withFrame : FrameParser β (ν × List β) ε where
  parse input :=
    match parser.parse input with
    | .error error => .error error
    | .ok none => .ok none
    | .ok (some (value, rest)) =>
        .ok (some ((value, input.take (input.length - rest.length)), rest))
  parse_nil := by
    rw [parser.parse_nil]
  parse_some := by
    intro input value rest parsed
    cases outcome : parser.parse input with
    | error error =>
        rw [outcome] at parsed
        exact nomatch parsed
    | ok found =>
        rw [outcome] at parsed
        cases found with
        | none => exact nomatch parsed
        | some found =>
            obtain ⟨first, left⟩ := found
            obtain ⟨frame, nonempty, split, stable⟩ := parser.parse_some outcome
            simp only [Except.ok.injEq, Option.some.injEq, Prod.mk.injEq] at parsed
            obtain ⟨rfl, rfl⟩ := parsed
            refine ⟨frame, nonempty, split, ?_⟩
            intro more
            rw [stable more, split]
            simp
  parse_error := by
    intro input error failed more
    cases outcome : parser.parse input with
    | error other =>
        rw [outcome] at failed
        rw [parser.parse_error outcome more]
        exact failed
    | ok found =>
        rw [outcome] at failed
        cases found with
        | none => exact nomatch failed
        | some found => exact nomatch failed

variable {parser}

theorem withFrame_some {input rest : List β} {value : ν}
    (parsed : parser.parse input = .ok (some (value, rest))) :
    parser.withFrame.parse input =
      .ok (some ((value, input.take (input.length - rest.length)), rest)) := by
  simp only [withFrame, parsed]

theorem withFrame_none {input : List β} (parsed : parser.parse input = .ok none) :
    parser.withFrame.parse input = .ok none := by
  simp only [withFrame, parsed]

theorem withFrame_error {input : List β} {error : ε}
    (parsed : parser.parse input = .error error) :
    parser.withFrame.parse input = .error error := by
  simp only [withFrame, parsed]

theorem Halts.withFrame {input : List β} (halts : parser.Halts input) :
    parser.withFrame.Halts input := by
  intro value rest parsed
  cases outcome : parser.parse input with
  | error error =>
      rw [withFrame_error outcome] at parsed
      exact nomatch parsed
  | ok found =>
      cases found with
      | none =>
          rw [withFrame_none outcome] at parsed
          exact nomatch parsed
      | some found => exact halts found.1 found.2 outcome

/-! ## The frames of a stream -/

variable (parser)

/-- Every frame takes a byte, so the length of the input bounds the recursion. -/
def framesFrom : (bound : Nat) → (input : List β) → List ν
  | 0, _ => []
  | bound + 1, input =>
      match parser.parse input with
      | .ok (some (value, rest)) => value :: framesFrom bound rest
      | _ => []

/-- All complete frames at the front of the input. -/
def frames (input : List β) : List ν := parser.framesFrom input.length input

variable {parser}

theorem framesFrom_eq {bound : Nat} {input rest : List β} {values : List ν}
    (enough : input.length ≤ bound) (taken : parser.Takes input values rest)
    (halts : parser.Halts rest) : parser.framesFrom bound input = values := by
  induction taken generalizing bound with
  | nil input =>
      cases bound with
      | zero => rfl
      | succ bound =>
          rw [framesFrom]
          split
          next value rest parsed => exact absurd parsed (halts value rest)
          next => rfl
  | cons parsed others inductionHypothesis =>
      have shorter := parser.length_lt parsed
      cases bound with
      | zero => omega
      | succ bound =>
          simp only [framesFrom, parsed]
          rw [inductionHypothesis (by omega) halts]

theorem frames_eq {input rest : List β} {values : List ν}
    (taken : parser.Takes input values rest) (halts : parser.Halts rest) :
    parser.frames input = values :=
  framesFrom_eq (Nat.le_refl _) taken halts

/-- What has been taken off the front are the first frames. -/
theorem Takes.isPrefix_frames {input rest : List β} {values : List ν}
    (taken : parser.Takes input values rest) : values <+: parser.frames input := by
  obtain ⟨others, final, complete, halts⟩ := parser.exists_takes rest
  rw [frames_eq (taken.trans complete) halts]
  exact List.prefix_append values others

end FrameParser

/-! ## Frames that end with a separator -/

/-- What stands before the first separator and what stands behind it. -/
def splitAtSeparator {β : Type} [DecidableEq β] (separator : β) :
    List β → Option (List β × List β)
  | [] => none
  | byte :: rest =>
      if byte = separator then some ([], rest)
      else
        match splitAtSeparator separator rest with
        | none => none
        | some (before, behind) => some (byte :: before, behind)

theorem splitAtSeparator_some {β : Type} [DecidableEq β] {separator : β}
    {input before behind : List β}
    (split : splitAtSeparator separator input = some (before, behind)) :
    input = before ++ separator :: behind ∧
      ∀ more, splitAtSeparator separator (before ++ separator :: more) =
        some (before, more) := by
  induction input generalizing before with
  | nil => exact nomatch split
  | cons byte rest inductionHypothesis =>
      rw [splitAtSeparator] at split
      split_ifs at split with found
      · simp only [Option.some.injEq, Prod.mk.injEq] at split
        obtain ⟨rfl, rfl⟩ := split
        rw [found]
        refine ⟨rfl, fun more => ?_⟩
        rw [List.nil_append, splitAtSeparator, if_pos rfl]
      · cases inner : splitAtSeparator separator rest with
        | none =>
            rw [inner] at split
            exact nomatch split
        | some found =>
            obtain ⟨first, left⟩ := found
            rw [inner] at split
            simp only [Option.some.injEq, Prod.mk.injEq] at split
            obtain ⟨rfl, rfl⟩ := split
            obtain ⟨whole, stable⟩ := inductionHypothesis inner
            rw [whole]
            refine ⟨rfl, fun more => ?_⟩
            rw [List.cons_append, splitAtSeparator, if_neg ‹_›, stable more]

theorem splitAtSeparator_append {β : Type} [DecidableEq β] {separator : β} {before : List β}
    (separates : separator ∉ before) (behind : List β) :
    splitAtSeparator separator (before ++ separator :: behind) = some (before, behind) := by
  induction before with
  | nil => exact if_pos rfl
  | cons byte before inductionHypothesis =>
      have different : byte ≠ separator := fun same => separates (same ▸ List.mem_cons_self)
      have rest := inductionHypothesis fun member => separates (List.mem_cons_of_mem _ member)
      rw [List.cons_append, splitAtSeparator, if_neg different, rest]

theorem splitAtSeparator_eq_none {β : Type} [DecidableEq β] {separator : β} {input : List β} :
    splitAtSeparator separator input = none ↔ separator ∉ input := by
  constructor
  · intro unsplit member
    obtain ⟨before, behind, whole, separates⟩ := List.eq_append_cons_of_mem member
    rw [whole, splitAtSeparator_append separates] at unsplit
    cases unsplit
  · intro separates
    induction input with
    | nil => rfl
    | cons byte rest inductionHypothesis =>
        have different : byte ≠ separator := fun same => separates (same ▸ List.mem_cons_self)
        have unsplit := inductionHypothesis fun member => separates (List.mem_cons_of_mem _ member)
        rw [splitAtSeparator, if_neg different, unsplit]

/-- The split is at the first separator. -/
theorem splitAtSeparator_eq_some {β : Type} [DecidableEq β] {separator : β}
    {input before behind : List β} :
    splitAtSeparator separator input = some (before, behind) ↔
      separator ∉ before ∧ input = before ++ separator :: behind := by
  constructor
  · intro split
    by_cases member : separator ∈ input
    · obtain ⟨front, rest, whole, separates⟩ := List.eq_append_cons_of_mem member
      rw [whole, splitAtSeparator_append separates] at split
      cases split
      exact ⟨separates, whole⟩
    · rw [splitAtSeparator_eq_none.2 member] at split
      cases split
  · rintro ⟨separates, rfl⟩
    exact splitAtSeparator_append separates behind

/-- A parser that never fails: `value` reads what stands before the separator. -/
def FrameParser.separated {β ν ε : Type} [DecidableEq β] (separator : β)
    (value : List β → ν) : FrameParser β ν ε where
  parse input :=
    match splitAtSeparator separator input with
    | none => .ok none
    | some (before, behind) => .ok (some (value before, behind))
  parse_nil := rfl
  parse_some := by
    intro input found rest parsed
    cases split : splitAtSeparator separator input with
    | none =>
        rw [split] at parsed
        exact nomatch parsed
    | some parts =>
        obtain ⟨before, behind⟩ := parts
        obtain ⟨whole, stable⟩ := splitAtSeparator_some split
        rw [split] at parsed
        simp only [Except.ok.injEq, Option.some.injEq, Prod.mk.injEq] at parsed
        obtain ⟨rfl, rfl⟩ := parsed
        refine ⟨before ++ [separator], by simp, by simp [whole], fun more => ?_⟩
        rw [List.append_assoc, List.singleton_append, stable more]
  parse_error := by
    intro input error failed
    cases split : splitAtSeparator separator input with
    | none =>
        rw [split] at failed
        exact nomatch failed
    | some parts =>
        rw [split] at failed
        exact nomatch failed

end AzureSignalR.Library
