import Mathlib.Data.List.Basic

/-!
Contract: the syntax of JSON texts, on their bytes.

Owns: the grammar of values, texts and members, and a machine that refuses no text: no value
stands directly behind another.

Does not own: what a text means. Bytes of a string from 0x80 on are taken as they are.
-/

set_option autoImplicit false

namespace AzureSignalR.Library.Json

/-! ## Grammar -/

def isSpace (byte : UInt8) : Bool := byte = 0x20 ∨ byte = 0x09 ∨ byte = 0x0a ∨ byte = 0x0d

def isDigit (byte : UInt8) : Bool := 0x30 ≤ byte ∧ byte ≤ 0x39

def isHex (byte : UInt8) : Bool :=
  isDigit byte ∨ 0x41 ≤ byte ∧ byte ≤ 0x46 ∨ 0x61 ≤ byte ∧ byte ≤ 0x66

def Spaces (bytes : List UInt8) : Prop := ∀ byte ∈ bytes, isSpace byte = true

def Digits (bytes : List UInt8) : Prop := bytes ≠ [] ∧ ∀ byte ∈ bytes, isDigit byte = true

/-- `null`, `true` and `false`. -/
def literals : List (List UInt8) :=
  [[0x6e, 0x75, 0x6c, 0x6c], [0x74, 0x72, 0x75, 0x65], [0x66, 0x61, 0x6c, 0x73, 0x65]]

/-- A character that needs no escape. -/
def isPlain (byte : UInt8) : Bool := 0x20 ≤ byte ∧ byte ≠ 0x22 ∧ byte ≠ 0x5c

/-- What stands between the quotes of a string. -/
inductive StringBody : List UInt8 → Prop where
  | nil : StringBody []
  | plain {byte : UInt8} {rest : List UInt8} (isPlain : isPlain byte = true)
      (behind : StringBody rest) : StringBody (byte :: rest)
  | escape {byte : UInt8} {rest : List UInt8}
      (escapes : byte ∈ [0x22, 0x5c, 0x2f, 0x62, 0x66, 0x6e, 0x72, 0x74])
      (behind : StringBody rest) : StringBody (0x5c :: byte :: rest)
  | unicode {one two three four : UInt8} {rest : List UInt8}
      (hex : ∀ byte ∈ [one, two, three, four], isHex byte = true) (behind : StringBody rest) :
      StringBody (0x5c :: 0x75 :: one :: two :: three :: four :: rest)

def quoted (body : List UInt8) : List UInt8 := 0x22 :: (body ++ [0x22])

inductive Integer : List UInt8 → Prop where
  | zero : Integer [0x30]
  | digits {first : UInt8} {rest : List UInt8} (nonzero : 0x31 ≤ first ∧ first ≤ 0x39)
      (behind : ∀ byte ∈ rest, isDigit byte = true) : Integer (first :: rest)

structure Number (bytes : List UInt8) : Prop where
  split : ∃ minus integer fraction exponent, bytes = minus ++ integer ++ fraction ++ exponent ∧
    (minus = [] ∨ minus = [0x2d]) ∧ Integer integer ∧
    (fraction = [] ∨ ∃ digits, Digits digits ∧ fraction = 0x2e :: digits) ∧
    (exponent = [] ∨ ∃ letter sign digits, (letter = 0x65 ∨ letter = 0x45) ∧
      (sign = [] ∨ sign = [0x2b] ∨ sign = [0x2d]) ∧ Digits digits ∧
      exponent = letter :: (sign ++ digits))

/-- Items with a comma between each two. -/
def joined : List (List UInt8) → List UInt8
  | [] => []
  | first :: rest => first ++ rest.flatMap (0x2c :: ·)

inductive Nonterminal where
  | value
  | text
  | member
deriving DecidableEq

/-- A text is a value between spaces. -/
inductive Derives : Nonterminal → List UInt8 → Prop where
  | literal {name : List UInt8} (isLiteral : name ∈ literals) : Derives .value name
  | number {bytes : List UInt8} (isNumber : Number bytes) : Derives .value bytes
  | string {body : List UInt8} (isBody : StringBody body) : Derives .value (quoted body)
  | emptyArray {spaces : List UInt8} (isSpaces : Spaces spaces) :
      Derives .value (0x5b :: (spaces ++ [0x5d]))
  | array {elements : List (List UInt8)} (some : elements ≠ [])
      (all : ∀ element ∈ elements, Derives .text element) :
      Derives .value (0x5b :: (joined elements ++ [0x5d]))
  | emptyObject {spaces : List UInt8} (isSpaces : Spaces spaces) :
      Derives .value (0x7b :: (spaces ++ [0x7d]))
  | object {members : List (List UInt8)} (some : members ≠ [])
      (all : ∀ member ∈ members, Derives .member member) :
      Derives .value (0x7b :: (joined members ++ [0x7d]))
  | text {before value behind : List UInt8} (isBefore : Spaces before)
      (isValue : Derives .value value) (isBehind : Spaces behind) :
      Derives .text (before ++ value ++ behind)
  | member {before key behind value : List UInt8} (isBefore : Spaces before)
      (isKey : StringBody key) (isBehind : Spaces behind) (isValue : Derives .text value) :
      Derives .member (before ++ quoted key ++ behind ++ 0x3a :: value)

def WellFormed (bytes : List UInt8) : Prop := Derives .value bytes

def Text (bytes : List UInt8) : Prop := Derives .text bytes

theorem spaces_nil : Spaces [] := nofun

theorem text_of_wellFormed {bytes : List UInt8} (wellFormed : WellFormed bytes) : Text bytes := by
  have derived := Derives.text spaces_nil wellFormed spaces_nil
  rwa [List.nil_append, List.append_nil] at derived

/-- The text of an array, of the texts of its elements. -/
def arrayText (elements : List (List UInt8)) : List UInt8 := 0x5b :: (joined elements ++ [0x5d])

theorem wellFormed_arrayText {elements : List (List UInt8)}
    (all : ∀ element ∈ elements, Text element) : WellFormed (arrayText elements) := by
  cases elements with
  | nil => exact .emptyArray spaces_nil
  | cons first rest => exact .array (List.cons_ne_nil _ _) all

/-- The text of an object, of the names and the texts of its members. -/
def objectText (members : List (List UInt8 × List UInt8)) : List UInt8 :=
  0x7b :: (joined (members.map fun member => quoted member.1 ++ 0x3a :: member.2) ++ [0x7d])

theorem wellFormed_objectText {members : List (List UInt8 × List UInt8)}
    (all : ∀ member ∈ members, StringBody member.1 ∧ Text member.2) :
    WellFormed (objectText members) := by
  cases members with
  | nil => exact .emptyObject spaces_nil
  | cons first rest =>
      refine .object (List.cons_ne_nil _ _) fun bytes member => ?_
      obtain ⟨⟨name, value⟩, isMember, rfl⟩ := List.mem_map.mp member
      obtain ⟨isName, isValue⟩ := all _ isMember
      have derived := Derives.member spaces_nil isName spaces_nil isValue
      rwa [List.nil_append, List.append_nil] at derived

theorem stringBody_of_plain {bytes : List UInt8} (plain : ∀ byte ∈ bytes, isPlain byte = true) :
    StringBody bytes := by
  induction bytes with
  | nil => exact .nil
  | cons byte rest inductionHypothesis =>
      exact .plain (plain byte List.mem_cons_self)
        (inductionHypothesis fun other member => plain other (List.mem_cons_of_mem _ member))

/-! ## A machine -/

/-- What a byte is read as. -/
inductive Mode where
  /-- A value or a key may begin. -/
  | ready
  /-- A value or a key has ended. -/
  | behind
  | string
  | escape
  | literal (rest : List UInt8)
  | number
deriving DecidableEq

def isNumberByte (byte : UInt8) : Bool :=
  isDigit byte ∨ byte = 0x2e ∨ byte = 0x65 ∨ byte = 0x45 ∨ byte = 0x2b ∨ byte = 0x2d

def stepBehind (byte : UInt8) : Option Mode :=
  if isSpace byte ∨ byte = 0x5d ∨ byte = 0x7d then some .behind
  else if byte = 0x2c ∨ byte = 0x3a then some .ready
  else none

def step : Mode → UInt8 → Option Mode
  | .ready, byte =>
      if isSpace byte ∨ byte = 0x5b ∨ byte = 0x7b then some .ready
      else if byte = 0x22 then some .string
      else if byte = 0x6e then some (.literal [0x75, 0x6c, 0x6c])
      else if byte = 0x74 then some (.literal [0x72, 0x75, 0x65])
      else if byte = 0x66 then some (.literal [0x61, 0x6c, 0x73, 0x65])
      else if isDigit byte ∨ byte = 0x2d then some .number
      else if byte = 0x5d ∨ byte = 0x7d then some .behind
      else none
  | .behind, byte => stepBehind byte
  | .string, byte =>
      if byte = 0x22 then some .behind else if byte = 0x5c then some .escape else some .string
  | .escape, _ => some .string
  | .literal [], byte => stepBehind byte
  | .literal (first :: rest), byte =>
      if byte = first then some (if rest = [] then .behind else .literal rest) else none
  | .number, byte => if isNumberByte byte then some .number else stepBehind byte

def scan (mode : Mode) : List UInt8 → Option Mode
  | [] => some mode
  | byte :: bytes => (step mode byte).bind fun next => scan next bytes

section Scan

variable {mode : Mode} {bytes more : List UInt8}

theorem scan_append (mode : Mode) (bytes more : List UInt8) :
    scan mode (bytes ++ more) = (scan mode bytes).bind fun next => scan next more := by
  induction bytes generalizing mode with
  | nil => rfl
  | cons byte bytes inductionHypothesis =>
      rw [List.cons_append, scan, scan]
      cases step mode byte with
      | none => rfl
      | some next => exact inductionHypothesis next

/-- The machine is behind a value. -/
def Mode.Settled (mode : Mode) : Prop := mode = .behind ∨ mode = .number

/-- It reads a value, and is behind it. -/
def Settles (bytes : List UInt8) : Prop :=
  ∃ mode : Mode, scan .ready bytes = some mode ∧ mode.Settled

theorem scan_spaces (stays : ∀ byte, isSpace byte = true → step mode byte = some mode)
    (spaces : Spaces bytes) : scan mode bytes = some mode := by
  induction bytes with
  | nil => rfl
  | cons byte bytes inductionHypothesis =>
      rw [scan, stays byte (spaces byte List.mem_cons_self)]
      exact inductionHypothesis fun other member => spaces other (List.mem_cons_of_mem _ member)

theorem scan_spaces_ready (spaces : Spaces bytes) : scan .ready bytes = some .ready := by
  refine scan_spaces (fun byte isSpace => ?_) spaces
  rw [step, if_pos (.inl isSpace)]

theorem scan_spaces_behind (spaces : Spaces bytes) : scan .behind bytes = some .behind := by
  refine scan_spaces (fun byte isSpace => ?_) spaces
  rw [step, stepBehind, if_pos (.inl isSpace)]

theorem isSpace_cases {byte : UInt8} (space : isSpace byte = true) :
    byte = 0x20 ∨ byte = 0x09 ∨ byte = 0x0a ∨ byte = 0x0d :=
  of_decide_eq_true space

theorem step_number_space {byte : UInt8} (space : isSpace byte = true) :
    step .number byte = some .behind := by
  rcases isSpace_cases space with rfl | rfl | rfl | rfl
  · decide
  · decide
  · decide
  · decide

namespace Mode.Settled

theorem comma (settled : mode.Settled) : step mode 0x2c = some .ready := by
  rcases settled with rfl | rfl
  · decide
  · decide

theorem closes (settled : mode.Settled) {byte : UInt8} (closing : byte = 0x5d ∨ byte = 0x7d) :
    step mode byte = some .behind := by
  rcases closing with rfl | rfl
  · rcases settled with rfl | rfl
    · decide
    · decide
  · rcases settled with rfl | rfl
    · decide
    · decide

theorem spaces (settled : mode.Settled) (isSpaces : Spaces bytes) :
    ∃ next : Mode, scan mode bytes = some next ∧ next.Settled := by
  rcases settled with rfl | rfl
  · exact ⟨.behind, scan_spaces_behind isSpaces, .inl rfl⟩
  · cases bytes with
    | nil => exact ⟨.number, rfl, .inr rfl⟩
    | cons byte bytes =>
        refine ⟨.behind, ?_, .inl rfl⟩
        rw [scan, step_number_space (isSpaces byte List.mem_cons_self)]
        exact scan_spaces_behind fun other member => isSpaces other (List.mem_cons_of_mem _ member)

end Mode.Settled

/-! ### What it reads -/

theorem hex_not_special {byte : UInt8} (hex : isHex byte = true) : byte ≠ 0x22 ∧ byte ≠ 0x5c := by
  constructor
  · rintro rfl
    exact absurd hex (by decide)
  · rintro rfl
    exact absurd hex (by decide)

theorem step_string {byte : UInt8} (notQuote : byte ≠ 0x22) (notBackslash : byte ≠ 0x5c) :
    step .string byte = some .string := by
  rw [step, if_neg notQuote, if_neg notBackslash]

theorem scan_stringBody (isBody : StringBody bytes) : scan .string bytes = some .string := by
  induction isBody with
  | nil => rfl
  | plain isPlain behind inductionHypothesis =>
      obtain ⟨-, notQuote, notBackslash⟩ := of_decide_eq_true isPlain
      rw [scan, step_string notQuote notBackslash]
      exact inductionHypothesis
  | escape escapes behind inductionHypothesis => exact inductionHypothesis
  | @unicode one two three four rest hex behind inductionHypothesis =>
      show (step .string one).bind _ = _
      obtain ⟨oneHex, twoHex, threeHex, fourHex⟩ : isHex one = true ∧ isHex two = true ∧
          isHex three = true ∧ isHex four = true :=
        ⟨hex one (by simp), hex two (by simp), hex three (by simp), hex four (by simp)⟩
      rw [step_string (hex_not_special oneHex).1 (hex_not_special oneHex).2]
      show (step .string two).bind _ = _
      rw [step_string (hex_not_special twoHex).1 (hex_not_special twoHex).2]
      show (step .string three).bind _ = _
      rw [step_string (hex_not_special threeHex).1 (hex_not_special threeHex).2]
      show (step .string four).bind _ = _
      rw [step_string (hex_not_special fourHex).1 (hex_not_special fourHex).2]
      exact inductionHypothesis

theorem scan_quoted (isBody : StringBody bytes) : scan .ready (quoted bytes) = some .behind := by
  show scan .string (bytes ++ [0x22]) = _
  rw [scan_append, scan_stringBody isBody]
  rfl

theorem scan_number (all : ∀ byte ∈ bytes, isNumberByte byte = true) :
    scan .number bytes = some .number := by
  induction bytes with
  | nil => rfl
  | cons byte bytes inductionHypothesis =>
      rw [scan, step, if_pos (all byte List.mem_cons_self)]
      exact inductionHypothesis fun other member => all other (List.mem_cons_of_mem _ member)

theorem isNumberByte_of_isDigit {byte : UInt8} (digit : isDigit byte = true) :
    isNumberByte byte = true :=
  decide_eq_true (.inl digit)

theorem Integer.eq_cons (integer : Integer bytes) :
    ∃ first rest, bytes = first :: rest ∧ isDigit first = true ∧
      ∀ byte ∈ rest, isDigit byte = true := by
  cases integer with
  | zero => exact ⟨0x30, [], rfl, by decide, nofun⟩
  | @digits first rest nonzero behind =>
      refine ⟨first, rest, rfl, decide_eq_true ⟨?_, nonzero.2⟩, behind⟩
      exact UInt8.le_trans (by decide) nonzero.1

/-- A number begins with a digit or a minus. -/
theorem Number.eq_cons (number : Number bytes) :
    ∃ first rest, bytes = first :: rest ∧ (isDigit first = true ∨ first = 0x2d) ∧
      ∀ byte ∈ rest, isNumberByte byte = true := by
  obtain ⟨minus, integer, fraction, exponent, rfl, isMinus, isInteger, isFraction, isExponent⟩ :=
    number.split
  obtain ⟨first, rest, rfl, isFirst, isRest⟩ := isInteger.eq_cons
  have fractions : ∀ byte ∈ fraction, isNumberByte byte = true := by
    rcases isFraction with rfl | ⟨digits, isDigits, rfl⟩
    · nofun
    · intro byte member
      rcases List.mem_cons.mp member with rfl | inDigits
      · decide
      · exact isNumberByte_of_isDigit (isDigits.2 byte inDigits)
  have exponents : ∀ byte ∈ exponent, isNumberByte byte = true := by
    rcases isExponent with rfl | ⟨letter, sign, digits, isLetter, isSign, isDigits, rfl⟩
    · nofun
    · intro byte member
      rcases List.mem_cons.mp member with rfl | behind
      · rcases isLetter with rfl | rfl
        · decide
        · decide
      · rcases List.mem_append.mp behind with inSign | inDigits
        · rcases isSign with rfl | rfl | rfl
          · cases inSign
          · rw [List.mem_singleton.mp inSign]
            decide
          · rw [List.mem_singleton.mp inSign]
            decide
        · exact isNumberByte_of_isDigit (isDigits.2 byte inDigits)
  have behindFirst : ∀ byte ∈ rest ++ fraction ++ exponent, isNumberByte byte = true := by
    intro byte member
    rcases List.mem_append.mp member with front | inExponent
    · rcases List.mem_append.mp front with inRest | inFraction
      · exact isNumberByte_of_isDigit (isRest byte inRest)
      · exact fractions byte inFraction
    · exact exponents byte inExponent
  rcases isMinus with rfl | rfl
  · exact ⟨first, rest ++ fraction ++ exponent, rfl, .inl isFirst, behindFirst⟩
  · refine ⟨0x2d, first :: (rest ++ fraction ++ exponent), rfl, .inr rfl, ?_⟩
    intro byte member
    rcases List.mem_cons.mp member with rfl | behind
    · exact isNumberByte_of_isDigit isFirst
    · exact behindFirst byte behind

theorem ne_of_isDigit {digit other : UInt8} (isDigit : isDigit digit = true)
    (outside : other.toNat < 0x30 ∨ 0x39 < other.toNat) : digit ≠ other := by
  obtain ⟨low, high⟩ := of_decide_eq_true isDigit
  have bounds : 0x30 ≤ digit.toNat ∧ digit.toNat ≤ 0x39 := ⟨low, high⟩
  rintro rfl
  omega

theorem not_isSpace_of_isDigit {digit : UInt8} (isDigit : isDigit digit = true) :
    ¬ isSpace digit = true := by
  intro space
  rcases isSpace_cases space with rfl | rfl | rfl | rfl
  · exact absurd isDigit (by decide)
  · exact absurd isDigit (by decide)
  · exact absurd isDigit (by decide)
  · exact absurd isDigit (by decide)

theorem step_ready_digit {first : UInt8} (isFirst : isDigit first = true ∨ first = 0x2d) :
    step .ready first = some .number := by
  rcases isFirst with digit | rfl
  · have differs {other : UInt8} (outside : other.toNat < 0x30 ∨ 0x39 < other.toNat) :
        first ≠ other :=
      ne_of_isDigit digit outside
    have opens : ¬(isSpace first = true ∨ first = 0x5b ∨ first = 0x7b) := by
      rintro (space | bracket | brace)
      · exact not_isSpace_of_isDigit digit space
      · exact differs (by decide) bracket
      · exact differs (by decide) brace
    rw [step, if_neg opens, if_neg (differs (by decide)), if_neg (differs (by decide)),
      if_neg (differs (by decide)), if_neg (differs (by decide)), if_pos (.inl digit)]
  · decide

theorem step_behind_digit {first : UInt8} (isFirst : isDigit first = true ∨ first = 0x2d) :
    step .behind first = none := by
  rcases isFirst with digit | rfl
  · have differs {other : UInt8} (outside : other.toNat < 0x30 ∨ 0x39 < other.toNat) :
        first ≠ other :=
      ne_of_isDigit digit outside
    have ends : ¬(isSpace first = true ∨ first = 0x5d ∨ first = 0x7d) := by
      rintro (space | bracket | brace)
      · exact not_isSpace_of_isDigit digit space
      · exact differs (by decide) bracket
      · exact differs (by decide) brace
    have separates : ¬(first = 0x2c ∨ first = 0x3a) := by
      rintro (comma | colon)
      · exact differs (by decide) comma
      · exact differs (by decide) colon
    rw [step, stepBehind, if_neg ends, if_neg separates]
  · decide

theorem settles_joined {elements : List (List UInt8)} (some : elements ≠ [])
    (all : ∀ element ∈ elements, Settles element) : Settles (joined elements) := by
  have behind : ∀ (rest : List (List UInt8)) (mode : Mode), (∀ element ∈ rest, Settles element) →
      mode.Settled → ∃ next : Mode, scan mode (rest.flatMap (0x2c :: ·)) = .some next ∧
        next.Settled := by
    intro rest
    induction rest with
    | nil => exact fun mode _ settled => ⟨mode, rfl, settled⟩
    | cons element rest inductionHypothesis =>
        intro mode all settled
        obtain ⟨middle, scanned, isSettled⟩ := all element List.mem_cons_self
        obtain ⟨next, isNext, last⟩ := inductionHypothesis middle
          (fun other member => all other (List.mem_cons_of_mem _ member)) isSettled
        refine ⟨next, ?_, last⟩
        rw [List.flatMap_cons, List.cons_append, scan, settled.comma]
        show scan .ready (element ++ _) = _
        rw [scan_append, scanned]
        exact isNext
  cases elements with
  | nil => exact absurd rfl some
  | cons first rest =>
      obtain ⟨middle, scanned, isSettled⟩ := all first List.mem_cons_self
      obtain ⟨next, isNext, last⟩ := behind rest middle
        (fun other member => all other (List.mem_cons_of_mem _ member)) isSettled
      refine ⟨next, ?_, last⟩
      rw [joined, scan_append, scanned]
      exact isNext

/-- Brackets around what settles. -/
theorem settles_bracketed {opening closing : UInt8} (isOpening : opening = 0x5b ∨ opening = 0x7b)
    (isClosing : closing = 0x5d ∨ closing = 0x7d) (inner : Settles bytes ∨ Spaces bytes) :
    Settles (opening :: (bytes ++ [closing])) := by
  have opens : step .ready opening = some .ready := by
    rcases isOpening with rfl | rfl
    · decide
    · decide
  refine ⟨.behind, ?_, .inl rfl⟩
  rw [scan, opens]
  show scan .ready (bytes ++ [closing]) = _
  rw [scan_append]
  rcases inner with ⟨mode, scanned, settled⟩ | spaces
  · rw [scanned]
    show (step mode closing).bind _ = _
    rw [settled.closes isClosing]
    rfl
  · rw [scan_spaces_ready spaces]
    rcases isClosing with rfl | rfl
    · decide
    · decide

/-- Every value, text and member is read to its end. -/
theorem settles_of_derives {nonterminal : Nonterminal} (derives : Derives nonterminal bytes) :
    Settles bytes := by
  induction derives with
  | literal isLiteral =>
      refine ⟨.behind, ?_, .inl rfl⟩
      simp only [literals, List.mem_cons, List.not_mem_nil, or_false] at isLiteral
      rcases isLiteral with rfl | rfl | rfl
      · decide
      · decide
      · decide
  | number isNumber =>
      obtain ⟨first, rest, rfl, isFirst, isRest⟩ := isNumber.eq_cons
      refine ⟨.number, ?_, .inr rfl⟩
      rw [scan, step_ready_digit isFirst]
      exact scan_number isRest
  | string isBody => exact ⟨.behind, scan_quoted isBody, .inl rfl⟩
  | emptyArray isSpaces => exact settles_bracketed (.inl rfl) (.inl rfl) (.inr isSpaces)
  | array some all inductionHypothesis =>
      exact settles_bracketed (.inl rfl) (.inl rfl) (.inl (settles_joined some inductionHypothesis))
  | emptyObject isSpaces => exact settles_bracketed (.inr rfl) (.inr rfl) (.inr isSpaces)
  | object some all inductionHypothesis =>
      exact settles_bracketed (.inr rfl) (.inr rfl) (.inl (settles_joined some inductionHypothesis))
  | text isBefore isValue isBehind inductionHypothesis =>
      obtain ⟨middle, scanned, settled⟩ := inductionHypothesis
      obtain ⟨last, isLast, isSettled⟩ := settled.spaces isBehind
      refine ⟨last, ?_, isSettled⟩
      rw [scan_append, scan_append, scan_spaces_ready isBefore]
      show (scan .ready _).bind _ = _
      rw [scanned]
      exact isLast
  | member isBefore isKey isBehind isValue inductionHypothesis =>
      obtain ⟨last, isLast, isSettled⟩ := inductionHypothesis
      refine ⟨last, ?_, isSettled⟩
      rw [scan_append, scan_append, scan_append, scan_spaces_ready isBefore]
      show ((scan .ready _).bind _).bind _ = _
      rw [scan_quoted isKey]
      show (scan .behind _).bind _ = _
      rw [scan_spaces_behind isBehind]
      exact isLast

/-! ### What it refuses -/

theorem derives_value_eq_cons {nonterminal : Nonterminal} (derives : Derives nonterminal bytes)
    (isValue : nonterminal = .value) :
    ∃ first rest, bytes = first :: rest ∧ step .behind first = none := by
  cases derives with
  | literal isLiteral =>
      simp only [literals, List.mem_cons, List.not_mem_nil, or_false] at isLiteral
      rcases isLiteral with rfl | rfl | rfl
      · exact ⟨_, _, rfl, by decide⟩
      · exact ⟨_, _, rfl, by decide⟩
      · exact ⟨_, _, rfl, by decide⟩
  | number isNumber =>
      obtain ⟨first, rest, rfl, isFirst, -⟩ := isNumber.eq_cons
      exact ⟨first, rest, rfl, step_behind_digit isFirst⟩
  | string isBody => exact ⟨_, _, rfl, by decide⟩
  | emptyArray isSpaces => exact ⟨_, _, rfl, by decide⟩
  | array some all => exact ⟨_, _, rfl, by decide⟩
  | emptyObject isSpaces => exact ⟨_, _, rfl, by decide⟩
  | object some all => exact ⟨_, _, rfl, by decide⟩
  | text isBefore isValue isBehind => cases isValue
  | member isBefore isKey isBehind isValue => cases isValue

/-- A text directly behind a value is refused. -/
theorem scan_behind_text (text : Text bytes) (more : List UInt8) :
    scan .behind (bytes ++ more) = none := by
  generalize isText : Nonterminal.text = nonterminal at text
  replace text : Derives nonterminal bytes := isText ▸ text
  cases text with
  | text isBefore isValue isBehind =>
      obtain ⟨first, rest, rfl, refused⟩ := derives_value_eq_cons isValue rfl
      rw [List.append_assoc, List.append_assoc, scan_append, scan_spaces_behind isBefore]
      show (step .behind first).bind _ = none
      rw [refused]
      rfl
  | _ => cases isText

theorem joined_append {front : List (List UInt8)} (some : front ≠ []) (rest : List (List UInt8)) :
    joined (front ++ rest) = joined front ++ rest.flatMap (0x2c :: ·) := by
  cases front with
  | nil => exact absurd rfl some
  | cons first front =>
      rw [List.cons_append, joined, joined, List.flatMap_append, List.append_assoc]

/-- An object is refused where one of its values is. -/
theorem scan_objectText_of_member {front back : List (List UInt8 × List UInt8)}
    {name value : List UInt8} (some : front ≠ [])
    (all : ∀ member ∈ front, StringBody member.1 ∧ Text member.2) (isName : StringBody name)
    (refused : ∀ more, scan .ready (value ++ more) = none) :
    scan .ready (objectText (front ++ (name, value) :: back)) = none := by
  have settles :
      Settles (joined (front.map fun member => quoted member.1 ++ 0x3a :: member.2)) := by
    refine settles_joined (by simpa using some) fun bytes isMember => ?_
    obtain ⟨⟨key, text⟩, member, rfl⟩ := List.mem_map.mp isMember
    obtain ⟨isKey, isText⟩ := all _ member
    have derived := Derives.member spaces_nil isKey spaces_nil isText
    rw [List.nil_append, List.append_nil] at derived
    exact settles_of_derives derived
  obtain ⟨mode, scanned, settled⟩ := settles
  show scan .ready (joined (List.map _ (front ++ (name, value) :: back)) ++ [0x7d]) = none
  rw [List.map_append, joined_append (by simpa using some), List.append_assoc, scan_append, scanned]
  show scan mode (0x2c :: (quoted name ++ 0x3a :: value) ++ _ ++ _) = none
  rw [List.cons_append, List.cons_append, scan, settled.comma]
  show scan .ready (quoted name ++ 0x3a :: value ++ _ ++ _) = none
  rw [List.append_assoc, List.append_assoc, scan_append, scan_quoted isName]
  exact refused _

/-- What the machine refuses is not well-formed. -/
theorem not_wellFormed_of_scan (refused : scan .ready bytes = none) : ¬ WellFormed bytes := by
  intro wellFormed
  obtain ⟨mode, scanned, -⟩ := settles_of_derives wellFormed
  rw [refused] at scanned
  cases scanned

end Scan

end AzureSignalR.Library.Json
