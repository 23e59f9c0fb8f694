import AzureSignalR.Common.BinaryMessage
import AzureSignalR.Library.Base64
import Mathlib.Data.List.Basic

/-!
Contract: base64url texts of bytes.

Owns: `Base64UrlEncoder`, the decoding of `TokenUtilities`, and that both decodings give back
what is encoded, and agree.

Does not own: `Convert.FromBase64String`, which follows its documentation: white space is left
out, and at most two `=` stand at the end of a whole number of groups. A slice is short enough for
its text, which has at most 0x3FFFFFDF characters.
-/

set_option autoImplicit false

namespace AzureSignalR.Auth.Base64UrlEncoder

abbrev Text := List Char

inductive Failure where
  | argumentOutOfRange (message : String)
  | format (message : String)
deriving DecidableEq, Repr

def base64PadCharacter : Char := '='

def base64Character62 : Char := '+'

def base64Character63 : Char := '/'

def base64UrlCharacter62 : Char := '-'

def base64UrlCharacter63 : Char := '_'

/-- What both alphabets have in common. -/
def lettersAndDigits : Text :=
  "ABCDEFGHIJKLMNOPQRSTUVWXYZabcdefghijklmnopqrstuvwxyz0123456789".toList

def s_base64Table : Text := lettersAndDigits ++ [base64UrlCharacter62, base64UrlCharacter63]

def base64Table : Text := lettersAndDigits ++ [base64Character62, base64Character63]

def symbol (digit : Nat) : Char := s_base64Table.getD digit base64PadCharacter

/-! ## Encoding -/

section Encode

variable (inArray : Bytes)

def byteAt (i : Nat) : Nat := (inArray.getD i 0).toNat

/-- The loop over whole groups of three bytes. Every round takes some, so the bytes left bound
the rounds. -/
def encodeGroups (limit : Nat) : (bound : Nat) → (i : Nat) → Text
  | 0, _ => []
  | bound + 1, i =>
      if i < limit then
        symbol (byteAt inArray i >>> 2) ::
          symbol ((byteAt inArray i &&& 0x03) <<< 4 ||| byteAt inArray (i + 1) >>> 4) ::
          symbol ((byteAt inArray (i + 1) &&& 0x0f) <<< 2 ||| byteAt inArray (i + 2) >>> 6) ::
          symbol (byteAt inArray (i + 2) &&& 0x3f) :: encodeGroups limit bound (i + 3)
      else []

/-- The bytes behind the last whole group. -/
def encodeRest (i : Nat) : (lengthmod3 : Nat) → Text
  | 2 =>
      [symbol (byteAt inArray i >>> 2),
        symbol ((byteAt inArray i &&& 0x03) <<< 4 ||| byteAt inArray (i + 1) >>> 4),
        symbol ((byteAt inArray (i + 1) &&& 0x0f) <<< 2)]
  | 1 => [symbol (byteAt inArray i >>> 2), symbol ((byteAt inArray i &&& 0x03) <<< 4)]
  | _ => []

def invalidValue (name : String) (value : Nat) : Failure :=
  .argumentOutOfRange
    ("IDX10106: The parameter " ++ name ++ " had an invalid value: '" ++ toString value ++ "'.")

def encode (offset length : Nat) : Except Failure Text :=
  if length = 0 then .ok []
  else if inArray.length < offset then .error (invalidValue "offset" offset)
  else if inArray.length < offset + length then .error (invalidValue "length" length)
  else
    let lengthmod3 := length % 3
    let limit := offset + (length - lengthmod3)
    .ok (encodeGroups inArray limit (limit - offset) offset ++ encodeRest inArray limit lengthmod3)

end Encode

/-- `Encode(byte[])`. -/
def encodeBytes (inArray : Bytes) : Except Failure Text := encode inArray 0 inArray.length

/-! ## Decoding -/

/-- White space that a base64 text may have; the rest of Unicode's is refused. -/
def isSkipped (char : Char) : Bool := char ∈ [' ', '\t', '\n', '\r']

/-- The symbols in front of the padding. -/
def unpadded (symbols : Text) : Text :=
  if [base64PadCharacter, base64PadCharacter] <:+ symbols then symbols.take (symbols.length - 2)
  else if [base64PadCharacter] <:+ symbols then symbols.take (symbols.length - 1)
  else symbols

/-- `Convert.FromBase64String`. -/
def fromBase64String (text : Text) : Except Failure Bytes :=
  let symbols := text.filter fun char => !isSkipped char
  if symbols.length % 4 = 0 then
    match (unpadded symbols).mapM (base64Table.idxOf? ·) >>= Library.Base64.bytes with
    | some decoded => .ok decoded
    | none => .error (.format "The input is not a valid Base-64 string.")
  else .error (.format "The input is not a valid Base-64 string.")

/-- The symbol of the other alphabet. -/
def replaced (char : Char) : Char :=
  if char = base64UrlCharacter62 then base64Character62
  else if char = base64UrlCharacter63 then base64Character63
  else char

/-- `UnsafeDecode`. -/
def decodeBytes (str : Text) : Except Failure Bytes :=
  let mod := str.length % 4
  if mod = 1 then
    .error (.format
      ("IDX10400: Unable to decode: '" ++ String.ofList str ++ "' as Base64url encoded string."))
  else
    let decodedLength := str.length + (4 - mod) % 4
    if str.any fun char => char = base64UrlCharacter62 || char = base64UrlCharacter63 then
      fromBase64String
        (str.map replaced ++ List.replicate (decodedLength - str.length) base64PadCharacter)
    else if decodedLength = str.length then fromBase64String str
    else
      fromBase64String (str ++ base64PadCharacter ::
        if str.length + 2 = decodedLength then [base64PadCharacter] else [])

/-- `TokenUtilities.Base64UrlDecode`, up to the bytes. -/
def base64UrlDecode (base64Url : Text) : Except Failure Bytes :=
  let base64 := base64Url.map replaced
  fromBase64String (base64 ++
    match base64.length % 4 with
    | 2 => [base64PadCharacter, base64PadCharacter]
    | 3 => [base64PadCharacter]
    | _ => [])

/-! ## The digits that are encoded -/

theorem byteAt_cons {inArray : Bytes} {i : Nat} {first : UInt8} {rest : Bytes}
    (split : inArray.drop i = first :: rest) :
    byteAt inArray i = first.toNat ∧ inArray.drop (i + 1) = rest := by
  constructor
  · rw [byteAt, List.getD_eq_getElem?_getD, ← List.head?_drop, split]
    rfl
  · rw [← List.drop_drop, split]
    rfl

/-- The symbols of fewer than three bytes. -/
theorem encodeRest_eq {inArray : Bytes} {i : Nat} {input behind : Bytes}
    (split : inArray.drop i = input ++ behind) (small : input.length < 3) :
    encodeRest inArray i input.length = (Library.Base64.digits input).map symbol := by
  cases input with
  | nil => rfl
  | cons first input =>
      obtain ⟨isFirst, splitSecond⟩ := byteAt_cons split
      cases input with
      | nil =>
          show encodeRest inArray i 1 = _
          rw [encodeRest, isFirst]
          rfl
      | cons second input =>
          obtain ⟨isSecond, _⟩ := byteAt_cons splitSecond
          cases input with
          | nil =>
              show encodeRest inArray i 2 = _
              rw [encodeRest, isFirst, isSecond]
              rfl
          | cons third input =>
              rw [List.length_cons, List.length_cons, List.length_cons] at small
              omega

theorem exists_group {input : Bytes} (long : 3 ≤ input.length) :
    ∃ first second third left, input = first :: second :: third :: left := by
  cases input with
  | nil => cases long
  | cons first input =>
      cases input with
      | nil =>
          rw [List.length_singleton] at long
          omega
      | cons second input =>
          cases input with
          | nil =>
              rw [List.length_cons, List.length_singleton] at long
              omega
          | cons third left => exact ⟨first, second, third, left, rfl⟩

/-- The symbols of whole groups and of the bytes behind them are those of the bytes' digits. -/
theorem encode_from {inArray : Bytes} (groups : Nat) {rest i bound : Nat} (small : rest < 3)
    (enough : groups * 3 ≤ bound) {input behind : Bytes}
    (split : inArray.drop i = input ++ behind) (size : input.length = groups * 3 + rest) :
    encodeGroups inArray (i + groups * 3) bound i ++ encodeRest inArray (i + groups * 3) rest =
      (Library.Base64.digits input).map symbol := by
  induction groups generalizing i bound input with
  | zero =>
      have noGroup : encodeGroups inArray (i + 0 * 3) bound i = [] := by
        cases bound with
        | zero => rfl
        | succ bound =>
            rw [encodeGroups, if_neg]
            omega
      have isRest : rest = input.length := by omega
      rw [noGroup, Nat.zero_mul, Nat.add_zero, List.nil_append, isRest]
      exact encodeRest_eq split (isRest ▸ small)
  | succ groups inductionHypothesis =>
      obtain ⟨first, second, third, left, rfl⟩ := exists_group (show 3 ≤ input.length by omega)
      obtain ⟨isFirst, splitSecond⟩ := byteAt_cons split
      obtain ⟨isSecond, splitThird⟩ := byteAt_cons splitSecond
      obtain ⟨isThird, splitLeft⟩ := byteAt_cons splitThird
      cases bound with
      | zero => omega
      | succ bound =>
          have sizeLeft : left.length = groups * 3 + rest := by
            rw [List.length_cons, List.length_cons, List.length_cons] at size
            omega
          have behindGroup := inductionHypothesis (show groups * 3 ≤ bound by omega) splitLeft
            sizeLeft
          rw [show i + 1 + 1 + 1 + groups * 3 = i + (groups + 1) * 3 by omega] at behindGroup
          rw [encodeGroups, if_pos (by omega), isFirst, isSecond, isThird]
          exact congrArg (fun symbols => _ :: _ :: _ :: _ :: symbols) behindGroup

/-- A slice is encoded digit by digit. -/
theorem encode_eq {inArray : Bytes} {offset length : Nat}
    (inside : offset + length ≤ inArray.length) :
    encode inArray offset length =
      .ok ((Library.Base64.digits ((inArray.drop offset).take length)).map symbol) := by
  rw [encode]
  split_ifs with isEmpty beforeEnd short
  · rw [isEmpty, List.take_zero]
    rfl
  · omega
  · omega
  · have isLimit : offset + (length - length % 3) = offset + length / 3 * 3 := by omega
    show Except.ok (encodeGroups inArray (offset + (length - length % 3))
      (offset + (length - length % 3) - offset) offset ++
        encodeRest inArray (offset + (length - length % 3)) (length % 3)) = _
    rw [isLimit]
    apply congrArg Except.ok
    apply encode_from (length / 3) (Nat.mod_lt length (by decide)) (by omega)
      (List.take_append_drop length _).symm
    rw [List.length_take, List.length_drop]
    omega

/-! ## Decoding what is encoded -/

theorem symbol_properties : ∀ digit < 64,
    base64Table.idxOf? (replaced (symbol digit)) = some digit ∧
      isSkipped (replaced (symbol digit)) = false ∧
      replaced (symbol digit) ≠ base64PadCharacter ∧ symbol digit ≠ '.' := by
  decide

theorem unpadded_append {symbols : Text} (noPadding : base64PadCharacter ∉ symbols) {count : Nat}
    (few : count ≤ 2) :
    unpadded (symbols ++ List.replicate count base64PadCharacter) = symbols := by
  rw [unpadded]
  obtain rfl | rfl | rfl : count = 0 ∨ count = 1 ∨ count = 2 := by omega
  · have noSuffix : ∀ ending : Text, base64PadCharacter ∈ ending → ¬ ending <:+ symbols :=
      fun ending isPadding suffix => noPadding (suffix.subset isPadding)
    rw [List.replicate_zero, List.append_nil, if_neg (noSuffix _ List.mem_cons_self),
      if_neg (noSuffix _ List.mem_cons_self)]
  · have noSuffix :
        ¬ [base64PadCharacter, base64PadCharacter] <:+ symbols ++ [base64PadCharacter] := by
      rintro ⟨front, same⟩
      have cancelled : front ++ [base64PadCharacter] ++ [base64PadCharacter] =
          symbols ++ [base64PadCharacter] := by
        rw [List.append_assoc]
        exact same
      have shorter : front ++ [base64PadCharacter] = symbols :=
        List.append_cancel_right cancelled
      exact noPadding (shorter ▸ List.mem_append_right front (List.mem_singleton_self _))
    rw [List.replicate_one, if_neg noSuffix, if_pos (List.suffix_append _ _), List.length_append]
    exact List.take_left' rfl
  · have two : List.replicate 2 base64PadCharacter = [base64PadCharacter, base64PadCharacter] :=
      rfl
    rw [two, if_pos (List.suffix_append symbols _), List.length_append]
    exact List.take_left' rfl

theorem mapM_symbols {digits : List Nat} (areDigits : ∀ digit ∈ digits, digit < 64) :
    (digits.map fun digit => replaced (symbol digit)).mapM (base64Table.idxOf? ·) =
      some digits := by
  induction digits with
  | nil => rfl
  | cons digit digits inductionHypothesis =>
      have isDigit := (symbol_properties digit (areDigits digit List.mem_cons_self)).1
      have others := inductionHypothesis fun other member =>
        areDigits other (List.mem_cons_of_mem digit member)
      rw [List.map_cons, List.mapM_cons, isDigit, others]
      rfl

/-- The padding completes the last group. -/
theorem fromBase64String_digits {digits : List Nat} (areDigits : ∀ digit ∈ digits, digit < 64)
    (possible : digits.length % 4 ≠ 1) {decoded : Bytes}
    (isDecoded : Library.Base64.bytes digits = some decoded) :
    fromBase64String
        (digits.map (fun digit => replaced (symbol digit)) ++
          List.replicate ((4 - digits.length % 4) % 4) base64PadCharacter) = .ok decoded := by
  have allSymbols : ∀ char ∈ digits.map (fun digit => replaced (symbol digit)) ++
      List.replicate ((4 - digits.length % 4) % 4) base64PadCharacter,
      (!isSkipped char) = true := by
    intro char member
    rw [List.mem_append, List.mem_map] at member
    rcases member with ⟨digit, isDigit, rfl⟩ | isPadding
    · rw [(symbol_properties digit (areDigits digit isDigit)).2.1]
      rfl
    · rw [List.eq_of_mem_replicate isPadding]
      decide
  have noPadding : base64PadCharacter ∉ digits.map fun digit => replaced (symbol digit) := by
    intro member
    obtain ⟨digit, isDigit, same⟩ := List.mem_map.mp member
    exact (symbol_properties digit (areDigits digit isDigit)).2.2.1 same
  rw [fromBase64String, List.filter_eq_self.mpr allSymbols]
  show (if _ then _ else _) = _
  rw [if_pos, unpadded_append noPadding (by omega), mapM_symbols areDigits, Option.bind_eq_bind,
    Option.bind_some, isDecoded]
  · rw [List.length_append, List.length_map, List.length_replicate]
    omega

theorem map_replaced {str : Text}
    (unneeded : ¬ (str.any fun char =>
      char = base64UrlCharacter62 || char = base64UrlCharacter63) = true) :
    str.map replaced = str := by
  rw [List.any_eq_true] at unneeded
  conv_rhs => rw [← List.map_id str]
  apply List.map_congr_left
  intro char member
  have other : ¬ (char = base64UrlCharacter62 ∨ char = base64UrlCharacter63) := fun found =>
    unneeded ⟨char, member, by simpa using found⟩
  rw [not_or] at other
  rw [replaced, if_neg other.1, if_neg other.2, id]

/-- `UnsafeDecode` puts the same symbols and padding together, whichever way it goes. -/
theorem decodeBytes_eq {str : Text} (possible : str.length % 4 ≠ 1) :
    decodeBytes str = fromBase64String
      (str.map replaced ++ List.replicate ((4 - str.length % 4) % 4) base64PadCharacter) := by
  rw [decodeBytes]
  show (if str.length % 4 = 1 then _ else _) = _
  rw [if_neg possible]
  show (if _ then _ else _) = _
  split_ifs with needReplace whole two
  · rw [Nat.add_sub_cancel_left]
  · have none : (4 - str.length % 4) % 4 = 0 := by omega
    rw [none, map_replaced needReplace, List.replicate_zero, List.append_nil]
  · have isTwo : (4 - str.length % 4) % 4 = 2 := by omega
    rw [isTwo, map_replaced needReplace]
    rfl
  · have isOne : (4 - str.length % 4) % 4 = 1 := by omega
    rw [isOne, map_replaced needReplace]
    rfl

theorem base64UrlDecode_eq {str : Text} (possible : str.length % 4 ≠ 1) :
    base64UrlDecode str = fromBase64String
      (str.map replaced ++ List.replicate ((4 - str.length % 4) % 4) base64PadCharacter) := by
  rw [base64UrlDecode]
  apply congrArg (fun padding => fromBase64String (str.map replaced ++ padding))
  rw [List.length_map]
  obtain whole | two | three : str.length % 4 = 0 ∨ str.length % 4 = 2 ∨ str.length % 4 = 3 := by
    omega
  · rw [whole]
    rfl
  · rw [two]
    rfl
  · rw [three]
    rfl

theorem decode_digits {input : Bytes} :
    decodeBytes ((Library.Base64.digits input).map symbol) = .ok input := by
  have possible : ((Library.Base64.digits input).map symbol).length % 4 ≠ 1 := by
    rw [List.length_map]
    exact Library.Base64.length_digits input
  rw [decodeBytes_eq possible, List.map_map, List.length_map]
  exact fromBase64String_digits (Library.Base64.digits_lt input)
    (Library.Base64.length_digits input) (Library.Base64.bytes_digits input)

theorem decodings_agree {str : Text} (possible : str.length % 4 ≠ 1) :
    base64UrlDecode str = decodeBytes str :=
  (base64UrlDecode_eq possible).trans (decodeBytes_eq possible).symm

theorem dot_not_mem (input : Bytes) : '.' ∉ (Library.Base64.digits input).map symbol := by
  intro member
  obtain ⟨digit, isDigit, isDot⟩ := List.mem_map.mp member
  exact (symbol_properties digit (Library.Base64.digits_lt input digit isDigit)).2.2.2 isDot

theorem base64UrlDecode_digits (input : Bytes) :
    base64UrlDecode ((Library.Base64.digits input).map symbol) = .ok input := by
  rw [decodings_agree, decode_digits]
  rw [List.length_map]
  exact Library.Base64.length_digits input

theorem encodeBytes_eq (input : Bytes) :
    encodeBytes input = .ok ((Library.Base64.digits input).map symbol) := by
  rw [encodeBytes, encode_eq (Nat.le_of_eq (Nat.zero_add _)), List.drop_zero, List.take_length]

/-- Every slice of an array comes back from its text, through either decoding; and the decodings
read every text in the same way, up to one whose length no bytes have: `UnsafeDecode` refuses it
at once, `TokenUtilities` only when white space does not make up for it. -/
theorem base64url_round_trip :
    (∀ (inArray : Bytes) (offset length : Nat), offset + length ≤ inArray.length →
      ∃ text, encode inArray offset length = .ok text ∧ '.' ∉ text ∧
        decodeBytes text = .ok ((inArray.drop offset).take length) ∧
        base64UrlDecode text = .ok ((inArray.drop offset).take length)) ∧
    (∀ str : Text, str.length % 4 ≠ 1 → base64UrlDecode str = decodeBytes str) ∧
    (∀ str : Text, str.length % 4 = 1 → ∃ failure, decodeBytes str = .error failure) := by
  refine ⟨fun inArray offset length inside => ?_, fun str => decodings_agree,
    fun str impossible => ?_⟩
  · exact ⟨_, encode_eq inside, dot_not_mem _, decode_digits, base64UrlDecode_digits _⟩
  · rw [decodeBytes]
    exact ⟨_, if_pos impossible⟩

/-- The last two of three bytes, with both symbols that are replaced. -/
theorem base64url_round_trip_slice :
    ∃ text, encode [0, 0xFB, 0xF0] 1 2 = .ok text ∧ '.' ∉ text ∧
      decodeBytes text = .ok [0xFB, 0xF0] ∧ base64UrlDecode text = .ok [0xFB, 0xF0] :=
  base64url_round_trip.1 [0, 0xFB, 0xF0] 1 2 (by decide)

end AzureSignalR.Auth.Base64UrlEncoder
