import AzureSignalR.Serverless.MessagePackValue

/-!
Contract: the MessagePack format, as an instance of the reads of the serverless protocol.

Owns: the reader of the published format, and that it is lawful.

Does not own: the text of a string and the number of a float, which stay parameters.
-/

set_option autoImplicit false

namespace AzureSignalR.Serverless

open Library Protocol MessagePackFormat

/-! ## Code bytes -/

/-- `MessagePackCode.ToMessagePackType`. -/
def typeOfCode (code : UInt8) : MessagePackType :=
  if code.toNat < 0x80 ∨ 0xe0 ≤ code.toNat then .integer
  else if code.toNat < 0x90 then .map
  else if code.toNat < 0xa0 then .array
  else if code.toNat < 0xc0 then .string
  else match code with
    | 0xc0 => .nil
    | 0xc2 | 0xc3 => .boolean
    | 0xc4 | 0xc5 | 0xc6 => .binary
    | 0xca | 0xcb => .float
    | 0xcc | 0xcd | 0xce | 0xcf | 0xd0 | 0xd1 | 0xd2 | 0xd3 => .integer
    | 0xc7 | 0xc8 | 0xc9 | 0xd4 | 0xd5 | 0xd6 | 0xd7 | 0xd8 => .extension
    | 0xd9 | 0xda | 0xdb => .string
    | 0xdc | 0xdd => .array
    | 0xde | 0xdf => .map
    | _ => .unknown

def nextType : Reader MessagePackType
  | [] => .error .endOfStream
  | code :: rest => .ok (typeOfCode code, code :: rest)

/-- The code bytes of a size announce one type. -/
structure Announces (codes : SizeCodes) (type : MessagePackType) : Prop where
  fixed : ∀ size < codes.fixedCount, typeOfCode (UInt8.ofNat (codes.fixed + size)) = type
  listed : ∀ code ∈ codes.short.toList ++ [codes.medium, codes.long], typeOfCode code = type

theorem announces_string : Announces stringCodes .string :=
  ⟨by decide +kernel, by decide +kernel⟩

theorem announces_binary : Announces binaryCodes .binary :=
  ⟨by decide +kernel, by decide +kernel⟩

theorem announces_array : Announces arrayCodes .array :=
  ⟨by decide +kernel, by decide +kernel⟩

theorem announces_map : Announces mapCodes .map :=
  ⟨by decide +kernel, by decide +kernel⟩

theorem announces_extension : Announces extensionCodes .extension :=
  ⟨by decide +kernel, by decide +kernel⟩

theorem sizeBytes_eq_cons {codes : SizeCodes} {type : MessagePackType} {size : Nat} {bytes : Bytes}
    (announces : Announces codes type) (isSize : SizeBytes codes size bytes) :
    ∃ code header, bytes = code :: header ∧ typeOfCode code = type := by
  cases isSize with
  | fixed fits => exact ⟨_, _, rfl, announces.fixed size fits⟩
  | short listed fits => exact ⟨_, _, rfl, announces.listed _ (by simp [listed])⟩
  | medium fits => exact ⟨_, _, rfl, announces.listed _ (by simp)⟩
  | long fits => exact ⟨_, _, rfl, announces.listed _ (by simp)⟩

theorem integerBytes_eq_cons {value : Int} {bytes : Bytes} (isInteger : IntegerBytes value bytes) :
    ∃ code body, bytes = code :: body ∧ typeOfCode code = .integer := by
  cases isInteger with
  | positive value fits =>
      refine ⟨_, _, rfl, if_pos (.inl ?_)⟩
      rw [UInt8.toNat_ofNat']
      omega
  | negative value low high =>
      refine ⟨_, _, rfl, if_pos (.inr ?_)⟩
      rw [UInt8.toNat_ofNat']
      unfold wrap
      omega
  | unsigned code width value listed fits =>
      refine ⟨code, _, rfl, ?_⟩
      simp only [List.mem_cons, Prod.mk.injEq, List.not_mem_nil, or_false] at listed
      rcases listed with ⟨rfl, rfl⟩ | ⟨rfl, rfl⟩ | ⟨rfl, rfl⟩ | ⟨rfl, rfl⟩
      · rfl
      · rfl
      · rfl
      · rfl
  | signed code width value listed low high =>
      refine ⟨code, _, rfl, ?_⟩
      simp only [List.mem_cons, Prod.mk.injEq, List.not_mem_nil, or_false] at listed
      rcases listed with ⟨rfl, rfl⟩ | ⟨rfl, rfl⟩ | ⟨rfl, rfl⟩ | ⟨rfl, rfl⟩
      · rfl
      · rfl
      · rfl
      · rfl

/-- The first byte of a value says of what type it is. -/
theorem Encodes.eq_cons {value : Value} {bytes : Bytes} (encodes : Encodes value bytes) :
    ∃ code body, bytes = code :: body ∧ typeOfCode code = value.type := by
  have sized {codes : SizeCodes} {type : MessagePackType} {size : Nat} {header : Bytes}
      (announces : Announces codes type) (isSize : SizeBytes codes size header) (more : Bytes) :
      ∃ code body, header ++ more = code :: body ∧ typeOfCode code = type := by
    obtain ⟨code, body, rfl, announced⟩ := sizeBytes_eq_cons announces isSize
    exact ⟨code, body ++ more, rfl, announced⟩
  cases encodes with
  | nil => exact ⟨_, _, rfl, rfl⟩
  | boolean value =>
      cases value with
      | false => exact ⟨_, _, rfl, rfl⟩
      | true => exact ⟨_, _, rfl, rfl⟩
  | integer isInteger => exact integerBytes_eq_cons isInteger
  | float listed =>
      refine ⟨_, _, rfl, ?_⟩
      simp only [List.mem_cons, Prod.mk.injEq, List.not_mem_nil, or_false] at listed
      rcases listed with ⟨rfl, -⟩ | ⟨rfl, -⟩
      · rfl
      · rfl
  | string isSize => exact sized announces_string isSize _
  | binary isSize => exact sized announces_binary isSize _
  | array isSize all => exact sized announces_array isSize _
  | map isSize keys values => exact sized announces_map isSize _
  | fixedExtension listed =>
      refine ⟨_, _, rfl, ?_⟩
      simp only [List.mem_cons, Prod.mk.injEq, List.not_mem_nil, or_false] at listed
      rcases listed with ⟨rfl, -⟩ | ⟨rfl, -⟩ | ⟨rfl, -⟩ | ⟨rfl, -⟩ | ⟨rfl, -⟩
      · rfl
      · rfl
      · rfl
      · rfl
      · rfl
  | extension isSize => exact sized announces_extension isSize _

/-! ## The instance -/

def readNil : Reader Unit := do
  let code ← Decoder.symbol .endOfStream
  if code = 0xc0 then pure () else invalidCode

def readDouble {δ : Type} (toDouble : Bytes → δ) : Reader δ := do
  match ← Decoder.symbol .endOfStream with
  | 0xca => toDouble <$> Decoder.exactly .endOfStream 4
  | 0xcb => toDouble <$> Decoder.exactly .endOfStream 8
  | _ => invalidCode

section Format

variable {δ : Type} (getString : Bytes → String) (toDouble : Bytes → δ)

def messagePackReader : MessagePackReader δ where
  getString := getString
  toDouble := toDouble
  nextMessagePackType := nextType
  readNil := readNil
  readBoolean := MessagePackFormat.readBoolean
  readInt32 := readRange (-2 ^ 31) (2 ^ 31) Int32.ofInt
  readInt64 := readRange (-2 ^ 63) (2 ^ 63) Int64.ofInt
  readDouble := readDouble toDouble
  readString := Option.map getString <$> readBlock stringCodes
  readBytes := readBlock binaryCodes
  readArrayHeader := readCount arrayCodes 1
  readMapHeader := readCount mapCodes 2

theorem IntegerBytes.le {value : Int} {bytes : Bytes} (isInteger : IntegerBytes value bytes) :
    -2 ^ 63 ≤ value := by
  cases isInteger with
  | positive | negative | unsigned => omega
  | signed code width value listed low high =>
      simp only [List.mem_cons, Prod.mk.injEq, List.not_mem_nil, or_false] at listed
      rcases listed with ⟨-, rfl⟩ | ⟨-, rfl⟩ | ⟨-, rfl⟩ | ⟨-, rfl⟩
      · omega
      · omega
      · omega
      · omega

/-- A block whose size is in any form. -/
theorem consumes_block {codes : SizeCodes} {type : MessagePackType} {size block : Bytes}
    (announces : Announces codes type) (notNil : type ≠ .nil)
    (isSize : SizeBytes codes block.length size) :
    (readBlock codes).Consumes (size ++ block) (some block) := by
  intro rest
  have reads := ((isSize.consumes).bind (.exactly .endOfStream block)).map some rest
  obtain ⟨code, header, rfl, announced⟩ := sizeBytes_eq_cons announces isSize
  have isNotNil : code ≠ 0xc0 := by
    rintro rfl
    exact notNil announced.symm
  unfold readBlock
  rw [List.cons_append, List.cons_append] at reads ⊢
  rw [StateT.run_bind, run_tryReadNil_false isNotNil]
  exact reads

/-- The code byte of an extension is none of a string. -/
theorem body_of_extension {code : UInt8} (isExtension : typeOfCode code = .extension) :
    stringCodes.body code = invalidCode := by
  have notFixed : ¬ (0xa0 ≤ code.toNat ∧ code.toNat < 0xa0 + 32) := by
    intro fixed
    have string : typeOfCode code = .string := by
      unfold typeOfCode
      rw [if_neg (by omega), if_neg (by omega), if_neg (by omega), if_pos (by omega)]
    rw [string] at isExtension
    cases isExtension
  have notListed (other : UInt8) (string : typeOfCode other = .string) : code ≠ other := by
    rintro rfl
    rw [string] at isExtension
    cases isExtension
  have notShort : ¬ (some (0xd9 : UInt8) = some code) := by
    intro same
    exact notListed 0xd9 rfl (Option.some.inj same).symm
  have notMedium : code ≠ stringCodes.medium := notListed 0xda rfl
  have notLong : code ≠ stringCodes.long := notListed 0xdb rfl
  exact (if_neg notFixed).trans
    ((if_neg notShort).trans ((if_neg notMedium).trans (if_neg notLong)))

theorem messagePackReader_lawful : (messagePackReader getString toDouble).Lawful where
  nextMessagePackType := by
    intro value bytes encodes rest
    obtain ⟨code, body, rfl, announced⟩ := encodes.eq_cons
    show Except.ok (typeOfCode code, _) = _
    rw [announced]
    rfl
  readNil := fun _ => rfl
  readBoolean := by
    intro value
    cases value with
    | false => exact fun _ => rfl
    | true => exact fun _ => rfl
  readInt32 := fun isInteger low high =>
    consumes_readRange Int32.ofInt (consumes_integer isInteger) low high
  readInt64 := fun isInteger high =>
    consumes_readRange Int64.ofInt (consumes_integer isInteger) (IntegerBytes.le isInteger) high
  readInt64_overflow := by
    intro value bytes isInteger large rest
    refine ⟨.overflow, ?_⟩
    show (readRange (-2 ^ 63) (2 ^ 63) Int64.ofInt).run _ = _
    unfold readRange
    rw [StateT.run_bind, consumes_integer isInteger rest]
    show StateT.run
      (if -2 ^ 63 ≤ value ∧ value < 2 ^ 63 then _ else Decoder.fail Exn.overflow) rest = _
    rw [if_neg (by omega)]
    rfl
  readDouble := by
    intro payload bytes encodes
    cases encodes with
    | float listed =>
        have payloadRead := (Decoder.Consumes.exactly (.endOfStream : Exn) payload).map toDouble
        refine (Decoder.Consumes.symbol _ _).bind ?_
        simp only [List.mem_cons, Prod.mk.injEq, List.not_mem_nil, or_false] at listed
        rcases listed with ⟨rfl, length⟩ | ⟨rfl, length⟩
        · rw [length] at payloadRead
          exact payloadRead
        · rw [length] at payloadRead
          exact payloadRead
  readString := by
    intro payload bytes encodes
    cases encodes with
    | string isSize => exact (consumes_block announces_string (by decide) isSize).map _
  readString_nil := fun _ => rfl
  readString_extension := by
    intro type payload bytes encodes rest
    obtain ⟨code, body, rfl, announced⟩ := encodes.eq_cons
    refine ⟨.messagePackSerialization "Unexpected msgpack code", ?_⟩
    have isNotNil : code ≠ 0xc0 := by
      rintro rfl
      cases announced
    show (Option.map getString <$> readBlock stringCodes).run (code :: (body ++ rest)) = _
    unfold readBlock
    rw [StateT.run_map, StateT.run_bind, run_tryReadNil_false isNotNil]
    show Except.map _ ((some <$> (stringCodes.read >>= _)).run _) = _
    rw [StateT.run_map, StateT.run_bind]
    show Except.map _ (Except.map _ (Except.bind ((stringCodes.body code).run _) _)) = _
    rw [body_of_extension announced]
    rfl
  readBytes := by
    intro payload bytes encodes
    cases encodes with
    | binary isSize => exact consumes_block announces_binary (by decide) isSize
  readArrayHeader := fun isSize _ elements => isSize.run_readCount (by omega)
  readMapHeader := fun isSize _ elements => isSize.run_readCount elements

end Format

end AzureSignalR.Serverless
