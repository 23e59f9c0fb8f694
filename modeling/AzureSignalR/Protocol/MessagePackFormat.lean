import AzureSignalR.Protocol.MessagePack

/-!
Contract: the MessagePack format itself, as an instance of the primitives.

The protocol is verified against any lawful primitives. This module writes
down the published format, with the shortest representation the library's
writer picks for each value, and proves it lawful.

Does not own: the replacement characters the library substitutes for invalid
UTF-8; such a string is an error here.
-/

set_option autoImplicit false

namespace AzureSignalR.Protocol

open Library

namespace MessagePackFormat

/-! ## Big-endian numbers -/

/-- The `width` low bytes of `value`, most significant first. -/
def bigEndian : (width value : Nat) → Bytes
  | 0, _ => []
  | width + 1, value => bigEndian width (value / 256) ++ [UInt8.ofNat value]

def ofBigEndian (bytes : Bytes) : Nat :=
  bytes.foldl (fun value byte => value * 256 + byte.toNat) 0

@[simp] theorem length_bigEndian (width value : Nat) :
    (bigEndian width value).length = width := by
  induction width generalizing value with
  | zero => rfl
  | succ width inductionHypothesis => simp [bigEndian, inductionHypothesis]

theorem ofBigEndian_bigEndian (width value : Nat) (fits : value < 256 ^ width) :
    ofBigEndian (bigEndian width value) = value := by
  induction width generalizing value with
  | zero =>
      have zero : value = 0 := by simpa using fits
      rw [zero]
      rfl
  | succ width inductionHypothesis =>
      have high : value / 256 < 256 ^ width := by
        rw [pow_succ] at fits
        omega
      have step := inductionHypothesis (value / 256) high
      unfold ofBigEndian at step ⊢
      rw [bigEndian, List.foldl_append, step]
      simp only [List.foldl_cons, List.foldl_nil, UInt8.toNat_ofNat']
      omega

/-- `width` bytes as an unsigned number. -/
def unsigned (width : Nat) : Reader Nat :=
  ofBigEndian <$> Decoder.exactly .endOfStream width

theorem consumes_unsigned (width value : Nat) (fits : value < 256 ^ width) :
    (unsigned width).Consumes (bigEndian width value) value := by
  have reads := Decoder.Consumes.exactly (ε := Exn) .endOfStream (bigEndian width value)
  rw [length_bigEndian] at reads
  have converted := reads.map ofBigEndian
  rw [ofBigEndian_bigEndian width value fits] at converted
  exact converted

/-- Two's complement of `width` bytes. -/
def wrap (width : Nat) (value : Int) : Nat := (value % 256 ^ width).toNat

def unwrap (width value : Nat) : Int :=
  if 2 * value < 256 ^ width then value else value - 256 ^ width

/-- `width` bytes as a signed number. -/
def signed (width : Nat) : Reader Int := unwrap width <$> unsigned width

theorem consumes_signed (width : Nat) (value : Int)
    (low : -(256 ^ width : Int) ≤ 2 * value) (high : 2 * value < 256 ^ width) :
    (signed width).Consumes (bigEndian width (wrap width value)) value := by
  have power : (0 : Int) < 256 ^ width := by positivity
  have cast : ((256 ^ width : Nat) : Int) = 256 ^ width := by push_cast; rfl
  have nonneg := Int.emod_nonneg value power.ne'
  have bound := Int.emod_lt_of_pos value power
  have wrapped : wrap width value < 256 ^ width := by
    unfold wrap
    omega
  have back : unwrap width (wrap width value) = value := by
    unfold unwrap wrap
    by_cases negative : value < 0
    · have residue : value % 256 ^ width = value + 256 ^ width := by
        rw [← Int.add_emod_right, Int.emod_eq_of_lt] <;> omega
      rw [if_neg (by omega)]
      omega
    · have residue : value % 256 ^ width = value := by
        rw [Int.emod_eq_of_lt] <;> omega
      rw [if_pos (by omega)]
      omega
  have reads := (consumes_unsigned width (wrap width value) wrapped).map (unwrap width)
  rw [back] at reads
  exact reads

/-- The code byte does not announce a value of the requested kind. -/
def invalidCode {α : Type} : Reader α :=
  Decoder.fail (.messagePackSerialization "Unexpected msgpack code")

/-! ## Integers -/

def writeInteger (value : Int) : Bytes :=
  if value < -2 ^ 15 then 0xd2 :: bigEndian 4 (wrap 4 value)
  else if value < -2 ^ 7 then 0xd1 :: bigEndian 2 (wrap 2 value)
  else if value < -32 then 0xd0 :: bigEndian 1 (wrap 1 value)
  else if value < 0 then [UInt8.ofNat (wrap 1 value)]
  else if value < 2 ^ 7 then [UInt8.ofNat value.toNat]
  else if value < 2 ^ 8 then 0xcc :: bigEndian 1 value.toNat
  else if value < 2 ^ 16 then 0xcd :: bigEndian 2 value.toNat
  else if value < 2 ^ 32 then 0xce :: bigEndian 4 value.toNat
  else 0xcf :: bigEndian 8 value.toNat

/-- What follows the code byte of an integer. -/
def integerBody (code : UInt8) : Reader Int :=
  if code.toNat < 128 then pure code.toNat
  else if 224 ≤ code.toNat then pure (unwrap 1 code.toNat)
  else match code with
    | 0xcc => (fun value : Nat => (value : Int)) <$> unsigned 1
    | 0xcd => (fun value : Nat => (value : Int)) <$> unsigned 2
    | 0xce => (fun value : Nat => (value : Int)) <$> unsigned 4
    | 0xcf => (fun value : Nat => (value : Int)) <$> unsigned 8
    | 0xd0 => signed 1
    | 0xd1 => signed 2
    | 0xd2 => signed 4
    | 0xd3 => signed 8
    | _ => invalidCode

def readInteger : Reader Int := Decoder.symbol .endOfStream >>= integerBody

/-- One code byte, then its body. -/
theorem consumes_coded {α : Type} {body : UInt8 → Reader α} (code : UInt8)
    {bytes : Bytes} {value : α} (reads : (body code).Consumes bytes value) :
    (Decoder.symbol .endOfStream >>= body).Consumes (code :: bytes) value :=
  (Decoder.Consumes.symbol _ code).bind reads

/-- An integer in any of its forms. -/
inductive IntegerBytes : Int → Bytes → Prop where
  | positive (value : Nat) (fits : value < 2 ^ 7) : IntegerBytes value [UInt8.ofNat value]
  | negative (value : Int) (low : -32 ≤ value) (high : value < 0) :
      IntegerBytes value [UInt8.ofNat (wrap 1 value)]
  | unsigned (code : UInt8) (width value : Nat)
      (listed : (code, width) ∈ [(0xcc, 1), (0xcd, 2), (0xce, 4), (0xcf, 8)])
      (fits : value < 256 ^ width) : IntegerBytes value (code :: bigEndian width value)
  | signed (code : UInt8) (width : Nat) (value : Int)
      (listed : (code, width) ∈ [(0xd0, 1), (0xd1, 2), (0xd2, 4), (0xd3, 8)])
      (low : -(256 ^ width : Int) ≤ 2 * value) (high : 2 * value < 256 ^ width) :
      IntegerBytes value (code :: bigEndian width (wrap width value))

theorem IntegerBytes.length_pos {value : Int} {bytes : Bytes}
    (isInteger : IntegerBytes value bytes) :
    0 < bytes.length := by
  cases isInteger with
  | positive | negative | unsigned | signed => exact Nat.succ_pos _

theorem consumes_integer {value : Int} {bytes : Bytes} (isInteger : IntegerBytes value bytes) :
    readInteger.Consumes bytes value := by
  cases isInteger with
  | positive value fits =>
      have code : (UInt8.ofNat value).toNat = value := by
        rw [UInt8.toNat_ofNat']
        omega
      refine consumes_coded _ ?_
      unfold integerBody
      rw [if_pos (by omega), code]
      exact .pure_nil _
  | negative value low high =>
      have code : (UInt8.ofNat (wrap 1 value)).toNat = (value + 256).toNat := by
        rw [UInt8.toNat_ofNat']
        unfold wrap
        omega
      have back : unwrap 1 (value + 256).toNat = value := by
        unfold unwrap
        split_ifs
        · omega
        · omega
      refine consumes_coded _ ?_
      unfold integerBody
      rw [if_neg (by omega), if_pos (by omega), code, back]
      exact .pure_nil value
  | unsigned code width value listed fits =>
      have body := (consumes_unsigned width value fits).map fun value : Nat => (value : Int)
      refine consumes_coded code ?_
      simp only [List.mem_cons, Prod.mk.injEq, List.not_mem_nil, or_false] at listed
      rcases listed with ⟨rfl, rfl⟩ | ⟨rfl, rfl⟩ | ⟨rfl, rfl⟩ | ⟨rfl, rfl⟩
      · exact body
      · exact body
      · exact body
      · exact body
  | signed code width value listed low high =>
      have body := consumes_signed width value low high
      refine consumes_coded code ?_
      simp only [List.mem_cons, Prod.mk.injEq, List.not_mem_nil, or_false] at listed
      rcases listed with ⟨rfl, rfl⟩ | ⟨rfl, rfl⟩ | ⟨rfl, rfl⟩ | ⟨rfl, rfl⟩
      · exact body
      · exact body
      · exact body
      · exact body

theorem integerBytes_writeInteger (value : Int) (low : -2 ^ 31 ≤ value) (high : value < 2 ^ 64) :
    IntegerBytes value (writeInteger value) := by
  have natural (code : UInt8) (width : Nat)
      (listed : (code, width) ∈ [((0xcc : UInt8), 1), (0xcd, 2), (0xce, 4), (0xcf, 8)])
      (fits : value.toNat < 256 ^ width) (nonneg : 0 ≤ value) :
      IntegerBytes value (code :: bigEndian width value.toNat) := by
    have bytes := IntegerBytes.unsigned code width value.toNat listed fits
    rw [Int.toNat_of_nonneg nonneg] at bytes
    exact bytes
  unfold writeInteger
  split_ifs with int32 int16 int8 negative fixed uint8 uint16 uint32
  · exact .signed 0xd2 4 value (by decide) (by omega) (by omega)
  · exact .signed 0xd1 2 value (by decide) (by omega) (by omega)
  · exact .signed 0xd0 1 value (by decide) (by omega) (by omega)
  · exact .negative value (by omega) negative
  · have bytes := IntegerBytes.positive value.toNat (by omega)
    rw [Int.toNat_of_nonneg (by omega)] at bytes
    exact bytes
  · exact natural 0xcc 1 (by decide) (by omega) (by omega)
  · exact natural 0xcd 2 (by decide) (by omega) (by omega)
  · exact natural 0xce 4 (by decide) (by omega) (by omega)
  · exact natural 0xcf 8 (by decide) (by omega) (by omega)

theorem consumes_readInteger (value : Int)
    (low : -2 ^ 31 ≤ value) (high : value < 2 ^ 64) :
    readInteger.Consumes (writeInteger value) value :=
  consumes_integer (integerBytes_writeInteger value low high)

/-! ## Sizes

Strings, byte arrays, arrays and maps announce a size, in the code byte itself
or in one, two or four bytes behind it. -/

/-- The code bytes of one kind of value. The one-byte forms `fixed, ...,
fixed + fixedCount - 1` carry the size; `short` is missing for arrays and maps. -/
structure SizeCodes where
  fixed : Nat
  fixedCount : Nat
  short : Option UInt8
  medium : UInt8
  long : UInt8
  fixed_le : fixed + fixedCount ≤ 256
  outside : ∀ code ∈ short.toList ++ [medium, long],
    code.toNat < fixed ∨ fixed + fixedCount ≤ code.toNat
  distinct : (short.toList ++ [medium, long]).Nodup
  fixed_nil : 0xc0 < fixed ∨ fixed + fixedCount ≤ 0xc0
  listed_nil : 0xc0 ∉ short.toList ++ [medium, long]

namespace SizeCodes

variable (codes : SizeCodes)

def write (size : Nat) : Bytes :=
  if size < codes.fixedCount then [UInt8.ofNat (codes.fixed + size)]
  else if size < 2 ^ 16 then
    match codes.short with
    | some short =>
        if size < 2 ^ 8 then short :: bigEndian 1 size
        else codes.medium :: bigEndian 2 size
    | none => codes.medium :: bigEndian 2 size
  else codes.long :: bigEndian 4 size

def body (code : UInt8) : Reader Nat :=
  if codes.fixed ≤ code.toNat ∧ code.toNat < codes.fixed + codes.fixedCount then
    pure (code.toNat - codes.fixed)
  else if codes.short = some code then unsigned 1
  else if code = codes.medium then unsigned 2
  else if code = codes.long then unsigned 4
  else invalidCode

def read : Reader Nat := Decoder.symbol .endOfStream >>= codes.body

theorem body_listed {code : UInt8}
    (listed : code ∈ codes.short.toList ++ [codes.medium, codes.long]) :
    codes.body code =
      if codes.short = some code then unsigned 1
      else if code = codes.medium then unsigned 2
      else if code = codes.long then unsigned 4
      else invalidCode := by
  have outside := codes.outside code listed
  unfold body
  rw [if_neg (by omega)]

theorem body_short {code : UInt8} (listed : codes.short = some code) :
    codes.body code = unsigned 1 := by
  rw [body_listed codes (by simp [listed]), if_pos listed]

theorem body_medium : codes.body codes.medium = unsigned 2 := by
  have distinct := codes.distinct
  rw [body_listed codes (by simp), if_neg, if_pos rfl]
  intro short
  rw [short] at distinct
  simp at distinct

theorem body_long : codes.body codes.long = unsigned 4 := by
  have distinct := codes.distinct
  have notMedium : codes.long ≠ codes.medium := by
    intro same
    rw [same] at distinct
    cases short : codes.short <;> simp [short] at distinct
  rw [body_listed codes (by simp), if_neg, if_neg notMedium, if_pos rfl]
  intro short
  rw [short] at distinct
  simp at distinct

theorem consumes_read (size : Nat) (fits : size < 2 ^ 32) :
    codes.read.Consumes (codes.write size) size := by
  have medium (small : size < 2 ^ 16) :
      codes.read.Consumes (codes.medium :: bigEndian 2 size) size := by
    refine consumes_coded codes.medium ?_
    rw [body_medium]
    exact consumes_unsigned 2 size small
  unfold write
  by_cases fixed : size < codes.fixedCount
  · have code : (UInt8.ofNat (codes.fixed + size)).toNat = codes.fixed + size := by
      have bound := codes.fixed_le
      rw [UInt8.toNat_ofNat']
      omega
    rw [if_pos fixed]
    refine consumes_coded _ ?_
    unfold body
    rw [code, if_pos (by omega), Nat.add_sub_cancel_left]
    exact .pure_nil size
  rw [if_neg fixed]
  by_cases small : size < 2 ^ 16
  · rw [if_pos small]
    cases present : codes.short with
    | none => exact medium small
    | some short =>
        by_cases tiny : size < 2 ^ 8
        · simp only [if_pos tiny]
          refine consumes_coded short ?_
          rw [body_short codes present]
          exact consumes_unsigned 1 size tiny
        · simp only [if_neg tiny]
          exact medium small
  · rw [if_neg small]
    refine consumes_coded codes.long ?_
    rw [body_long]
    exact consumes_unsigned 4 size fits

/-- A size is never announced by the code byte of nil. -/
theorem write_eq_cons (size : Nat) :
    ∃ code header, codes.write size = code :: header ∧ code ≠ 0xc0 := by
  have listed := codes.listed_nil
  have medium : codes.medium ≠ 0xc0 := by
    intro same
    rw [same] at listed
    simp at listed
  have long : codes.long ≠ 0xc0 := by
    intro same
    rw [same] at listed
    simp at listed
  unfold write
  split
  · rename_i fixed
    refine ⟨_, _, rfl, ?_⟩
    intro same
    have code := congrArg UInt8.toNat same
    have bound := codes.fixed_le
    have apart := codes.fixed_nil
    rw [UInt8.toNat_ofNat'] at code
    change _ = 192 at code
    omega
  · split
    · split
      · rename_i short present
        have notNil : short ≠ 0xc0 := by
          intro same
          rw [present, same] at listed
          simp at listed
        split
        · exact ⟨_, _, rfl, notNil⟩
        · exact ⟨_, _, rfl, medium⟩
      · exact ⟨_, _, rfl, medium⟩
    · exact ⟨_, _, rfl, long⟩

end SizeCodes

/-- A size in any of its forms. The reader's sizes are of type `int`. -/
inductive SizeBytes (codes : SizeCodes) (size : Nat) : Bytes → Prop where
  | fixed (fits : size < codes.fixedCount) : SizeBytes codes size [UInt8.ofNat (codes.fixed + size)]
  | short {code : UInt8} (listed : codes.short = some code) (fits : size < 2 ^ 8) :
      SizeBytes codes size (code :: bigEndian 1 size)
  | medium (fits : size < 2 ^ 16) : SizeBytes codes size (codes.medium :: bigEndian 2 size)
  | long (fits : size < 2 ^ 31) : SizeBytes codes size (codes.long :: bigEndian 4 size)

theorem SizeBytes.length_pos {codes : SizeCodes} {size : Nat} {bytes : Bytes}
    (isSize : SizeBytes codes size bytes) : 0 < bytes.length := by
  cases isSize with
  | fixed | short | medium | long => exact Nat.succ_pos _

theorem SizeBytes.consumes {codes : SizeCodes} {size : Nat} {bytes : Bytes}
    (isSize : SizeBytes codes size bytes) : codes.read.Consumes bytes size := by
  cases isSize with
  | fixed fits =>
      have bound := codes.fixed_le
      have code : (UInt8.ofNat (codes.fixed + size)).toNat = codes.fixed + size := by
        rw [UInt8.toNat_ofNat']
        omega
      refine consumes_coded _ ?_
      rw [SizeCodes.body, code, if_pos (by omega), Nat.add_sub_cancel_left]
      exact .pure_nil size
  | short listed fits =>
      refine consumes_coded _ ?_
      rw [codes.body_short listed]
      exact consumes_unsigned 1 size fits
  | medium fits =>
      refine consumes_coded _ ?_
      rw [codes.body_medium]
      exact consumes_unsigned 2 size fits
  | long fits =>
      refine consumes_coded _ ?_
      rw [codes.body_long]
      exact consumes_unsigned 4 size (by omega)

/-- The form in which the library writes it. -/
theorem sizeBytes_write (codes : SizeCodes) {size : Nat} (fits : size < 2 ^ 31) :
    SizeBytes codes size (codes.write size) := by
  unfold SizeCodes.write
  by_cases fixed : size < codes.fixedCount
  · rw [if_pos fixed]
    exact .fixed fixed
  rw [if_neg fixed]
  by_cases small : size < 2 ^ 16
  · rw [if_pos small]
    cases present : codes.short with
    | none => exact .medium small
    | some short =>
        by_cases tiny : size < 2 ^ 8
        · simp only [if_pos tiny]
          exact .short present tiny
        · simp only [if_neg tiny]
          exact .medium small
  · rw [if_neg small]
    exact .long fits

def stringCodes : SizeCodes where
  fixed := 0xa0
  fixedCount := 32
  short := some 0xd9
  medium := 0xda
  long := 0xdb
  fixed_le := by decide
  outside := by simp
  distinct := by decide
  fixed_nil := by decide
  listed_nil := by decide

def binaryCodes : SizeCodes where
  fixed := 0
  fixedCount := 0
  short := some 0xc4
  medium := 0xc5
  long := 0xc6
  fixed_le := by decide
  outside := by simp
  distinct := by decide
  fixed_nil := by decide
  listed_nil := by decide

def arrayCodes : SizeCodes where
  fixed := 0x90
  fixedCount := 16
  short := none
  medium := 0xdc
  long := 0xdd
  fixed_le := by decide
  outside := by simp
  distinct := by decide
  fixed_nil := by decide
  listed_nil := by decide

def mapCodes : SizeCodes where
  fixed := 0x80
  fixedCount := 16
  short := none
  medium := 0xde
  long := 0xdf
  fixed_le := by decide
  outside := by simp
  distinct := by decide
  fixed_nil := by decide
  listed_nil := by decide

/-- A count of elements that take at least `width` bytes each. -/
def readCount (codes : SizeCodes) (width : Nat) : Reader Nat := do
  let count ← codes.read
  fun rest => if width * count ≤ rest.length then .ok (count, rest) else .error .endOfStream

theorem SizeBytes.run_readCount {codes : SizeCodes} {width count : Nat} {size rest : Bytes}
    (isSize : SizeBytes codes count size) (elements : width * count ≤ rest.length) :
    (readCount codes width).run (size ++ rest) = .ok (count, rest) := by
  unfold readCount
  rw [StateT.run_bind, isSize.consumes rest]
  exact if_pos elements

theorem run_readCount (codes : SizeCodes) (width count : Nat) (rest : Bytes)
    (fits : count < 2 ^ 31) (elements : width * count ≤ rest.length) :
    (readCount codes width).run (codes.write count ++ rest) = .ok (count, rest) :=
  (sizeBytes_write codes fits).run_readCount elements

/-! ## Nil, strings and byte arrays -/

def tryReadNil : Reader Bool
  | [] => .error .endOfStream
  | code :: rest => if code = 0xc0 then .ok (true, rest) else .ok (false, code :: rest)

theorem run_tryReadNil_false {code : UInt8} (notNil : code ≠ 0xc0) (rest : Bytes) :
    tryReadNil.run (code :: rest) = .ok (false, code :: rest) :=
  if_neg notNil

/-- Nil, or a size and that many bytes. -/
def readBlock (codes : SizeCodes) : Reader (Option Bytes) := do
  let isNil ← tryReadNil
  if isNil then pure none
  else some <$> (codes.read >>= Decoder.exactly .endOfStream)

theorem consumes_readBlock_nil (codes : SizeCodes) :
    (readBlock codes).Consumes [0xc0] none :=
  fun _ => rfl

theorem consumes_readBlock (codes : SizeCodes) (block : Bytes)
    (fits : block.length < 2 ^ 32) :
    (readBlock codes).Consumes (codes.write block.length ++ block) (some block) := by
  intro rest
  have reads := ((codes.consumes_read block.length fits).bind
    (.exactly .endOfStream block)).map some rest
  obtain ⟨code, header, written, notNil⟩ := codes.write_eq_cons block.length
  unfold readBlock
  rw [written, List.cons_append, List.cons_append] at reads ⊢
  rw [StateT.run_bind, run_tryReadNil_false notNil]
  exact reads

def utf8 (value : String) : Bytes := value.toByteArray.data.toList

def ofUtf8 (bytes : Bytes) : Option String := String.fromUTF8? ⟨bytes.toArray⟩

theorem ofUtf8_utf8 (value : String) : ofUtf8 (utf8 value) = some value := by
  have bytes : (⟨(utf8 value).toArray⟩ : ByteArray) = value.toByteArray := by
    simp [utf8]
  unfold ofUtf8 String.fromUTF8?
  rw [bytes, dif_pos value.isValidUTF8]
  rfl

def writeString : Option String → Bytes
  | none => [0xc0]
  | some value => stringCodes.write (utf8 value).length ++ utf8 value

def readString : Reader (Option String) := do
  match ← readBlock stringCodes with
  | none => pure none
  | some block =>
      match ofUtf8 block with
      | some value => pure (some value)
      | none => Decoder.fail (.messagePackSerialization "Invalid UTF-8")

theorem consumes_readString (value : Option String)
    (fits : (writeString value).length < 2 ^ 32) :
    readString.Consumes (writeString value) value := by
  cases value with
  | none => exact fun _ => rfl
  | some value =>
      intro rest
      unfold writeString at fits ⊢
      rw [List.length_append] at fits
      have reads := consumes_readBlock stringCodes (utf8 value) (by omega) rest
      unfold readString
      rw [StateT.run_bind, reads]
      change StateT.run (match ofUtf8 (utf8 value) with
        | some value => pure (some value)
        | none => Decoder.fail _) rest = _
      rw [ofUtf8_utf8]
      rfl

/-! ## Booleans and skipped values -/

def readBoolean : Reader Bool := do
  match ← Decoder.symbol .endOfStream with
  | 0xc2 => pure false
  | 0xc3 => pure true
  | _ => invalidCode

/-- The values that follow a code byte directly, after dropping the bytes that
belong to it. -/
def skipOne : Reader Nat := do
  let code ← Decoder.symbol .endOfStream
  let drop (size : Nat) : Reader Nat :=
    (fun _ => 0) <$> Decoder.exactly .endOfStream size
  if code.toNat < 0x80 ∨ 0xe0 ≤ code.toNat then pure 0
  else if code.toNat < 0x90 then (2 * ·) <$> mapCodes.body code
  else if code.toNat < 0xa0 then arrayCodes.body code
  else if code.toNat < 0xc0 then stringCodes.body code >>= drop
  else match code with
    | 0xc0 | 0xc2 | 0xc3 => pure 0
    | 0xc4 | 0xc5 | 0xc6 => binaryCodes.body code >>= drop
    | 0xc7 => unsigned 1 >>= fun size => drop (size + 1)
    | 0xc8 => unsigned 2 >>= fun size => drop (size + 1)
    | 0xc9 => unsigned 4 >>= fun size => drop (size + 1)
    | 0xca => drop 4
    | 0xcb => drop 8
    | 0xcc | 0xd0 => drop 1
    | 0xcd | 0xd1 => drop 2
    | 0xce | 0xd2 => drop 4
    | 0xcf | 0xd3 => drop 8
    | 0xd4 => drop 2
    | 0xd5 => drop 3
    | 0xd6 => drop 5
    | 0xd7 => drop 9
    | 0xd8 => drop 17
    | 0xd9 | 0xda | 0xdb => stringCodes.body code >>= drop
    | 0xdc | 0xdd => arrayCodes.body code
    | 0xde | 0xdf => (2 * ·) <$> mapCodes.body code
    | _ => invalidCode

/-- Skip `pending` values. Every value takes a byte, so the bytes at hand
bound the recursion. -/
def skipValues : (bound pending : Nat) → Reader Unit
  | _, 0 => pure ()
  | 0, _ + 1 => Decoder.fail .endOfStream
  | bound + 1, pending + 1 => do
      let nested ← skipOne
      skipValues bound (pending + nested)

def skip : Reader Unit := fun stream => (skipValues stream.length 1).run stream

/-! ## The instance -/

/-- A value outside the range of the target type. -/
def readRange {α : Type} (low high : Int) (convert : Int → α) : Reader α := do
  let value ← readInteger
  if low ≤ value ∧ value < high then pure (convert value) else Decoder.fail .overflow

theorem consumes_readRange {α : Type} {low high : Int} (convert : Int → α) {value : Int}
    {bytes : Bytes} (reads : readInteger.Consumes bytes value)
    (above : low ≤ value) (below : value < high) :
    (readRange low high convert).Consumes bytes (convert value) := by
  intro rest
  unfold readRange
  rw [StateT.run_bind, reads rest]
  change StateT.run (if low ≤ value ∧ value < high then pure (convert value)
    else Decoder.fail Exn.overflow) rest = _
  rw [if_pos ⟨above, below⟩]
  rfl

def writeToken : Token → Bytes
  | .arrayHeader count => arrayCodes.write count
  | .mapHeader count => mapCodes.write count
  | .int value => writeInteger value.toInt
  | .int32 value => 0xd2 :: bigEndian 4 (wrap 4 value.toInt)
  | .uint64 value => writeInteger value.toNat
  | .boolean value => [if value then 0xc3 else 0xc2]
  | .string value => writeString value
  | .binary value => binaryCodes.write value.length ++ value
  | .nil => [0xc0]

end MessagePackFormat

open MessagePackFormat

def messagePackFormat : MessagePack where
  write := writeToken
  readArrayHeader := readCount arrayCodes 1
  readMapHeader := readCount mapCodes 2
  readInt32 := readRange (-2 ^ 31) (2 ^ 31) Int32.ofInt
  readUInt64 := readRange 0 (2 ^ 64) fun value => UInt64.ofNat value.toNat
  readBoolean := readBoolean
  readString := readString
  readBytes := readBlock binaryCodes
  tryReadNil := tryReadNil
  skip := skip

theorem messagePackFormat_write : messagePackFormat.write = writeToken := rfl

theorem writeInteger_eq_cons (value : Int) :
    ∃ code body, writeInteger value = code :: body ∧ code ≠ 0xc0 := by
  unfold writeInteger
  split_ifs with int32 int16 int8 negative fixed
  · exact ⟨_, _, rfl, by decide⟩
  · exact ⟨_, _, rfl, by decide⟩
  · exact ⟨_, _, rfl, by decide⟩
  · refine ⟨_, _, rfl, ?_⟩
    intro same
    have code := congrArg UInt8.toNat same
    unfold wrap at code
    rw [UInt8.toNat_ofNat'] at code
    change _ = 192 at code
    omega
  · refine ⟨_, _, rfl, ?_⟩
    intro same
    have code := congrArg UInt8.toNat same
    rw [UInt8.toNat_ofNat'] at code
    change _ = 192 at code
    omega
  all_goals exact ⟨_, _, rfl, by decide⟩

theorem messagePackFormat_lawful : messagePackFormat.Lawful where
  write_ne_nil := by
    intro token
    have sized (codes : SizeCodes) (size : Nat) : codes.write size ≠ [] := by
      obtain ⟨code, header, written, -⟩ := codes.write_eq_cons size
      rw [written]
      exact List.cons_ne_nil _ _
    have integer (value : Int) : writeInteger value ≠ [] := by
      obtain ⟨code, body, written, -⟩ := writeInteger_eq_cons value
      rw [written]
      exact List.cons_ne_nil _ _
    cases token with
    | arrayHeader count => exact sized arrayCodes count
    | mapHeader count => exact sized mapCodes count
    | int value => exact integer value.toInt
    | int32 value => exact List.cons_ne_nil _ _
    | uint64 value =>
        rw [messagePackFormat_write, writeToken]
        exact integer _
    | boolean value => exact List.cons_ne_nil _ _
    | string value =>
        cases value with
        | none => exact List.cons_ne_nil _ _
        | some value => exact List.append_ne_nil_of_left_ne_nil (sized stringCodes _) _
    | binary value => exact List.append_ne_nil_of_left_ne_nil (sized binaryCodes _) _
    | nil => exact List.cons_ne_nil _ _
  readArrayHeader_write := fun count rest fits elements =>
    run_readCount arrayCodes 1 count rest fits (by omega)
  readMapHeader_write := fun count rest fits elements =>
    run_readCount mapCodes 2 count rest fits elements
  readInt32_int := by
    intro value
    have low := value.le_toInt
    have high := value.toInt_lt
    have reads := consumes_readRange Int32.ofInt
      (consumes_readInteger value.toInt low (by omega)) low high
    rw [Int32.ofInt_toInt] at reads
    exact reads
  readInt32_int32 := by
    intro value
    have low := value.le_toInt
    have high := value.toInt_lt
    have integer : readInteger.Consumes (0xd2 :: bigEndian 4 (wrap 4 value.toInt))
        value.toInt :=
      consumes_coded 0xd2 (consumes_signed 4 value.toInt (by omega) (by omega))
    have reads := consumes_readRange Int32.ofInt integer low high
    rw [Int32.ofInt_toInt] at reads
    exact reads
  readUInt64_write := by
    intro value
    have high := value.toNat_lt
    have low : (0 : Int) ≤ value.toNat := by omega
    have below : (value.toNat : Int) < 2 ^ 64 := by omega
    have reads := consumes_readRange (fun value => UInt64.ofNat value.toNat)
      (consumes_readInteger value.toNat (by omega) below) low below
    simp only [Int.toNat_natCast, UInt64.ofNat_toNat] at reads
    rw [messagePackFormat_write, writeToken]
    exact reads
  readBoolean_write := by
    intro value
    cases value with
    | false => exact fun _ => rfl
    | true => exact fun _ => rfl
  readString_write := fun value fits => consumes_readString value (by
    change (writeString value).length < 2 ^ 31 at fits
    omega)
  readBytes_write := by
    intro value fits
    refine consumes_readBlock binaryCodes value ?_
    change (binaryCodes.write value.length ++ value).length < 2 ^ 31 at fits
    rw [List.length_append] at fits
    omega
  readBytes_nil := consumes_readBlock_nil binaryCodes
  tryReadNil_nil := fun _ => rfl
  tryReadNil_int := by
    intro value rest
    obtain ⟨code, body, written, notNil⟩ := writeInteger_eq_cons value.toInt
    change tryReadNil.run (writeInteger value.toInt ++ rest) =
      .ok (false, writeInteger value.toInt ++ rest)
    rw [written]
    exact run_tryReadNil_false notNil (body ++ rest)

end AzureSignalR.Protocol
