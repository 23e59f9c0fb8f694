import AzureSignalR.Protocol.MessagePackFormat

/-!
Contract: MessagePack values as such, whoever has written them.

Owns: the grammar of the format, in the order of its bytes, and what the
protocol relies on when it passes over a value: `Skip` takes exactly one value,
and so does every read that succeeds. An integer and the header of a map are
read in whatever form their writer has chosen.

An array is its header followed by its elements, and a map its header followed
by its keys and values. The grammar therefore counts the values that are still
to come.
-/

set_option autoImplicit false

namespace AzureSignalR.Protocol

open Library

namespace MessagePackFormat

/-! ## Grammar -/

/-- The code bytes that are followed by a fixed number of bytes: floats, integers
and extensions of fixed size. -/
def fixedSizes : List (UInt8 × Nat) :=
  [(0xca, 4), (0xcb, 8), (0xcc, 1), (0xcd, 2), (0xce, 4), (0xcf, 8), (0xd0, 1), (0xd1, 2),
    (0xd2, 4), (0xd3, 8), (0xd4, 2), (0xd5, 3), (0xd6, 5), (0xd7, 9), (0xd8, 17)]

/-- The code bytes that are followed by a size of so many bytes, and by that many
bytes and so many more: byte arrays, extensions and strings. -/
def sizedCodes : List (UInt8 × Nat × Nat) :=
  [(0xc4, 1, 0), (0xc5, 2, 0), (0xc6, 4, 0), (0xc7, 1, 1), (0xc8, 2, 1), (0xc9, 4, 1),
    (0xd9, 1, 0), (0xda, 2, 0), (0xdb, 4, 0)]

/-- The code bytes that are followed by a count of so many bytes, and by so many
values for each: arrays and maps. -/
def countedCodes : List (UInt8 × Nat × Nat) :=
  [(0xdc, 2, 1), (0xdd, 4, 1), (0xde, 2, 2), (0xdf, 4, 2)]

/-- The bytes of a value without its elements, and the number of its elements. -/
inductive Shell : Bytes → Nat → Prop where
  | fixint (code : UInt8) (small : code.toNat < 0x80 ∨ 0xe0 ≤ code.toNat) : Shell [code] 0
  | fixmap (code : UInt8) (low : 0x80 ≤ code.toNat) (high : code.toNat < 0x90) :
      Shell [code] (2 * (code.toNat - 0x80))
  | fixarray (code : UInt8) (low : 0x90 ≤ code.toNat) (high : code.toNat < 0xa0) :
      Shell [code] (code.toNat - 0x90)
  | fixstr (code : UInt8) (payload : Bytes) (low : 0xa0 ≤ code.toNat)
      (high : code.toNat < 0xc0) (length : payload.length = code.toNat - 0xa0) :
      Shell (code :: payload) 0
  | constant (code : UInt8) (listed : code ∈ [(0xc0 : UInt8), 0xc2, 0xc3]) : Shell [code] 0
  | fixed (code : UInt8) (payload : Bytes) (listed : (code, payload.length) ∈ fixedSizes) :
      Shell (code :: payload) 0
  | sized (code : UInt8) (width extra : Nat) (listed : (code, width, extra) ∈ sizedCodes)
      (size payload : Bytes) (width_eq : size.length = width)
      (length : payload.length = ofBigEndian size + extra) :
      Shell (code :: (size ++ payload)) 0
  | counted (code : UInt8) (width factor : Nat)
      (listed : (code, width, factor) ∈ countedCodes) (size : Bytes)
      (width_eq : size.length = width) : Shell (code :: size) (factor * ofBigEndian size)

/-- So many values, one behind the other. -/
inductive Values : Nat → Bytes → Prop where
  | nil : Values 0 []
  | cons {pending nested : Nat} {shell rest : Bytes} (head : Shell shell nested)
      (tail : Values (pending + nested) rest) : Values (pending + 1) (shell ++ rest)

end MessagePackFormat

/-- The bytes of one MessagePack value. -/
def WellFormed (bytes : Bytes) : Prop := MessagePackFormat.Values 1 bytes

/-- The value is one of an `int`. -/
def FitsInt32 (value : Int) : Prop := -2 ^ 31 ≤ value ∧ value < 2 ^ 31

instance (value : Int) : Decidable (FitsInt32 value) := inferInstanceAs (Decidable (_ ∧ _))

/-! ## Passing over values -/

/-- What the protocol relies on when it passes over a value. -/
structure MessagePack.Skips (mp : MessagePack) : Prop where
  skip_value : ∀ value, WellFormed value → value.length < 2 ^ 31 →
    mp.skip.Consumes value ()
  skip_nil : ∃ error, mp.skip.run [] = .error error
  skip_readInt32 : ∀ {stream value rest}, mp.readInt32.run stream = .ok (value, rest) →
    mp.skip.run stream = .ok ((), rest)
  skip_readUInt64 : ∀ {stream value rest}, mp.readUInt64.run stream = .ok (value, rest) →
    mp.skip.run stream = .ok ((), rest)
  skip_readString : ∀ {stream value rest}, mp.readString.run stream = .ok (value, rest) →
    mp.skip.run stream = .ok ((), rest)
  skip_readBoolean : ∀ {stream value rest}, mp.readBoolean.run stream = .ok (value, rest) →
    mp.skip.run stream = .ok ((), rest)

/-! ## Forms that another writer has chosen -/

open MessagePackFormat in
/-- What the protocol relies on when it reads a key or the header of a map. -/
structure MessagePack.ReadsForms (mp : MessagePack) : Prop where
  readInt32_integer : ∀ {value bytes}, IntegerBytes value bytes → FitsInt32 value →
    mp.readInt32.Consumes bytes (Int32.ofInt value)
  readInt32_overflow : ∀ {value bytes}, IntegerBytes value bytes → ¬ FitsInt32 value →
    ∀ rest, ∃ error, mp.readInt32.run (bytes ++ rest) = .error error
  readMapHeader_header : ∀ {count header}, SizeBytes mapCodes count header →
    ∀ rest, 2 * count ≤ rest.length → mp.readMapHeader.run (header ++ rest) = .ok (count, rest)

namespace MessagePackFormat

theorem Shell.ne_nil {shell : Bytes} {nested : Nat} (isShell : Shell shell nested) :
    shell ≠ [] := by
  cases isShell with
  | fixint | fixmap | fixarray | fixstr | constant | fixed | sized | counted =>
      exact List.cons_ne_nil _ _

/-- The bytes of a size, whatever its format. -/
theorem consumes_size {width : Nat} {size : Bytes} (width_eq : size.length = width) :
    (unsigned width).Consumes size (ofBigEndian size) := by
  have reads := (Decoder.Consumes.exactly (.endOfStream : Exn) size).map ofBigEndian
  rw [width_eq] at reads
  exact reads

theorem consumes_drop {count : Nat} {payload : Bytes} (length : payload.length = count) :
    ((fun _ => 0) <$> Decoder.exactly Exn.endOfStream count : Reader Nat).Consumes payload 0 := by
  have reads := (Decoder.Consumes.exactly (.endOfStream : Exn) payload).map fun _ => 0
  rw [length] at reads
  exact reads

theorem body_fixed (codes : SizeCodes) {code : UInt8} (low : codes.fixed ≤ code.toNat)
    (high : code.toNat < codes.fixed + codes.fixedCount) :
    codes.body code = pure (code.toNat - codes.fixed) := by
  rw [SizeCodes.body, if_pos ⟨low, high⟩]

/-- A size, then that many bytes and so many more. -/
theorem consumes_sized {width extra : Nat} {size payload : Bytes}
    (width_eq : size.length = width) (length : payload.length = ofBigEndian size + extra) :
    (unsigned width >>= fun count =>
      (fun _ => 0) <$> Decoder.exactly Exn.endOfStream (count + extra) : Reader Nat).Consumes
        (size ++ payload) 0 :=
  (consumes_size width_eq).bind (consumes_drop length)

theorem consumes_skipOne {shell : Bytes} {nested : Nat} (isShell : Shell shell nested) :
    skipOne.Consumes shell nested := by
  cases isShell with
  | fixint code small =>
      refine consumes_coded code ?_
      rw [if_pos small]
      exact .pure_nil 0
  | fixmap code low high =>
      refine consumes_coded code ?_
      rw [if_neg (by omega), if_pos high, body_fixed mapCodes low high]
      exact (Decoder.Consumes.pure_nil _).map _
  | fixarray code low high =>
      refine consumes_coded code ?_
      rw [if_neg (by omega), if_neg (by omega), if_pos high, body_fixed arrayCodes low high]
      exact .pure_nil _
  | fixstr code payload low high length =>
      refine consumes_coded code ?_
      rw [if_neg (by omega), if_neg (by omega), if_neg (by omega), if_pos high,
        body_fixed stringCodes low high]
      exact (Decoder.Consumes.pure_nil _).bind (consumes_drop length)
  | constant code listed =>
      simp only [List.mem_cons, List.not_mem_nil, or_false] at listed
      rcases listed with rfl | rfl | rfl
      all_goals exact consumes_coded _ (.pure_nil 0)
  | fixed code payload listed =>
      simp only [fixedSizes, List.mem_cons, List.not_mem_nil, or_false, Prod.mk.injEq] at listed
      rcases listed with ⟨rfl, length⟩ | ⟨rfl, length⟩ | ⟨rfl, length⟩ | ⟨rfl, length⟩ |
        ⟨rfl, length⟩ | ⟨rfl, length⟩ | ⟨rfl, length⟩ | ⟨rfl, length⟩ | ⟨rfl, length⟩ |
        ⟨rfl, length⟩ | ⟨rfl, length⟩ | ⟨rfl, length⟩ | ⟨rfl, length⟩ | ⟨rfl, length⟩ |
        ⟨rfl, length⟩
      all_goals exact consumes_coded _ (consumes_drop length)
  | sized code width extra listed size payload width_eq length =>
      simp only [sizedCodes, List.mem_cons, List.not_mem_nil, or_false, Prod.mk.injEq] at listed
      rcases listed with ⟨rfl, rfl, rfl⟩ | ⟨rfl, rfl, rfl⟩ | ⟨rfl, rfl, rfl⟩ |
        ⟨rfl, rfl, rfl⟩ | ⟨rfl, rfl, rfl⟩ | ⟨rfl, rfl, rfl⟩ | ⟨rfl, rfl, rfl⟩ |
        ⟨rfl, rfl, rfl⟩ | ⟨rfl, rfl, rfl⟩
      all_goals exact consumes_coded _ (consumes_sized width_eq length)
  | counted code width factor listed size width_eq =>
      simp only [countedCodes, List.mem_cons, List.not_mem_nil, or_false, Prod.mk.injEq]
        at listed
      rcases listed with ⟨rfl, rfl, rfl⟩ | ⟨rfl, rfl, rfl⟩ | ⟨rfl, rfl, rfl⟩ |
        ⟨rfl, rfl, rfl⟩
      · rw [Nat.one_mul]
        exact consumes_coded _ (consumes_size width_eq)
      · rw [Nat.one_mul]
        exact consumes_coded _ (consumes_size width_eq)
      · exact consumes_coded _ ((consumes_size width_eq).map _)
      · exact consumes_coded _ ((consumes_size width_eq).map _)

theorem run_skipValues {pending : Nat} {values : Bytes} (areValues : Values pending values) :
    ∀ (bound : Nat) (rest : Bytes), values.length ≤ bound →
      (skipValues bound pending).run (values ++ rest) = .ok ((), rest) := by
  induction areValues with
  | nil =>
      intro bound rest _
      cases bound with
      | zero => rfl
      | succ bound => rfl
  | cons head tail inductionHypothesis =>
      rename_i pending nested shell values
      intro bound rest enough
      have taken : 0 < shell.length := List.length_pos_iff.mpr head.ne_nil
      rw [List.length_append] at enough
      cases bound with
      | zero => omega
      | succ bound =>
          rw [skipValues, StateT.run_bind, List.append_assoc, consumes_skipOne head]
          exact inductionHypothesis bound rest (by omega)

theorem consumes_skip {value : Bytes} (wellFormed : WellFormed value) :
    skip.Consumes value () := by
  intro rest
  apply run_skipValues wellFormed
  rw [List.length_append]
  omega

/-- A value without elements. -/
theorem run_skip {stream rest : Bytes} (skipped : skipOne.run stream = .ok (0, rest)) :
    skip.run stream = .ok ((), rest) := by
  cases stream with
  | nil => cases skipped
  | cons code stream =>
      change (skipValues (stream.length + 1) 1).run (code :: stream) = _
      rw [skipValues, StateT.run_bind, skipped]
      change (skipValues stream.length 0).run rest = _
      cases stream.length with
      | zero => rfl
      | succ bound => rfl

/-! ## Integers -/

theorem wellFormed_of_shell {shell : Bytes} (isShell : Shell shell 0) : WellFormed shell := by
  have values : Values 1 (shell ++ []) := .cons isShell .nil
  rw [List.append_nil] at values
  exact values

theorem IntegerBytes.wellFormed {value : Int} {bytes : Bytes}
    (isInteger : IntegerBytes value bytes) : WellFormed bytes := by
  apply wellFormed_of_shell
  cases isInteger with
  | positive value fits =>
      refine .fixint _ (.inl ?_)
      rw [UInt8.toNat_ofNat']
      omega
  | negative value low high =>
      refine .fixint _ (.inr ?_)
      rw [UInt8.toNat_ofNat']
      unfold wrap
      omega
  | unsigned code width value listed fits =>
      refine .fixed _ _ ?_
      rw [length_bigEndian]
      simp only [List.mem_cons, Prod.mk.injEq, List.not_mem_nil, or_false] at listed
      rcases listed with ⟨rfl, rfl⟩ | ⟨rfl, rfl⟩ | ⟨rfl, rfl⟩ | ⟨rfl, rfl⟩
      all_goals decide
  | signed code width value listed low high =>
      refine .fixed _ _ ?_
      rw [length_bigEndian]
      simp only [List.mem_cons, Prod.mk.injEq, List.not_mem_nil, or_false] at listed
      rcases listed with ⟨rfl, rfl⟩ | ⟨rfl, rfl⟩ | ⟨rfl, rfl⟩ | ⟨rfl, rfl⟩
      all_goals decide

theorem IntegerBytes.length_le {value : Int} {bytes : Bytes}
    (isInteger : IntegerBytes value bytes) : bytes.length ≤ 9 := by
  cases isInteger with
  | positive | negative => exact Nat.le_of_ble_eq_true rfl
  | unsigned code width value listed fits =>
      rw [List.length_cons, length_bigEndian]
      simp only [List.mem_cons, Prod.mk.injEq, List.not_mem_nil, or_false] at listed
      omega
  | signed code width value listed low high =>
      rw [List.length_cons, length_bigEndian]
      simp only [List.mem_cons, Prod.mk.injEq, List.not_mem_nil, or_false] at listed
      omega

theorem run_readRange_overflow {α : Type} {low high : Int} {convert : Int → α} {value : Int}
    {bytes : Bytes} (isInteger : IntegerBytes value bytes)
    (outside : ¬ (low ≤ value ∧ value < high)) (rest : Bytes) :
    (readRange low high convert).run (bytes ++ rest) = .error .overflow := by
  unfold readRange
  rw [StateT.run_bind, consumes_integer isInteger rest]
  change StateT.run (if low ≤ value ∧ value < high then pure (convert value)
    else Decoder.fail Exn.overflow) rest = _
  rw [if_neg outside]
  rfl

/-! ## Reads that take one value -/

theorem run_of_run_map {α β : Type} {reader : Reader α} {function : α → β} {stream rest : Bytes}
    {result : β} (ran : (function <$> reader).run stream = .ok (result, rest)) :
    ∃ value, reader.run stream = .ok (value, rest) := by
  rw [StateT.run_map] at ran
  cases read : reader.run stream with
  | error error =>
      rw [read] at ran
      cases ran
  | ok pair =>
      rw [read] at ran
      cases ran
      exact ⟨pair.1, rfl⟩

theorem run_of_run_bind {α β : Type} {reader : Reader α} {next : α → Reader β}
    {stream rest : Bytes} {result : β}
    (ran : (reader >>= next).run stream = .ok (result, rest)) :
    ∃ value middle, reader.run stream = .ok (value, middle) ∧
      (next value).run middle = .ok (result, rest) := by
  rw [StateT.run_bind] at ran
  cases read : reader.run stream with
  | error error =>
      rw [read] at ran
      cases ran
  | ok pair =>
      rw [read] at ran
      exact ⟨pair.1, pair.2, rfl, ran⟩

theorem run_drop {α : Type} {count : Nat} {function : Bytes → α} {stream rest : Bytes} {value : α}
    (ran : (function <$> Decoder.exactly Exn.endOfStream count).run stream = .ok (value, rest)) :
    ((fun _ => 0) <$> Decoder.exactly Exn.endOfStream count : Reader Nat).run stream =
      .ok (0, rest) := by
  obtain ⟨bytes, read⟩ := run_of_run_map ran
  rw [StateT.run_map, read]
  rfl

theorem run_skipOne_integer {code : UInt8} {stream rest : Bytes} {value : Int}
    (ran : (integerBody code).run stream = .ok (value, rest)) :
    skipOne.run (code :: stream) = .ok (0, rest) := by
  have unsignedDrop : ∀ {width : Nat} {α : Type} {function : Nat → α} {result : α},
      (function <$> unsigned width).run stream = .ok (result, rest) →
        ((fun _ => 0) <$> Decoder.exactly Exn.endOfStream width : Reader Nat).run stream =
          .ok (0, rest) := by
    intro width α function result read
    obtain ⟨number, counted⟩ := run_of_run_map read
    exact run_drop counted
  unfold integerBody at ran
  split_ifs at ran with small large
  · cases ran
    change StateT.run (if code.toNat < 0x80 ∨ 0xe0 ≤ code.toNat then pure 0 else _) stream = _
    rw [if_pos (.inl small)]
    rfl
  · cases ran
    change StateT.run (if code.toNat < 0x80 ∨ 0xe0 ≤ code.toNat then pure 0 else _) stream = _
    rw [if_pos (.inr large)]
    rfl
  · split at ran
    · exact unsignedDrop ran
    · exact unsignedDrop ran
    · exact unsignedDrop ran
    · exact unsignedDrop ran
    · exact unsignedDrop ran
    · exact unsignedDrop ran
    · exact unsignedDrop ran
    · exact unsignedDrop ran
    · cases ran

theorem skip_of_readInteger {stream rest : Bytes} {value : Int}
    (ran : readInteger.run stream = .ok (value, rest)) : skip.run stream = .ok ((), rest) := by
  cases stream with
  | nil => cases ran
  | cons code stream => exact run_skip (run_skipOne_integer ran)

theorem skip_of_readRange {α : Type} {low high : Int} {convert : Int → α} {stream rest : Bytes}
    {value : α} (ran : (readRange low high convert).run stream = .ok (value, rest)) :
    skip.run stream = .ok ((), rest) := by
  obtain ⟨number, middle, read, converted⟩ := run_of_run_bind ran
  split_ifs at converted
  · cases converted
    exact skip_of_readInteger read
  · cases converted

/-- Nil, or a string. -/
theorem run_skipOne_string {stream rest : Bytes} {value : Option Bytes}
    (ran : (readBlock stringCodes).run stream = .ok (value, rest)) :
    skipOne.run stream = .ok (0, rest) := by
  cases stream with
  | nil => cases ran
  | cons code stream =>
      by_cases isNil : code = 0xc0
      · rw [isNil] at ran ⊢
        cases ran
        rfl
      · rw [readBlock, StateT.run_bind, run_tryReadNil_false isNil] at ran
        obtain ⟨block, read⟩ := run_of_run_map ran
        obtain ⟨size, middle, header, body⟩ := run_of_run_bind read
        have dropped : (stringCodes.body code >>= fun size =>
            (fun _ => 0) <$> Decoder.exactly Exn.endOfStream size : Reader Nat).run stream =
              .ok (0, rest) := by
          have sized : (stringCodes.body code).run stream = .ok (size, middle) := header
          rw [StateT.run_bind, sized]
          change StateT.run ((fun _ => 0) <$> Decoder.exactly Exn.endOfStream size) middle = _
          rw [StateT.run_map, body]
          rfl
        have sized : (stringCodes.body code).run stream = .ok (size, middle) := header
        rw [SizeCodes.body] at sized
        split_ifs at sized with isFixed isShort isMedium isLong
        · change StateT.run (if code.toNat < 0x80 ∨ 0xe0 ≤ code.toNat then _
            else if code.toNat < 0x90 then _ else if code.toNat < 0xa0 then _
            else if code.toNat < 0xc0 then _ else _) stream = _
          have low : 0xa0 ≤ code.toNat := isFixed.1
          have high : code.toNat < 0xc0 := isFixed.2
          rw [if_neg (by omega), if_neg (by omega), if_neg (by omega), if_pos high]
          exact dropped
        · have isCode : code = 0xd9 := (Option.some.inj isShort).symm
          rw [isCode] at dropped ⊢
          exact dropped
        · rw [isMedium] at dropped ⊢
          exact dropped
        · rw [isLong] at dropped ⊢
          exact dropped
        · cases sized

theorem skip_of_readString {stream rest : Bytes} {value : Option String}
    (ran : readString.run stream = .ok (value, rest)) : skip.run stream = .ok ((), rest) := by
  obtain ⟨block, middle, read, converted⟩ := run_of_run_bind ran
  have same : middle = rest := by
    cases block with
    | none =>
        cases converted
        rfl
    | some block =>
        dsimp only at converted
        split at converted
        · cases converted
          rfl
        · cases converted
  rw [← same]
  exact run_skip (run_skipOne_string read)

theorem skip_of_readBoolean {stream rest : Bytes} {value : Bool}
    (ran : readBoolean.run stream = .ok (value, rest)) : skip.run stream = .ok ((), rest) := by
  cases stream with
  | nil => cases ran
  | cons code stream =>
      obtain ⟨read, middle, header, body⟩ := run_of_run_bind ran
      cases header
      split at body
      · cases body
        exact run_skip rfl
      · cases body
        exact run_skip rfl
      · cases body

end MessagePackFormat

open MessagePackFormat

theorem messagePackFormat_skips : messagePackFormat.Skips where
  skip_value _ wellFormed _ := consumes_skip wellFormed
  skip_nil := ⟨_, rfl⟩
  skip_readInt32 := skip_of_readRange
  skip_readUInt64 := skip_of_readRange
  skip_readString := skip_of_readString
  skip_readBoolean := skip_of_readBoolean

theorem messagePackFormat_readsForms : messagePackFormat.ReadsForms where
  readInt32_integer isInteger fits :=
    consumes_readRange Int32.ofInt (consumes_integer isInteger) fits.1 fits.2
  readInt32_overflow isInteger outside rest :=
    ⟨_, run_readRange_overflow isInteger outside rest⟩
  readMapHeader_header isHeader _ enough := isHeader.run_readCount enough

end AzureSignalR.Protocol
