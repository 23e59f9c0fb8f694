import AzureSignalR.Library.Decoder

/-!
Contract: arrays whose trailing members may be left out.

Owns: layouts, the decoder that looks at the item count before each optional
member, and the lists of items that stand for a value: complete, cut inside the
optional members, or with more items behind them.

Does not own: how the item count reaches the decoder.
-/

set_option autoImplicit false

namespace AzureSignalR.Library

/-- The members of an array, in order. A member with a value for its absence is
optional; what a member is may depend on the ones before it. -/
inductive Layout (σ ε α : Type) : Type 1 where
  | done (outcome : Except ε α)
  | member {β : Type} (decoder : Decoder σ ε β) (absent : Option β) (next : β → Layout σ ε α)

namespace Layout

variable {σ ε α : Type}

/-- A member that is always there. -/
def required {β : Type} (decoder : Decoder σ ε β) (next : β → Layout σ ε α) : Layout σ ε α :=
  .member decoder none next

/-- A member that may be cut off. -/
def optional {β : Type} (decoder : Decoder σ ε β) (absent : β) (next : β → Layout σ ε α) :
    Layout σ ε α :=
  .member decoder (some absent) next

def map {γ : Type} (function : α → γ) : Layout σ ε α → Layout σ ε γ
  | done outcome => .done (outcome.map function)
  | member decoder absent next => .member decoder absent fun value => (next value).map function

/-- Decode an array of `count` items from the item `index` on. -/
def decoder (count : Nat) : Layout σ ε α → Nat → Decoder σ ε α
  | done (.ok value), _ => pure value
  | done (.error error), _ => Decoder.fail error
  | member decoder none next, index => do
      let value ← decoder
      (next value).decoder count (index + 1)
  | member decoder (some absent) next, index => do
      let value ← Decoder.guarded (index + 1 ≤ count) decoder absent
      (next value).decoder count (index + 1)

theorem decoder_map {γ : Type} (function : α → γ) (layout : Layout σ ε α)
    (count index : Nat) :
    (layout.map function).decoder count index = function <$> layout.decoder count index := by
  induction layout generalizing index with
  | done outcome =>
      cases outcome with
      | ok value => rfl
      | error error => rfl
  | member decoder absent next inductionHypothesis =>
      cases absent with
      | none => simp only [map, Layout.decoder, inductionHypothesis, map_bind]
      | some absent => simp only [map, Layout.decoder, inductionHypothesis, map_bind]

/-- The items are the members from the first on, and the optional ones that are
cut off have the value of their absence. More items may follow the last member. -/
inductive Encodes : Layout σ ε α → List (List σ) → α → Prop where
  | done (value : α) (extra : List (List σ)) : Encodes (.done (.ok value)) extra value
  | member {β : Type} {decoder : Decoder σ ε β} {absent : Option β} {next : β → Layout σ ε α}
      {item : List σ} {items : List (List σ)} {value : β} {result : α}
      (here : decoder.Consumes item value) (later : Encodes (next value) items result) :
      Encodes (.member decoder absent next) (item :: items) result
  | cut {β : Type} {decoder : Decoder σ ε β} {absent : β} {next : β → Layout σ ε α} {result : α}
      (later : Encodes (next absent) [] result) :
      Encodes (.member decoder (some absent) next) [] result

/-- The items are exactly the members. -/
inductive EncodesWhole : Layout σ ε α → List (List σ) → α → Prop where
  | done (value : α) : EncodesWhole (.done (.ok value)) [] value
  | member {β : Type} {decoder : Decoder σ ε β} {absent : Option β} {next : β → Layout σ ε α}
      {item : List σ} {items : List (List σ)} {value : β} {result : α}
      (here : decoder.Consumes item value) (later : EncodesWhole (next value) items result) :
      EncodesWhole (.member decoder absent next) (item :: items) result

theorem EncodesWhole.append {layout : Layout σ ε α} {items : List (List σ)} {result : α}
    (whole : layout.EncodesWhole items result) (extra : List (List σ)) :
    layout.Encodes (items ++ extra) result := by
  induction whole with
  | done value => exact .done value extra
  | member here _ inductionHypothesis => exact .member here inductionHypothesis

/-- The decoder is right about every such list of items. Behind the last item the
index runs on, so the items still to come are given by a truncated difference. -/
theorem Encodes.run_decoder {layout : Layout σ ε α} {items : List (List σ)} {result : α}
    (encodes : layout.Encodes items result) {count index : Nat}
    (left : items.length = count - index) :
    ∃ unread, (layout.decoder count index).run items.flatten = .ok (result, unread) := by
  induction encodes generalizing index with
  | done value extra => exact ⟨extra.flatten, rfl⟩
  | @member β decoder absent next item items value result here later inductionHypothesis =>
      rw [List.length_cons] at left
      obtain ⟨unread, ran⟩ := inductionHypothesis (by omega : _ = count - (index + 1))
      refine ⟨unread, ?_⟩
      have taken : (decoder >>= fun value => (next value).decoder count (index + 1)).run
          (item :: items).flatten = .ok (result, unread) := by
        rw [List.flatten_cons, StateT.run_bind, here]
        exact ran
      cases absent with
      | none => exact taken
      | some absent =>
          rw [Layout.decoder, Decoder.guarded, if_pos (decide_eq_true (by omega))]
          exact taken
  | @cut β decoder absent next result later inductionHypothesis =>
      obtain ⟨unread, ran⟩ := inductionHypothesis
        (by rw [List.length_nil] at left ⊢; omega : _ = count - (index + 1))
      refine ⟨unread, ?_⟩
      have none : ¬ index + 1 ≤ count := by
        rw [List.length_nil] at left
        omega
      rw [Layout.decoder, Decoder.guarded, if_neg (by simp [none]), pure_bind]
      exact ran

/-! ## Inversion -/

theorem Encodes.of_done {value result : α} {items : List (List σ)}
    (encodes : (Layout.done (.ok value) : Layout σ ε α).Encodes items result) : result = value := by
  cases encodes
  rfl

theorem Encodes.of_cons {β : Type} {decoder : Decoder σ ε β} {absent : Option β}
    {next : β → Layout σ ε α} {item : List σ} {items : List (List σ)} {result : α}
    (encodes : (Layout.member decoder absent next).Encodes (item :: items) result) :
    ∃ value, decoder.Consumes item value ∧ (next value).Encodes items result := by
  cases encodes with
  | member here later => exact ⟨_, here, later⟩

theorem Encodes.of_nil {β : Type} {decoder : Decoder σ ε β} {absent : β}
    {next : β → Layout σ ε α} {result : α}
    (encodes : (Layout.member decoder (some absent) next).Encodes [] result) :
    (next absent).Encodes [] result := by
  cases encodes with
  | cut later => exact later

/-! ## Numbers of members -/

/-- The layout has so many required members in front. -/
def Requires (count : Nat) (layout : Layout σ ε α) : Prop :=
  ∀ items result, layout.Encodes items result → count ≤ items.length

theorem requires_zero (layout : Layout σ ε α) : layout.Requires 0 :=
  fun _ _ _ => Nat.zero_le _

theorem requires_succ {β : Type} {count : Nat} {decoder : Decoder σ ε β}
    {next : β → Layout σ ε α} (later : ∀ value, (next value).Requires count) :
    (member decoder none next).Requires (count + 1) := by
  intro items result encodes
  cases encodes with
  | member here encodes => exact Nat.succ_le_succ (later _ _ _ encodes)

/-- The layout has at least so many members. -/
def HasMembers (count : Nat) (layout : Layout σ ε α) : Prop :=
  ∀ items result, layout.EncodesWhole items result → count ≤ items.length

theorem hasMembers_zero (layout : Layout σ ε α) : layout.HasMembers 0 :=
  fun _ _ _ => Nat.zero_le _

theorem hasMembers_succ {β : Type} {count : Nat} {decoder : Decoder σ ε β}
    {absent : Option β} {next : β → Layout σ ε α}
    (later : ∀ value, (next value).HasMembers count) :
    (member decoder absent next).HasMembers (count + 1) := by
  intro items result whole
  cases whole with
  | member here whole => exact Nat.succ_le_succ (later _ _ _ whole)

end Layout

end AzureSignalR.Library
