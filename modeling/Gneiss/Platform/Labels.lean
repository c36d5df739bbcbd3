import Gneiss.Library.Checked
import Gneiss.Platform.Packet

/-!
The strings that become session labels. `Gneiss_Internal.Client` and `Gneiss.Broker.Message` write
the conversion out wherever they send a packet: `Last` is computed from an attribute of the string
and the characters are assigned to the slice up to `Last`. A check that fails is `none`.
-/

namespace Gneiss

open Checked

def integerType : Range := ⟨-2147483648, 2147483647⟩

def naturalType : Range := ⟨0, 2147483647⟩

/-- A `String` with its bounds. The bounds of an empty one need not be indices. -/
structure AdaString where
  first : Int
  last : Int
  characters : Text
  sized : (characters.length : Int) = if last < first then 0 else last - first + 1
  index : first ≤ last → 1 ≤ first
  bounded : integerType.first ≤ last ∧ last ≤ integerType.last ∧ first ≤ integerType.last

theorem length_padded (text : Text) (short : text.length ≤ 255) :
    (text ++ List.replicate (255 - text.length) 0).length = 255 := by
  rw [List.length_append, List.length_replicate]
  omega

def paddedLabel (text : Text) (short : text.length ≤ 255) : SessionLabel where
  last := text.length
  value := text ++ List.replicate (255 - text.length) 0
  sized := length_padded text short
  fits := short

/-- `S.Last := S.Value'First + Upper - 1` and `S.Value (S.Value'First .. S.Last) := Text`. -/
def assignLabel (upper : Int) (text : AdaString) : Option SessionLabel := do
  let sum ← integerType.check (1 + upper)
  let difference ← integerType.check (sum - 1)
  let last ← naturalType.check difference
  -- The slice must lie in Value and be as long as the string.
  if short : last ≤ 255 ∧ last = text.characters.length then
    some (paddedLabel text.characters (Int.ofNat_le.mp (short.2 ▸ short.1)))
  else none

def byLength (text : AdaString) : Option SessionLabel := assignLabel text.characters.length text

def byLast (text : AdaString) : Option SessionLabel := assignLabel text.last text

namespace Client

def initializeLabels (label : AdaString) : Option (SessionLabel × SessionLabel) := do
  let lbl ← byLength label
  some (.empty, lbl)

def confirm (name label : AdaString) : Option (SessionLabel × SessionLabel) := do
  let sName ← byLength name
  let sLabel ← byLast label
  some (sName, sLabel)

def reject (name label : AdaString) : Option (SessionLabel × SessionLabel) := do
  let sName ← byLength name
  let sLabel ← byLast label
  some (sName, sLabel)

end Client

def sendRequestLabels (name label : AdaString) : Option (SessionLabel × SessionLabel) := do
  let sName ← byLength name
  let sLabel ← byLength label
  some (sName, sLabel)

def sendConfirmLabels (label : AdaString) : Option (SessionLabel × SessionLabel) := do
  let sLabel ← byLength label
  some (.empty, sLabel)

def sendRejectLabels (label : AdaString) : Option (SessionLabel × SessionLabel) := do
  let sLabel ← byLength label
  some (.empty, sLabel)

/-- The places that pass labels to `Packet.Send`. -/
inductive LabelBuilder where
  | clientInitialize
  | clientConfirm
  | clientReject
  | sendRequest
  | sendConfirm
  | sendReject
  deriving DecidableEq, Repr

namespace LabelBuilder

def labels (builder : LabelBuilder) (name label : AdaString) :
    Option (SessionLabel × SessionLabel) :=
  match builder with
  | .clientInitialize => Client.initializeLabels label
  | .clientConfirm => Client.confirm name label
  | .clientReject => Client.reject name label
  | .sendRequest => sendRequestLabels name label
  | .sendConfirm => sendConfirmLabels label
  | .sendReject => sendRejectLabels label

def takesName : LabelBuilder → Bool
  | .clientConfirm | .clientReject | .sendRequest => true
  | _ => false

end LabelBuilder

structure Holds (sent : SessionLabel) (text : AdaString) : Prop where
  last : sent.last = text.characters.length
  text : sent.text = text.characters

def Transmits (builder : LabelBuilder) (name label : AdaString) : Prop :=
  ∃ sentName sentLabel, builder.labels name label = some (sentName, sentLabel) ∧
    Holds sentLabel label ∧
    if builder.takesName then Holds sentName name else sentName = .empty

theorem assignLabel_holds (upper : Int) (text : AdaString) (sent : SessionLabel)
    (assigned : assignLabel upper text = some sent) :
    upper = text.characters.length ∧ Holds sent text := by
  unfold assignLabel at assigned
  simp only [Option.bind_eq_bind, Option.bind_eq_some_iff, Range.check_eq_some_iff] at assigned
  obtain ⟨sum, ⟨_, rfl⟩, difference, ⟨_, rfl⟩, last, ⟨_, rfl⟩, rest⟩ := assigned
  split at rest
  · rename_i short
    rw [Option.some.injEq] at rest
    subst rest
    refine ⟨by omega, rfl, ?_⟩
    exact List.take_left
  · cases rest

theorem integerType_check (value : Int) (lower : -2147483648 ≤ value)
    (upper : value ≤ 2147483647) : integerType.check value = some value :=
  integerType.check_of_mem value lower upper

theorem naturalType_check (value : Int) (lower : 0 ≤ value) (upper : value ≤ 2147483647) :
    naturalType.check value = some value :=
  naturalType.check_of_mem value lower upper

theorem assignLabel_length (text : AdaString) (short : text.characters.length ≤ 255) :
    ∃ sent, assignLabel text.characters.length text = some sent ∧ Holds sent text := by
  have sum := integerType_check (1 + text.characters.length) (by omega) (by omega)
  have difference := integerType_check (1 + text.characters.length - 1) (by omega) (by omega)
  have last := naturalType_check (1 + text.characters.length - 1) (by omega) (by omega)
  have fits : (1 + text.characters.length - 1 : Int) ≤ 255 ∧
      (1 + text.characters.length - 1 : Int) = text.characters.length := by omega
  refine ⟨paddedLabel text.characters short, ?_, rfl, List.take_left⟩
  unfold assignLabel
  simp only [sum, difference, last, Option.bind_eq_bind, Option.bind_some]
  exact dif_pos fits

theorem byLength_holds (text : AdaString) (short : text.characters.length ≤ 255) :
    ∃ sent, byLength text = some sent ∧ Holds sent text :=
  assignLabel_length text short

/-- `Text'Last` is the length of the string only when the string starts at 1. -/
theorem byLast_holds_iff (text : AdaString) (short : text.characters.length ≤ 255) :
    (∃ sent, byLast text = some sent ∧ Holds sent text) ↔
      text.last = text.characters.length := by
  constructor
  · rintro ⟨sent, assigned, _⟩
    exact (assignLabel_holds text.last text sent assigned).1
  · intro same
    unfold byLast
    rw [same]
    exact assignLabel_length text short

theorem pair_transmits_iff (first second : Option SessionLabel) (builder : LabelBuilder)
    (name label : AdaString)
    (pair : builder.labels name label = first.bind fun sentName =>
      second.bind fun sentLabel => some (sentName, sentLabel)) :
    Transmits builder name label ↔
      (∃ sent, second = some sent ∧ Holds sent label) ∧
        ∃ sent, first = some sent ∧
          if builder.takesName then Holds sent name else sent = .empty := by
  unfold Transmits
  rw [pair]
  constructor
  · rintro ⟨sentName, sentLabel, sent, held, named⟩
    simp only [Option.bind_eq_some_iff, Option.some.injEq, Prod.mk.injEq] at sent
    obtain ⟨_, foundName, _, foundLabel, rfl, rfl⟩ := sent
    exact ⟨⟨_, foundLabel, held⟩, _, foundName, named⟩
  · rintro ⟨⟨sentLabel, rfl, held⟩, sentName, rfl, named⟩
    exact ⟨sentName, sentLabel, rfl, held, named⟩

theorem byLength_transmits (first : Option SessionLabel) (builder : LabelBuilder)
    (name label : AdaString) (labelShort : label.characters.length ≤ 255)
    (pair : builder.labels name label = first.bind fun sentName =>
      (byLength label).bind fun sentLabel => some (sentName, sentLabel))
    (named : ∃ sent, first = some sent ∧
      if builder.takesName then Holds sent name else sent = .empty) :
    Transmits builder name label :=
  (pair_transmits_iff first (byLength label) builder name label pair).mpr
    ⟨byLength_holds label labelShort, named⟩

/-- Each builder hands `Packet.Send` the strings it was given, but for the two that compute the end
of the label from `Label'Last`. -/
theorem label_builders_iff (builder : LabelBuilder) (name label : AdaString)
    (nameShort : name.characters.length ≤ 255) (labelShort : label.characters.length ≤ 255) :
    Transmits builder name label ↔
      (builder = .clientConfirm ∨ builder = .clientReject →
        label.last = label.characters.length) := by
  have unnamed : ∃ sent, some SessionLabel.empty = some sent ∧ sent = .empty := ⟨_, rfl, rfl⟩
  cases builder with
  | clientInitialize =>
    exact iff_of_true (byLength_transmits _ .clientInitialize name label labelShort rfl unnamed)
      (by simp)
  | clientConfirm =>
    rw [pair_transmits_iff (byLength name) (byLast label) .clientConfirm name label rfl,
      byLast_holds_iff label labelShort]
    exact ⟨fun both _ => both.1, fun same => ⟨same (.inl rfl), byLength_holds name nameShort⟩⟩
  | clientReject =>
    rw [pair_transmits_iff (byLength name) (byLast label) .clientReject name label rfl,
      byLast_holds_iff label labelShort]
    exact ⟨fun both _ => both.1, fun same => ⟨same (.inr rfl), byLength_holds name nameShort⟩⟩
  | sendRequest =>
    exact iff_of_true (byLength_transmits _ .sendRequest name label labelShort rfl
      (byLength_holds name nameShort)) (by simp)
  | sendConfirm =>
    exact iff_of_true (byLength_transmits _ .sendConfirm name label labelShort rfl unnamed)
      (by simp)
  | sendReject =>
    exact iff_of_true (byLength_transmits _ .sendReject name label labelShort rfl unnamed)
      (by simp)

theorem slice_sized (offset length : Nat) :
    (length : Int) = if (offset + length : Int) < offset + 1 then 0
      else (offset + length : Int) - (offset + 1) + 1 := by
  split <;> omega

theorem slice_bounded (offset length : Nat) (bound : offset + length < 2147483647) :
    integerType.first ≤ (offset + length : Int) ∧ (offset + length : Int) ≤ integerType.last ∧
      (offset + 1 : Int) ≤ integerType.last := by
  unfold integerType
  dsimp only
  omega

/-- The slice of a string that starts behind its first `offset` characters. -/
def sliceBehind (offset : Nat) (characters : Text)
    (bound : offset + characters.length < 2147483647) : AdaString where
  first := offset + 1
  last := offset + characters.length
  characters := characters
  sized := slice_sized offset characters.length
  index := fun _ => Int.le_add_of_nonneg_left (Int.natCast_nonneg offset)
  bounded := slice_bounded offset characters.length bound

theorem three_characters_bound (offset : Nat) (small : offset ≤ 4) :
    offset + ([108, 111, 103] : Text).length < 2147483647 :=
  Nat.lt_of_le_of_lt (Nat.add_le_add_right small 3) (by decide)

def wholeString : AdaString :=
  sliceBehind 0 [108, 111, 103] (three_characters_bound 0 (Nat.zero_le 4))

def laterSlice : AdaString :=
  sliceBehind 4 [108, 111, 103] (three_characters_bound 4 (Nat.le_refl 4))

theorem whole_string_confirmed : Transmits .clientConfirm laterSlice wholeString :=
  (label_builders_iff .clientConfirm laterSlice wholeString (by decide) (by decide)).mpr
    fun _ => rfl

/-- `Label'Last` is 7 here: the three characters are not assigned to the slice `1 .. 7`. -/
theorem later_slice_not_confirmed :
    ¬ ∀ (builder : LabelBuilder) (name label : AdaString), name.characters.length ≤ 255 →
      label.characters.length ≤ 255 → Transmits builder name label := by
  intro claim
  have failed : Client.confirm wholeString laterSlice = none := by decide
  obtain ⟨_, _, sent, _⟩ := claim .clientConfirm wholeString laterSlice (by decide) (by decide)
  rw [LabelBuilder.labels, failed] at sent
  cases sent

end Gneiss
