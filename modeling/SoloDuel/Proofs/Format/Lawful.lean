import SoloDuel.Format.Card
/-!
# Writing and reading back

What is written can be read back. The law is a class, so that a record's law follows from those of
its fields; nothing that a field may hold is written as null, which is how a missing one is
written.

* `LawfulStored` — a type whose elements are read back as they were written.
* `Value.field_cons_self`, `Value.field_cons_of_ne` — looking a field up in a written record.
* The laws of numbers, lists, pairs and optional data, of identifiers, zones, species and copies.
-/

namespace SoloDuel

/-- A type whose elements are read back as they were written. -/
class LawfulStored (α : Type) [Stored α] : Prop where
  /-- Reading undoes writing. -/
  decode_encode : ∀ a : α, decode (encode a) = some a

attribute [simp] LawfulStored.decode_encode

/-- A type none of whose elements is written as null. -/
class Present (α : Type) [Stored α] : Prop where
  /-- No element is written as null. -/
  encode_ne_null : ∀ a : α, encode a ≠ .null

/-! ## Records and alternatives -/

namespace Value

variable {α : Type} [Stored α] {name other : String} {x : Value} {rest : List (String × Value)}

theorem find?_cons_self : (record ((name, x) :: rest)).find? name = some x := by
  simp [find?]

theorem find?_cons_of_ne (h : name ≠ other) :
    (record ((other, x) :: rest)).find? name = (record rest).find? name := by
  have hne : (name == other) = false := beq_false_of_ne h
  simp only [find?, List.lookup_cons, hne]

@[simp] theorem field_cons_self :
    ((record ((name, x) :: rest)).field name : Option α) = decode x := by
  rw [field, find?_cons_self]
  rfl

@[simp] theorem field_cons_of_ne (h : name ≠ other) :
    ((record ((other, x) :: rest)).field name : Option α) = (record rest).field name := by
  rw [field, find?_cons_of_ne h, field]

@[simp] theorem fieldD_cons_self (default : α) :
    (record ((name, x) :: rest)).fieldD name default = decode x := by
  rw [fieldD, find?_cons_self]

@[simp] theorem fieldD_cons_of_ne (h : name ≠ other) (default : α) :
    (record ((other, x) :: rest)).fieldD name default = (record rest).fieldD name default := by
  rw [fieldD, find?_cons_of_ne h, fieldD]

@[simp] theorem fieldD_nil (default : α) : (record []).fieldD name default = some default := rfl

@[simp] theorem option_cons_self :
    (record ((name, x) :: rest)).option name = (decode x : Option (Option α)) := by
  rw [option, find?_cons_self]
  cases x <;> rfl

@[simp] theorem option_cons_of_ne (h : name ≠ other) :
    ((record ((other, x) :: rest)).option name : Option (Option α)) =
      (record rest).option name := by
  rw [option, find?_cons_of_ne h, option]

@[simp] theorem variant_tagged (data : Value) : (tagged name data).variant = some (name, data) :=
  rfl

@[simp] theorem variant_text : (text name).variant = some (name, null) := rfl

end Value

/-! ## Plain data -/

instance : LawfulStored Bool where
  decode_encode _ := rfl

instance : LawfulStored String where
  decode_encode _ := rfl

instance : LawfulStored Nat where
  decode_encode _ := rfl

instance : LawfulStored UInt8 where
  decode_encode n := (if_pos n.toNat_lt).trans (congrArg some n.ofNat_toNat)

instance : Present UInt8 := ⟨nofun⟩

instance : LawfulStored UInt16 where
  decode_encode n := (if_pos n.toNat_lt).trans (congrArg some n.ofNat_toNat)

instance : LawfulStored UInt32 where
  decode_encode n := (if_pos n.toNat_lt).trans (congrArg some n.ofNat_toNat)

instance : Present UInt32 := ⟨nofun⟩

instance : LawfulStored UInt64 where
  decode_encode n := (if_pos n.toNat_lt).trans (congrArg some n.ofNat_toNat)

instance : LawfulStored Int32 where
  decode_encode n :=
    (if_pos ⟨n.minValue_le_toInt, n.toInt_le⟩).trans (congrArg some n.ofInt_toInt)

instance : LawfulStored Int64 where
  decode_encode n :=
    (if_pos ⟨n.minValue_le_toInt, n.toInt_le⟩).trans (congrArg some n.ofInt_toInt)

/-! ## Structured data -/

section

variable {α β : Type} [Stored α] [Stored β] [LawfulStored α]

instance [Present α] : LawfulStored (Option α) where
  decode_encode
    | none => rfl
    | some a => by
      have hpresent : (encode a : Value) ≠ .null := Present.encode_ne_null a
      have hback : (decode (encode a)).map some = some (some a) := by simp
      rw [← hback]
      unfold instStoredOption
      dsimp only
      split
      · contradiction
      · rfl

instance : LawfulStored (List α) where
  decode_encode xs := by
    change (xs.map encode).mapM decode = some xs
    induction xs with
    | nil => rfl
    | cons a rest ih =>
      rw [List.map_cons, List.mapM_cons, ih]
      simp

instance [LawfulStored β] : LawfulStored (α × β) where
  decode_encode p := by unfold instStoredProd; simp

end

/-! ## Identifiers -/

instance : LawfulStored CardId where
  decode_encode c := by unfold instStoredCardId; simp

instance : LawfulStored InstanceId where
  decode_encode i := by unfold instStoredInstanceId; simp

instance : LawfulStored RuleId where
  decode_encode r := by unfold instStoredRuleId; simp

instance : LawfulStored TriggerId where
  decode_encode t := by unfold instStoredTriggerId; simp

/-! ## Zones -/

instance : LawfulStored ZoneName where
  decode_encode z := by cases z <;> rfl

instance : LawfulStored ZoneEnd where
  decode_encode e := by cases e <;> rfl

instance : LawfulStored ZoneCapacity where
  decode_encode c := by unfold instStoredZoneCapacity; simp

/-! ## Species -/

instance : LawfulStored CardKind where
  decode_encode k := by cases k <;> rfl

instance : LawfulStored FrameType where
  decode_encode f := by cases f <;> rfl

instance : LawfulStored SpellType where
  decode_encode t := by cases t <;> rfl

instance : Present SpellType := ⟨nofun⟩

instance : LawfulStored TrapType where
  decode_encode t := by cases t <;> rfl

instance : Present TrapType := ⟨nofun⟩

instance : LawfulStored Race where
  decode_encode r := by cases r <;> rfl

instance : Present Race := ⟨nofun⟩

instance : LawfulStored MonsterStats where
  decode_encode s := by unfold instStoredMonsterStats; simp

instance : Present MonsterStats := ⟨nofun⟩

instance : LawfulStored CardData where
  decode_encode c := by unfold instStoredCardData; simp

/-! ## Effects -/

instance : LawfulStored EffectCategory where
  decode_encode c := by cases c <;> rfl

instance : LawfulStored EffectId where
  decode_encode e := by unfold instStoredEffectId; simp

/-! ## Copies -/

instance : LawfulStored Face where
  decode_encode f := by cases f <;> rfl

instance : LawfulStored BattlePosition where
  decode_encode p := by cases p <;> rfl

instance : Present BattlePosition := ⟨nofun⟩

instance : LawfulStored Placement where
  decode_encode p := by unfold instStoredPlacement; simp

instance : LawfulStored CounterKind where
  decode_encode k := by unfold instStoredCounterKind; cases k <;> simp

instance : LawfulStored Counter where
  decode_encode c := by unfold instStoredCounter; simp

instance : LawfulStored FieldState where
  decode_encode f := by unfold instStoredFieldState; simp

instance : Present FieldState := ⟨nofun⟩

instance : LawfulStored CardInstance where
  decode_encode c := by unfold instStoredCardInstance; simp

end SoloDuel
