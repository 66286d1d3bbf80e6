import SoloDuel.Proofs.Board.Fields
/-!
# Cards where they belong

Which cards the zones on the field are for, and how the cards lie there: monsters in a battle
position, face-down only in defense; field spells in the field zone and all other spells and traps
in theirs, in no battle position.

* `CardData.WellFormed` — a species made as one of the three kinds.
* `CardData.Suits`, `FieldState.LiesIn`, `CardInstance.Belongs` — whether a card belongs in a zone.
* `Board.Arranged` — every card belongs where it is.
* `FieldState.Steady` — a change of field state after which a card lies no worse.
-/

namespace SoloDuel

namespace CardData

variable {data : CardData} {name : ZoneName}

/-- A species made as one of the three kinds. -/
inductive WellFormed : CardData → Prop
  | monster (id : CardId) (name : String) (frame : FrameType) (stats : MonsterStats) :
      WellFormed (.monster id name frame stats)
  | spell (id : CardId) (name : String) (type : SpellType) : WellFormed (.spell id name type)
  | trap (id : CardId) (name : String) (type : TrapType) : WellFormed (.trap id name type)

/-- Whether a zone is for cards of the species. Off the field a zone is for all cards. -/
def Suits (data : CardData) : ZoneName → Prop
  | .monsterZone => data.isMonster = true
  | .spellTrapZone =>
    data.isTrap = true ∨ data.isSpell = true ∧ data.spellType ≠ some .field
  | .fieldZone => data.isSpell = true ∧ data.spellType = some .field
  | _ => True

theorem suits_of_not_isOnField (data : CardData) (h : name.isOnField = false) :
    data.Suits name := by
  cases name with
  | monsterZone | spellTrapZone | fieldZone => cases h
  | _ => trivial

end CardData

namespace FieldState

variable {state : FieldState} {name : ZoneName}

/-- Whether a card lies the way cards lie in a zone on the field. -/
def LiesIn (state : FieldState) : ZoneName → Prop
  | .monsterZone =>
    state.position.isSome = true ∧ (state.face = .down → state.position = some .defense)
  | .spellTrapZone | .fieldZone => state.position = none
  | _ => True

theorem liesIn_of_not_isOnField (state : FieldState) (h : name.isOnField = false) :
    state.LiesIn name := by
  cases name with
  | monsterZone | spellTrapZone | fieldZone => cases h
  | _ => trivial

/-- The change leaves the battle position alone and turns no card face-down. -/
def Steady (g : FieldState → FieldState) : Prop :=
  ∀ state, (g state).position = state.position ∧ ((g state).face = .down → state.face = .down)

/-- After a steady change a card still lies the way cards lie in its zone. -/
theorem Steady.liesIn {g : FieldState → FieldState} (hg : Steady g) (h : state.LiesIn name) :
    (g state).LiesIn name := by
  obtain ⟨hposition, hface⟩ := hg state
  cases name with
  | monsterZone =>
    obtain ⟨hsome, hdown⟩ := h
    refine ⟨?_, fun hnow => ?_⟩
    · rw [hposition]
      exact hsome
    · rw [hposition]
      exact hdown (hface hnow)
  | spellTrapZone | fieldZone => exact hposition.trans h
  | _ => trivial

theorem steady_setCounter (kind : CounterKind) (count : UInt32) :
    Steady (·.setCounter kind count) := fun _ => ⟨rfl, fun h => h⟩

theorem steady_resetForTurn : Steady resetForTurn := fun _ => ⟨rfl, fun h => h⟩

theorem steady_placed : Steady fun f => { f with placedThisTurn := true } :=
  fun _ => ⟨rfl, fun h => h⟩

theorem steady_faceUp : Steady fun f => { f with face := .up } := by
  intro state
  refine ⟨rfl, fun h => ?_⟩
  cases h

theorem steady_markActivated (effect : EffectId) : Steady (·.markActivated effect) := by
  intro state
  by_cases hmarked : state.hasActivated effect
  · simp [markActivated, hmarked]
  · simp [markActivated, hmarked]

end FieldState

/-- A card belongs in a zone: the zone is for its species, and it lies the way cards lie there. -/
structure CardInstance.Belongs (c : CardInstance) (name : ZoneName) : Prop where
  suits : c.data.Suits name
  lies : ∀ state, c.field = some state → state.LiesIn name

namespace CardInstance

variable {c : CardInstance} {name : ZoneName}

theorem belongs_of_not_isOnField (c : CardInstance) (h : name.isOnField = false) :
    c.Belongs name :=
  ⟨c.data.suits_of_not_isOnField h, fun state _ => state.liesIn_of_not_isOnField h⟩

/-- A card that is put into a zone for it, the way cards lie there, belongs there. -/
theorem belongs_movedTo {placement : Placement} (hsuits : c.data.Suits name)
    (hlies : placement.fresh.LiesIn name) : (c.movedTo name placement).Belongs name := by
  refine ⟨hsuits, fun state hstate => ?_⟩
  simp only [movedTo] at hstate
  split at hstate
  · cases hstate
    exact hlies
  · cases hstate

theorem Belongs.mapField (h : c.Belongs name) {g : FieldState → FieldState}
    (hg : FieldState.Steady g) : (c.mapField g).Belongs name := by
  refine ⟨h.suits, fun state hstate => ?_⟩
  obtain ⟨before, hbefore, rfl⟩ := Option.map_eq_some_iff.mp hstate
  exact hg.liesIn (h.lies before hbefore)

end CardInstance

namespace Board

variable {a b : Board} {card : CardInstance} {target : ZoneName} {placement : Placement}

/-- Every card belongs where it is. -/
def Arranged (b : Board) : Prop := ∀ name, ∀ card ∈ b.zone name, card.Belongs name

/-- **A move leaves the board arranged if the card belongs where it is put.** -/
theorem Arranged.relocated (h : b.Arranged)
    (hcard : (card.movedTo target placement).Belongs target) :
    (b.relocated card target placement).Arranged := by
  intro name c hc
  rcases mem_zone_relocated.mp hc with ⟨hc, -⟩ | ⟨rfl, rfl⟩
  · exact h name c hc
  · exact hcard

theorem Arranged.mapFields (h : b.Arranged) {f : InstanceId → FieldState → FieldState}
    (hf : ∀ id, FieldState.Steady (f id)) : (b.mapFields f).Arranged := by
  intro name c hc
  rw [zone_mapFields, List.mem_map] at hc
  obtain ⟨c, hc, rfl⟩ := hc
  exact (h name c hc).mapField (hf c.id)

theorem Arranged.mapFields_only (h : b.Arranged) (id : InstanceId) {g : FieldState → FieldState}
    (hg : FieldState.Steady g) : (b.mapFields (only id g)).Arranged := by
  refine h.mapFields fun other state => ?_
  by_cases hid : other = id
  · simpa [only, hid] using hg state
  · simp [only, hid]

theorem Arranged.of_perm (h : b.Arranged) (hperm : ∀ name, (a.zone name).Perm (b.zone name)) :
    a.Arranged := fun name c hc => h name c ((hperm name).mem_iff.mp hc)

end Board

end SoloDuel
