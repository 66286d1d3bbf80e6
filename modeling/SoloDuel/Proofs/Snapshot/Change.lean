import Mathlib.Logic.Relation
import SoloDuel.Operation.Move
import SoloDuel.Proofs.Board.Fields
/-!
# Elementary changes of a snapshot

Everything that can be done in a duel comes down to ten elementary changes. What each of them keeps,
the whole duel keeps.

* `Snapshot.Change` — the elementary changes; `Snapshot.Leads` — any number of them.
* `Snapshot.Handling`, `Snapshot.Handles` — those of cards and life only, which operations are made
  of; `Handles.eq` says what they leave alone.
* `Snapshot.Sparing`, `Snapshot.Spares` — those of them that bring nothing onto the field and, of
  what is there, touch certain copies only.
* `relocate_eq_ok_iff` — what a move of a copy needs and does.
* `Leads.conserves` — a sound board stays sound and keeps its copies.
-/

namespace SoloDuel.Snapshot

variable {s t u : Snapshot}

/-- An elementary change. -/
inductive Change : Snapshot → Snapshot → Prop
  /-- A copy goes to a zone. -/
  | relocated {s t : Snapshot} {id : InstanceId} {target origin : ZoneName}
      {placement : Placement} : s.relocate id target placement = .ok (origin, t) → Change s t
  /-- The field state of a copy changes. -/
  | fielded (s : Snapshot) (id : InstanceId) (f : FieldState → FieldState) :
      Change s (s.modifyField id f)
  | shuffled (s : Snapshot) : Change s s.shuffle
  | life (s : Snapshot) (life : BySide Int64) : Change s { s with life := life }
  | phase (s : Snapshot) (phase : Phase) : Change s { s with phase := phase }
  | turn (s : Snapshot) : Change s s.beginTurn
  | summonUsed (s : Snapshot) : Change s s.useNormalSummon
  | cardUsed (s : Snapshot) (card : CardId) : Change s (s.markCard card)
  | effectUsed (s : Snapshot) (source : InstanceId) (effect : EffectId) :
      Change s (s.markEffect source effect)
  /-- A duel that is not over is decided. -/
  | decided (s : Snapshot) (winner : Side) (reason : VictoryReason) : s.isTerminal = false →
      Change s { s with result := .decided winner reason }

/-- One snapshot comes of another by elementary changes. -/
abbrev Leads : Snapshot → Snapshot → Prop := Relation.ReflTransGen Change

theorem Change.leads (h : Change s t) : Leads s t := .single h

/-- An elementary change of cards or life. -/
inductive Handling : Snapshot → Snapshot → Prop
  | relocated {s t : Snapshot} {id : InstanceId} {target origin : ZoneName}
      {placement : Placement} : s.relocate id target placement = .ok (origin, t) → Handling s t
  | fielded (s : Snapshot) (id : InstanceId) (f : FieldState → FieldState) :
      Handling s (s.modifyField id f)
  | shuffled (s : Snapshot) : Handling s s.shuffle
  | life (s : Snapshot) (life : BySide Int64) : Handling s { s with life := life }

/-- One snapshot comes of another by changes of cards and life. -/
abbrev Handles : Snapshot → Snapshot → Prop := Relation.ReflTransGen Handling

theorem Handling.handles (h : Handling s t) : Handles s t := .single h

theorem Handling.change (h : Handling s t) : Change s t := by
  cases h with
  | relocated h => exact .relocated h
  | fielded id f => exact .fielded s id f
  | shuffled => exact .shuffled s
  | life life => exact .life s life

theorem Handles.leads (h : Handles s t) : Leads s t :=
  Relation.ReflTransGen.mono (fun _ _ => Handling.change) _ _ h

theorem Handling.eq (h : Handling s t) :
    t = { s with board := t.board, life := t.life, rng := t.rng } := by
  cases h with
  | relocated h =>
    unfold relocate at h
    split at h
    · cases h
    · split at h
      · cases h
      · split at h <;> cases h
        rfl
  | _ => rfl

/-- **Handling cards and life leaves everything else alone**: the phase, the turn, the result and
the marks of use. -/
theorem Handles.eq (h : Handles s t) :
    t = { s with board := t.board, life := t.life, rng := t.rng } := by
  induction h with
  | refl => rfl
  | tail _ hstep ih => rw [hstep.eq, ih]

/-! ## Leaving the field alone -/

/-- The copy is not on the field, where nothing is wrong with the board. -/
def Away (s : Snapshot) (id : InstanceId) : Prop :=
  s.board.Sound → ∀ card, s.find? id = some card → card.location.isOnField = false

/-- An elementary change that brings nothing onto the field and, of what is there, touches certain
copies only. -/
inductive Sparing (touched : InstanceId → Prop) : Snapshot → Snapshot → Prop
  /-- A copy goes to a zone off the field. -/
  | withdrawn {s t : Snapshot} {id : InstanceId} {target origin : ZoneName}
      {placement : Placement} : s.relocate id target placement = .ok (origin, t) →
      target.isOnField = false → touched id ∨ s.Away id → Sparing touched s t
  /-- A copy has another number of counters. -/
  | counted (s : Snapshot) {id : InstanceId} (kind : CounterKind) (count : UInt32) : touched id →
      Sparing touched s (s.modifyField id (·.setCounter kind count))
  | shuffled (s : Snapshot) : Sparing touched s s.shuffle
  | life (s : Snapshot) (life : BySide Int64) : Sparing touched s { s with life := life }

/-- One snapshot comes of another by changes that leave the field alone but for certain copies. -/
abbrev Spares (touched : InstanceId → Prop) : Snapshot → Snapshot → Prop :=
  Relation.ReflTransGen (Sparing touched)

variable {touched : InstanceId → Prop}

theorem Sparing.spares (h : Sparing touched s t) : Spares touched s t := .single h

theorem Sparing.handling (h : Sparing touched s t) : Handling s t := by
  cases h with
  | withdrawn hmove => exact .relocated hmove
  | counted kind count => exact .fielded s _ _
  | shuffled => exact .shuffled s
  | life life => exact .life s life

theorem Spares.handles (h : Spares touched s t) : Handles s t :=
  Relation.ReflTransGen.mono (fun _ _ => Sparing.handling) _ _ h

/-! ## What a move does -/

/-- A move needs the copy and, into another zone, room there. -/
theorem relocate_eq_ok_iff (hb : s.board.ids.Nodup) {id : InstanceId} {target origin : ZoneName}
    {placement : Placement} :
    s.relocate id target placement = .ok (origin, t) ↔
      ∃ card, s.find? id = some card ∧ card.location = origin ∧
        (origin = target ∨ s.hasSpace target = true) ∧
        t = { s with board := s.board.relocated card target placement } := by
  unfold relocate location?
  cases hfind : s.find? id with
  | none => simp
  | some card =>
    simp only [Option.map_some, Board.moveTo_eq hb hfind, Option.some.injEq, exists_eq_left']
    split_ifs with h
    · simp only [false_iff]
      rintro ⟨rfl, hroom, -⟩
      exact hroom.elim h.1 h.2
    · simp only [Except.ok.injEq, Prod.mk.injEq]
      constructor
      · rintro ⟨rfl, rfl⟩
        exact ⟨rfl, by simpa [imp_iff_not_or] using h, rfl⟩
      · rintro ⟨rfl, -, rfl⟩
        exact ⟨rfl, rfl⟩

/-! ## What stays -/

theorem modifyField_eq (hb : s.board.ids.Nodup) (id : InstanceId) (f : FieldState → FieldState) :
    s.modifyField id f = { s with board := s.board.mapFields (Board.only id f) } := by
  rw [modifyField, Board.modify_eq hb]

theorem zone_modifyField (hb : s.board.ids.Nodup) (id : InstanceId) (f : FieldState → FieldState)
    (name : ZoneName) :
    (s.modifyField id f).zone name =
      (s.zone name).map fun c => if c.id = id then c.mapField f else c := by
  rw [modifyField_eq hb, zone, Board.zone_mapFields]
  simp only [Board.mapField_only]
  rfl

theorem find?_modifyField (hb : s.board.ids.Nodup) (id : InstanceId)
    (g : FieldState → FieldState) (other : InstanceId) :
    (s.modifyField id g).find? other =
      if other = id then (s.find? other).map (·.mapField g) else s.find? other := by
  rw [modifyField_eq hb]
  exact s.board.find?_mapFields_only id g other

theorem sound_modifyField (hs : s.board.Sound) (id : InstanceId) (g : FieldState → FieldState) :
    (s.modifyField id g).board.Sound := by
  rw [modifyField_eq hs.distinct]
  exact hs.mapFields _

theorem board_markEffect (hb : s.board.ids.Nodup) (source : InstanceId) (effect : EffectId) :
    (s.markEffect source effect).board =
      s.board.mapFields (Board.only source (·.markActivated effect)) :=
  Board.modify_eq hb _ _

theorem board_beginTurn (hs : s.board.Sound) :
    s.beginTurn.board = s.board.mapFields fun _ => FieldState.resetForTurn :=
  Board.modifyOnField_eq hs _

/-- **An elementary change keeps a board sound and its copies the same.** -/
theorem Change.conserves (h : Change s t) (hs : s.board.Sound) :
    t.board.Sound ∧ t.board.roster.Perm s.board.roster := by
  cases h with
  | relocated h =>
    obtain ⟨card, hfind, -, -, rfl⟩ := (relocate_eq_ok_iff hs.distinct).mp h
    obtain ⟨-, name, hcard⟩ := Board.mem_zone_of_find? hfind
    exact ⟨hs.relocated hcard _ _, Board.roster_relocated hs.distinct hcard _ _⟩
  | fielded id f =>
    rw [modifyField_eq hs.distinct]
    exact ⟨hs.mapFields _, by simp⟩
  | shuffled =>
    have hperm := s.board.shuffleDeck_perm (Generator.ofState s.rng)
    exact ⟨hs.of_perm hperm, Board.roster_perm hperm⟩
  | turn =>
    rw [board_beginTurn hs]
    exact ⟨hs.mapFields _, by simp⟩
  | effectUsed source effect =>
    rw [board_markEffect hs.distinct]
    exact ⟨hs.mapFields _, by simp⟩
  | _ => exact ⟨hs, .refl _⟩

theorem Leads.conserves (h : Leads s t) (hs : s.board.Sound) :
    t.board.Sound ∧ t.board.roster.Perm s.board.roster := by
  induction h with
  | refl => exact ⟨hs, .refl _⟩
  | tail _ hstep ih =>
    obtain ⟨hsound, hperm⟩ := hstep.conserves ih.1
    exact ⟨hsound, hperm.trans ih.2⟩

theorem Leads.sound (h : Leads s t) (hs : s.board.Sound) : t.board.Sound := (h.conserves hs).1

end SoloDuel.Snapshot
