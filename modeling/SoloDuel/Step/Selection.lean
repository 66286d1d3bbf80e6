import SoloDuel.Operation.Outcome
/-!
# Selections

Some steps ask the player to choose cards. A selection says which cards may be chosen and how many.
Its candidates are worked out on the snapshot at hand when the step is reached, so a discard after a
draw sees the drawn cards.

* `CardFilter` — which cards of a zone are meant; `CardFilter.and` narrows one filter by another.
* `CardSelection` — a source of candidates with bounds on the number chosen.
* `CardSelection.validate` — whether chosen cards are an answer.
* `SelectionRequest` — what the player is shown.
-/

namespace SoloDuel

/-- Which cards are meant. -/
inductive CardFilter where
  /-- Every card. -/
  | any
  /-- Cards of a kind. -/
  | kind (kind : CardKind)
  /-- Spells of a kind. -/
  | spell (type : SpellType)
  /-- Monsters, perhaps of one race only, perhaps up to a level only. -/
  | monster (race : Option Race) (maxLevel : Option UInt8)
  /-- Every card but one copy. -/
  | except (id : InstanceId)
  /-- Cards that all of the filters mean. -/
  | all (filters : List CardFilter)

namespace CardFilter

mutual

/-- Whether the filter means a card. -/
def accepts : CardFilter → CardInstance → Bool
  | any, _ => true
  | kind k, card => card.data.kind = k
  | spell type, card => card.data.spellType = some type
  | monster race maxLevel, card =>
    card.data.isMonster && race.all (card.data.race = some ·) &&
      maxLevel.all (card.data.level ≤ ·)
  | except id, card => card.id ≠ id
  | all filters, card => acceptsAll filters card

/-- Whether every filter of a list means a card. -/
def acceptsAll : List CardFilter → CardInstance → Bool
  | [], _ => true
  | f :: rest, card => accepts f card && acceptsAll rest card

end

theorem acceptsAll_eq_all (filters : List CardFilter) (card : CardInstance) :
    acceptsAll filters card = filters.all (·.accepts card) := by
  induction filters with
  | nil => rfl
  | cons f rest ih => rw [acceptsAll, ih, List.all_cons]

/-- The filter that means the cards both filters mean. -/
def and (f g : CardFilter) : CardFilter :=
  match f with
  | all filters => all (filters ++ [g])
  | any => g
  | f => all [f, g]

end CardFilter

/-- Where the candidates of a selection come from. -/
inductive SelectionSource where
  /-- A fixed list of copies. -/
  | fixed (ids : List InstanceId)
  /-- The cards of a zone that a filter means. -/
  | zone (name : ZoneName) (filter : CardFilter)

/-- Which cards the player may choose, and how many. -/
structure CardSelection where
  source : SelectionSource
  /-- The fewest cards that may be chosen. -/
  min : UInt64
  /-- The most cards that may be chosen. -/
  max : UInt64
  /-- Whether the player may cancel instead of choosing. -/
  cancelable : Bool := false

/-- What the player is shown while a step waits for a choice. -/
structure SelectionRequest where
  stepId : String
  summary : String
  /-- The cards that may be chosen. -/
  candidates : List InstanceId
  min : UInt64
  max : UInt64
  cancelable : Bool
  deriving DecidableEq

namespace CardSelection

/-- A choice among a fixed list of copies. -/
def fixed (ids : List InstanceId) (min max : UInt64) : CardSelection where
  source := .fixed ids
  min := min
  max := max

/-- A choice among the cards of a zone that a filter means. -/
def fromZone (zone : ZoneName) (filter : CardFilter) (min max : UInt64) : CardSelection where
  source := .zone zone filter
  min := min
  max := max

/-- The cards that may be chosen. Copies of a fixed list that no zone holds are left out. -/
def candidates (sel : CardSelection) (s : Snapshot) : List InstanceId :=
  match sel.source with
  | .fixed ids => ids.filter fun id => (s.find? id).isSome
  | .zone name filter => ((s.zone name).filter filter.accepts).map (·.id)

/-- What the player is shown. -/
def request (sel : CardSelection) (stepId summary : String) (s : Snapshot) : SelectionRequest where
  stepId := stepId
  summary := summary
  candidates := sel.candidates s
  min := sel.min
  max := sel.max
  cancelable := sel.cancelable

/-- Refuses the first chosen card that was chosen before, `earlier` among others, or is no
candidate. -/
def validateEach (candidates : List InstanceId) :
    (earlier chosen : List InstanceId) → Except Refusal Unit
  | _, [] => .ok ()
  | earlier, id :: rest =>
    if id ∈ earlier then .error (.chosenTwice id)
    else if id ∉ candidates then .error (.notCandidate id)
    else validateEach candidates (id :: earlier) rest

/-- Refuses chosen cards that are no answer: too few or too many, one of them twice, or one that is
no candidate. -/
def validate (sel : CardSelection) (s : Snapshot) (chosen : List InstanceId) :
    Except Refusal Unit :=
  if chosen.length < sel.min.toNat ∨ sel.max.toNat < chosen.length then
    .error (.wrongCount sel.min sel.max chosen.length)
  else validateEach (sel.candidates s) [] chosen

end CardSelection

end SoloDuel
