import SoloDuel.Proofs.Registry.Indexed
import SoloDuel.Proofs.Registry.Listing
import SoloDuel.Proofs.Snapshot.FaceUp
import SoloDuel.Trigger
/-!
# What the triggers answer

An event is answered by the triggers that listen for its kind, in ascending order, so that the order
in which they were registered does not show.

* `TriggerTable.mem_listening_iff` — the index lists the triggers of a kind.
* `Trigger.Stands` — a trigger belongs to no card, or to one with a face-up copy on the field.
* `TriggerTable.Answers` — what a table answers, read off the registrations that filled it.
* `TriggerTable.collects_alike` — every series of registrations, and any two orders.
-/

namespace SoloDuel

namespace Trigger

variable {t : Trigger} {s : Snapshot}

/-- The trigger belongs to no card, or a copy of its card lies face-up in a zone on the field. -/
def Stands (t : Trigger) (s : Snapshot) : Prop :=
  t.card = none ∨ ∃ card, t.card = some card ∧ ∃ zone, zone.isOnField = true ∧
    ∃ c ∈ s.zone zone, c.cardId = card ∧ c.isFaceUp = true

theorem isActive_iff : t.isActive s = true ↔ t.Stands s := by
  unfold isActive Stands
  cases t.card with
  | none => simp
  | some card =>
    simp only [Snapshot.hasFaceUp, List.any_eq_true, Board.mem_onField, decide_eq_true_iff,
      reduceCtorEq, Option.some.injEq, false_or, exists_eq_left']
    constructor
    · rintro ⟨c, ⟨zone, hfield, hmem⟩, hcard, hface⟩
      exact ⟨zone, hfield, c, hmem, hcard, hface⟩
    · rintro ⟨zone, hfield, c, hmem, hcard, hface⟩
      exact ⟨c, ⟨zone, hfield, hmem⟩, hcard, hface⟩

instance : Decidable (t.Stands s) := decidable_of_iff _ isActive_iff

end Trigger

namespace TriggerTable

variable {table : TriggerTable} {kind : EventKind} {t : Trigger}
  {triggers first second : List Trigger}

/-! ## Listening -/

theorem listening_perm (table : TriggerTable) (kind : EventKind) :
    (table.listening kind).Perm (table.values.filter (·.event = kind)) := by
  rw [listening, table.ofGroup_eq]
  exact perm_sortAscending _ _

/-- The triggers that listen for a kind of event are those registered for it. -/
theorem mem_listening_iff : t ∈ table.listening kind ↔ t ∈ table.values ∧ t.event = kind := by
  rw [(table.listening_perm kind).mem_iff, List.mem_filter, decide_eq_true_iff]

theorem collect_eq_flatMap (table : TriggerTable) (s : Snapshot) (event : Event) :
    table.collect s event =
      ((table.listening event.kind).filter (·.Stands s)).flatMap fun t => t.fire s event := by
  have hactive : ∀ t : Trigger, t.isActive s = decide (t.Stands s) := fun t => by
    rw [Bool.eq_iff_iff, decide_eq_true_iff, Trigger.isActive_iff]
  simp only [collect, hactive]

/-! ## Series of registrations -/

/-- Registers a trigger. -/
def enter (t : Trigger) : Registration RegistryFault TriggerTable := fun table => table.register t

/-- The table that a series of registrations fills. -/
def filled (triggers : List Trigger) : TriggerTable := attemptEach enter triggers .empty

/-- Triggers are registered in a table under their own numbers. -/
theorem follows_enter : Follows enter (fun table => table.toRegistry) fun t => (t.id, t) where
  register t table := table.map_register t.id t
  atomic t := IndexedRegistry.atomic_register t.id t

theorem values_filled (triggers : List Trigger) :
    (filled triggers).values = firstsBy Trigger.id triggers :=
  follows_enter.values_attemptEach rfl triggers

theorem succeeds_iff : Succeeds enter triggers .empty t ↔ t ∈ firstsBy Trigger.id triggers :=
  follows_enter.succeeds_iff rfl

/-- The listing of a kind is that of the first trigger of each number. -/
theorem listening_filled (triggers : List Trigger) (kind : EventKind) :
    (filled triggers).listening kind = sortAscending (fun t => Identifier.rank t.id)
      ((firstsBy Trigger.id triggers).filter (·.event = kind)) := by
  rw [listening, (filled triggers).ofGroup_eq, values_filled]

theorem pairwise_listening_filled (triggers : List Trigger) (kind : EventKind) :
    ((filled triggers).listening kind).Pairwise fun t u =>
      Identifier.rank t.id < Identifier.rank u.id := by
  rw [listening_filled]
  exact pairwise_lt_sortAscending
    ((List.filter_sublist.map _).nodup (nodup_map_firstsBy Trigger.id triggers))

/-- The same triggers with numbers of their own are listed alike, whichever came first. -/
theorem listening_filled_of_perm (hperm : first.Perm second)
    (hdistinct : (first.map Trigger.id).Nodup) (kind : EventKind) :
    (filled first).listening kind = (filled second).listening kind := by
  rw [listening_filled, listening_filled, firstsBy_eq_self hdistinct,
    firstsBy_eq_self ((hperm.map Trigger.id).nodup_iff.mp hdistinct)]
  exact sortAscending_eq_of_perm (hperm.filter _) ((List.filter_sublist.map _).nodup hdistinct)

/-- What a table answers that a series of registrations has filled. -/
structure Answers (triggers : List Trigger) (table : TriggerTable) : Prop where
  /-- The triggers that listen for a kind of event come in strictly ascending order. -/
  ascending : ∀ kind, (table.listening kind).Pairwise fun t u =>
    Identifier.rank t.id < Identifier.rank u.id
  /-- They are those of the kind that have been registered. -/
  listening : ∀ kind t, t ∈ table.listening kind ↔
    Succeeds enter triggers .empty t ∧ t.event = kind
  /-- An event is answered by those of them that stand, in this order. -/
  collect : ∀ s event, table.collect s event =
    ((table.listening event.kind).filter (·.Stands s)).flatMap fun t => t.fire s event

theorem answers_filled (triggers : List Trigger) : Answers triggers (filled triggers) where
  ascending := pairwise_listening_filled triggers
  listening kind t := by rw [mem_listening_iff, values_filled, succeeds_iff]
  collect := collect_eq_flatMap _

/-- **Triggers answer alike in whatever order they were registered.** After any series of
registrations, refused ones included, the triggers that listen for a kind of event are exactly
those of the kind that have been registered, in strictly ascending order, and an event is answered
by the steps of those that belong to no card or to one with a face-up copy on the field, one after
another. A registration is refused as a duplicate where its number is taken, and then changes
nothing; any other is made. Tables filled with the same triggers, each with a number of its own,
give the same answers to every event. -/
theorem collects_alike (triggers : List Trigger) :
    Answers triggers (filled triggers) ∧
    (∀ t : Trigger, t.id ∈ triggers.map Trigger.id →
      (filled triggers).register t =
          (filled triggers, some (.duplicate "triggers" (Identifier.text t.id))) ∧
        filled (triggers ++ [t]) = filled triggers) ∧
    (∀ t : Trigger, t.id ∉ triggers.map Trigger.id →
      (filled triggers).register t = (filled (triggers ++ [t]), none)) ∧
    ∀ others, triggers.Perm others → (triggers.map Trigger.id).Nodup →
      ∀ s event, (filled triggers).collect s event = (filled others).collect s event := by
  refine ⟨answers_filled triggers, fun t ht => ?_, fun t ht => ?_,
    fun others hperm hdistinct s event => ?_⟩
  · exact ⟨follows_enter.refused rfl ht, follows_enter.unchanged rfl ht⟩
  · exact follows_enter.accepted rfl ht
  · rw [collect_eq_flatMap, collect_eq_flatMap, listening_filled_of_perm hperm hdistinct]

/-- Says that cards were drawn. -/
def chime (number : UInt32) : Trigger where
  id := ⟨number⟩
  name := "Chime"
  event := .cardsDrawn
  fire _ _ := [.notify s!"chime {number}" "Cards were drawn"]

/-- Three of them answer in ascending order, whichever came first. -/
theorem collects_alike_chimes :
    ([chime 3, chime 1, chime 2].map Trigger.id).Nodup ∧
      [chime 3, chime 1, chime 2].Perm [chime 1, chime 2, chime 3] ∧
      ((filled [chime 3, chime 1, chime 2]).listening .cardsDrawn).map Trigger.id =
        [⟨1⟩, ⟨2⟩, ⟨3⟩] ∧
      ∀ s count, (filled [chime 3, chime 1, chime 2]).collect s (.cardsDrawn count) =
        (filled [chime 1, chime 2, chime 3]).collect s (.cardsDrawn count) := by
  have hdistinct : ([chime 3, chime 1, chime 2].map Trigger.id).Nodup := by decide
  have hperm : [chime 3, chime 1, chime 2].Perm [chime 1, chime 2, chime 3] :=
    (List.Perm.swap _ _ _).trans ((List.Perm.swap _ _ _).cons _)
  obtain ⟨-, -, -, halike⟩ := collects_alike [chime 3, chime 1, chime 2]
  exact ⟨hdistinct, hperm, rfl, fun s count => halike _ hperm hdistinct s (.cardsDrawn count)⟩

end TriggerTable

end SoloDuel
