import SoloDuel.Proofs.Sequencer.Protocol
import SoloDuel.Proofs.Step.Selection
/-!
# What combined filters mean

Filters are combined two at a time. What comes of it has one of three shapes: the second filter
joins the list of the first, stands alone where the first means every card, or begins a new list
with it. The shape depends on the order and on the brackets; the cards that are meant do not.

* `CardFilter.accepts_and_iff` — two filters combined mean the cards that both mean.
* `CardFilter.Bracketing` — filters in brackets; `Bracketing.accepts_filter_iff` says which cards
  they mean together.
* `CardFilter.Narrows` — what a filter means and gives that puts others on top of one.
* `CardFilter.and_narrows` — every filter and every list of others, in any order and any brackets.
-/

namespace SoloDuel

namespace CardFilter

variable {f g : CardFilter} {gs : List CardFilter} {card : CardInstance}

/-! ## Two filters -/

theorem accepts_all_iff :
    (all gs).accepts card = true ↔ ∀ g ∈ gs, g.accepts card = true := by
  rw [accepts, acceptsAll_eq_all, List.all_eq_true]

/-- **Two filters combined mean the cards that both mean.** -/
theorem accepts_and_iff :
    (f.and g).accepts card = true ↔ f.accepts card = true ∧ g.accepts card = true := by
  have hpair : (all [f, g]).accepts card = true ↔
      f.accepts card = true ∧ g.accepts card = true := by
    rw [accepts_all_iff, List.forall_mem_cons, List.forall_mem_singleton]
  -- Only a list and the filter of every card are treated apart; all else begins a list of two.
  cases f with
  | all filters =>
    rw [and, accepts_all_iff, accepts_all_iff, List.forall_mem_append, List.forall_mem_singleton]
  | any => simp [and, accepts]
  | kind | spell | monster | except => exact hpair

/-! ## Several filters -/

/-- Others put on top of a filter, one after another, leave the cards that each of them means. -/
theorem accepts_foldl_and_iff (f : CardFilter) (gs : List CardFilter) (card : CardInstance) :
    (gs.foldl and f).accepts card = true ↔
      f.accepts card = true ∧ ∀ g ∈ gs, g.accepts card = true := by
  -- What has been built so far is the filter the rest is put on top of.
  induction gs generalizing f with
  | nil => simp
  | cons g rest ih =>
    rw [List.foldl_cons, ih, accepts_and_iff, List.forall_mem_cons, and_assoc]

/-- Filters in brackets, to be combined two at a time. -/
inductive Bracketing where
  /-- A filter on its own. -/
  | one (f : CardFilter)
  /-- What stands on the left with what stands on the right. -/
  | both (left right : Bracketing)

namespace Bracketing

/-- The filters that stand in the brackets, from left to right. -/
def parts : Bracketing → List CardFilter
  | one f => [f]
  | both left right => left.parts ++ right.parts

/-- The filter that comes of combining them as the brackets say. -/
def filter : Bracketing → CardFilter
  | one f => f
  | both left right => left.filter.and right.filter

/-- However they are bracketed, filters mean together the cards that each of them means. -/
theorem accepts_filter_iff (b : Bracketing) (card : CardInstance) :
    b.filter.accepts card = true ↔ ∀ g ∈ b.parts, g.accepts card = true := by
  induction b with
  | one f => rw [filter, parts, List.forall_mem_singleton]
  | both left right ihleft ihright =>
    rw [filter, parts, accepts_and_iff, ihleft, ihright, List.forall_mem_append]

end Bracketing

end CardFilter

/-! ## Candidates -/

namespace CardSelection

variable {sel : CardSelection} {zone : ZoneName} {s : Snapshot} {f : CardFilter}

/-- A choice within the same bounds among the cards of a zone that a filter means. -/
def among (sel : CardSelection) (zone : ZoneName) (filter : CardFilter) : CardSelection :=
  { sel with source := .zone zone filter }

theorem candidates_among :
    (sel.among zone f).candidates s = ((s.zone zone).filter f.accepts).map (·.id) := rfl

/-- On a sound board, picking among candidates is picking among the cards they stand for. -/
theorem filter_candidates_among (hs : s.board.Sound) (p : CardInstance → Bool) :
    ((sel.among zone f).candidates s).filter (fun id => (s.find? id).any p) =
      (((s.zone zone).filter f.accepts).filter p).map (·.id) := by
  rw [candidates_among, List.filter_map]
  congr 1
  refine List.filter_congr fun card hcard => ?_
  have hfind : s.find? card.id = some card :=
    Board.find?_of_mem hs.distinct (List.mem_of_mem_filter hcard)
  rw [Function.comp_apply, hfind, Option.any_some]

end CardSelection

namespace CardFilter

/-- What a filter means and gives that puts others on top of `f`. -/
structure Narrows (f : CardFilter) (gs : List CardFilter) (combined : CardFilter) : Prop where
  /-- It means the cards that `f` and each of the others mean. -/
  accepts_iff : ∀ card, combined.accepts card = true ↔
    f.accepts card = true ∧ ∀ g ∈ gs, g.accepts card = true
  /-- From a zone it gives the cards that `f` gives there, in their order, as far as each of the
  others means them. -/
  candidates : ∀ (sel : CardSelection) zone s,
    (sel.among zone f).candidates s = ((s.zone zone).filter f.accepts).map (·.id) ∧
    (sel.among zone combined).candidates s = (((s.zone zone).filter f.accepts).filter
      fun card => ∀ g ∈ gs, g.accepts card = true).map (·.id)
  /-- On a snapshot that passes the check a number stands for one card, and its candidates can be
  picked out of the candidates of `f`. -/
  candidates_of_check : ∀ (sel : CardSelection) zone s, s.check = .ok () →
    (sel.among zone combined).candidates s = ((sel.among zone f).candidates s).filter
      fun id => (s.find? id).any fun card => ∀ g ∈ gs, g.accepts card = true

variable {f combined : CardFilter} {gs : List CardFilter}

/-- What `f` and each of the others mean is picked out of a list of cards in two steps. -/
theorem filter_accepts_of_iff
    (h : ∀ card, combined.accepts card = true ↔
      f.accepts card = true ∧ ∀ g ∈ gs, g.accepts card = true) (cards : List CardInstance) :
    cards.filter combined.accepts =
      (cards.filter f.accepts).filter fun card => ∀ g ∈ gs, g.accepts card = true := by
  rw [List.filter_filter]
  refine List.filter_congr fun card _ => ?_
  rw [Bool.eq_iff_iff, h card, Bool.and_eq_true, decide_eq_true_iff]
  exact and_comm

/-- What a filter gives from a zone follows from what it means. -/
theorem narrows_of_accepts_iff
    (h : ∀ card, combined.accepts card = true ↔
      f.accepts card = true ∧ ∀ g ∈ gs, g.accepts card = true) : Narrows f gs combined := by
  have hcandidates : ∀ (sel : CardSelection) zone s, (sel.among zone combined).candidates s =
      (((s.zone zone).filter f.accepts).filter
        fun card => ∀ g ∈ gs, g.accepts card = true).map (·.id) := by
    intro sel zone s
    rw [CardSelection.candidates_among, filter_accepts_of_iff h]
  refine ⟨h, fun sel zone s => ⟨CardSelection.candidates_among, hcandidates sel zone s⟩,
    fun sel zone s hcheck => ?_⟩
  rw [hcandidates, CardSelection.filter_candidates_among (Board.check_eq_ok_iff.mp hcheck)]

/-- **Combining filters narrows them down.** Put others on top of any filter, one after another: the
filter that comes of it means exactly the cards that the first and each of the others mean. As the
filter of a selection from a zone it leaves of the candidates of the first, in their order, those
that each of the others means. The order of the others does not show in what is meant, and of all
of them neither the order nor the brackets nor repetitions do. -/
theorem and_narrows (f : CardFilter) (gs : List CardFilter) :
    Narrows f gs (gs.foldl and f) ∧
    (∀ others : List CardFilter, others.Perm gs →
      (others.foldl and f).accepts = (gs.foldl and f).accepts) ∧
    ∀ b : Bracketing, (∀ g, g ∈ b.parts ↔ g ∈ f :: gs) →
      b.filter.accepts = (gs.foldl and f).accepts := by
  refine ⟨narrows_of_accepts_iff (accepts_foldl_and_iff f gs), fun others hperm => ?_,
    fun b hsame => ?_⟩
  · funext card
    rw [Bool.eq_iff_iff, accepts_foldl_and_iff, accepts_foldl_and_iff]
    simp only [hperm.mem_iff]
  · funext card
    rw [Bool.eq_iff_iff, b.accepts_filter_iff, accepts_foldl_and_iff]
    simp only [hsame, List.forall_mem_cons]

/-- Four warriors of two levels in the deck, under a field spell. -/
def recruits : Snapshot :=
  let warrior (level : UInt8) :=
    CardData.monster ⟨2⟩ "Warrior" .normal ⟨level, 1400, 1200, .warrior⟩
  { Sequencer.cardless with
    board := {
      deck := [.new ⟨1⟩ (warrior 4) .deck, .new ⟨2⟩ (warrior 6) .deck, .new ⟨3⟩ (warrior 4) .deck,
        .new ⟨4⟩ (warrior 4) .deck, .new ⟨5⟩ (.spell ⟨1⟩ "Field" .field) .deck] } }

/-- Warriors up to level 4, in a list that names every card as well. -/
def weakWarriors : CardFilter := all [any, monster (some .warrior) (some 4)]

/-- Weak warriors among the monsters, but not the third copy: the exception comes first, and the
weak warriors are named twice. -/
def exceptionFirst : Bracketing :=
  .both (.one (except ⟨3⟩))
    (.both (.one weakWarriors) (.both (.one (kind .monster)) (.one weakWarriors)))

/-- Of the four monsters two are left. Exchanging the two other filters, or bracketing them
differently, leaves the same ones. -/
theorem and_narrows_recruits : recruits.check = .ok () ∧
    [except ⟨3⟩, weakWarriors].Perm [weakWarriors, except ⟨3⟩] ∧
    (∀ g, g ∈ exceptionFirst.parts ↔ g ∈ [kind .monster, weakWarriors, except ⟨3⟩]) ∧
    (∀ sel : CardSelection,
      (sel.among .deck (kind .monster)).candidates recruits = [⟨1⟩, ⟨2⟩, ⟨3⟩, ⟨4⟩] ∧
      (sel.among .deck (((kind .monster).and weakWarriors).and (except ⟨3⟩))).candidates recruits =
        [⟨1⟩, ⟨4⟩]) ∧
    (((kind .monster).and (except ⟨3⟩)).and weakWarriors).accepts =
      (((kind .monster).and weakWarriors).and (except ⟨3⟩)).accepts ∧
    exceptionFirst.filter.accepts =
      (((kind .monster).and weakWarriors).and (except ⟨3⟩)).accepts := by
  have hcheck : recruits.check = .ok () := rfl
  have hperm : [except ⟨3⟩, weakWarriors].Perm [weakWarriors, except ⟨3⟩] := .swap _ _ _
  have hsame : ∀ g, g ∈ exceptionFirst.parts ↔
      g ∈ [kind .monster, weakWarriors, except ⟨3⟩] := by
    intro g
    simp only [exceptionFirst, Bracketing.parts, List.mem_append, List.mem_cons,
      List.not_mem_nil, or_false]
    tauto
  obtain ⟨hnarrows, horder, hbrackets⟩ :=
    and_narrows (kind .monster) [weakWarriors, except ⟨3⟩]
  refine ⟨hcheck, hperm, hsame, fun sel => ⟨rfl, ?_⟩, horder _ hperm, hbrackets _ hsame⟩
  exact (hnarrows.candidates_of_check sel .deck recruits hcheck).trans rfl

end CardFilter

end SoloDuel
