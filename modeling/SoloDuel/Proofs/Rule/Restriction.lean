import SoloDuel.Proofs.Activation.EnterPlay
import SoloDuel.Proofs.Rule.Categories
import SoloDuel.Proofs.Sequencer.Protocol
/-!
# Rules only restrict

A question is put to the rules of a book as a set: each rule that has a say can refuse, and none can
overrule another. So a rule more never allows what was refused before, and the order of the rules
decides which of them a refusal names, but neither whether something is refused nor with which code.

* `RuleBook.registerAll` — several rules are registered; `exists_registerAll_of_perm` says that it
  does not depend on their order whether that succeeds and which rules there are in the end.
* `RuleBook.Refuses` — some rule of a category that has a say refuses.
* `RuleBook.summonVerdict_spec` — the verdict on a summon, read off what refuses it.
* `RuleBook.rules_only_restrict` — what a larger book allows a smaller one allows, and the order of
  the rules does not matter for a verdict.
-/

namespace SoloDuel

variable {s : Snapshot} {source : InstanceId}

namespace RuleBook

variable {book book' larger other : RuleBook} {category : RuleCategory} {ctx : RuleContext}
  {more rules rules' : List Rule}

/-! ## Registering rules -/

/-- Registers rules, one after another, up to the first one refused. -/
def registerAll (book : RuleBook) (more : List Rule) : RuleBook × Option RegistryFault :=
  registerEach (more.map enter) book

/-- The rules that are registered come after those there were. -/
theorem values_registerAll (h : book.registerAll more = (larger, none)) :
    larger.rules.values = book.rules.values ++ more := by
  have hentries := follows_enter.entries_registerEach (congrArg Prod.snd h)
  have hlarger : (registerEach (more.map enter) book).1 = larger := congrArg Prod.fst h
  rw [hlarger] at hentries
  rw [Registry.values, hentries, List.map_append, List.map_map]
  exact congrArg (book.rules.values ++ ·) (List.map_id more)

/-- Registering more rules loses none, whichever of them are refused. -/
theorem values_subset_registerAll (book : RuleBook) (more : List Rule) :
    book.rules.values ⊆ (book.registerAll more).1.rules.values :=
  List.map_subset _ (follows_enter.entries_prefix_registerEach more book).subset

/-- Rules can be registered where no two of them share a number, with each other or with a rule
there is. -/
theorem registerAll_accepted_iff : (book.registerAll more).2 = none ↔
    (book.rules.keys ++ more.map (·.id)).Nodup :=
  follows_enter.registerEach_accepted_iff more book

/-- **Rules are registered in any order.** -/
theorem exists_registerAll_of_perm (hperm : rules.Perm rules')
    (h : book.registerAll rules = (larger, none)) :
    ∃ other, book.registerAll rules' = (other, none) ∧
      larger.rules.values.Perm other.rules.values := by
  have hnodup := registerAll_accepted_iff.mp (congrArg Prod.snd h)
  have haccepted : (book.registerAll rules').2 = none := registerAll_accepted_iff.mpr
    (((hperm.map (·.id)).append_left book.rules.keys).nodup_iff.mp hnodup)
  have hother : book.registerAll rules' = ((book.registerAll rules').1, none) :=
    Prod.ext rfl haccepted
  refine ⟨_, hother, ?_⟩
  rw [values_registerAll h, values_registerAll hother]
  exact hperm.append_left book.rules.values

/-! ## Refusing -/

/-- Some rule of a category that has a say refuses. -/
def Refuses (book : RuleBook) (category : RuleCategory) (s : Snapshot) (ctx : RuleContext) : Prop :=
  ∃ rule ∈ book.rules.values, rule.category = category ∧ rule.canApply s ctx = true ∧
    rule.permits s ctx = false

theorem not_refuses_iff : ¬ book.Refuses category s ctx ↔ book.AllPermit category s ctx := by
  simp only [Refuses, AllPermit, not_exists, not_and, Bool.not_eq_false]

/-- A rule that refuses still does in a book with more rules. -/
theorem Refuses.of_subset (h : book.Refuses category s ctx)
    (hsubset : book.rules.values ⊆ larger.rules.values) : larger.Refuses category s ctx := by
  obtain ⟨rule, hmem, hrefuses⟩ := h
  exact ⟨rule, hsubset hmem, hrefuses⟩

theorem AllPermit.of_subset (h : larger.AllPermit category s ctx)
    (hsubset : book.rules.values ⊆ larger.rules.values) : book.AllPermit category s ctx :=
  not_refuses_iff.mp fun hrefuses => not_refuses_iff.mpr h (hrefuses.of_subset hsubset)

/-- It does not depend on the order of the rules whether one refuses. -/
theorem refuses_congr (hperm : book.rules.values.Perm other.rules.values) :
    book.Refuses category s ctx ↔ other.Refuses category s ctx :=
  ⟨fun h => h.of_subset hperm.subset, fun h => h.of_subset hperm.symm.subset⟩

/-- The first rule that refuses is one of those that refuse. -/
theorem exists_objection?_iff :
    (∃ rule, book.objection? category s ctx = some rule) ↔ book.Refuses category s ctx := by
  rw [← Option.isSome_iff_exists, ← not_iff_not, Option.not_isSome_iff_eq_none,
    objection?_eq_none_iff, not_refuses_iff]

theorem isActionPermitted_iff_not_refuses {action : ActionKind} :
    book.isActionPermitted s action = true ↔
      ¬ book.Refuses .actionPermission s (.action action) := by
  rw [isActionPermitted_iff, not_refuses_iff]

/-! ## The verdict on a summon -/

/-- Whether a summon is allowed, or with which code it is refused. -/
def summonVerdict (book : RuleBook) (s : Snapshot) (card : CardInstance) (kind : SummonKind) :
    Except RefusalCode Unit :=
  (book.checkSummon s card kind).mapError (·.code)

/-- The verdict on a summon that summon conditions and summon permissions may refuse: the conditions
come first. -/
inductive SummonVerdict (condition permission : Prop) : Except RefusalCode Unit → Prop
  | conditionsNotMet : condition → SummonVerdict condition permission (.error .conditionsNotMet)
  | actionProhibited : ¬ condition → permission →
      SummonVerdict condition permission (.error .actionProhibited)
  | allowed : ¬ condition → ¬ permission → SummonVerdict condition permission (.ok ())

/-- What refuses a summon leaves it one verdict. -/
theorem SummonVerdict.unique {condition permission : Prop} {v w : Except RefusalCode Unit}
    (hv : SummonVerdict condition permission v) (hw : SummonVerdict condition permission w) :
    v = w := by
  cases hv <;> cases hw <;> first | rfl | contradiction

/-- **The verdict on a summon.** -/
theorem summonVerdict_spec (book : RuleBook) (s : Snapshot) (card : CardInstance)
    (kind : SummonKind) :
    SummonVerdict (book.Refuses .summonCondition s (.summon card kind))
      (book.Refuses .summonPermission s (.summon card kind)) (book.summonVerdict s card kind) := by
  rw [summonVerdict, checkSummon]
  cases hcondition : book.objection? .summonCondition s (.summon card kind) with
  | some rule => exact .conditionsNotMet (exists_objection?_iff.mp ⟨rule, hcondition⟩)
  | none =>
    have hnone := not_refuses_iff.mpr (objection?_eq_none_iff.mp hcondition)
    cases hpermission : book.objection? .summonPermission s (.summon card kind) with
    | some rule => exact .actionProhibited hnone (exists_objection?_iff.mp ⟨rule, hpermission⟩)
    | none => exact .allowed hnone (not_refuses_iff.mpr (objection?_eq_none_iff.mp hpermission))

end RuleBook

/-! ## More rules -/

/-- Of what a template checks, only the permission is asked of the rules. -/
theorem ActivationTemplate.validate_of_permitted {t : ActivationTemplate} {book larger : RuleBook}
    {effect : EffectId} {once : OncePerTurn}
    (hpermitted : book.isActionPermitted s (t.action effect source) = true)
    (h : t.validate larger s source effect once = .ok ()) :
    t.validate book s source effect once = .ok () := by
  obtain ⟨hopen, card, hfind, hphase, hcard, hfits, hlocation, hunused, -⟩ := of_validate h
  exact validate_eq_ok hopen hfind hphase hcard hfits hlocation hunused hpermitted

/-- A use of an effect that is allowed under some rules is allowed under rules that permit no less:
the requirement of the effect does not ask them. -/
theorem CardEffect.validate_of_permitted {e : CardEffect} {book larger : RuleBook}
    (hpermitted : ∀ action, larger.isActionPermitted s action = true →
      book.isActionPermitted s action = true)
    (h : e.validate larger s source = .ok ()) : e.validate book s source = .ok () := by
  unfold CardEffect.validate at h ⊢
  obtain ⟨⟨⟩, htemplate, hrequirement⟩ := bind_eq_ok.mp h
  obtain ⟨-, -, -, -, -, -, -, -, haction⟩ := ActivationTemplate.of_validate htemplate
  have htemplate' := ActivationTemplate.validate_of_permitted (hpermitted _ haction) htemplate
  exact bind_eq_ok.mpr ⟨(), htemplate', hrequirement⟩

namespace RuleBook

variable {book larger other : RuleBook}

/-- What the larger book allows, the book allows. -/
structure NoStricterThan (book larger : RuleBook) : Prop where
  action : ∀ s action, larger.isActionPermitted s action = true →
    book.isActionPermitted s action = true
  summon : ∀ s card kind, larger.checkSummon s card kind = .ok () →
    book.checkSummon s card kind = .ok ()
  effect : ∀ (e : CardEffect) s source, e.validate larger s source = .ok () →
    e.validate book s source = .ok ()

theorem NoStricterThan.of_subset (hsubset : book.rules.values ⊆ larger.rules.values) :
    book.NoStricterThan larger := by
  have haction : ∀ s action, larger.isActionPermitted s action = true →
      book.isActionPermitted s action = true := fun s action h =>
    isActionPermitted_iff.mpr ((isActionPermitted_iff.mp h).of_subset hsubset)
  refine ⟨haction, fun s card kind h => ?_, fun e s source h => ?_⟩
  · obtain ⟨hcondition, hpermission⟩ := checkSummon_eq_ok_iff.mp h
    exact checkSummon_eq_ok_iff.mpr
      ⟨hcondition.of_subset hsubset, hpermission.of_subset hsubset⟩
  · exact CardEffect.validate_of_permitted (haction s) h

/-- Two books give the same verdicts. -/
structure SameVerdicts (book other : RuleBook) : Prop where
  action : ∀ s action, book.isActionPermitted s action = other.isActionPermitted s action
  summon : ∀ s card kind, book.summonVerdict s card kind = other.summonVerdict s card kind

theorem SameVerdicts.of_perm (hperm : book.rules.values.Perm other.rules.values) :
    book.SameVerdicts other where
  action s action := by
    rw [Bool.eq_iff_iff, isActionPermitted_iff_not_refuses, isActionPermitted_iff_not_refuses,
      refuses_congr hperm]
  summon s card kind := by
    have hverdict := summonVerdict_spec book s card kind
    rw [refuses_congr hperm, refuses_congr hperm] at hverdict
    exact hverdict.unique (summonVerdict_spec other s card kind)

/-- **Rules only restrict, in any order.** Whatever rules are registered further, all that is
allowed then was allowed before: activations, summons and the use of any effect. Books that hold the
same rules in another order give the same verdicts. An activation is forbidden exactly where a rule
that has a say refuses it; a summon is refused for its conditions where any summon condition that
has a say refuses, otherwise as prohibited where any rule that has a say forbids it. -/
theorem rules_only_restrict (book : RuleBook) :
    (∀ more, book.NoStricterThan (book.registerAll more).1) ∧
      (∀ other, book.rules.values.Perm other.rules.values → book.SameVerdicts other) ∧
      (∀ s action, book.isActionPermitted s action = true ↔
        ¬ book.Refuses .actionPermission s (.action action)) ∧
      ∀ s card kind, SummonVerdict (book.Refuses .summonCondition s (.summon card kind))
        (book.Refuses .summonPermission s (.summon card kind))
        (book.summonVerdict s card kind) := by
  exact ⟨fun more => .of_subset (book.values_subset_registerAll more),
    fun other hperm => .of_perm hperm, fun s action => isActionPermitted_iff_not_refuses,
    summonVerdict_spec book⟩

/-- A rule that always refuses. -/
def forbidding (number : UInt32) (category : RuleCategory) : Rule where
  id := ⟨number⟩
  name := "Forbidding"
  category := category
  canApply _ _ := true
  permits _ _ := false

/-- A permission and a condition that refuse everything, registered in two orders: both times the
condition is what counts. -/
theorem rules_only_restrict_forbidding : ∃ first second : RuleBook,
    RuleBook.empty.registerAll [forbidding 1 .summonPermission, forbidding 2 .summonCondition] =
        (first, none) ∧
      RuleBook.empty.registerAll [forbidding 2 .summonCondition, forbidding 1 .summonPermission] =
        (second, none) ∧
      first.rules.values.Perm second.rules.values ∧
      RuleBook.empty.NoStricterThan first ∧ first.SameVerdicts second ∧
      first.summonVerdict Sequencer.cardless (.new ⟨1⟩ (.spell ⟨1⟩ "Spell" .normal) .hand) .normal =
        .error .conditionsNotMet := by
  obtain ⟨first, hfirst⟩ : ∃ first, RuleBook.empty.registerAll
      [forbidding 1 .summonPermission, forbidding 2 .summonCondition] = (first, none) :=
    ⟨_, Prod.ext rfl (registerAll_accepted_iff.mpr (by decide))⟩
  obtain ⟨second, hsecond, hperm⟩ := exists_registerAll_of_perm (List.Perm.swap _ _ _) hfirst
  obtain ⟨-, hsame, -, hverdict⟩ := rules_only_restrict first
  have hmem : forbidding 2 .summonCondition ∈ first.rules.values := by
    rw [values_registerAll hfirst]
    exact List.mem_append_right _ (List.mem_cons_of_mem _ List.mem_cons_self)
  have hlarger := (rules_only_restrict .empty).1
    [forbidding 1 .summonPermission, forbidding 2 .summonCondition]
  rw [hfirst] at hlarger
  refine ⟨first, second, hfirst, hsecond, hperm, hlarger, hsame second hperm, ?_⟩
  exact (hverdict _ _ _).unique (.conditionsNotMet ⟨_, hmem, rfl, rfl, rfl⟩)

end RuleBook

end SoloDuel
