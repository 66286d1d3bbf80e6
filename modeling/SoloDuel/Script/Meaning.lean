import SoloDuel.Script.Basic
/-!
# What scripts mean

A table gives each kind of condition a check and each kind of instruction a step. A script is
compiled by looking up every kind it uses, so that a kind without a meaning is found out before the
duel and not in the middle of it.

* `ConditionTable.builtin`, `InstructionTable.builtin` — the meanings of the game.
* `Script.compile` — the effect a script stands for.
-/

namespace SoloDuel

/-- Checks a condition for a source. -/
abbrev ConditionCheck := Condition → Snapshot → InstanceId → Except Refusal Unit

/-- The step an instruction stands for, for a source. -/
abbrev InstructionStep := Instruction → InstanceId → Step

/-- The checks of conditions, by kind. -/
abbrev ConditionTable := Registry ConditionKind ConditionCheck

/-- The steps of instructions, by kind. -/
abbrev InstructionTable := Registry InstructionKind InstructionStep

/-! ## The meanings of the game -/

namespace ConditionCheck

/-- The refusal of a check that is given a condition of another kind. -/
def mismatch (expected : ConditionKind) (got : Condition) : Except Refusal Unit :=
  .error (.wrongCondition expected.text got.kind.text)

/-- Enough cards in the hand. -/
def handAtLeast : ConditionCheck
  | .handAtLeast count excludingSource, s, source =>
    let held := (s.zone .hand).countP fun c => !(excludingSource && c.id = source)
    if count.toNat ≤ held then .ok () else .error (.needsHand count held)
  | c, _, _ => mismatch .handAtLeast c

/-- Enough cards in the deck. -/
def deckAtLeast : ConditionCheck
  | .deckAtLeast count, s, _ =>
    if count.toNat ≤ s.count .deck then .ok () else .error (.needsDeck count.toNat (s.count .deck))
  | c, _, _ => mismatch .deckAtLeast c

/-- Enough counters on the source. A source that no zone holds has none. -/
def countersAtLeast : ConditionCheck
  | .countersAtLeast kind count, s, source =>
    let held :=
      match s.find? source with
      | some card => card.counter kind
      | none => 0
    if count ≤ held then .ok () else .error (.needsCounters count kind held)
  | c, _, _ => mismatch .countersAtLeast c

/-- The source face-up on the field. -/
def onField : ConditionCheck
  | .onField, s, source =>
    match s.find? source with
    | some card =>
      if card.isOnField ∧ card.isFaceUp then .ok () else .error (.notFaceUp source)
    | none => .error (.notFaceUp source)
  | c, _, _ => mismatch .onField c

/-- A phase. -/
def inPhase : ConditionCheck
  | .inPhase phase, s, _ => if s.phase = phase then .ok () else .error (.onlyInPhase phase)
  | c, _, _ => mismatch .inPhase c

/-- A card in a zone that a filter means. -/
def zoneHas : ConditionCheck
  | .zoneHas zone filter, s, _ =>
    if (s.zone zone).any filter.accepts then .ok () else .error (.noSuitable zone)
  | c, _, _ => mismatch .zoneHas c

/-- The check of each kind. -/
def ofKind : ConditionKind → ConditionCheck
  | .handAtLeast => handAtLeast
  | .deckAtLeast => deckAtLeast
  | .countersAtLeast => countersAtLeast
  | .onField => onField
  | .inPhase => inPhase
  | .zoneHas => zoneHas

end ConditionCheck

/-- The step an instruction of the game stands for. -/
def Instruction.step : InstructionStep
  | draw count, _ => .draw count
  | drawUntil handSize, _ => .drawUntil handSize
  | discard count, _ => .discard count
  | gainLife side amount, _ => .gainLife side amount
  | loseLife side amount, _ => .loseLife side amount
  | addCounters kind amount limit, source => .addCounters source kind amount limit
  | removeCounters kind amount, source => .removeCounters source kind amount
  | search filter, _ => .search filter
  | addToHand origin filter, _ => .addToHand origin filter
  | sendSourceToGraveyard, source => .sendToGraveyard source

namespace ConditionTable

/-- A table without checks. -/
def empty : ConditionTable := Registry.empty "dsl conditions"

/-- Every kind with the check of the game. -/
def builtin : ConditionTable where
  name := "dsl conditions"
  entries :=
    [(.handAtLeast, ConditionCheck.handAtLeast), (.deckAtLeast, ConditionCheck.deckAtLeast),
      (.countersAtLeast, ConditionCheck.countersAtLeast), (.onField, ConditionCheck.onField),
      (.inPhase, ConditionCheck.inPhase), (.zoneHas, ConditionCheck.zoneHas)]
  distinct := by simp

end ConditionTable

namespace InstructionTable

/-- A table without steps. -/
def empty : InstructionTable := Registry.empty "dsl steps"

/-- Every kind with the step of the game. -/
def builtin : InstructionTable where
  name := "dsl steps"
  entries := InstructionKind.all.map fun kind => (kind, Instruction.step)
  distinct := by decide

end InstructionTable

/-! ## Compiling -/

namespace Script

/-- The effect a script stands for. The fault names the first kind without a meaning, conditions
before instructions. -/
def compile (script : Script) (conditions : ConditionTable) (instructions : InstructionTable) :
    Except RegistryFault CardEffect := do
  let checks ← script.conditions.mapM fun c => do
    let check ← conditions.get c.kind
    return check c
  let body ← script.instructions.mapM fun i => do
    let step ← instructions.get i.kind
    return step i
  return (CardEffect.new script.card script.template script.once)
    |>.requiring (fun s source => checks.forM fun check => check s source)
    |>.resolving (fun _ source => body.map fun step => step source)

end Script

end SoloDuel
