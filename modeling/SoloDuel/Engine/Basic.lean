import SoloDuel.Activation.Table
import SoloDuel.Card.Catalog
import SoloDuel.Rule.Victory
import SoloDuel.Script.Meaning
import SoloDuel.Sequencer
import SoloDuel.Snapshot.Opening
/-!
# The engine

Everything a duel is played with: the configuration, the cards, their effects, the rules and the
meanings of scripts. An engine is filled before the duel and only read afterwards, so one engine
serves any number of duels.

* `Engine.register…` — filling an engine.
* `Engine.newGame` — the opening of a duel.
* `Engine.canActivate`, `Engine.activate` — activations.
* `Engine.settle` — what follows once an activation is done.
-/

namespace SoloDuel

/-- Everything a duel is played with. -/
structure Engine where
  config : DuelConfig
  catalog : CardCatalog
  effects : EffectTable
  book : RuleBook
  conditions : ConditionTable
  instructions : InstructionTable

/-- What comes of trying to activate an effect. -/
inductive Activation where
  /-- The effect may be activated; the sequencer plays it out. -/
  | ready (sequencer : Sequencer)
  | refused (refusal : Refusal)

namespace Engine

/-- An engine without cards, effects and rules, in which scripts have their meaning of the game. -/
def bare (config : DuelConfig) : Engine where
  config := config
  catalog := .empty
  effects := .empty
  book := .empty
  conditions := .builtin
  instructions := .builtin

/-! ## Filling an engine -/

/-- Adds a species. -/
def registerCard (e : Engine) (card : CardData) : Engine × Option RegistryFault :=
  let (catalog, fault) := CardCatalog.register e.catalog card
  ({ e with catalog := catalog }, fault)

/-- Adds an effect. -/
def registerEffect (e : Engine) (effect : CardEffect) : Engine × Option RegistryFault :=
  let (effects, fault) := e.effects.register effect
  ({ e with effects := effects }, fault)

/-- Compiles a script and adds its effect. -/
def registerScript (e : Engine) (script : Script) : Engine × Option RegistryFault :=
  match script.compile e.conditions e.instructions with
  | .ok effect => e.registerEffect effect
  | .error fault => (e, some fault)

/-- Adds a rule. -/
def registerRule (e : Engine) (rule : Rule) : Engine × Option RegistryFault :=
  let (book, fault) := e.book.register rule
  ({ e with book := book }, fault)

/-- Adds a trigger. -/
def registerTrigger (e : Engine) (t : Trigger) : Engine × Option RegistryFault :=
  let (book, fault) := e.book.registerTrigger t
  ({ e with book := book }, fault)

/-! ## Playing -/

/-- The opening of a duel with a deck list. -/
def newGame (e : Engine) (deck : List CardId) : Except EngineFault Snapshot :=
  Snapshot.opening e.config e.catalog.get deck

/-- The effect of a category that a copy's card has. -/
def effectOf (e : Engine) (s : Snapshot) (source : InstanceId) (category : EffectCategory) :
    Except EngineFault CardEffect :=
  match s.find? source with
  | none => .error (.unknownInstance source)
  | some card => (e.effects.get card.cardId category).mapError .registry

/-- Whether a copy may activate an effect. The outer fault says that there is no such copy or no
such effect. -/
def canActivate (e : Engine) (s : Snapshot) (source : InstanceId) (category : EffectCategory) :
    Except EngineFault (Except Refusal Unit) := do
  let effect ← e.effectOf s source category
  return effect.validate e.book s source

/-- Tries to activate an effect of a copy. -/
def activate (e : Engine) (s : Snapshot) (source : InstanceId) (category : EffectCategory) :
    Except EngineFault Activation := do
  let effect ← e.effectOf s source category
  match effect.validate e.book s source with
  | .error refusal => return .refused refusal
  | .ok () => return .ready (.new s (effect.steps s source) e.book.collect)

/-- The snapshot with its result brought up to date. -/
def evaluateVictory (e : Engine) (s : Snapshot) (drawDue : Bool) : Snapshot :=
  e.book.settleResult s drawDue

/-- Has cards destroy themselves as the rules say and brings the result up to date. -/
def settle (e : Engine) (s : Snapshot) : Except Refusal Snapshot := do
  let out ← e.book.applySelfDestruction s
  return e.evaluateVictory out.state false

end Engine

end SoloDuel
