import SoloDuel.Activation.Template
/-!
# Card effects

An effect of a card: a template, a restriction per turn, a requirement of its own and the steps it
resolves with.

* `CardEffect.validate` — whether a copy may use the effect.
* `CardEffect.activationSteps`, `CardEffect.resolutionSteps` — the steps of an activation.
-/

namespace SoloDuel

/-- An effect of a card. -/
structure CardEffect where
  card : CardId
  template : ActivationTemplate
  /-- How often the effect may be used in a turn. -/
  once : OncePerTurn
  /-- What the effect asks for besides its template. -/
  requirement : Option (Snapshot → InstanceId → Except Refusal Unit) := none
  /-- What the effect does. -/
  resolution : Option (Snapshot → InstanceId → List Step) := none

namespace CardEffect

/-- The restriction of an effect for which another is asked. An ignition effect may always be used
once by each copy. -/
def restriction (template : ActivationTemplate) (asked : OncePerTurn) : OncePerTurn :=
  if template = .ignition then .copy else asked

/-- An effect without requirement that does nothing. -/
def new (card : CardId) (template : ActivationTemplate) (once : OncePerTurn := .unlimited) :
    CardEffect where
  card := card
  template := template
  once := restriction template once

/-- The effect with a requirement. -/
def requiring (e : CardEffect) (requirement : Snapshot → InstanceId → Except Refusal Unit) :
    CardEffect :=
  { e with requirement := some requirement }

/-- The effect with what it does. -/
def resolving (e : CardEffect) (resolution : Snapshot → InstanceId → List Step) : CardEffect :=
  { e with resolution := some resolution }

/-- The category of the effect. -/
def category (e : CardEffect) : EffectCategory := e.template.category

/-- The speed of the effect. -/
def speed (e : CardEffect) : SpellSpeed := e.template.speed

/-- The effect among those of its card. -/
def id (e : CardEffect) : EffectId := ⟨e.card, e.category⟩

/-- Refuses a use of the effect that its template or its own requirement does not allow. -/
def validate (e : CardEffect) (book : RuleBook) (s : Snapshot) (source : InstanceId) :
    Except Refusal Unit := do
  e.template.validate book s source e.id e.once
  match e.requirement with
  | some requirement => requirement s source
  | none => return

/-- The step of a source that no zone holds. It is always refused. -/
def missingSource (source : InstanceId) : Step where
  id := "activate"
  summary := "Activate"
  run _ _ := .error (.missing source)

/-- The steps that put the source into play. -/
def activationSteps (e : CardEffect) (s : Snapshot) (source : InstanceId) : List Step :=
  match s.find? source with
  | some card => e.template.steps card e.id e.once
  | none => [missingSource source]

/-- The steps of what the effect does. A self-contained card goes to the graveyard at the end. -/
def resolutionSteps (e : CardEffect) (s : Snapshot) (source : InstanceId) : List Step :=
  let body :=
    match e.resolution with
    | some resolution => resolution s source
    | none => []
  if e.template.isSelfContained then body ++ [.sendToGraveyard source] else body

/-- All steps of an activation. -/
def steps (e : CardEffect) (s : Snapshot) (source : InstanceId) : List Step :=
  e.activationSteps s source ++ e.resolutionSteps s source

end CardEffect

end SoloDuel
