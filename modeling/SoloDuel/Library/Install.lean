import SoloDuel.Engine.Basic
import SoloDuel.Library.Cards
import SoloDuel.Library.Rules
/-!
# The built-in library

Fills an engine with the built-in cards, effects, rules and triggers.
-/

namespace SoloDuel.Library

/-- Everything the library registers, in order. -/
def registrations : List (Registration RegistryFault Engine) :=
  cards.map (fun card e => e.registerCard card) ++
    spellEffects.map (fun effect e => e.registerEffect effect) ++
    [fun e => e.registerScript intoTheVoidScript,
      fun e => e.registerEffect royalMagicalLibraryEffect,
      fun e => e.registerTrigger libraryTrigger] ++
    rules.map (fun rule e => e.registerRule rule) ++
    [fun e => e.registerTrigger citadelTrigger]

/-- Adds the library to an engine, up to the first registration refused. What was added before it
stays; its fault is handed back. -/
def install (e : Engine) : Engine × Option RegistryFault := registerEach registrations e

/-- An engine with the library and nothing else. In an empty engine nothing is refused. -/
def engine (config : DuelConfig) : Engine := (install (.bare config)).1

end SoloDuel.Library
