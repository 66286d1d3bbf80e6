import SoloDuel.Proofs.Board.Arranged
import SoloDuel.Proofs.Engine.Reachable
import SoloDuel.Proofs.Engine.Sparing
import SoloDuel.Proofs.Library.Installed
/-!
# Every card is put where it belongs

Summoning, setting and activating each choose a zone for a card on their own. With species made as
one of the three kinds they all choose a zone that is for the card, and nothing else puts a card on
the field.

* `Snapshot.WellPlaced` — every card belongs where it is.
* `WellPlaced.of_leads`, `WellPlaced.spares`, `WellPlaced.relocate` — what keeps it.
* `Engine.Played` — the snapshots of a duel that commands and activations lead to.
* `wellPlaced_of_command`, `lawful_of_activate_wellPlaced` — commands and activations.
* `Engine.zones_typed_of_played` — what the zones on the field hold.
-/

namespace SoloDuel

open Snapshot

/-! ## The zone that is chosen -/

namespace CardData

variable {data : CardData} {zone : ZoneName}

theorem WellFormed.isSpell_of_spellType (h : data.WellFormed) {type : SpellType}
    (htype : data.spellType = some type) : data.isSpell = true := by
  cases h with
  | spell => rfl
  | monster | trap => cases htype

theorem WellFormed.isTrap_of_trapType (h : data.WellFormed) {type : TrapType}
    (htype : data.trapType = some type) : data.isTrap = true := by
  cases h with
  | trap => rfl
  | monster | spell => cases htype

/-- A card that is no monster is set in a zone for it. -/
theorem WellFormed.suits_settingZone (h : data.WellFormed) (hmonster : data.isMonster = false) :
    data.Suits (Engine.settingZone data) := by
  unfold Engine.settingZone
  split
  · rename_i hfield
    exact ⟨h.isSpell_of_spellType hfield, hfield⟩
  · rename_i hfield
    cases h with
    | monster => cases hmonster
    | spell => exact .inr ⟨rfl, hfield⟩
    | trap => exact .inl rfl

/-- A card that fits a template is activated in a zone for it. -/
theorem WellFormed.suits_of_fits (h : data.WellFormed) {t : ActivationTemplate}
    (hzone : t.destination = some zone) (hfits : t.fits data = true) : data.Suits zone := by
  cases t with
  | ignition => cases hzone
  | normalTrap =>
    cases hzone
    exact .inl (h.isTrap_of_trapType (of_decide_eq_true hfits))
  | fieldSpell =>
    cases hzone
    have htype : data.spellType = some .field := of_decide_eq_true hfits
    exact ⟨h.isSpell_of_spellType htype, htype⟩
  | normalSpell | quickPlaySpell | continuousSpell =>
    cases hzone
    have htype := of_decide_eq_true hfits
    refine .inr ⟨h.isSpell_of_spellType htype, ?_⟩
    rw [htype]
    decide

end CardData

/-! ## Well placed cards -/

namespace Snapshot

variable {s t : Snapshot} {id : InstanceId} {card : CardInstance}

/-- Every card is of one of the three kinds and belongs where it is. -/
structure WellPlaced (s : Snapshot) : Prop where
  sound : s.board.Sound
  species : ∀ p ∈ s.board.roster, p.2.WellFormed
  arranged : s.board.Arranged

theorem mem_roster_of_find? (h : s.find? id = some card) : (id, card.data) ∈ s.board.roster := by
  obtain ⟨rfl, name, hcard⟩ := Board.mem_zone_of_find? h
  exact List.mem_map.mpr ⟨(name, card), Board.mem_cards.mpr hcard, rfl⟩

/-- A copy keeps its species. -/
theorem data_eq_of_leads (hleads : Leads s t) (hs : s.board.Sound) {c : CardInstance}
    (hbefore : s.find? id = some card) (hafter : t.find? id = some c) : c.data = card.data := by
  obtain ⟨-, hperm⟩ := hleads.conserves hs
  have hmem : (id, c.data) ∈ s.board.roster := hperm.mem_iff.mp (mem_roster_of_find? hafter)
  have hids : (s.board.roster.map Prod.fst).Nodup := by
    rw [Board.map_fst_roster]
    exact hs.distinct
  have heq := List.inj_on_of_nodup_map hids hmem (mem_roster_of_find? hbefore) rfl
  exact congrArg Prod.snd heq

namespace WellPlaced

theorem wellFormed (h : s.WellPlaced) (hfind : s.find? id = some card) : card.data.WellFormed :=
  h.species _ (mem_roster_of_find? hfind)

/-- Elementary changes that leave the board arranged leave the cards well placed. -/
theorem of_leads (h : s.WellPlaced) (hleads : Leads s t) (harranged : t.board.Arranged) :
    t.WellPlaced := by
  obtain ⟨hsound, hperm⟩ := hleads.conserves h.sound
  exact ⟨hsound, fun p hp => h.species p (hperm.mem_iff.mp hp), harranged⟩

theorem modifyField (h : s.WellPlaced) (id : InstanceId) {g : FieldState → FieldState}
    (hg : FieldState.Steady g) : (s.modifyField id g).WellPlaced := by
  refine h.of_leads (Change.fielded s id g).leads ?_
  rw [modifyField_eq h.sound.distinct]
  exact h.arranged.mapFields_only id hg

/-- A copy that is put into a zone for it, the way cards lie there, is well placed. -/
theorem relocate (h : s.WellPlaced) {target origin : ZoneName} {placement : Placement}
    (hmove : s.relocate id target placement = .ok (origin, t))
    (hfits : ∀ card, s.find? id = some card → card.data.Suits target)
    (hlies : placement.fresh.LiesIn target) : t.WellPlaced := by
  refine h.of_leads (Change.relocated hmove).leads ?_
  obtain ⟨card, hfind, -, -, rfl⟩ := (relocate_eq_ok_iff h.sound.distinct).mp hmove
  exact h.arranged.relocated (CardInstance.belongs_movedTo (hfits card hfind) hlies)

/-- **What brings nothing onto the field leaves the cards well placed.** -/
theorem sparing (h : s.WellPlaced) {touched : InstanceId → Prop} (hst : Sparing touched s t) :
    t.WellPlaced := by
  cases hst with
  | withdrawn hmove htarget =>
    exact h.relocate hmove (fun card _ => card.data.suits_of_not_isOnField htarget)
      (FieldState.liesIn_of_not_isOnField _ htarget)
  | counted kind count => exact h.modifyField _ (FieldState.steady_setCounter kind count)
  | shuffled =>
    refine h.of_leads (Change.shuffled s).leads (h.arranged.of_perm ?_)
    exact s.board.shuffleDeck_perm (Generator.ofState s.rng)
  | life life => exact h.of_leads (Change.life s life).leads h.arranged

theorem spares (h : s.WellPlaced) {touched : InstanceId → Prop} (hst : Spares touched s t) :
    t.WellPlaced := by
  induction hst with
  | refl => exact h
  | tail _ hstep ih => exact ih.sparing hstep

theorem moveToField (h : s.WellPlaced) {target : ZoneName} {placement : Placement} {out : Outcome}
    (hmove : s.moveToField id target placement = .ok out)
    (hfits : ∀ card, s.find? id = some card → card.data.Suits target)
    (hlies : placement.fresh.LiesIn target) : out.state.WellPlaced := by
  rw [Snapshot.moveToField] at hmove
  split at hmove
  · obtain ⟨⟨origin, next⟩, hrelocate, hout⟩ := bind_eq_ok.mp hmove
    cases hout
    have hplaced : next.WellPlaced := h.relocate hrelocate hfits hlies
    exact hplaced
  · cases hmove

theorem setCard (h : s.WellPlaced) {target : ZoneName} {placement : Placement} {out : Outcome}
    (hset : s.setCard id target placement = .ok out)
    (hfits : ∀ card, s.find? id = some card → card.data.Suits target)
    (hlies : placement.fresh.LiesIn target) : out.state.WellPlaced := by
  obtain ⟨moved, hmove, hout⟩ := bind_eq_ok.mp hset
  cases hout
  exact (h.moveToField hmove hfits hlies).modifyField id FieldState.steady_placed

theorem beginTurn (h : s.WellPlaced) : s.beginTurn.WellPlaced := by
  refine h.of_leads (Change.turn s).leads ?_
  rw [board_beginTurn h.sound]
  exact h.arranged.mapFields fun _ => FieldState.steady_resetForTurn

theorem advancePhase (h : s.WellPlaced) : s.advancePhase.WellPlaced := by
  unfold Snapshot.advancePhase
  split
  · exact h
  · split
    · have hbegun := h.beginTurn
      exact hbegun.of_leads (Change.phase s.beginTurn _).leads hbegun.arranged
    · exact h.of_leads (Change.phase s _).leads h.arranged

theorem advanceWithin (h : s.WellPlaced) (target : Phase) (n : Nat) :
    (s.advanceWithin target n).WellPlaced := by
  induction n generalizing s with
  | zero => exact h
  | succ n ih =>
    unfold Snapshot.advanceWithin
    split
    · exact h
    · exact ih h.advancePhase

end WellPlaced

/-- Whatever brings nothing onto the field, and deciding the duel, leaves the cards well placed. -/
theorem clears_wellPlaced : Clears fun s t => s.WellPlaced → t.WellPlaced where
  trans := fun hst htu hs => htu (hst hs)
  spares := fun hst hs => hs.spares hst
  decided := fun s winner reason hongoing hs =>
    hs.of_leads (Change.decided s winner reason hongoing).leads hs.arranged

end Snapshot

namespace Engine

variable {e : Engine} {s : Snapshot} {out : Outcome} {scripts : Script → Prop}

/-! ## Commands -/

theorem wellPlaced_of_summonFromHand (hs : s.WellPlaced) {id : InstanceId} {kind : SummonKind}
    {placement : Placement} {verb : String} (hlies : placement.fresh.LiesIn .monsterZone)
    (h : e.summonFromHand s id kind placement verb = .ok out) : out.state.WellPlaced := by
  obtain ⟨card, set, hfind, hmonster, -, hset, hout⟩ := exists_of_summonFromHand h
  have hplaced : set.state.WellPlaced := by
    refine hs.setCard hset (fun c hc => ?_) hlies
    rw [hfind] at hc
    cases hc
    exact hmonster
  rw [hout]
  exact hplaced.of_leads (Change.summonUsed set.state).leads hplaced.arranged

/-- **A command puts cards only where they belong.** -/
theorem wellPlaced_of_command (he : e.Stocked scripts) (hs : s.WellPlaced) {c : Command}
    (h : c.perform e s = .ok out) : out.state.WellPlaced := by
  have hbook : e.book.Replaces fun s t => s.WellPlaced → t.WellPlaced :=
    he.replaces_spares.mono fun hst hs => hs.spares hst
  cases c with
  | advancePhase =>
    cases h
    exact hs.advancePhase
  | advanceTo phase =>
    cases h
    exact hs.advanceWithin phase 4
  | drawForTurn | settle | evaluateVictory | destroy | applySelfDestruction =>
    exact of_clearing clears_wellPlaced hbook rfl h hs
  | normalSummon id =>
    have hlies : Placement.attack.fresh.LiesIn .monsterZone := ⟨rfl, fun h => by cases h⟩
    exact wellPlaced_of_summonFromHand hs hlies h
  | setMonster id =>
    have hlies : Placement.setMonster.fresh.LiesIn .monsterZone := ⟨rfl, fun _ => rfl⟩
    exact wellPlaced_of_summonFromHand hs hlies h
  | specialSummon id =>
    obtain ⟨card, moved, hfind, hmonster, hmove, hout⟩ := exists_of_specialSummon h
    rw [hout]
    refine hs.moveToField hmove (fun c hc => ?_) ⟨rfl, fun h => by cases h⟩
    rw [hfind] at hc
    cases hc
    exact hmonster
  | setSpellTrap id =>
    obtain ⟨card, hfind, hmonster, hset⟩ := e.exists_of_setSpellTrap h
    have hlies : Placement.set.fresh.LiesIn (settingZone card.data) := by
      unfold settingZone
      split <;> rfl
    refine hs.setCard hset (fun c hc => ?_) hlies
    rw [hfind] at hc
    cases hc
    exact (hs.wellFormed hfind).suits_settingZone hmonster

end Engine

/-! ## Activations -/

namespace Snapshot

variable {s u : Snapshot} {t : ActivationTemplate} {source : InstanceId}

/-- The cards are well placed, and the source of an activation fits its template. -/
structure Fitting (t : ActivationTemplate) (source : InstanceId) (s : Snapshot) : Prop
    extends WellPlaced s where
  present : ∃ card, s.find? source = some card
  fits : ∀ card, s.find? source = some card → t.fits card.data = true

/-- Every copy on a sound board stays on the board. -/
theorem exists_find?_of_leads (hleads : Leads s u) (hs : s.board.Sound) {card : CardInstance}
    {id : InstanceId} (h : s.find? id = some card) : ∃ c, u.find? id = some c := by
  obtain ⟨hsound, hperm⟩ := hleads.conserves hs
  have hmem : (id, card.data) ∈ u.board.roster := hperm.mem_iff.mpr (mem_roster_of_find? h)
  obtain ⟨p, hp, heq⟩ := List.mem_map.mp hmem
  obtain ⟨rfl, -⟩ := Prod.mk.inj heq
  exact ⟨p.2, Board.find?_of_mem hsound.distinct (Board.mem_cards.mp hp)⟩

/-- The species of a copy never changes, so that the source still fits when its turn comes. -/
theorem Fitting.of_leads (h : s.Fitting t source) (hleads : Leads s u) (hu : u.WellPlaced) :
    u.Fitting t source := by
  obtain ⟨card, hcard⟩ := h.present
  refine ⟨hu, exists_find?_of_leads hleads h.sound hcard, fun c hc => ?_⟩
  rw [data_eq_of_leads hleads h.sound hcard hc]
  exact h.fits card hcard

theorem Fitting.spares (h : s.Fitting t source) {touched : InstanceId → Prop}
    (hsu : Spares touched s u) : u.Fitting t source :=
  h.of_leads hsu.handles.leads (h.toWellPlaced.spares hsu)

/-- **A source that fits its template is put where it belongs.** -/
theorem Fitting.enterPlay (h : s.Fitting t source) {card : CardInstance} {out : Outcome}
    (hfind : s.find? source = some card)
    (henter : ActivationTemplate.enterPlay t.destination s card = .ok out) :
    out.state.WellPlaced := by
  obtain ⟨rfl, -⟩ := mem_zone_of_find? h.sound hfind
  unfold ActivationTemplate.enterPlay at henter
  split at henter
  · -- off the field the source is moved to the zone of its template
    rename_i zone hzone hfield
    have hsuits : ∀ c, s.find? card.id = some c → c.data.Suits zone := fun c hc =>
      (h.wellFormed hc).suits_of_fits hzone (h.fits c hc)
    refine h.toWellPlaced.moveToField henter hsuits ?_
    cases t <;> cases hzone <;> rfl
  · cases henter
    exact h.toWellPlaced
  · -- on the field it is turned face-up
    split at henter
    · cases henter
      exact h.toWellPlaced
    · rename_i hfield hface
      simp only [flipFaceUp, hfind, if_pos hfield] at henter
      cases henter
      exact h.toWellPlaced.modifyField card.id FieldState.steady_faceUp

theorem WellPlaced.mark (h : s.WellPlaced) (source : InstanceId) (effect : EffectId)
    (once : OncePerTurn) : (ActivationTemplate.mark s source effect once).WellPlaced := by
  refine h.of_leads (ActivationTemplate.leads_mark s source effect once) ?_
  rcases ActivationTemplate.board_mark h.sound source effect once with hboard | hboard
  · rw [hboard]
    exact h.arranged
  · rw [hboard]
    exact h.arranged.mapFields_only source (FieldState.steady_markActivated effect)

end Snapshot

/-- The step that puts a source into play leaves the cards well placed. -/
theorem ActivationTemplate.activate_fitting (t : ActivationTemplate) (name : String)
    (source : InstanceId) (effect : EffectId) (once : OncePerTurn) :
    (t.activate name source effect once).Respects fun s u =>
      s.Fitting t source → u.Fitting t source := by
  intro s chosen out hrun hs
  refine hs.of_leads (t.activate_respects name source effect once s chosen out hrun) ?_
  obtain ⟨card, entered, hfind, henter, hout⟩ := exists_enterPlay_of_activate hrun
  rw [hout]
  exact (hs.enterPlay hfind henter).mark source effect once

namespace Engine

variable {e : Engine} {deck : List CardId} {s : Snapshot} {scripts : Script → Prop}

/-- **Every step of an activation leaves the cards well placed.** -/
theorem exists_fitting_of_activate (he : e.Stocked scripts) (hs : s.WellPlaced)
    {source : InstanceId} {category : EffectCategory} {q : Sequencer}
    (h : e.activate s source category = .ok (.ready q)) :
    ∃ t, s.Fitting t source ∧
      q.Lawful (fun s u => s.Fitting t source → u.Fitting t source) s := by
  obtain ⟨card, effect, -, hvalid, hlawful⟩ := he.exists_lawful_of_activate h
  obtain ⟨⟨⟩, htemplate, -⟩ := bind_eq_ok.mp hvalid
  obtain ⟨-, c, hc, -, -, hfits, -⟩ := ActivationTemplate.of_validate htemplate
  refine ⟨effect.template, ⟨hs, ⟨c, hc⟩, fun c' hc' => ?_⟩, hlawful _ (fun hst hs => hs.spares hst)
    (ActivationTemplate.activate_fitting _ _ _ _ _)⟩
  rw [hc] at hc'
  cases hc'
  exact hfits

/-! ## The whole duel -/

/-- The snapshots of a duel that is played by commands and activations only. -/
inductive Played (e : Engine) (deck : List CardId) : Snapshot → Prop
  | opening {s : Snapshot} : e.newGame deck = .ok s → Played e deck s
  | command {s : Snapshot} {c : Command} {out : Outcome} : Played e deck s →
      c.perform e s = .ok out → Played e deck out.state
  | activation {s : Snapshot} {source : InstanceId} {category : EffectCategory}
      {q q' : Sequencer} {fuel : Nat} {calls : List SequencerCall} {log : CallLog} :
      Played e deck s → e.activate s source category = .ok (.ready q) →
      q.play fuel calls = some (q', log) → Played e deck q'.state
  | answer {s t : Snapshot} {source : InstanceId} {category : EffectCategory}
      {q q' : Sequencer} {fuel : Nat} {calls : List SequencerCall} {log : CallLog}
      {c : SequencerCall} {a : SequencerAnswer} :
      Played e deck s → e.activate s source category = .ok (.ready q) →
      q.play fuel calls = some (q', log) → (c, .ok a) ∈ log → a.state? = some t →
      Played e deck t

/-- A duel opens with nothing on the field, and with the species of the catalog. -/
theorem wellPlaced_of_newGame (hcards : ∀ card ∈ e.catalog.values, card.WellFormed)
    (h : e.newGame deck = .ok s) : s.WellPlaced := by
  refine ⟨(opening_spec h).1, fun p hp => ?_, fun name card hcard => ?_⟩
  · obtain ⟨card, -, hget⟩ := exists_lookup_of_opening h hp
    exact hcards p.2 (Registry.mem_values_of_get hget)
  · cases hname : name.isOnField with
    | false => exact card.belongs_of_not_isOnField hname
    | true =>
      have hempty : s.board.zone name = [] := opening_zone_eq_nil h hname
      rw [hempty] at hcard
      cases hcard

/-- Commands and activations put cards only where they belong. -/
theorem wellPlaced_of_played (he : e.Stocked scripts)
    (hcards : ∀ card ∈ e.catalog.values, card.WellFormed) (h : e.Played deck s) :
    s.WellPlaced := by
  induction h with
  | opening hopening => exact wellPlaced_of_newGame hcards hopening
  | command _ hperform ih => exact wellPlaced_of_command he ih hperform
  | activation _ hactivate hplay ih =>
    obtain ⟨t, hfitting, hlawful⟩ := exists_fitting_of_activate he ih hactivate
    have hplayed := Sequencer.lawful_of_play (fun _ h => h) (fun hst htu hs => htu (hst hs))
      hlawful hplay
    exact (hplayed.1.state hfitting).toWellPlaced
  | answer _ hactivate hplay hmem hstate ih =>
    obtain ⟨t, hfitting, hlawful⟩ := exists_fitting_of_activate he ih hactivate
    have hplayed := Sequencer.lawful_of_play (fun _ h => h) (fun hst htu hs => htu (hst hs))
      hlawful hplay
    exact (hplayed.2 _ _ _ hmem hstate hfitting).toWellPlaced

/-- On a well placed board a card on the field lies the way cards lie in its zone. -/
theorem exists_field_of_wellPlaced (hs : s.WellPlaced) {name : ZoneName}
    (hname : name.isOnField = true) {c : CardInstance} (hc : c ∈ s.zone name) :
    c.data.Suits name ∧ ∃ state, c.field = some state ∧ state.LiesIn name := by
  have hfield : c.isOnField = true := (hs.sound.fielded name c hc).trans hname
  obtain ⟨state, hstate⟩ := Option.isSome_iff_exists.mp hfield
  have hbelongs := hs.arranged name c hc
  exact ⟨hbelongs.suits, state, hstate, hbelongs.lies state hstate⟩

/-- **The zones on the field hold what they are for.** With species made as one of the three kinds,
whatever commands and activations do: the monster zone holds monsters only, each in a battle
position, and face-down only in defense; the field zone holds field spells only and the spell/trap
zone traps and other spells only, all of them in no battle position. -/
theorem zones_typed_of_played (he : e.Filled scripts)
    (hcards : ∀ card ∈ e.catalog.values, card.WellFormed) (h : e.Played deck s) :
    (∀ c ∈ s.zone .monsterZone, c.data.isMonster = true ∧ ∃ state position,
      c.field = some state ∧ state.position = some position ∧
        (state.face = .down → position = .defense)) ∧
    (∀ c ∈ s.zone .fieldZone, (c.data.isSpell = true ∧ c.data.spellType = some .field) ∧
      ∃ state, c.field = some state ∧ state.position = none) ∧
    (∀ c ∈ s.zone .spellTrapZone,
      (c.data.isTrap = true ∨ c.data.isSpell = true ∧ c.data.spellType ≠ some .field) ∧
        ∃ state, c.field = some state ∧ state.position = none) := by
  have hs := wellPlaced_of_played he.stocked hcards h
  refine ⟨fun c hc => ?_, fun c hc => ?_, fun c hc => ?_⟩
  · obtain ⟨hmonster, state, hstate, hsome, hdown⟩ := exists_field_of_wellPlaced hs rfl hc
    obtain ⟨position, hposition⟩ := Option.isSome_iff_exists.mp hsome
    refine ⟨hmonster, state, position, hstate, hposition, fun hface => ?_⟩
    have hdefense := hdown hface
    rw [hposition] at hdefense
    exact Option.some.inj hdefense
  · exact exists_field_of_wellPlaced hs rfl hc
  · exact exists_field_of_wellPlaced hs rfl hc

/-! ### A duel with every zone in use -/

/-- Performs commands one after another, up to the first one refused. -/
def performEach (e : Engine) (commands : List Command) (s : Snapshot) : Except Refusal Snapshot :=
  commands.foldlM (fun s c => (c.perform e s).map (·.state)) s

/-- Commands that are not refused go on with the duel. -/
theorem Played.commands {t : Snapshot} {commands : List Command} (hs : e.Played deck s)
    (h : e.performEach commands s = .ok t) : e.Played deck t := by
  refine foldlM_induction (P := e.Played deck) (fun u c v hu hv => ?_) hs h
  obtain ⟨out, hout, rfl⟩ := exists_of_map_eq_ok hv
  exact .command hu hout

/-- The deck keeps its order, and three cards are drawn. -/
def unshuffledThree : DuelConfig := { openingHand := 3, shuffleOnStart := false }

/-- A monster, a trap and a field spell on top of another card. -/
def oneOfEach : List CardId :=
  [Passcode.potOfGreed, Passcode.harpieLady, Passcode.jarOfGreed, Passcode.yami]

/-- With a monster, a trap and a field spell set, each lies in the zone it belongs in. -/
theorem zones_typed_with_one_of_each :
    ∃ s, (Library.engine unshuffledThree).Played oneOfEach s ∧
      (s.count .monsterZone, s.count .fieldZone, s.count .spellTrapZone) = (1, 1, 1) ∧
      (∀ c ∈ s.zone .monsterZone, c.data.isMonster = true ∧ ∃ state position,
        c.field = some state ∧ state.position = some position ∧
          (state.face = .down → position = .defense)) ∧
      (∀ c ∈ s.zone .fieldZone, (c.data.isSpell = true ∧ c.data.spellType = some .field) ∧
        ∃ state, c.field = some state ∧ state.position = none) ∧
      (∀ c ∈ s.zone .spellTrapZone,
        (c.data.isTrap = true ∨ c.data.isSpell = true ∧ c.data.spellType ≠ some .field) ∧
          ∃ state, c.field = some state ∧ state.position = none) := by
  have hrun : (((Library.engine unshuffledThree).newGame oneOfEach).toOption.bind fun s =>
      ((Library.engine unshuffledThree).performEach [.advanceTo .main,
        .setMonster (Board.entryId 1), .setSpellTrap (Board.entryId 2),
        .setSpellTrap (Board.entryId 3)] s).toOption.map fun t =>
          (t.count .monsterZone, t.count .fieldZone, t.count .spellTrapZone)) = some (1, 1, 1) := by
    decide +kernel
  obtain ⟨s₀, hopening, hrun⟩ := Option.bind_eq_some_iff.mp hrun
  obtain ⟨t, hcommands, hcounts⟩ := Option.map_eq_some_iff.mp hrun
  have hopened : (Library.engine unshuffledThree).Played oneOfEach s₀ :=
    .opening (eq_ok_of_toOption hopening)
  have hplayed := hopened.commands (eq_ok_of_toOption hcommands)
  have hfilled := filled_library (fun _ => False) unshuffledThree
  have hcards : ∀ card ∈ (Library.engine unshuffledThree).catalog.values, card.WellFormed := by
    rw [Library.catalog_values_engine]
    exact Library.wellFormed_cards
  exact ⟨t, hplayed, hcounts, zones_typed_of_played hfilled hcards hplayed⟩

end Engine

end SoloDuel
