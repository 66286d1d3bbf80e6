import SoloDuel.Card.Catalog
import SoloDuel.Proofs.Registry.Listing
import SoloDuel.Proofs.Registry.Registrations
/-!
# The first registration wins

A table is a map in which the first registration of an identifier stands and later ones are refused.
Its views are ascending, whatever the order of the registrations. Registering a list of cards stops
at the first passcode that is taken and keeps what was registered before.

* `Registry.FirstWins` — what a table says of the series of registrations that filled it.
* `CardCatalog.RegistersUpTo` — what registering a list of cards does.
* `Registry.first_wins` — every series of registrations and every list of cards.
-/

namespace SoloDuel

namespace CardCatalog

variable {catalog next : CardCatalog} {card : CardData} {cards rest registered : List CardData}

/-- No card of a list has a passcode that is registered or that another card of the list has. -/
def Fresh (catalog : CardCatalog) (cards : List CardData) : Prop :=
  (catalog.keys ++ cards.map (·.id)).Nodup

theorem fresh_nil (catalog : CardCatalog) : Fresh catalog [] := by
  rw [Fresh, List.map_nil, List.append_nil]
  exact catalog.distinct

theorem not_fresh_of_mem (h : card.id ∈ catalog.keys) : ¬ Fresh catalog (card :: rest) :=
  fun hfresh => (List.nodup_append.mp hfresh).2.2 _ h _ List.mem_cons_self rfl

/-- A card more in the catalog is a card less in the list. -/
theorem fresh_cons_iff (h : register catalog card = (next, none)) :
    Fresh catalog (card :: rest) ↔ Fresh next rest := by
  rw [Fresh, Fresh, Registry.keys_of_register h, List.map_cons, List.append_cons]

/-- The longest part of a list, from its beginning, that can be registered is registered. Where a
card comes after it, the fault is about its passcode. -/
structure RegistersUpTo (catalog : CardCatalog) (cards registered : List CardData)
    (out : CardCatalog × Option RegistryFault) : Prop where
  name : out.1.name = catalog.name
  entries : out.1.entries = catalog.entries ++ registered.map fun card => (card.id, card)
  part : registered <+: cards
  fresh : Fresh catalog registered
  longest : ∀ more, more <+: cards → Fresh catalog more → more <+: registered
  /-- Nothing is reported where every card is registered. -/
  complete : registered = cards → out.2 = none
  stopped : ∀ card, registered ++ [card] <+: cards →
    out.2 = some (.duplicate catalog.name (Identifier.text card.id))

theorem registerAll_of_accepted (h : register catalog card = (next, none)) :
    registerAll (card :: rest) catalog = registerAll rest next := by
  simp only [registerAll, List.map_cons, registerEach, h]

theorem registerAll_of_refused {fault : RegistryFault}
    (h : register catalog card = (next, some fault)) :
    registerAll (card :: rest) catalog = (next, some fault) := by
  simp only [registerAll, List.map_cons, registerEach, h]

theorem registersUpTo_nil (catalog : CardCatalog) :
    RegistersUpTo catalog [] [] (registerAll [] catalog) where
  name := rfl
  entries := (List.append_nil _).symm
  part := List.prefix_rfl
  fresh := fresh_nil catalog
  longest _ hmore _ := hmore
  complete _ := rfl
  stopped _ hcard := absurd (List.prefix_nil.mp hcard) (List.cons_ne_nil _ _)

/-- A passcode that is taken stops the list before it. -/
theorem registersUpTo_of_taken (h : card.id ∈ catalog.keys) :
    RegistersUpTo catalog (card :: rest) [] (registerAll (card :: rest) catalog) := by
  have hregister : register catalog card = (catalog, some (.duplicate catalog.name _)) :=
    Registry.register_of_mem h
  rw [registerAll_of_refused hregister]
  exact
    { name := rfl
      entries := (List.append_nil _).symm
      part := List.nil_prefix
      fresh := fresh_nil catalog
      longest := fun more hmore hfresh => by
        cases more with
        | nil => exact List.prefix_rfl
        | cons other more =>
          obtain ⟨rfl, -⟩ := List.cons_prefix_cons.mp hmore
          exact absurd hfresh (not_fresh_of_mem h)
      complete := nofun
      stopped := fun other hother => by
        obtain ⟨rfl, -⟩ := List.cons_prefix_cons.mp hother
        rfl }

/-- Any other is registered, and the rest of the list in what that gives. -/
theorem RegistersUpTo.cons (hregister : register catalog card = (next, none))
    (hname : next.name = catalog.name)
    (h : RegistersUpTo next rest registered (registerAll rest next)) :
    RegistersUpTo catalog (card :: rest) (card :: registered)
      (registerAll (card :: rest) catalog) := by
  rw [registerAll_of_accepted hregister]
  exact
    { name := h.name.trans hname
      entries := by
        rw [h.entries, Registry.entries_of_register hregister, List.append_assoc]
        rfl
      part := List.cons_prefix_cons.mpr ⟨rfl, h.part⟩
      fresh := (fresh_cons_iff hregister).mpr h.fresh
      longest := fun more hmore hfresh => by
        cases more with
        | nil => exact List.nil_prefix
        | cons other more =>
          obtain ⟨rfl, hrest⟩ := List.cons_prefix_cons.mp hmore
          exact List.cons_prefix_cons.mpr
            ⟨rfl, h.longest more hrest ((fresh_cons_iff hregister).mp hfresh)⟩
      complete := fun heq => h.complete (List.cons.inj heq).2
      stopped := fun other hother => by
        rw [h.stopped other (List.cons_prefix_cons.mp hother).2, hname] }

/-- **Registering a list stops at the first passcode that is taken.** -/
theorem exists_registersUpTo (catalog : CardCatalog) (cards : List CardData) :
    ∃ registered, RegistersUpTo catalog cards registered (registerAll cards catalog) := by
  induction cards generalizing catalog with
  | nil => exact ⟨[], registersUpTo_nil catalog⟩
  | cons card rest ih =>
    by_cases h : card.id ∈ catalog.keys
    · exact ⟨[], registersUpTo_of_taken h⟩
    · obtain ⟨registered, hrest⟩ := ih (catalog.push card.id card h)
      exact ⟨card :: registered, hrest.cons (Registry.register_of_notMem h) rfl⟩

end CardCatalog

namespace Registry

variable {κ ν : Type} [Identifier κ] [DecidableEq κ] {name : String} {calls : List (κ × ν)}

theorem follows_enter : Follows (enter : κ × ν → _) id id where
  register _ _ := rfl
  atomic call := atomic_register call.1 call.2

/-- A map in which the first registration of an identifier stands, with ascending views. -/
structure FirstWins (name : String) (calls : List (κ × ν)) (r : Registry κ ν) : Prop where
  /-- What is found under an identifier is the first value registered under it. -/
  first : ∀ before key value after, calls = before ++ (key, value) :: after →
    key ∉ before.map Prod.fst → r.get key = .ok value
  /-- The fault about any other identifier names all that there are. -/
  missing : ∀ key, key ∉ calls.map Prod.fst →
    ∃ fault, r.get key = .error fault ∧
      fault = .unknown name (Identifier.text key) (r.ids.map Identifier.text) ∧
      fault.message = name ++ ": unknown identifier " ++ Identifier.text key ++
        " (available: [" ++ ", ".intercalate (r.ids.map Identifier.text) ++ "])"
  ascending : r.ids.Pairwise fun a b => Identifier.rank a < Identifier.rank b
  ids : ∀ key, key ∈ r.ids ↔ key ∈ calls.map Prod.fst
  /-- The entries come in the order of the identifiers, each with what is found under its own. -/
  entries : List.Forall₂ (fun key entry => entry.1 = key ∧ r.get key = .ok entry.2) r.ids r.toList

theorem firstWins_filled (name : String) (calls : List (κ × ν)) :
    FirstWins name calls (filled name calls) where
  first := by
    intro before key value after hcalls hnew
    have hentry : (key, value) ∈ (filled name calls).entries := by
      rw [entries_filled]
      exact mem_firstsBy_iff.mpr ⟨before, after, hcalls, hnew⟩
    exact get_eq_ok (find?_of_mem hentry)
  missing key hkey := by
    have hget := get_eq_error (r := filled name calls) (mt mem_keys_filled.mp hkey)
    rw [name_filled] at hget
    exact ⟨_, hget, rfl, rfl⟩
  ascending := pairwise_ids _
  ids _ := mem_ids.trans mem_keys_filled
  entries := forall₂_toList _

/-- **The first registration wins.** A table that any series of registrations has filled finds under
an identifier the first value registered under it, and lists the identifiers strictly ascending,
each with its value; the fault about any other identifier lists them too, in the same order. A
registration whose identifier is taken is refused as a duplicate and changes nothing; any other is
made. Registering a list of cards registers the longest part of it, from its beginning, in which no
passcode is taken or repeated, and reports the passcode at which it stopped. -/
theorem first_wins (name : String) (calls : List (κ × ν)) :
    FirstWins name calls (filled name calls) ∧
    (∀ key value, key ∈ calls.map Prod.fst →
      (filled name calls).register key value =
        (filled name calls, some (.duplicate name (Identifier.text key))) ∧
      filled name (calls ++ [(key, value)]) = filled name calls) ∧
    (∀ key value, key ∉ calls.map Prod.fst →
      (filled name calls).register key value = (filled name (calls ++ [(key, value)]), none)) ∧
    ∀ (catalog : CardCatalog) cards, ∃ registered,
      catalog.RegistersUpTo cards registered (CardCatalog.registerAll cards catalog) := by
  refine ⟨firstWins_filled name calls, fun key value hkey => ?_, fun key value hkey => ?_,
    CardCatalog.exists_registersUpTo⟩
  · exact ⟨follows_enter.refused (s := empty name) (a := (key, value)) rfl hkey,
      follows_enter.unchanged (a := (key, value)) rfl hkey⟩
  · exact follows_enter.accepted (s := empty name) (a := (key, value)) rfl hkey

/-- Three registrations, the last under an identifier that the first has taken. -/
def probes : List (CardId × String) := [(⟨3⟩, "three"), (⟨1⟩, "one"), (⟨3⟩, "another three")]

/-- The first of the two values stands, and the identifiers come in ascending order. -/
theorem first_wins_probes :
    (filled "probe" probes).get ⟨3⟩ = .ok "three" ∧ (filled "probe" probes).ids = [⟨1⟩, ⟨3⟩] ∧
      (∃ fault, (filled "probe" probes).get ⟨7⟩ = .error fault ∧ fault.id = "Card(7)") ∧
      (filled "probe" probes).register ⟨1⟩ "uno" =
        (filled "probe" probes, some (.duplicate "probe" "Card(1)")) := by
  obtain ⟨hwins, hrefused, -, -⟩ := first_wins "probe" probes
  obtain ⟨fault, hget, rfl, -⟩ := hwins.missing ⟨7⟩ (by decide)
  exact ⟨hwins.first [] ⟨3⟩ "three" _ rfl List.not_mem_nil, by decide, ⟨_, hget, rfl⟩,
    (hrefused ⟨1⟩ "uno" (by decide)).1⟩

end Registry

end SoloDuel
