import Dk64Port.Archipelago.ScoutResults
import Dk64Port.Archipelago.Shops
import Dk64Port.Lib.Run

/-!
# The snapshot of the scouted locations

The handlers build a candidate and publish it at the end, so a message that throws leaves nothing
behind. What is published is sound, and a snapshot can be built from it at any time.

* `ScoutsSound`: the placements are none or those of every selected location, their recipients have a
  slot and an alias, and the names of a game that is known cover its placements.
* `ScoutsSound.snapshot`: the snapshot is defined, with one record for each placement that is named.
* `scouts_complete`: **over every run of messages, the snapshot is defined, its labels are valid, and
  it lists every selected location once the server has answered everything.**
-/

namespace Dk64Port.Archipelago

open ByteLayout (Byte)

/-- What holds between two messages. -/
structure ScoutsSound (s : Scouts) : Prop where
  sorted : s.selected.Pairwise (· < ·)
  nonempty : s.selected ≠ []
  fits : ∀ id ∈ s.selected, 0 ≤ id ∧ id ≤ 4294967295
  placed : s.placements.entries = [] ∨ s.placements.keys = s.selected
  receives : ∀ e ∈ s.placements.entries, s.Receives e.2
  asked : ∀ e ∈ s.placements.entries, ∀ slot, s.slots.find e.2.recipient = some slot →
    s.requestedGames.contains slot.game = true
  idle : s.placements.entries = [] → s.requestedGames.entries = []
  aliases : ShortTexts s.aliases
  names : s.NamesSound s.itemNames

namespace ScoutsSound

open Scouts

variable {t : LocationTable} {s : Scouts}

theorem create {selected : List Int} (h : Scouts.create t selected = some s) :
    ScoutsSound s ∧ s.selected.Perm selected := by
  unfold Scouts.create at h
  dsimp only at h
  split_ifs at h with hbad
  obtain rfl := Option.some.inj h
  simp only [not_or, not_not] at hbad
  obtain ⟨hne, -, hchain, hfits⟩ := hbad
  have hperm := List.mergeSort_perm selected fun a b => decide (a ≤ b)
  have hle : (selected.mergeSort fun a b => decide (a ≤ b)).Pairwise (· ≤ ·) := by
    refine (List.pairwise_mergeSort (fun a b c hab hbc => ?_) (fun a b => ?_) selected).imp
      fun {a b} h => by simpa using h
    · simp only [decide_eq_true_eq] at hab hbc ⊢
      exact le_trans hab hbc
    · simpa using le_total a b
  have hlt : (selected.mergeSort fun a b => decide (a ≤ b)).IsChain (· < ·) := by
    rw [List.isChain_iff_getElem] at hchain ⊢
    intro i hi
    refine lt_of_le_of_ne ?_ (hchain i hi)
    exact List.pairwise_iff_getElem.mp hle i (i + 1) _ _ (Nat.lt_succ_self i)
  refine ⟨⟨List.isChain_iff_pairwise.mp hlt, fun hnil => hne ?_, fun id hid => ?_, .inl rfl,
    fun e he => absurd he List.not_mem_nil, fun e he => absurd he List.not_mem_nil, fun _ => rfl,
    .empty, .empty⟩, hperm⟩
  · exact List.nil_perm.mp (hnil ▸ hperm)
  · exact ⟨(hfits id hid).1, (hfits id hid).2.1⟩

theorem disconnect (h : ScoutsSound s) : ScoutsSound s.disconnect where
  sorted := h.sorted
  nonempty := h.nonempty
  fits := h.fits
  placed := .inl rfl
  receives _ he := absurd he List.not_mem_nil
  asked _ he := absurd he List.not_mem_nil
  idle _ := rfl
  aliases := .empty
  names := .empty

/-- Only the checksums change, and whether there are any. -/
theorem room_eq (s : Scouts) (message : Json) : ∃ checksums metadata,
    (s.room message).1 = { s with checksums := checksums, roomMetadata := metadata } := by
  unfold Scouts.room
  dsimp only
  split
  · exact ⟨_, _, rfl⟩
  · split
    · exact ⟨_, _, rfl⟩
    · exact ⟨_, _, rfl⟩

theorem room (h : ScoutsSound s) (message : Json) : ScoutsSound (s.room message).1 := by
  obtain ⟨checksums, metadata, hroom⟩ := room_eq s message
  rw [hroom]
  exact ⟨h.sorted, h.nonempty, h.fits, h.placed, h.receives, h.asked, h.idle, h.aliases,
    ⟨h.names.requested, h.names.covers, h.names.short⟩⟩

/-! ## The messages -/

/-- A `connected` that throws, is not for scouts, or starts over. -/
theorem connected_cases (s : Scouts) (message : Json) (team slot : Nat) :
    s.connected message team slot = (s, none) ∨ s.connected message team slot = (s, some [])
      ∨ ∃ slots aliases, ShortTexts aliases ∧ s.connected message team slot =
          ({ s with
              team := team, slots := slots, aliases := aliases, placements := {}, itemNames := {}
              requestedGames := {}, enabled := true }, some [.locationScouts s.selected]) := by
  unfold Scouts.connected
  dsimp only
  split_ifs
  · exact .inr (.inl rfl)
  · exact .inl rfl
  · split
    · exact .inl rfl
    · rename_i slots aliases hparsed
      split_ifs
      · exact .inl rfl
      · simp only [Option.bind_eq_bind, Option.bind_eq_some_iff, Option.pure_def, Option.some.injEq,
          Prod.mk.injEq] at hparsed
        obtain ⟨_, -, _, -, _, -, _, -, _, -, _, haliases, -, rfl⟩ := hparsed
        exact .inr (.inr ⟨_, _, parsedAliases_short haliases, rfl⟩)

theorem connected_started (h : ScoutsSound s) {team : Nat} {slots : SortedMap Nat ScoutSlot}
    {aliases : SortedMap Nat String} (ha : ShortTexts aliases) :
    ScoutsSound { s with
      team := team, slots := slots, aliases := aliases, placements := {}, itemNames := {}
      requestedGames := {}, enabled := true } where
  sorted := h.sorted
  nonempty := h.nonempty
  fits := h.fits
  placed := .inl rfl
  receives _ he := absurd he List.not_mem_nil
  asked _ he := absurd he List.not_mem_nil
  idle _ := rfl
  aliases := ha
  names := .empty

/-- A `location_info` that throws, comes too early, or places every selected location. -/
theorem locationInfo_cases (h : ScoutsSound s) (message : Json) :
    s.locationInfo message = (s, none)
      ∨ s.enabled = false ∧ s.locationInfo message = (s, some [])
      ∨ ∃ parsed requested games, s.enabled = true ∧ ScoutsSound
            { s with placements := parsed, requestedGames := requested }
          ∧ parsed.entries ≠ []
          ∧ (∀ game, requested.contains game = true →
              s.requestedGames.contains game = true ∨ game ∈ games)
          ∧ s.locationInfo message =
            ({ s with placements := parsed, requestedGames := requested },
              some (if games = [] then [] else [.getDataPackage games])) := by
  unfold Scouts.locationInfo
  by_cases hen : s.enabled = true
  · rw [if_neg (by rw [hen]; nofun)]
    split
    · exact .inl rfl
    · rename_i parsed hparsed
      simp only [Option.bind_eq_bind, Option.bind_eq_some_iff] at hparsed
      obtain ⟨_, -, values, -, hparsed⟩ := hparsed
      split_ifs at hparsed with hlen
      have hkeys := keys_placed h.sorted hparsed (not_not.mp hlen)
      have hreceives : ∀ e ∈ parsed.entries, s.Receives e.2 := fun e he =>
        ((placed_keys hparsed).2 e.1 e.2 (SortedMap.mem_entries_iff.mp he)).2
      have hne : parsed.entries ≠ [] := by
        intro hnil
        refine h.nonempty ?_
        rw [← hkeys, SortedMap.keys, hnil, List.map_nil]
      by_cases hsame : s.placements.entries ≠ [] ∧ s.placements.entries ≠ parsed.entries
      · rw [if_pos hsame]
        exact .inl rfl
      · rw [if_neg hsame]
        -- the names are those of the same placements, or there are none yet
        have hnames : Scouts.NamesSound { s with placements := parsed } s.itemNames := by
          refine ⟨h.names.requested, fun game names hfind => ?_, h.names.short⟩
          rcases not_and_or.mp hsame with hnil | heq
          · have hreq := h.names.requested game names hfind
            obtain ⟨_, hfind'⟩ := SortedMap.contains_iff.mp hreq
            have hmem := SortedMap.mem_entries_iff.mpr hfind'
            rw [h.idle (not_not.mp hnil)] at hmem
            exact absurd hmem List.not_mem_nil
          · intro e he
            exact h.names.covers game names hfind e (not_not.mp heq ▸ he)
        obtain ⟨needed, hneeded, hcovers⟩ :=
          neededGames_covers (s := { s with placements := parsed }) hreceives
        dsimp only
        rw [hneeded]
        have hsound : ∀ requested : SortedMap String Unit,
            (∀ game, s.requestedGames.contains game = true ∨ game ∈ needed.keys →
              requested.contains game = true) →
            ScoutsSound { s with placements := parsed, requestedGames := requested } := by
          intro requested hmono
          refine ⟨h.sorted, h.nonempty, h.fits, .inr hkeys, hreceives, fun e he slot hslot => ?_,
            fun hnil => absurd hnil hne, h.aliases, ⟨fun game names hfind => ?_, hnames.covers,
              hnames.short⟩⟩
          · refine hmono _ ?_
            rcases hcovers e he slot hslot with (hknown | hreq) | hneed
            · obtain ⟨names, hfind⟩ := SortedMap.contains_iff.mp hknown
              exact .inl (h.names.requested _ names hfind)
            · exact .inl hreq
            · exact .inr hneed
          · exact hmono game (.inl (h.names.requested game names hfind))
        refine .inr (.inr ?_)
        dsimp only
        split_ifs with hempty
        · refine ⟨parsed, s.requestedGames, [], hen, hsound _ fun game hgame => ?_, hne,
            fun game hgame => .inl hgame, rfl⟩
          refine hgame.resolve_right ?_
          rw [SortedMap.keys, hempty]
          exact List.not_mem_nil
        · refine ⟨parsed, needed.keys.foldl (·.set · ()) s.requestedGames, needed.keys, hen,
            hsound _ fun game hgame => ?_, hne, fun game hgame => ?_, ?_⟩
          · exact contains_foldl_set.mpr hgame
          · exact contains_foldl_set.mp hgame
          · have hkeys' : needed.keys ≠ [] := fun hnil => hempty (List.map_eq_nil_iff.mp hnil)
            rw [if_neg hkeys']
  · rw [Bool.not_eq_true] at hen
    exact .inr (.inl ⟨hen, by rw [hen]; rfl⟩)

/-- The games of a data package. -/
def packageGames (message : Json) : List String :=
  match (do (← message.get "data").get "games") with
  | some (.object fields) => fields.map (·.1)
  | _ => []

/-- A `data_package` that throws, comes too early, or adds its games. -/
theorem dataPackage_cases (h : ScoutsSound s) (message : Json) :
    s.dataPackage message = (s, none) ∨ s.enabled = false ∧ s.dataPackage message = (s, some ())
      ∨ ∃ updated, s.NamesSound updated ∧ s.dataPackage message = ({ s with itemNames := updated }, some ())
          ∧ s.enabled = true ∧ ∀ game, updated.contains game = true ↔
            s.itemNames.contains game = true ∨ game ∈ packageGames message := by
  unfold Scouts.dataPackage
  by_cases hen : s.enabled = true
  · rw [if_neg (by rw [hen]; nofun)]
    split
    · exact .inl rfl
    · rename_i updated hupdated
      simp only [Option.bind_eq_bind, Option.bind_eq_some_iff] at hupdated
      obtain ⟨data, hdata, games, hgames, fields, hfields, hupdated⟩ := hupdated
      obtain ⟨hnames, hmem⟩ := packages_sound h.names hupdated
      refine .inr (.inr ⟨updated, hnames, rfl, hen, ?_⟩)
      have hpackage : packageGames message = fields.map (·.1) := by
        unfold packageGames
        simp only [Option.bind_eq_bind, hdata, Option.bind_some, hgames]
        cases games with
        | object fields' =>
          rw [Json.fieldsUpTo] at hfields
          split_ifs at hfields
          obtain rfl := Option.some.inj hfields
          rfl
        | _ => exact absurd hfields nofun
      rw [hpackage]
      exact hmem
  · rw [Bool.not_eq_true] at hen
    exact .inr (.inl ⟨hen, by rw [hen]; rfl⟩)

theorem packaged (h : ScoutsSound s) {updated : SortedMap String (SortedMap Int String)}
    (hu : s.NamesSound updated) : ScoutsSound { s with itemNames := updated } :=
  ⟨h.sorted, h.nonempty, h.fits, h.placed, h.receives, h.asked, h.idle, h.aliases,
    ⟨hu.requested, hu.covers, hu.short⟩⟩

/-- A `room_update` that throws, says nothing, or renames players. -/
theorem roomUpdate_cases (h : ScoutsSound s) (message : Json) :
    s.roomUpdate message = (s, none) ∨ ∃ aliases, ScoutsSound { s with aliases := aliases }
      ∧ s.roomUpdate message = ({ s with aliases := aliases }, some ()) := by
  unfold Scouts.roomUpdate
  split_ifs
  · exact .inr ⟨s.aliases, h, rfl⟩
  · split
    · exact .inl rfl
    · rename_i aliases _ hrenamed
      simp only [Option.bind_eq_bind, Option.bind_eq_some_iff] at hrenamed
      obtain ⟨_, -, values, -, hrenamed⟩ := hrenamed
      obtain ⟨hshort, hmono⟩ := renamed_sound h.aliases hrenamed
      refine .inr ⟨aliases, ⟨h.sorted, h.nonempty, h.fits, h.placed, fun e he => ?_, h.asked, h.idle,
        hshort, ⟨h.names.requested, h.names.covers, h.names.short⟩⟩, rfl⟩
      exact ⟨(h.receives e he).1, hmono _ (h.receives e he).2⟩

/-- The name of the item that is placed. -/
def itemName (s : Scouts) (placement : Placement) : Option String :=
  (s.slots.find placement.recipient).bind fun slot =>
    (s.itemNames.find slot.game).bind (·.find placement.item)

/-- A label of a snapshot is valid, and of a location of its own among the placed ones. -/
structure LabelsSound (placed : List Int) (labels : List ShopLabel) : Prop where
  valid : ∀ label ∈ labels, labelValid label = true
  placed : (labels.map (·.location)).Sublist (placed.map (BitVec.ofInt 32))

/-- One placement: its record when it is named, and its label when it is sold. -/
theorem resolve_spec (h : ScoutsSound s) {location : Int} {placement : Placement}
    (he : (location, placement) ∈ s.placements.entries) (result : ScoutSnapshot) :
    ∃ records labels, s.resolve t result (location, placement) = some
        { result with
          locations := result.locations ++ records, shopLabels := result.shopLabels ++ labels }
      ∧ records.map (·.location) = (if (itemName s placement).isSome then [location] else [])
      ∧ LabelsSound [location] labels := by
  have hreceives := h.receives _ he
  obtain ⟨slot, hslot⟩ := SortedMap.contains_iff.mp hreceives.1
  obtain ⟨recipientName, halias⟩ := SortedMap.contains_iff.mp hreceives.2
  unfold Scouts.resolve itemName
  simp only [Option.bind_eq_bind, hslot, Option.bind_some]
  cases hname : (s.itemNames.find slot.game).bind (·.find placement.item) with
  | none =>
    refine ⟨[], [], ?_, rfl, ⟨nofun, List.nil_sublist _⟩⟩
    rw [List.append_nil, List.append_nil]
    rfl
  | some itemName =>
    obtain ⟨names, hnames, hitem⟩ := Option.bind_eq_some_iff.mp hname
    have hshortItem := h.names.short _ names hnames _ itemName hitem
    have hshortName := h.aliases _ recipientName halias
    simp only [halias, Option.bind_some]
    obtain ⟨record, hrecord⟩ : ∃ record : ScoutRecord, record =
        { location := location, item := placement.item, recipient := placement.recipient
          flags := placement.flags, game := slot.game, itemName := itemName
          recipientName := recipientName } := ⟨_, rfl⟩
    have hlocation : record.location = location := by rw [hrecord]
    rw [← hrecord]
    split
    · rename_i hshop
      obtain ⟨label, hlabel⟩ := makeShopLabel_defined hshop hshortItem hshortName
      obtain ⟨hvalid, hat⟩ := labelValid_makeShopLabel hlabel
      rw [hlabel]
      refine ⟨[record], [label], rfl, ?_, ⟨fun label' hl => ?_, ?_⟩⟩
      · rw [List.map_singleton, hlocation, Option.isSome_some, if_pos rfl]
      · exact List.mem_singleton.mp hl ▸ hvalid
      · rw [List.map_singleton, List.map_singleton, hat]
    · refine ⟨[record], [], ?_, ?_, ⟨nofun, List.nil_sublist _⟩⟩
      · rw [List.append_nil]
        rfl
      · rw [List.map_singleton, hlocation, Option.isSome_some, if_pos rfl]

/-- **The snapshot is defined, with a record for each placement that is named.** -/
theorem snapshot (h : ScoutsSound s) (t : LocationTable) :
    ∃ snapshot, s.buildSnapshot t = some snapshot
      ∧ (s.enabled = true → snapshot.locations.map (·.location)
          = (s.placements.entries.filter fun e => (itemName s e.2).isSome).map (·.1))
      ∧ LabelsSound s.placements.keys snapshot.shopLabels := by
  unfold Scouts.buildSnapshot
  by_cases hen : s.enabled = true
  · rw [if_neg (by rw [hen]; nofun)]
    obtain ⟨snapshot, hsome, hlocations, hlabels⟩ := PartialFold.foldlM_defined
      (f := s.resolve t) (b := ({ enabled := true } : ScoutSnapshot)) (l := s.placements.entries)
      (I := fun seen (result : ScoutSnapshot) => result.locations.map (·.location)
          = (seen.filter fun e => (itemName s e.2).isSome).map (·.1)
        ∧ LabelsSound (seen.map (·.1)) result.shopLabels)
      (fun seen e result he ⟨hlocations, hlabels⟩ => by
        obtain ⟨records, labels, hresolve, hrecords, hnew⟩ := h.resolve_spec (t := t) he result
        refine ⟨_, hresolve, ?_, ?_, ?_⟩
        · rw [List.map_append, hlocations, hrecords, List.filter_append, List.map_append,
            List.filter_singleton]
          cases (itemName s e.2).isSome <;> rfl
        · intro label hlabel
          exact (List.mem_append.mp hlabel).elim (hlabels.valid label) (hnew.valid label)
        · rw [List.map_append, List.map_append, List.map_append]
          exact hlabels.placed.append hnew.placed)
      ⟨rfl, ⟨nofun, List.Sublist.refl _⟩⟩
    exact ⟨snapshot, hsome, fun _ => hlocations, hlabels⟩
  · rw [Bool.not_eq_true] at hen
    refine ⟨{ enabled := false }, by rw [hen]; rfl, fun h => absurd h (by rw [hen]; nofun), ?_⟩
    exact ⟨nofun, List.nil_sublist _⟩

/-! ## The placed locations -/

theorem keys_sublist (h : ScoutsSound s) : s.placements.keys.Sublist s.selected := by
  rcases h.placed with hnil | hkeys
  · rw [SortedMap.keys, hnil]
    exact List.nil_sublist _
  · exact hkeys ▸ List.Sublist.refl _

/-- A location that fits a word is read back from it. -/
theorem toNat_ofInt {id : Int} (h : 0 ≤ id ∧ id ≤ 4294967295) :
    ((BitVec.ofInt 32 id).toNat : Int) = id := by
  rw [BitVec.toNat_ofInt]
  omega

theorem words_nodup (h : ScoutsSound s) : (s.selected.map (BitVec.ofInt 32)).Nodup := by
  have hnodup : s.selected.Nodup := h.sorted.imp fun {_ _} hlt => ne_of_lt hlt
  refine hnodup.map_on fun a ha b hb heq => ?_
  rw [← toNat_ofInt (h.fits a ha), ← toNat_ofInt (h.fits b hb), heq]

/-- The labels of a snapshot are of different locations, each of them selected. -/
theorem labels_distinct (h : ScoutsSound s) {labels : List ShopLabel}
    (hl : LabelsSound s.placements.keys labels) : (labels.map (·.location)).Nodup
      ∧ ∀ label ∈ labels, (label.location.toNat : Int) ∈ s.selected := by
  have hsub := hl.placed.trans (h.keys_sublist.map (BitVec.ofInt 32))
  refine ⟨hsub.nodup h.words_nodup, fun label hlabel => ?_⟩
  obtain ⟨id, hid, hword⟩ :=
    List.mem_map.mp (hsub.subset (List.mem_map_of_mem (f := (·.location)) hlabel))
  rw [← hword, toNat_ofInt (h.fits id hid)]
  exact hid

/-- A placement whose game is known is named. -/
theorem named (h : ScoutsSound s) {e : Int × Placement} (he : e ∈ s.placements.entries)
    (hknown : ∀ game, s.requestedGames.contains game = true → s.itemNames.contains game = true) :
    (itemName s e.2).isSome = true := by
  obtain ⟨slot, hslot⟩ := SortedMap.contains_iff.mp (h.receives e he).1
  obtain ⟨names, hnames⟩ := SortedMap.contains_iff.mp (hknown _ (h.asked e he slot hslot))
  have hitem := h.names.covers _ names hnames e he slot hslot rfl
  unfold itemName
  rw [hslot, Option.bind_some, hnames]
  exact hitem

end ScoutsSound

/-! ## Runs -/

/-- A message of the server, or the end of a connection. -/
inductive ScoutMessage where
  | room (message : Json)
  | connected (message : Json) (team slot : Nat)
  | locationInfo (message : Json)
  | dataPackage (message : Json)
  | roomUpdate (message : Json)
  | disconnect

/-- The games that a command asks for. -/
def ScoutCommand.games : ScoutCommand → List String
  | .locationScouts _ => []
  | .getDataPackage games => games

/-- The scouts and what was seen on the connection: whether a `location_info` was accepted, the games
that were asked for, and the games of the packages that were accepted. -/
structure ScoutTrace where
  scouts : Scouts
  answered : Bool := false
  requested : List String := []
  delivered : List String := []

namespace ScoutTrace

/-- A message. A `connected` that asks for the locations starts a connection. -/
def step (x : ScoutTrace) : ScoutMessage → ScoutTrace
  | .room message => { x with scouts := (x.scouts.room message).1 }
  | .connected message team slot =>
    match x.scouts.connected message team slot with
    | (s, some (_ :: _)) => { scouts := s }
    | (s, _) => { x with scouts := s }
  | .locationInfo message =>
    let (s, commands) := x.scouts.locationInfo message
    if x.scouts.enabled && commands.isSome then
      { x with
        scouts := s, answered := true
        requested := x.requested ++ (commands.getD []).flatMap (·.games) }
    else { x with scouts := s }
  | .dataPackage message =>
    let (s, done) := x.scouts.dataPackage message
    if x.scouts.enabled && done.isSome then
      { x with scouts := s, delivered := x.delivered ++ ScoutsSound.packageGames message }
    else { x with scouts := s }
  | .roomUpdate message => { x with scouts := (x.scouts.roomUpdate message).1 }
  | .disconnect => { scouts := x.scouts.disconnect }

/-- What the trace knows of the scouts. -/
structure Sound (selected : List Int) (x : ScoutTrace) : Prop where
  scouts : ScoutsSound x.scouts
  selected : x.scouts.selected.Perm selected
  answered : x.answered = true → x.scouts.enabled = true ∧ x.scouts.placements.entries ≠ []
  requested : ∀ game, x.scouts.requestedGames.contains game = true → game ∈ x.requested
  delivered : ∀ game ∈ x.delivered, x.scouts.itemNames.contains game = true

variable {selected : List Int} {x : ScoutTrace}

theorem Sound.connected (h : Sound selected x) (message : Json) (team slot : Nat) :
    Sound selected (x.step (.connected message team slot)) := by
  unfold step
  rcases ScoutsSound.connected_cases x.scouts message team slot with
    hcase | hcase | ⟨slots, aliases, hshort, hcase⟩
  · simp only [hcase]
    exact ⟨h.scouts, h.selected, h.answered, h.requested, h.delivered⟩
  · simp only [hcase]
    exact ⟨h.scouts, h.selected, h.answered, h.requested, h.delivered⟩
  · simp only [hcase]
    exact ⟨h.scouts.connected_started hshort, h.selected, nofun, fun _ hgame => absurd hgame nofun,
      fun _ hgame => absurd hgame List.not_mem_nil⟩

theorem Sound.locationInfo (h : Sound selected x) (message : Json) :
    Sound selected (x.step (.locationInfo message)) := by
  rw [step]
  rcases h.scouts.locationInfo_cases message with
    hcase | ⟨hen, hcase⟩ | ⟨parsed, requested, games, hen, hsound, hne, hgames, hcase⟩
  · rw [hcase]
    dsimp only
    rw [if_neg (by rw [Option.isSome_none, Bool.and_false]; nofun)]
    exact ⟨h.scouts, h.selected, h.answered, h.requested, h.delivered⟩
  · rw [hcase]
    dsimp only
    rw [if_neg (by rw [hen]; nofun)]
    exact ⟨h.scouts, h.selected, h.answered, h.requested, h.delivered⟩
  · rw [hcase]
    dsimp only
    rw [if_pos (by rw [hen]; rfl)]
    refine ⟨hsound, h.selected, fun _ => ⟨hen, hne⟩, fun game hgame => ?_, h.delivered⟩
    rcases hgames game hgame with hold | hnew
    · exact List.mem_append_left _ (h.requested game hold)
    · refine List.mem_append_right _ ?_
      rw [Option.getD_some, if_neg (List.ne_nil_of_mem hnew), List.flatMap_singleton]
      exact hnew

theorem Sound.dataPackage (h : Sound selected x) (message : Json) :
    Sound selected (x.step (.dataPackage message)) := by
  rw [step]
  rcases h.scouts.dataPackage_cases message with
    hcase | ⟨hen, hcase⟩ | ⟨updated, hnames, hcase, hen, hmem⟩
  · rw [hcase]
    dsimp only
    rw [if_neg (by rw [Option.isSome_none, Bool.and_false]; nofun)]
    exact ⟨h.scouts, h.selected, h.answered, h.requested, h.delivered⟩
  · rw [hcase]
    dsimp only
    rw [if_neg (by rw [hen]; nofun)]
    exact ⟨h.scouts, h.selected, h.answered, h.requested, h.delivered⟩
  · rw [hcase]
    dsimp only
    rw [if_pos (by rw [hen]; rfl)]
    refine ⟨h.scouts.packaged hnames, h.selected, h.answered, h.requested, fun game hgame => ?_⟩
    exact (hmem game).mpr ((List.mem_append.mp hgame).imp_left (h.delivered game))

theorem Sound.roomUpdate (h : Sound selected x) (message : Json) :
    Sound selected (x.step (.roomUpdate message)) := by
  unfold step
  rcases h.scouts.roomUpdate_cases message with hcase | ⟨aliases, hsound, hcase⟩
  · simp only [hcase]
    exact ⟨h.scouts, h.selected, h.answered, h.requested, h.delivered⟩
  · simp only [hcase]
    exact ⟨hsound, h.selected, h.answered, h.requested, h.delivered⟩

/-- **Each message keeps it, also where it throws.** -/
theorem Sound.step (h : Sound selected x) (message : ScoutMessage) :
    Sound selected (x.step message) := by
  cases message with
  | room message =>
    have hscouts := h.scouts.room message
    obtain ⟨checksums, metadata, hroom⟩ := ScoutsSound.room_eq x.scouts message
    rw [ScoutTrace.step, hroom]
    rw [hroom] at hscouts
    exact ⟨hscouts, h.selected, h.answered, h.requested, h.delivered⟩
  | connected message team slot => exact h.connected message team slot
  | locationInfo message => exact h.locationInfo message
  | dataPackage message => exact h.dataPackage message
  | roomUpdate message => exact h.roomUpdate message
  | disconnect =>
    exact ⟨h.scouts.disconnect, h.selected, nofun, fun _ hgame => absurd hgame nofun,
      fun _ hgame => absurd hgame List.not_mem_nil⟩

end ScoutTrace

/-- What is promised of the scouts in every reached state. -/
structure ScoutsComplete (t : LocationTable) (selected : List Int) (x : ScoutTrace) : Prop where
  /-- The snapshot never throws. -/
  defined : ∃ snapshot, x.scouts.buildSnapshot t = some snapshot
  /-- A handler that throws leaves the state as it was. -/
  connected_throws : ∀ message team slot, (x.scouts.connected message team slot).2 = none →
    (x.scouts.connected message team slot).1 = x.scouts
  locationInfo_throws : ∀ message, (x.scouts.locationInfo message).2 = none →
    (x.scouts.locationInfo message).1 = x.scouts
  dataPackage_throws : ∀ message, (x.scouts.dataPackage message).2 = none →
    (x.scouts.dataPackage message).1 = x.scouts
  roomUpdate_throws : ∀ message, (x.scouts.roomUpdate message).2 = none →
    (x.scouts.roomUpdate message).1 = x.scouts
  /-- Every selected location is listed once when everything was answered. -/
  complete : x.answered = true → (∀ game ∈ x.requested, game ∈ x.delivered) →
    ∀ snapshot, x.scouts.buildSnapshot t = some snapshot →
      (snapshot.locations.map (·.location)).Perm selected
        ∧ (snapshot.locations.map (·.location)).Nodup
  /-- A label is valid, and of a selected location of its own. -/
  labels : ∀ snapshot, x.scouts.buildSnapshot t = some snapshot →
    (∀ label ∈ snapshot.shopLabels, labelValid label = true)
      ∧ (snapshot.shopLabels.map (·.location)).Nodup
      ∧ ∀ label ∈ snapshot.shopLabels, (label.location.toNat : Int) ∈ selected

theorem ScoutTrace.Sound.complete {t : LocationTable} {selected : List Int} {x : ScoutTrace}
    (h : x.Sound selected) : ScoutsComplete t selected x := by
  obtain ⟨snapshot, hsnapshot, hlocations, hlabels⟩ := h.scouts.snapshot t
  refine ⟨⟨snapshot, hsnapshot⟩, fun message team slot hthrow => ?_, fun message hthrow => ?_,
    fun message hthrow => ?_, fun message hthrow => ?_, fun hanswered hall snapshot' hsnapshot' => ?_,
    fun snapshot' hsnapshot' => ?_⟩
  · rcases ScoutsSound.connected_cases x.scouts message team slot with hcase | hcase | ⟨_, _, -, hcase⟩
    · rw [hcase]
    · rw [hcase]
    · exact absurd hthrow (by rw [hcase]; nofun)
  · rcases h.scouts.locationInfo_cases message with hcase | ⟨-, hcase⟩ | ⟨_, _, _, -, -, -, -, hcase⟩
    · rw [hcase]
    · rw [hcase]
    · exact absurd hthrow (by rw [hcase]; nofun)
  · rcases h.scouts.dataPackage_cases message with hcase | ⟨-, hcase⟩ | ⟨_, -, hcase, -⟩
    · rw [hcase]
    · rw [hcase]
    · exact absurd hthrow (by rw [hcase]; nofun)
  · rcases h.scouts.roomUpdate_cases message with hcase | ⟨_, -, hcase⟩
    · rw [hcase]
    · exact absurd hthrow (by rw [hcase]; nofun)
  · obtain rfl := Option.some.inj (hsnapshot.symm.trans hsnapshot')
    obtain ⟨hen, hne⟩ := h.answered hanswered
    have hnamed : ∀ e ∈ x.scouts.placements.entries, (ScoutsSound.itemName x.scouts e.2).isSome = true :=
      fun e he => h.scouts.named he fun game hgame =>
        h.delivered game (hall game (h.requested game hgame))
    have hkeys := h.scouts.placed.resolve_left hne
    rw [hlocations hen, List.filter_eq_self.mpr hnamed, ← SortedMap.keys]
    exact ⟨hkeys.symm ▸ h.selected, x.scouts.placements.keys_nodup⟩
  · obtain rfl := Option.some.inj (hsnapshot.symm.trans hsnapshot')
    obtain ⟨hnodup, hmem⟩ := h.scouts.labels_distinct hlabels
    exact ⟨hlabels.valid, hnodup, fun label hlabel => h.selected.subset (hmem label hlabel)⟩

/-- **Scout results are complete and never half-updated**: over every run of messages, also of those
that throw. -/
theorem scouts_complete (t : LocationTable) (selected : List Int) (s : Scouts)
    (h : Scouts.create t selected = some s) (messages : List ScoutMessage) :
    ScoutsComplete t selected (Run.run ScoutTrace.step { scouts := s } messages) := by
  obtain ⟨hs, hperm⟩ := ScoutsSound.create h
  have hempty : s = { selected := s.selected } := by
    unfold Scouts.create at h
    dsimp only at h
    split_ifs at h
    obtain rfl := Option.some.inj h
    rfl
  have hstart : ScoutTrace.Sound selected { scouts := s } :=
    ⟨hs, hperm, nofun, fun game hgame => absurd (hempty ▸ hgame) nofun,
      fun game hgame => absurd hgame List.not_mem_nil⟩
  exact (Run.run_invariant_of_steps (I := ScoutTrace.Sound selected)
    (fun _ message hx => hx.step message) hstart messages).complete

/-! ## Two locations, and a package that is refused -/

/-- The checksum of both games. -/
def pairChecksum : Json := .string "0123456789abcdef0123456789abcdef01234567"

/-- The packages of both games, with a checksum for the second. -/
def pairPackages (checksum : Json) : Json :=
  .object [("data", .object [("games", .object [
    ("DK64", .object [("checksum", pairChecksum),
      ("item_name_to_id", .object [("Baboon Blast", .number 5)])]),
    ("Other", .object [("checksum", checksum), ("item_name_to_id", .object [("Sword", .number 7)])])])])]

/-- A connection on which two locations are placed, for players of two games. -/
def pairPlaced : List ScoutMessage :=
  [.room (.object [("datapackage_checksums",
      .object [("DK64", pairChecksum), ("Other", pairChecksum)])]),
    .connected (.object [
      ("players", .array [.array [.number 0, .number 1, .string "Al", .string "Bob"],
        .array [.number 0, .number 2, .string "Cy", .string "Dee"]]),
      ("slot_info", .object [("1", .array [.string "Bob", .string "DK64", .number 1]),
        ("2", .array [.string "Dee", .string "Other", .number 1])])]) 0 1,
    .locationInfo (.object [("locations",
      .array [.array [.number 5, .number 14041443, .number 1, .number 0],
        .array [.number 7, .number 14041445, .number 2, .number 1]])])]

/-- The second package comes with another checksum first. -/
def pairSession : List ScoutMessage :=
  pairPlaced ++ [.dataPackage (pairPackages (.string "0")), .dataPackage (pairPackages pairChecksum)]

theorem create_pair : Scouts.create shopCatalogue.toLocationTable [14041443, 14041445] =
    some { selected := [14041443, 14041445] } := by
  have hsorted : ([14041443, 14041445] : List Int).mergeSort (fun a b => decide (a ≤ b)) =
      [14041443, 14041445] := List.mergeSort_of_pairwise (by decide)
  rw [Scouts.create, hsorted]
  exact if_neg (by decide +kernel)

/-- The package with the other checksum throws; behind the second one both locations are listed. -/
theorem scouts_complete_pair :
    let before := Run.run ScoutTrace.step { scouts := { selected := [14041443, 14041445] } } pairPlaced
    let after := Run.run ScoutTrace.step { scouts := { selected := [14041443, 14041445] } } pairSession
    (before.scouts.dataPackage (pairPackages (.string "0"))).1 = before.scouts
      ∧ ∃ snapshot, after.scouts.buildSnapshot shopCatalogue.toLocationTable = some snapshot
        ∧ (snapshot.locations.map (·.location)).Perm [14041443, 14041445] := by
  intro before after
  have hbefore := scouts_complete shopCatalogue.toLocationTable [14041443, 14041445] _ create_pair
    pairPlaced
  have hafter := scouts_complete shopCatalogue.toLocationTable [14041443, 14041445] _ create_pair
    pairSession
  have hthrows : (before.scouts.dataPackage (pairPackages (.string "0"))).2 = none :=
    Option.isNone_iff_eq_none.mp (by decide +kernel)
  obtain ⟨snapshot, hsnapshot⟩ := hafter.defined
  exact ⟨hbefore.dataPackage_throws _ hthrows, snapshot, hsnapshot,
    (hafter.complete (by decide +kernel) (by decide +kernel) snapshot hsnapshot).1⟩

end Dk64Port.Archipelago
