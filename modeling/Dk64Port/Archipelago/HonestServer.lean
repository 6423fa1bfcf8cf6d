import Dk64Port.Archipelago.Room
import Dk64Port.Archipelago.State
import Mathlib.Algebra.Group.Nat.Defs

/-!
# The two clients in a room (`native/campaign_protocol.cpp`, `native/state.cpp`)

Each of them reads an announcement of an honest server as the update it is, and lays it over its list
as `PrefixSync.merge` does.

* `campaignClient`, `stateClient`: the clients.
* `campaignClient_lawful`, `stateClient_lawful`: what they make of each message.
* `honest_server_converges`: **with both of them, every run of an honest server converges.**
* `ready_unsynced`: a client with nothing durable is ready before it heard anything.
-/

namespace Dk64Port.Archipelago

open ByteLayout (Byte)
open PrefixSync (Update Receiver merge)

/-- Every commit gets through. -/
def Platform.Working (pf : Platform) : Prop :=
  ∀ n, (pf.attempts n).succeeds = true ∧ pf.settled n = true

/-! ## Reading an announcement -/

theorem itemArray_of_itemJson {value : Json} {item : Item} (h : ItemJson value item) :
    itemArray value = some item.stored := by
  rcases h with rfl | ⟨fields, rfl, hitem, hlocation, hplayer, hflags⟩
  · rfl
  · simp only [itemArray, Json.get, hitem, hlocation, hplayer, hflags, Option.bind_eq_bind,
      Option.bind_some, Option.pure_def, Item.stored]

/-- An item of a catalogue, as the server has it. -/
structure NetworkItem (catalogued : Int → Prop) (item : Item) : Prop where
  player : 0 ≤ item.player ∧ item.player ≤ 65535
  flags : 0 ≤ item.flags ∧ item.flags ≤ 7
  item : catalogued item.item

theorem NetworkItem.checkReceipt {cat : Catalog} {item : Item} (h : NetworkItem cat.catalogued item) :
    checkReceipt cat item = .ok () := by
  obtain ⟨_, hentry⟩ := Option.isSome_iff_exists.mp (Catalog.entry_isSome_iff.mpr h.item)
  unfold Archipelago.checkReceipt
  rw [if_neg (by have := h.player; have := h.flags; omega), hentry]
  rfl

/-! ## The campaign -/

section Campaign

variable {pf : Platform} {cat : Catalog} {t : LocationTable} {s : CampaignProtocol}

/-- The journal holds every prefix of a list, with what may be observed. -/
structure CampaignProtocol.Holds (pf : Platform) (t : LocationTable) (s : CampaignProtocol)
    (list : List Item) : Prop where
  selected : s.journal.state.selected = s.selected
  observed : t.subset s.journal.state.observed s.selected
  fits : ∀ items observed, items <+: list → t.subset observed s.selected →
    (pf.dump (journalDocument t s.journal.state.seed items observed)).length ≤ messageLimit

/-- The protocol of a campaign as a client. -/
def campaignClient (pf : Platform) (cat : Catalog) (t : LocationTable) :
    RoomClient CampaignProtocol CheckSet where
  handle := CampaignProtocol.handle pf cat t
  receive := CampaignProtocol.receive pf cat t
  observe := CampaignProtocol.observe pf t
  disconnect := CampaignProtocol.disconnect
  view s :=
    { room := s.room, connected := s.connected
      receiver := { copy := s.journal.state.items, synced := s.synced } }
  greets s message := message.get "cmd" = some (.string "RoomInfo")
    ∧ (message.get "games").any (·.hasText CampaignProtocol.campaignGame) = true
    ∧ (message.get "seed_name").any (·.isText s.seed.seedName) = true
  accepts s message := message.get "cmd" = some (.string "Connected")
    ∧ message.get "team" = some (.number s.seed.team) ∧ s.seed.team ≤ 65535
    ∧ message.get "slot" = some (.number s.seed.slot) ∧ 1 ≤ s.seed.slot ∧ s.seed.slot ≤ 65535
    ∧ (∃ data, message.get "slot_data" = some data
        ∧ (data.get "Version").any (·.isText worldVersion) = true)
    ∧ ∃ checked missing, (message.get "checked_locations").bind
          (CampaignProtocol.locationSet t s.selected) = some checked
        ∧ (message.get "missing_locations").bind (CampaignProtocol.locationSet t s.selected) = some missing
        ∧ checked &&& missing = 0 ∧ checked ||| missing = s.selected
  side s message :=
    message.get "cmd" = some (.string "RoomUpdate")
        ∧ (∀ values, message.get "checked_locations" = some values →
          (CampaignProtocol.locationSet t s.selected values).isSome = true)
      ∨ ∃ cmd, message.get "cmd" = some (.string cmd) ∧ cmd ∉ ["RoomInfo", "Connected", "ReceivedItems",
          "RoomUpdate", "ConnectionRefused", "InvalidPacket"]
  observable s observed := t.subset observed s.selected = true
  commits := CampaignProtocol.Holds pf t

theorem campaignClient_ready (s : CampaignProtocol) :
    ((campaignClient pf cat t).view s).ready = s.ready := rfl

theorem commit_working (hpf : pf.Working) {data : Json} {w : JournalStorage}
    (hfits : (pf.dump data).length ≤ messageLimit) :
    (w.commit pf data).1 = true ∧ (w.commit pf data).2.state = w.state := by
  unfold JournalStorage.commit
  rw [if_neg (Nat.not_lt.mpr hfits)]
  refine ⟨?_, rfl⟩
  obtain ⟨hattempt, hsettled⟩ := hpf w.tried
  exact Bool.and_eq_true_iff.mpr ⟨hattempt, hsettled⟩

/-- The journal lays an update over its list. -/
theorem receive_merge (hpf : pf.Working) {u : Update Item} {w : JournalStorage} {items : List Item}
    (hknown : ∀ item ∈ u.items, checkReceipt cat item = .ok ()) (hlimit : u.extent ≤ itemLimit)
    (hmerge : merge w.state.items u = some items)
    (hfits : (pf.dump (journalDocument t w.state.seed items w.state.observed)).length ≤ messageLimit) :
    ∃ changed w', w.receive pf cat t u.index u.items = (.ok changed, w')
      ∧ w'.state = { w.state with items := items } := by
  obtain ⟨index, incoming⟩ := u
  unfold Update.extent at hlimit
  dsimp only at hknown hlimit hmerge ⊢
  unfold merge at hmerge
  dsimp only at hmerge
  split_ifs at hmerge with hindex hoverlap
  obtain rfl := Option.some.inj hmerge
  have hreceipts : campaignReceipts cat incoming = .ok () :=
    campaignReceipts_eq_ok_iff.mpr ⟨by omega, hknown⟩
  unfold JournalStorage.receive
  rw [if_neg (by omega), hreceipts]
  dsimp only
  rw [if_neg hindex, if_neg hoverlap]
  split_ifs with hsame hcommit
  · exact ⟨false, w, rfl, by rw [hsame]⟩
  · obtain ⟨-, hstate⟩ := commit_working hpf hfits
    exact ⟨true, _, rfl, by rw [JournalStorage.persist, hstate]⟩
  · exact absurd (commit_working hpf hfits).1 hcommit

theorem mapM_receivedItem {values : List Json} {items : List Item}
    (h : List.Forall₂ ItemJson values items)
    (hknown : ∀ item ∈ items, checkReceipt cat item = .ok ()) :
    values.mapM receivedItem = some items := by
  induction h with
  | nil => rfl
  | cons hone _ ih =>
    rw [List.forall_mem_cons] at hknown
    rw [List.mapM_cons, receivedItem, itemArray_of_itemJson hone, Option.bind_some,
      storedItem_stored hknown.1, ih hknown.2]
    rfl

/-- A handler that keeps the journal. -/
theorem CampaignProtocol.Holds.of_journal {s' : CampaignProtocol} {list : List Item}
    (h : s.Holds pf t list) (hstate : s'.journal.state = { s.journal.state with
      items := s'.journal.state.items }) (hselected : s'.selected = s.selected) :
    s'.Holds pf t list where
  selected := by rw [hstate, hselected]; exact h.selected
  observed := by rw [hstate, hselected]; exact h.observed
  fits items observed hitems hobserved := by
    rw [hstate]
    exact h.fits items observed hitems (hselected ▸ hobserved)

theorem campaign_greeted {message : Json}
    (h : (campaignClient pf cat t).greets s message) (hroom : s.room = false) :
    (campaignClient pf cat t).Goes s message
      { (campaignClient pf cat t).view s with room := true } := by
  obtain ⟨hcmd, hgames, hseed⟩ := h
  obtain ⟨games, hgames, hgame⟩ := (Option.any_eq_true _ _).mp hgames
  obtain ⟨seedName, hseedName, hname⟩ := (Option.any_eq_true _ _).mp hseed
  refine ⟨[s.connectCommand], { s with room := true }, ?_, rfl, fun list h => h.of_journal rfl rfl⟩
  have hinfo : s.roomInfo message = .ok ([s.connectCommand], { s with room := true }) := by
    unfold CampaignProtocol.roomInfo
    simp only [hroom, hgames, hseedName, hgame, hname, orProtocol, pure, Except.pure, bind, Except.bind,
      Bool.false_eq_true, if_false, Bool.not_true, Bool.or_self]
  change CampaignProtocol.handle pf cat t s message = _
  unfold CampaignProtocol.handle
  rw [hcmd, hinfo]
  rfl

/-- An optional reading that succeeds. -/
theorem orProtocol_some {α : Type} {a : α} : orProtocol (some a) = .ok a := rfl

theorem campaign_accepted {message : Json} (h : (campaignClient pf cat t).accepts s message)
    (hroom : s.room = true) (hconnected : s.connected = false) :
    (campaignClient pf cat t).Goes s message
      { (campaignClient pf cat t).view s with
        connected := true
        receiver := { copy := s.journal.state.items, synced := s.journal.state.items.isEmpty } } := by
  obtain ⟨hcmd, hteam, hteam', hslot, hslot', hslot'', ⟨data, hdata, hversion⟩, checked, missing,
    hchecked, hmissing, hapart, hall⟩ := h
  obtain ⟨checkedValues, hcheckedAt, hchecked⟩ := Option.bind_eq_some_iff.mp hchecked
  obtain ⟨missingValues, hmissingAt, hmissing⟩ := Option.bind_eq_some_iff.mp hmissing
  refine ⟨[syncCommand], { s with
    confirmed := checked, synced := decide (s.journal.durable.receiptCount = 0)
    connected := true }, ?_, ?_, fun list h => h.of_journal rfl rfl⟩
  · have hteamRead : Json.integer 0 65535 (.number s.seed.team) = some (s.seed.team : Int) :=
      integer_number (by omega) (by omega)
    have hslotRead : Json.integer 1 65535 (.number s.seed.slot) = some (s.seed.slot : Int) :=
      integer_number (by omega) (by omega)
    have hconnect : s.connect t message = .ok ([syncCommand], { s with
        confirmed := checked, synced := decide (s.journal.durable.receiptCount = 0)
        connected := true }) := by
      unfold CampaignProtocol.connect
      simp only [hroom, hconnected, hteam, hslot, hdata, hcheckedAt, hmissingAt, orProtocol_some, bind,
        Except.bind, hteamRead, hslotRead, hversion, hchecked, hmissing, hapart, hall, pure, Except.pure,
        Bool.not_true, Bool.or_self, Bool.false_eq_true, if_false, ne_eq, not_true_eq_false, or_self]
    change CampaignProtocol.handle pf cat t s message = _
    unfold CampaignProtocol.handle
    rw [hcmd, hconnect]
    rfl
  · have hempty : decide (s.journal.state.items.length = 0) = s.journal.state.items.isEmpty := by
      cases s.journal.state.items <;> rfl
    change RoomView.mk _ _ (Receiver.mk _ (decide (s.journal.state.items.length = 0))) = _
    rw [hempty]
    rfl

theorem campaign_received (hpf : pf.Working) {message : Json} {u : Update Item} {r : Receiver Item}
    {list : List Item} (h : Announces message u) (hconnected : s.connected = true)
    (hknown : ∀ item ∈ u.items, NetworkItem cat.catalogued item) (hlimit : u.extent ≤ itemLimit)
    (hr : ((campaignClient pf cat t).view s).receiver.receive u = some r) (hpre : r.copy <+: list)
    (hholds : s.Holds pf t list) :
    (campaignClient pf cat t).Goes s message
      { (campaignClient pf cat t).view s with receiver := r } := by
  have hchecked : ∀ item ∈ u.items, checkReceipt cat item = .ok () :=
    fun item hitem => (hknown item hitem).checkReceipt
  obtain ⟨values, hvalues, hitems⟩ := h.items
  have hindex : Json.integer 0 itemLimit (.number u.index) = some (u.index : Int) := by
    unfold Update.extent at hlimit
    exact integer_number (by omega) (by omega)
  have hupTo : (Json.array values).valuesUpTo (itemLimit - u.index) = some values := by
    rw [Json.valuesUpTo, hitems.length_eq, if_neg]
    unfold Update.extent at hlimit
    omega
  have hread : s.readUpdate message = .ok (u.index, u.items) := by
    unfold CampaignProtocol.readUpdate
    simp only [hconnected, h.index, hvalues, orProtocol_some, bind, Except.bind, hindex,
      Int.toNat_natCast, hupTo, mapM_receivedItem hitems hchecked, pure, Except.pure, Bool.not_true,
      Bool.false_eq_true, if_false]
  have hcopy : ((campaignClient pf cat t).view s).receiver
      = { copy := s.journal.state.items, synced := s.synced } := rfl
  rw [hcopy, Receiver.receive] at hr
  have hgoes : ∀ result s', s.receivedItems pf cat t message = (.ok result, s') →
      (campaignClient pf cat t).view s' = { (campaignClient pf cat t).view s with receiver := r } →
      s'.journal.state = { s.journal.state with items := s'.journal.state.items } →
      s'.selected = s.selected → (campaignClient pf cat t).Goes s message
        { (campaignClient pf cat t).view s with receiver := r } := by
    intro result s' hresult hview hstate hselected
    refine ⟨result, s', ?_, hview, fun list h => h.of_journal hstate hselected⟩
    change CampaignProtocol.handle pf cat t s message = _
    unfold CampaignProtocol.handle
    rw [h.cmd]
    exact hresult
  unfold CampaignProtocol.receivedItems at hgoes
  rw [hread] at hgoes
  by_cases hsync : s.journal.state.items.length < u.index ∨ s.synced = false ∧ u.index ≠ 0
  · rw [if_pos hsync] at hr
    obtain rfl := Option.some.inj hr
    exact hgoes _ _ (if_pos hsync) rfl rfl rfl
  · rw [if_neg hsync] at hr
    obtain ⟨items, hmerge, rfl⟩ := Option.map_eq_some_iff.mp hr
    have hlong : ¬ (u.index = 0 ∧ u.items.length < s.journal.state.items.length) := by
      intro hlong
      dsimp only at hmerge
      rw [merge, if_pos (.inr hlong)] at hmerge
      exact absurd hmerge nofun
    obtain ⟨changed, journal, hreceive, hstate⟩ := receive_merge hpf hchecked hlimit hmerge
      (hholds.fits items s.journal.state.observed hpre hholds.observed)
    refine hgoes [] { s with journal := journal, synced := true } ?_ ?_ ?_ rfl
    · refine (if_neg hsync).trans ((if_neg hlong).trans ?_)
      rw [hreceive]
    · change RoomView.mk _ _ (Receiver.mk journal.state.items _) = _
      rw [hstate]
      rfl
    · rw [hstate]

theorem campaign_side {message : Json} (h : (campaignClient pf cat t).side s message)
    (hconnected : s.connected = true) :
    (campaignClient pf cat t).Goes s message ((campaignClient pf cat t).view s) := by
  rcases h with ⟨hcmd, hchecked⟩ | ⟨cmd, hcmd, hother⟩
  · have hupdate : ∃ confirmed, s.roomUpdate t message = .ok ([], { s with confirmed := confirmed }) := by
      unfold CampaignProtocol.roomUpdate
      rw [if_neg (by rw [hconnected]; nofun)]
      cases hvalues : message.get "checked_locations" with
      | none => exact ⟨s.confirmed, rfl⟩
      | some values =>
        obtain ⟨checked, hset⟩ := Option.isSome_iff_exists.mp (hchecked values hvalues)
        exact ⟨s.confirmed ||| checked, by dsimp only; rw [hset]; rfl⟩
    obtain ⟨confirmed, hupdate⟩ := hupdate
    refine ⟨[], { s with confirmed := confirmed }, ?_, rfl, fun list h => h.of_journal rfl rfl⟩
    change CampaignProtocol.handle pf cat t s message = _
    unfold CampaignProtocol.handle
    rw [hcmd, hupdate]
    rfl
  · refine ⟨[], s, ?_, rfl, fun list h => h⟩
    simp only [List.mem_cons, List.not_mem_nil, or_false, not_or] at hother
    change CampaignProtocol.handle pf cat t s message = _
    unfold CampaignProtocol.handle
    simp only [hcmd, hother, if_false]

theorem campaign_observed (hpf : pf.Working) {observed : CheckSet} {list : List Item}
    (h : t.subset observed s.selected = true) (hpre : s.journal.state.items <+: list)
    (hholds : s.Holds pf t list) : ∃ s', s.observe pf t observed = (.ok (), s')
      ∧ (campaignClient pf cat t).view s' = (campaignClient pf cat t).view s ∧ s'.Holds pf t list := by
  have hunion := LocationTable.subset_or hholds.observed h
  have hfits := hholds.fits _ _ hpre hunion
  unfold CampaignProtocol.observe
  rw [h, if_neg nofun]
  have hrecord : ∃ changed journal, s.journal.record pf t observed = (.ok changed, journal)
      ∧ journal.state = { s.journal.state with observed := s.journal.state.observed ||| observed } := by
    unfold JournalStorage.record
    rw [hholds.selected, h, if_neg nofun]
    dsimp only
    split_ifs with hsame hcommit
    · exact ⟨false, _, rfl, by rw [hsame]⟩
    · obtain ⟨-, hstate⟩ := commit_working (w := s.journal) hpf hfits
      exact ⟨true, _, rfl, by rw [JournalStorage.persist, hstate]⟩
    · exact absurd (commit_working hpf hfits).1 hcommit
  obtain ⟨changed, journal, hrecord, hstate⟩ := hrecord
  rw [hrecord]
  refine ⟨_, rfl, ?_, ?_, ?_, fun items observed' hitems hobserved => ?_⟩
  · change RoomView.mk _ _ (Receiver.mk journal.state.items _) = _
    rw [hstate]
    rfl
  · rw [hstate]
    exact hholds.selected
  · rw [hstate]
    exact hunion
  · rw [hstate]
    exact hholds.fits items observed' hitems hobserved

/-- **What the protocol of a campaign makes of each message.** -/
theorem campaignClient_lawful (hpf : pf.Working) (cat : Catalog) (t : LocationTable) :
    (campaignClient pf cat t).Lawful pf (NetworkItem cat.catalogued) where
  receive _ _ := rfl
  disconnect _ := rfl
  kept _ _ h := ⟨h.selected, h.observed, h.fits⟩
  greeted _ _ := campaign_greeted
  accepted _ _ := campaign_accepted
  received _ _ _ _ _ := campaign_received hpf
  side _ _ := campaign_side
  observed _ _ _ := campaign_observed hpf

/-- The player, the locations and the observed checks are the same. -/
structure CampaignProtocol.Alike (s s' : CampaignProtocol) : Prop where
  seed : s'.seed = s.seed
  selected : s'.selected = s.selected
  journal : s'.journal.state = { s.journal.state with items := s'.journal.state.items }

theorem CampaignProtocol.Alike.trans {s s' s'' : CampaignProtocol} (h : s.Alike s') (h' : s'.Alike s'') :
    s.Alike s'' :=
  ⟨h'.seed.trans h.seed, h'.selected.trans h.selected, by rw [h'.journal, h.journal]⟩

theorem orUnchanged_alike {s : CampaignProtocol} {r : Except Thrown (List Json × CampaignProtocol)}
    (h : ∀ commands s', r = .ok (commands, s') → s.Alike s') :
    s.Alike (CampaignProtocol.orUnchanged s r).2 := by
  unfold CampaignProtocol.orUnchanged
  split
  · exact ⟨rfl, rfl, rfl⟩
  · exact h _ _ rfl

theorem roomInfo_alike (s : CampaignProtocol) (message : Json) :
    s.Alike (CampaignProtocol.orUnchanged s (s.roomInfo message)).2 := by
  refine orUnchanged_alike fun commands s' h => ?_
  unfold CampaignProtocol.roomInfo at h
  simp only [bind, Except.bind, pure, Except.pure, throw, throwThe, MonadExceptOf.throw] at h
  repeat' split at h
  all_goals cases h
  exact ⟨rfl, rfl, rfl⟩

theorem connect_alike (s : CampaignProtocol) (message : Json) :
    s.Alike (CampaignProtocol.orUnchanged s (s.connect t message)).2 := by
  refine orUnchanged_alike fun commands s' h => ?_
  unfold CampaignProtocol.connect at h
  simp only [bind, Except.bind, pure, Except.pure, throw, throwThe, MonadExceptOf.throw] at h
  repeat' split at h
  all_goals cases h
  exact ⟨rfl, rfl, rfl⟩

theorem roomUpdate_alike (s : CampaignProtocol) (message : Json) :
    s.Alike (CampaignProtocol.orUnchanged s (s.roomUpdate t message)).2 := by
  refine orUnchanged_alike fun commands s' h => ?_
  unfold CampaignProtocol.roomUpdate at h
  simp only [bind, Except.bind, pure, Except.pure, throw, throwThe, MonadExceptOf.throw] at h
  repeat' split at h
  all_goals cases h
  all_goals exact ⟨rfl, rfl, rfl⟩

variable (pf cat t) in
theorem receive_alike (w : JournalStorage) (index : Nat) (incoming : List Item) :
    (w.receive pf cat t index incoming).2.state
      = { w.state with items := (w.receive pf cat t index incoming).2.state.items } := by
  have hcommit : ∀ items, (w.persist pf t items w.state.observed).2.state = w.state := by
    intro items
    unfold JournalStorage.persist JournalStorage.commit
    dsimp only
    split <;> rfl
  unfold JournalStorage.receive
  dsimp only
  repeat' split
  all_goals first | rfl | (dsimp only; rw [hcommit])

theorem receivedItems_alike (s : CampaignProtocol) (message : Json) :
    s.Alike (s.receivedItems pf cat t message).2 := by
  unfold CampaignProtocol.receivedItems
  dsimp only
  split
  · exact ⟨rfl, rfl, rfl⟩
  rename_i index incoming _
  split
  · exact ⟨rfl, rfl, rfl⟩
  split
  · exact ⟨rfl, rfl, rfl⟩
  have hjournal := receive_alike pf cat t s.journal index incoming
  split
  · rename_i heq
    rw [heq] at hjournal
    exact ⟨rfl, rfl, hjournal⟩
  · rename_i heq
    rw [heq] at hjournal
    exact ⟨rfl, rfl, hjournal⟩

/-- **No message changes the player.** -/
theorem handle_alike (s : CampaignProtocol) (message : Json) : s.Alike (s.handle pf cat t message).2 := by
  unfold CampaignProtocol.handle
  split
  · split
    · exact roomInfo_alike s message
    split
    · exact connect_alike s message
    split
    · exact receivedItems_alike s message
    split
    · exact roomUpdate_alike s message
    split
    · exact ⟨rfl, rfl, rfl⟩
    split <;> exact ⟨rfl, rfl, rfl⟩
  · exact ⟨rfl, rfl, rfl⟩

end Campaign

/-! ## The integration test -/

section Test

variable {pf : Platform} {s : State}

/-- The journal holds every prefix of a list, with what may be observed. -/
structure State.Holds (pf : Platform) (s : State) (list : List Item) : Prop where
  observed : s.checks &&& ~~~ checkMask = 0
  fits : ∀ items checks, items <+: list → checks &&& ~~~ checkMask = 0 →
    (pf.dump (State.document s.config items checks)).length ≤ messageLimit

/-- The protocol of the integration test as a client. Of the answers for the scouts, the room has what
they accept. -/
def stateClient (pf : Platform) : RoomClient State Word where
  handle := State.handle pf
  receive := State.receive pf
  observe := State.recordChecks pf
  disconnect := State.disconnect
  view s :=
    { room := s.room, connected := s.connected, receiver := { copy := s.items, synced := s.synced } }
  greets s message := message.get "cmd" = some (.string "RoomInfo")
    ∧ (message.get "games").any (·.hasText stateGame) = true
    ∧ (message.get "seed_name").any (·.isText s.config.seed) = true
    ∧ (s.scouts.room message).2.isSome = true
  accepts s message := message.get "cmd" = some (.string "Connected")
    ∧ message.get "team" = some (.number s.config.team) ∧ s.config.team ≤ 65535
    ∧ message.get "slot" = some (.number s.config.slot) ∧ 1 ≤ s.config.slot ∧ s.config.slot ≤ 65535
    ∧ (∃ data, message.get "slot_data" = some data
        ∧ (data.get "recomp_profile").any (·.isText stateProfile) = true
        ∧ (data.get "Version").any (·.isText worldVersion) = true)
    ∧ (∃ checkedValues missingValues checked missing,
        message.get "checked_locations" = some checkedValues
        ∧ message.get "missing_locations" = some missingValues
        ∧ State.locationMask checkedValues = .ok checked ∧ State.locationMask missingValues = .ok missing
        ∧ checked ||| missing = checkMask ∧ checked &&& missing = 0)
    ∧ (s.scouts.connected message s.config.team s.config.slot).2.isSome = true
  side s message :=
    message.get "cmd" = some (.string "LocationInfo") ∧ (s.scouts.locationInfo message).2.isSome = true
      ∨ message.get "cmd" = some (.string "DataPackage") ∧ (s.scouts.dataPackage message).2.isSome = true
      ∨ message.get "cmd" = some (.string "RoomUpdate") ∧ (s.scouts.roomUpdate message).2.isSome = true
        ∧ (∀ values, message.get "checked_locations" = some values →
          ∃ mask, State.locationMask values = .ok mask)
      ∨ ∃ cmd, message.get "cmd" = some (.string cmd) ∧ cmd ∉ ["RoomInfo", "Connected", "ReceivedItems",
          "LocationInfo", "DataPackage", "RoomUpdate", "ConnectionRefused", "InvalidPacket"]
  observable _ checks := checks &&& ~~~ checkMask = 0
  commits := State.Holds pf

theorem stateClient_ready (s : State) : ((stateClient pf).view s).ready = s.ready := rfl

theorem State.persist_working (hpf : pf.Working) {items : List Item} {checks : Word}
    (hfits : (pf.dump (State.document s.config items checks)).length ≤ messageLimit) :
    ∃ s', s.persist pf items checks = (true, s') ∧ s' = { s with disk := s'.disk, tried := s'.tried } := by
  unfold State.persist
  dsimp only
  rw [if_neg (Nat.not_lt.mpr hfits)]
  obtain ⟨hattempt, hsettled⟩ := hpf s.tried
  exact ⟨_, Prod.ext (Bool.and_eq_true_iff.mpr ⟨hattempt, hsettled⟩) rfl, rfl⟩

theorem itemFrom_of_itemJson {value : Json} {item : Item} (h : ItemJson value item)
    (hknown : NetworkItem (· ∈ stateItemIds) item) : State.itemFrom value = .ok item := by
  obtain ⟨item, location, player, flags, fits⟩ := item
  obtain ⟨hplayer, hflags, hitem⟩ := hknown
  have hrange := fits
  rw [fitsInt64, Bool.and_eq_true, decide_eq_true_eq, decide_eq_true_eq] at hrange
  have hall : ∀ id ∈ stateItemIds, 0 ≤ id ∧ id ≤ 2 ^ 63 - 1 := by decide
  unfold State.itemFrom
  rw [itemArray_of_itemJson h]
  simp only [Item.stored, orProtocol_some, bind, Except.bind,
    integer_number (hall item hitem).1 (hall item hitem).2,
    integer_number hrange.1 (show location ≤ 2 ^ 63 - 1 by omega),
    integer_number hplayer.1 hplayer.2, integer_number hflags.1 hflags.2]
  rw [dif_pos fits, if_pos hitem]
  rfl

theorem mapM_itemFrom {values : List Json} {items : List Item} (h : List.Forall₂ ItemJson values items)
    (hknown : ∀ item ∈ items, NetworkItem (· ∈ stateItemIds) item) :
    values.mapM State.itemFrom = .ok items := by
  induction h with
  | nil => rfl
  | cons hone _ ih =>
    rw [List.forall_mem_cons] at hknown
    rw [List.mapM_cons, itemFrom_of_itemJson hone hknown.1, ih hknown.2]
    rfl

theorem state_goes {message : Json} {v : RoomView} (commands : List Json) (s' : State)
    (hhandle : s.handle pf message = (.ok commands, s')) (hview : (stateClient pf).view s' = v)
    (hconfig : s'.config = s.config) (hchecks : s'.checks = s.checks) : (stateClient pf).Goes s message v :=
  ⟨commands, s', hhandle, hview, fun _ h => ⟨hchecks ▸ h.observed, hconfig ▸ h.fits⟩⟩

theorem state_greeted {message : Json} (h : (stateClient pf).greets s message) (hroom : s.room = false) :
    (stateClient pf).Goes s message { (stateClient pf).view s with room := true } := by
  obtain ⟨hcmd, hgames, hseed, hscouts⟩ := h
  obtain ⟨games, hgames, hgame⟩ := (Option.any_eq_true _ _).mp hgames
  obtain ⟨seedName, hseedName, hname⟩ := (Option.any_eq_true _ _).mp hseed
  have hcheck : s.checkRoom message = .ok () := by
    unfold State.checkRoom
    simp only [hroom, hgames, hseedName, hgame, hname, orProtocol_some, pure, Except.pure, bind,
      Except.bind, Bool.false_eq_true, if_false, Bool.not_true, Bool.or_self]
  obtain ⟨_, hread⟩ := Option.isSome_iff_exists.mp hscouts
  have hinfo : s.roomInfo message = (.ok [s.connectCommand],
      { s with scouts := (s.scouts.room message).1, room := true }) := by
    unfold State.roomInfo
    rw [hcheck, ← Prod.mk.eta (p := s.scouts.room message), hread]
  refine state_goes _ { s with scouts := (s.scouts.room message).1, room := true } (Eq.trans ?_ hinfo)
    rfl rfl rfl
  unfold State.handle
  rw [hcmd]
  rfl

theorem state_accepted {message : Json} (h : (stateClient pf).accepts s message) (hroom : s.room = true)
    (hconnected : s.connected = false) :
    (stateClient pf).Goes s message
      { (stateClient pf).view s with
        connected := true, receiver := { copy := s.items, synced := s.items.isEmpty } } := by
  obtain ⟨hcmd, hteam, hteam', hslot, hslot', hslot'', ⟨data, hdata, hprofile, hversion⟩,
    ⟨checkedValues, missingValues, checked, missing, hcheckedAt, hmissingAt, hchecked, hmissing, hall,
      hapart⟩, hscouts⟩ := h
  obtain ⟨ownProfile, hownProfile, hprofile⟩ := (Option.any_eq_true _ _).mp hprofile
  obtain ⟨version, hversionAt, hversion⟩ := (Option.any_eq_true _ _).mp hversion
  have hteamRead : Json.integer 0 65535 (.number s.config.team) = some (s.config.team : Int) :=
    integer_number (by omega) (by omega)
  have hslotRead : Json.integer 1 65535 (.number s.config.slot) = some (s.config.slot : Int) :=
    integer_number (by omega) (by omega)
  have hread : s.connectChecked message = .ok checked := by
    unfold State.connectChecked
    simp only [hroom, hconnected, hdata, hteam, hslot, hteamRead, hslotRead, hownProfile, hprofile,
      hversionAt, hversion, hcheckedAt, hchecked, orProtocol_some, bind, Except.bind,
      Bool.not_true, Bool.or_self, Bool.false_eq_true, if_false, ne_eq, not_true_eq_false]
  have hcheck : State.checkMissing checked message = .ok () := by
    unfold State.checkMissing
    simp only [hmissingAt, hmissing, hall, hapart, orProtocol_some, pure, Except.pure, bind, Except.bind,
      ne_eq, not_true_eq_false, or_self, if_false]
  obtain ⟨commands, hcommands⟩ := Option.isSome_iff_exists.mp hscouts
  refine state_goes (syncCommand :: commands.map State.scoutCommand) { s with
    confirmed := checked, connected := true, synced := s.items.isEmpty
    scouts := (s.scouts.connected message s.config.team s.config.slot).1 } ?_ rfl rfl rfl
  unfold State.handle
  rw [hcmd]
  change s.connect message = _
  unfold State.connect
  rw [hread]
  dsimp only
  rw [hcheck, ← Prod.mk.eta (p := s.scouts.connected message s.config.team s.config.slot), hcommands]

theorem state_received (hpf : pf.Working) {message : Json} {u : Update Item} {r : Receiver Item}
    {list : List Item} (h : Announces message u) (hconnected : s.connected = true)
    (hknown : ∀ item ∈ u.items, NetworkItem (· ∈ stateItemIds) item) (hlimit : u.extent ≤ itemLimit)
    (hr : ((stateClient pf).view s).receiver.receive u = some r) (hpre : r.copy <+: list)
    (hholds : s.Holds pf list) :
    (stateClient pf).Goes s message { (stateClient pf).view s with receiver := r } := by
  obtain ⟨values, hvalues, hitems⟩ := h.items
  have hindex : Json.integer 0 itemLimit (.number u.index) = some (u.index : Int) := by
    unfold Update.extent at hlimit
    exact integer_number (by omega) (by omega)
  have hupTo : (Json.array values).valuesUpTo (itemLimit - u.index) = some values := by
    rw [Json.valuesUpTo, hitems.length_eq, if_neg]
    unfold Update.extent at hlimit
    omega
  have hread : s.readUpdate message = .ok (u.index, u.items) := by
    unfold State.readUpdate
    simp only [hconnected, h.index, hvalues, orProtocol_some, bind, Except.bind, hindex,
      Int.toNat_natCast, hupTo, mapM_itemFrom hitems hknown, pure, Except.pure, Bool.not_true,
      Bool.false_eq_true, if_false]
  have hhandle : s.handle pf message = s.receivedItems pf message := by
    unfold State.handle
    rw [h.cmd]
    rfl
  unfold State.receivedItems at hhandle
  rw [hread] at hhandle
  dsimp only at hhandle
  have hcopy : ((stateClient pf).view s).receiver = { copy := s.items, synced := s.synced } := rfl
  rw [hcopy, Receiver.receive] at hr
  by_cases hsync : s.items.length < u.index ∨ s.synced = false ∧ u.index ≠ 0
  · rw [if_pos hsync] at hr hhandle
    obtain rfl := Option.some.inj hr
    exact state_goes _ _ hhandle rfl rfl rfl
  · rw [if_neg hsync] at hr hhandle
    obtain ⟨items, hmerge, rfl⟩ := Option.map_eq_some_iff.mp hr
    unfold merge at hmerge
    dsimp only at hmerge
    split_ifs at hmerge with hbad hoverlap
    obtain rfl := Option.some.inj hmerge
    rw [if_neg (fun hlong => hbad (.inr hlong)), if_neg hoverlap] at hhandle
    split_ifs at hhandle with hsame hcommit
    · refine state_goes _ _ hhandle ?_ rfl rfl
      rw [hsame]
      rfl
    · obtain ⟨s', hpersist, hs'⟩ := s.persist_working hpf (hholds.fits _ s.checks hpre hholds.observed)
      rw [hpersist] at hhandle
      refine state_goes _ _ hhandle ?_ ?_ ?_
      · rw [hs']
        rfl
      · rw [hs']
      · rw [hs']
    · obtain ⟨s', hpersist, -⟩ := s.persist_working hpf (hholds.fits _ s.checks hpre hholds.observed)
      rw [hpersist] at hcommit
      exact absurd rfl hcommit

/-- What the scouts accept goes through. -/
theorem state_scouted {α : Type} {message : Json} (commands : α → List Json) {r : Scouts × Option α}
    (s' : State) (hhandle : s.handle pf message = s'.scouted commands r) (hr : r.2.isSome = true)
    (hview : (stateClient pf).view s' = (stateClient pf).view s) (hconfig : s'.config = s.config)
    (hchecks : s'.checks = s.checks) :
    (stateClient pf).Goes s message ((stateClient pf).view s) := by
  obtain ⟨scouts, result⟩ := r
  obtain ⟨result, rfl⟩ := Option.isSome_iff_exists.mp hr
  exact state_goes (commands result) { s' with scouts := scouts } hhandle hview hconfig hchecks

theorem state_side {message : Json} (h : (stateClient pf).side s message) (hconnected : s.connected = true) :
    (stateClient pf).Goes s message ((stateClient pf).view s) := by
  have hopen : ¬ (!s.connected) = true := by rw [hconnected]; nofun
  rcases h with ⟨hcmd, hread⟩ | ⟨hcmd, hread⟩ | ⟨hcmd, hread, hvalues⟩ | ⟨cmd, hcmd, hother⟩
  · refine state_scouted (·.map State.scoutCommand) s ?_ hread rfl rfl rfl
    unfold State.handle
    rw [hcmd]
    exact if_neg hopen
  · refine state_scouted (fun _ => []) s ?_ hread rfl rfl rfl
    unfold State.handle
    rw [hcmd]
    exact if_neg hopen
  · obtain ⟨confirmed, hmask⟩ : ∃ confirmed, s.updatedMask message = .ok confirmed := by
      unfold State.updatedMask
      cases hat : message.get "checked_locations" with
      | none => exact ⟨_, rfl⟩
      | some values =>
        obtain ⟨mask, hmask⟩ := hvalues values hat
        refine ⟨s.confirmed ||| mask, ?_⟩
        dsimp only
        rw [hmask]
        rfl
    refine state_scouted (fun _ => []) { s with confirmed := confirmed } ?_ hread rfl
      rfl rfl
    unfold State.handle
    rw [hcmd]
    refine (if_neg hopen).trans ?_
    rw [hmask]
  · refine state_goes [] s ?_ rfl rfl rfl
    simp only [List.mem_cons, List.not_mem_nil, or_false, not_or] at hother
    unfold State.handle
    simp only [hcmd, hother, if_false]

theorem state_observed (hpf : pf.Working) {checks : Word} {list : List Item}
    (h : checks &&& ~~~ checkMask = 0) (hpre : s.items <+: list) (hholds : s.Holds pf list) :
    ∃ s', s.recordChecks pf checks = (.ok (), s')
      ∧ (stateClient pf).view s' = (stateClient pf).view s ∧ s'.Holds pf list := by
  have hunion : (checks ||| s.checks) &&& ~~~ checkMask = 0 := by
    rw [BitVec.and_comm, BitVec.and_or_distrib_left, BitVec.and_comm, h, BitVec.and_comm,
      hholds.observed]
    rfl
  unfold State.recordChecks
  rw [if_neg (not_not.mpr h)]
  by_cases hnew : checks ||| s.checks ≠ s.checks
  · rw [if_pos hnew]
    obtain ⟨s', hpersist, hs'⟩ := s.persist_working hpf (hholds.fits s.items _ hpre hunion)
    rw [hpersist]
    have hconfig : s'.config = s.config := by rw [hs']
    refine ⟨_, rfl, ?_, hunion, hconfig.symm ▸ hholds.fits⟩
    rw [hs']
    rfl
  · rw [if_neg hnew]
    exact ⟨s, rfl, rfl, hholds⟩

/-- **What the protocol of the integration test makes of each message.** -/
theorem stateClient_lawful (hpf : pf.Working) :
    (stateClient pf).Lawful pf (NetworkItem (· ∈ stateItemIds)) where
  receive _ _ := rfl
  disconnect _ := rfl
  kept _ _ h := ⟨h.observed, h.fits⟩
  greeted _ _ := state_greeted
  accepted _ _ := state_accepted
  received _ _ _ _ _ := state_received hpf
  side _ _ := state_side
  observed _ _ _ := state_observed hpf

theorem State.persist_alike (s : State) (items : List Item) (checks : Word) :
    (s.persist pf items checks).2.config = s.config ∧ (s.persist pf items checks).2.checks = s.checks := by
  unfold State.persist
  dsimp only
  split <;> exact ⟨rfl, rfl⟩

theorem State.receivedItems_alike (s : State) (message : Json) :
    (s.receivedItems pf message).2.config = s.config ∧ (s.receivedItems pf message).2.checks = s.checks := by
  unfold State.receivedItems
  dsimp only
  repeat' split
  all_goals first | exact ⟨rfl, rfl⟩ | exact s.persist_alike _ _

theorem State.scouted_alike {α : Type} (commands : α → List Json) (s : State) (r : Scouts × Option α) :
    (s.scouted commands r).2.config = s.config ∧ (s.scouted commands r).2.checks = s.checks := by
  obtain ⟨scouts, result⟩ := r
  cases result <;> exact ⟨rfl, rfl⟩

/-- **No message changes the player.** -/
theorem State.handle_alike (s : State) (message : Json) :
    (s.handle pf message).2.config = s.config ∧ (s.handle pf message).2.checks = s.checks := by
  unfold State.handle
  split
  · split
    · unfold State.roomInfo
      repeat' split
      all_goals exact ⟨rfl, rfl⟩
    split
    · unfold State.connect
      dsimp only
      repeat' split
      all_goals exact ⟨rfl, rfl⟩
    split
    · exact s.receivedItems_alike message
    split
    · split
      · exact ⟨rfl, rfl⟩
      · exact s.scouted_alike _ _
    split
    · split
      · exact ⟨rfl, rfl⟩
      · exact s.scouted_alike _ _
    split
    · unfold State.roomUpdate
      repeat' split
      · exact ⟨rfl, rfl⟩
      · exact ⟨rfl, rfl⟩
      · exact State.scouted_alike _ { s with confirmed := _ } _
    split
    · exact ⟨rfl, rfl⟩
    split <;> exact ⟨rfl, rfl⟩
  · exact ⟨rfl, rfl⟩

end Test

/-! ## Convergence -/

/-- A room that began with a client and a list, after some events. -/
def RoomClient.after {σ ω : Type} (pf : Platform) (c : RoomClient σ ω) (s : σ) (list : List Item)
    (es : List (RoomEvent ω)) : Room σ :=
  Run.run (Room.step pf c) (c.start s list) es

/-- The server is honest and the disk works over the events. -/
def RoomClient.HonestRun {σ ω : Type} (pf : Platform) (known : Item → Prop) (c : RoomClient σ ω) (s : σ)
    (list : List Item) (es : List (RoomEvent ω)) : Prop :=
  Run.Along (Room.step pf c) (fun x e => e.Honest pf known c x) (c.start s list) es

/-- What is promised after some events, and that what was durable then stays. -/
structure RoomClient.Converges {σ ω : Type} (pf : Platform) (c : RoomClient σ ω) (s : σ)
    (list : List Item) (es fs : List (RoomEvent ω)) : Prop where
  converged : (c.after pf s list es).Converged c
  stays : ((c.after pf s list es).seen c).durable <+: ((c.after pf s list (es ++ fs)).seen c).durable

theorem RoomClient.Lawful.converges {σ ω : Type} {pf : Platform} {known : Item → Prop}
    {c : RoomClient σ ω} (law : c.Lawful pf known) {s : σ} {list : List Item} (hs : c.Fresh known s list)
    {es fs : List (RoomEvent ω)} (hes : c.HonestRun pf known s list (es ++ fs)) :
    c.Converges pf s list es fs := by
  obtain ⟨hes, hfs⟩ := Run.along_append.mp hes
  obtain ⟨hsound, -⟩ := Room.sound_run law hs.sound hes
  refine ⟨hsound.converged, ?_⟩
  unfold after
  rw [Run.run_append]
  exact (Room.sound_run law hsound hfs).2

/-- **Honest servers converge**, with the protocol of a campaign and with that of the integration
test. -/
theorem honest_server_converges (pf : Platform) (hpf : pf.Working) (cat : Catalog) (t : LocationTable)
    (protocol : CampaignProtocol) (list : List Item) (es fs : List (RoomEvent CheckSet))
    (hprotocol : (campaignClient pf cat t).Fresh (NetworkItem cat.catalogued) protocol list)
    (hes : (campaignClient pf cat t).HonestRun pf (NetworkItem cat.catalogued) protocol list (es ++ fs))
    (state : State) (list' : List Item) (es' fs' : List (RoomEvent Word))
    (hstate : (stateClient pf).Fresh (NetworkItem (· ∈ stateItemIds)) state list')
    (hes' : (stateClient pf).HonestRun pf (NetworkItem (· ∈ stateItemIds)) state list' (es' ++ fs')) :
    (campaignClient pf cat t).Converges pf protocol list es fs
      ∧ (stateClient pf).Converges pf state list' es' fs' :=
  ⟨(campaignClient_lawful hpf cat t).converges hprotocol hes, (stateClient_lawful hpf).converges hstate hes'⟩

/-! ## A player that comes and goes -/

theorem batchLoop_keeps {σ : Type} {Q : σ → Prop}
    {handle : σ → Json → Except Thrown (List Json) × σ} (h : ∀ s value, Q s → Q (handle s value).2)
    (values : List Json) : ∀ {s : σ}, Q s → Q (batchLoop handle s values).2 := by
  induction values with
  | nil => exact fun hs => hs
  | cons value values ih =>
    intro s hs
    have hone := h s value hs
    unfold batchLoop
    generalize handle s value = r at hone
    obtain ⟨result, s'⟩ := r
    cases result with
    | error e => exact hone
    | ok commands =>
      have hrest := ih hone
      dsimp only
      generalize batchLoop handle s' values = r at hrest
      obtain ⟨result, s''⟩ := r
      cases result <;> exact hrest

/-- What the handler of a message keeps, a text keeps. -/
theorem receiveBatch_keeps {σ : Type} {Q : σ → Prop}
    {handle : σ → Json → Except Thrown (List Json) × σ} (h : ∀ s value, Q s → Q (handle s value).2)
    (pf : Platform) {s : σ} (text : List Byte) (hs : Q s) : Q (receiveBatch pf handle s text).2 := by
  unfold receiveBatch
  split
  · exact hs
  · split
    · exact hs
    · exact batchLoop_keeps h _ hs
  · exact hs

/-- The library reads the text of these messages. -/
structure Platform.Reads (pf : Platform) (values : List Json) : Prop where
  parse : pf.parse (Json.array values).bytes = some (.array values)
  limit : (Json.array values).bytes.length ≤ messageLimit
  batch : values.length ≤ 256

/-- The JSON of a `ReceivedItems`. -/
def Json.receivedItems (index : Nat) (items : List Item) : Json :=
  .object [("cmd", .string "ReceivedItems"), ("index", .number index),
    ("items", .array (items.map Item.stored))]

theorem announces_receivedItems (u : Update Item) : Announces (Json.receivedItems u.index u.items) u :=
  ⟨rfl, rfl, _, rfl, List.forall₂_map_left_iff.mpr (List.forall₂_same.mpr fun _ _ => .inl rfl)⟩

section Visits

variable {σ ω : Type}

/-- The room is entered. -/
def enter (hello : List Json) : List (RoomEvent ω) :=
  [.greet, .accept, .deliver (Json.array hello).bytes]

/-- Something is said and heard. -/
def hear (said : RoomEvent ω) (index : Nat) (items : List Item) : List (RoomEvent ω) :=
  [said, .deliver (Json.array [Json.receivedItems index items]).bytes]

/-- A client stays the player that a greeting and an acceptance are for, whatever it reads, and can
hold every part of a list. -/
structure RoomClient.Stays (pf : Platform) (c : RoomClient σ ω) (Q : σ → Prop) (info accepted : Json)
    (full : List Item) : Prop where
  handle : ∀ s value, Q s → Q (c.handle s value).2
  receive : ∀ s text, Q s → Q (c.receive s text).2
  disconnect : ∀ s, Q s → Q (c.disconnect s)
  greets : ∀ s, Q s → c.greets s info
  accepts : ∀ s, Q s → c.accepts s accepted
  commits : ∀ s list, Q s → list <+: full → c.commits s list

/-- Nothing is under way: the list, how much of it was said, and whether the player is in the room. -/
structure Room.Idle (Q : σ → Prop) (x : Room σ) (list : List Item) (sent : Nat) (inside : Bool) :
    Prop where
  list : x.list = list
  sent : x.sent = sent
  greeted : x.greeted = inside
  accepted : x.accepted = inside
  flight : x.flight = []
  client : Q x.client

/-- Events that an honest server may make, from an idle room to an idle room. -/
structure Room.Visits (pf : Platform) (known : Item → Prop) (c : RoomClient σ ω) (Q : σ → Prop)
    (x : Room σ) (es : List (RoomEvent ω)) (list : List Item) (sent : Nat) (inside : Bool) : Prop where
  honest : Run.Along (Room.step pf c) (fun x e => e.Honest pf known c x) x es
  idle : (Run.run (Room.step pf c) x es).Idle Q list sent inside

variable {pf : Platform} {known : Item → Prop} {c : RoomClient σ ω} {Q : σ → Prop}
  {info accepted : Json} {full list : List Item} {x : Room σ} {sent : Nat} {inside : Bool}

theorem Room.Visits.trans {es fs : List (RoomEvent ω)} {list' : List Item} {sent' : Nat} {inside' : Bool}
    (h : x.Visits pf known c Q es list sent inside)
    (h' : (Run.run (Room.step pf c) x es).Visits pf known c Q fs list' sent' inside') :
    x.Visits pf known c Q (es ++ fs) list' sent' inside' :=
  ⟨Run.along_append.mpr ⟨h.honest, h'.honest⟩, by rw [Run.run_append]; exact h'.idle⟩

/-- A text with all that is under way leaves the room idle. -/
theorem Room.deliver_idle (hc : c.Stays pf Q info accepted full) {values : List Json}
    (hreads : pf.Reads values) (hflight : x.flight.length = values.length) (hlist : x.list = list)
    (hsent : x.sent = sent) (hgreeted : x.greeted = inside) (haccepted : x.accepted = inside)
    (hclient : Q x.client) :
    (x.step pf c (.deliver (Json.array values).bytes)).Idle Q list sent inside where
  list := hlist
  sent := hsent
  greeted := hgreeted
  accepted := haccepted
  flight := by
    have hbatch : batchOf pf (Json.array values).bytes = values := by rw [batchOf, hreads.parse]
    change x.flight.drop (batchOf pf (Json.array values).bytes).length = []
    rw [hbatch, ← hflight, List.drop_length]
  client := hc.receive _ _ hclient

/-- The player comes in. -/
theorem Room.Idle.enters (hc : c.Stays pf Q info accepted full) (hreads : pf.Reads [info, accepted])
    (h : x.Idle Q list sent false) :
    x.Visits pf known c Q (enter [info, accepted]) list sent true where
  honest := by
    have hgreeted := hc.greets _ h.client
    have haccepted := hc.accepts _ (hc.handle _ info h.client)
    refine ⟨h.greeted, ⟨rfl, h.accepted⟩, ⟨hreads.limit, _, hreads.parse, hreads.batch, ?_⟩, trivial⟩
    change c.SaysAll x.client [info, accepted] (x.flight ++ [.roomInfo] ++ [.connected])
    rw [h.flight]
    exact ⟨hgreeted, haccepted, trivial⟩
  idle := by
    refine Room.deliver_idle hc hreads ?_ h.list h.sent rfl rfl h.client
    change (x.flight ++ [ServerMessage.roomInfo] ++ [ServerMessage.connected]).length = 2
    rw [h.flight]
    rfl

/-- The player hears what the server says. -/
theorem Room.Idle.hears (hc : c.Stays pf Q info accepted full) {u : Update Item} {said : RoomEvent ω}
    {sent' : Nat} (hreads : pf.Reads [Json.receivedItems u.index u.items]) (h : x.Idle Q list sent true)
    (hsaid : said.Honest pf known c x)
    (hstep : x.step pf c said = { x with sent := sent', flight := x.flight ++ [.received u] }) :
    x.Visits pf known c Q (hear said u.index u.items) list sent' true where
  honest := by
    refine ⟨hsaid, ⟨hreads.limit, _, hreads.parse, hreads.batch, ?_⟩, trivial⟩
    rw [hstep]
    dsimp only
    rw [h.flight]
    exact ⟨announces_receivedItems u, trivial⟩
  idle := by
    rw [hear, Run.run_cons, Run.run_cons, Run.run_nil, hstep]
    refine Room.deliver_idle hc hreads ?_ h.list rfl h.greeted h.accepted h.client
    dsimp only
    rw [h.flight]
    rfl

/-- The whole list is said. -/
theorem Room.Idle.hearsWhole (hc : c.Stays pf Q info accepted full)
    (hreads : pf.Reads [Json.receivedItems 0 list]) (h : x.Idle Q list sent true) :
    x.Visits pf known c Q (hear .sayWhole 0 list) list (max sent list.length) true := by
  refine h.hears hc (u := ⟨0, list⟩) hreads h.accepted ?_
  obtain ⟨rfl, rfl, -⟩ := h
  rfl

/-- A part is said from an index up to which all was said. -/
theorem Room.Idle.hearsPart (hc : c.Stays pf Q info accepted full) {k m : Nat}
    (h : x.Idle Q list sent true) (hk : 1 ≤ k ∧ k ≤ sent) (hm : k ≤ m ∧ m ≤ list.length)
    (hreads : pf.Reads [Json.receivedItems k ((list.take m).drop k)]) :
    x.Visits pf known c Q (hear (.sayPart k m) k ((list.take m).drop k)) list (max sent m) true := by
  obtain ⟨rfl, rfl, hgreeted, haccepted, hflight, hclient⟩ := h
  exact Room.Idle.hears hc (u := ⟨k, (x.list.take m).drop k⟩) hreads
    ⟨rfl, rfl, hgreeted, haccepted, hflight, hclient⟩ ⟨haccepted, hk.1, hk.2, hm⟩ rfl

/-- The list grows. -/
theorem Room.Idle.grows (hc : c.Stays pf Q info accepted full) (h : x.Idle Q list sent inside)
    (items : List Item) (hknown : ∀ item ∈ items, known item) (hlimit : full.length ≤ itemLimit)
    (hfull : list ++ items <+: full) :
    x.Visits pf known c Q [.append items] (list ++ items) sent inside := by
  obtain ⟨rfl, hsent, hgreeted, haccepted, hflight, hclient⟩ := h
  exact ⟨⟨⟨hknown, hfull.length_le.trans hlimit, hc.commits _ _ hclient hfull⟩, trivial⟩,
    ⟨rfl, hsent, hgreeted, haccepted, hflight, hclient⟩⟩

/-- The player goes. -/
theorem Room.Idle.leaves (hc : c.Stays pf Q info accepted full) (h : x.Idle Q list sent inside) :
    x.Visits pf known c Q [.disconnect] list 0 false :=
  ⟨⟨trivial, trivial⟩, ⟨h.list, rfl, rfl, rfl, rfl, hc.disconnect _ h.client⟩⟩

end Visits

/-! ## A room with one item -/

/-- The greeting of a campaign without locations, and the acceptance. -/
def campaignHello : List Json :=
  [.object [("cmd", .string "RoomInfo"), ("games", .array [.string "Donkey Kong 64"]),
      ("seed_name", .string "seed")],
    .object [("checked_locations", .array []), ("cmd", .string "Connected"),
      ("missing_locations", .array []), ("slot", .number 1),
      ("slot_data", .object [("Version", .string "1.5.8")]), ("team", .number 0)]]

/-- The greeting of the integration test, and the acceptance. -/
def stateHello : List Json :=
  [.object [("cmd", .string "RoomInfo"), ("games", .array [.string "DK64 Recomp Integration Test"]),
      ("seed_name", .string "seed")],
    .object [("checked_locations", .array [.number 14041180]), ("cmd", .string "Connected"),
      ("missing_locations", .array [.number 14041181]), ("slot", .number 1),
      ("slot_data", .object [("Version", .string "1.5.8"),
        ("recomp_profile", .string "dk64-recomp-first-moves-japes-v1")]),
      ("team", .number 0)]]

/-- Two visits to a room: what comes in between is heard in part, in overlap, and then whole again. -/
def firstVisit {ω : Type} (hello : List Json) (a b d : Item) : List (RoomEvent ω) :=
  enter hello ++ hear .sayWhole 0 [a] ++ [.append [b]] ++ hear (.sayPart 1 2) 1 [b] ++ [.append [d]]
    ++ hear (.sayPart 1 3) 1 [b, d] ++ [.disconnect]

def secondVisit {ω : Type} (hello : List Json) (a b d e : Item) : List (RoomEvent ω) :=
  [.append [e]] ++ enter hello ++ hear .sayWhole 0 [a, b, d, e]

/-- The messages of the two visits. -/
def visitTexts (hello : List Json) (a b d e : Item) : List (List Json) :=
  [hello, [Json.receivedItems 0 [a]], [Json.receivedItems 1 [b]], [Json.receivedItems 1 [b, d]],
    [Json.receivedItems 0 [a, b, d, e]]]

/-- **An honest server may hold the two visits.** -/
theorem two_visits {σ ω : Type} {pf : Platform} {known : Item → Prop} {c : RoomClient σ ω}
    {Q : σ → Prop} {info accepted : Json} {a b d e : Item} {x : Room σ}
    (hc : c.Stays pf Q info accepted [a, b, d, e])
    (hreads : ∀ values ∈ visitTexts [info, accepted] a b d e, pf.Reads values)
    (hknown : ∀ item ∈ [a, b, d, e], known item) (h : x.Idle Q [a] 0 false) :
    x.Visits pf known c Q
      (firstVisit [info, accepted] a b d ++ secondVisit [info, accepted] a b d e) [a, b, d, e] 4 true := by
  simp only [visitTexts, List.forall_mem_cons] at hreads hknown
  obtain ⟨hhello, hwhole, hpart, hoverlap, hresync, -⟩ := hreads
  obtain ⟨-, hb, hd, he, -⟩ := hknown
  have hlimit : [a, b, d, e].length ≤ itemLimit := by
    change 4 ≤ itemLimit
    decide
  have h1 : x.Visits pf known c Q (enter [info, accepted]) [a] 0 true := h.enters hc hhello
  have h2 := h1.trans (h1.idle.hearsWhole hc hwhole)
  have h3 := h2.trans (h2.idle.grows hc [b] (by simpa using hb) hlimit ⟨[d, e], rfl⟩)
  have h4 := h3.trans (h3.idle.hearsPart hc (k := 1) (m := 2) (by simp) (by simp) hpart)
  have h5 := h4.trans (h4.idle.grows hc [d] (by simpa using hd) hlimit ⟨[e], rfl⟩)
  have h6 := h5.trans (h5.idle.hearsPart hc (k := 1) (m := 3) (by simp) (by simp) hoverlap)
  have h7 := h6.trans (h6.idle.leaves hc)
  have h8 : Room.Visits pf known c Q _ [.append [e]] _ 0 false :=
    h7.idle.grows hc [e] (by simpa using he) hlimit List.prefix_rfl
  have h9 := h8.trans (h8.idle.enters hc hhello)
  exact h7.trans (h9.trans (h9.idle.hearsWhole hc hresync))

/-- Items of the campaign and of the integration test. -/
def pocketItem (i : Nat) : Item :=
  ⟨[14041088, 14041089, 14041100, 14041270].getD i 14041088, 14041140, 1, 0, fits_pocket⟩

def stateItem (i : Nat) : Item :=
  ⟨stateItemIds.getD i 14041104, 14041180, 1, 1, by decide⟩

/-- A library that reads the texts of the visits, and commits that succeed. -/
def helloPlatform : Platform where
  dump := Json.bytes
  parse bytes := ((visitTexts campaignHello (pocketItem 0) (pocketItem 1) (pocketItem 2) (pocketItem 3)
    ++ visitTexts stateHello (stateItem 0) (stateItem 1) (stateItem 2) (stateItem 3)).find?
      fun values => (Json.array values).bytes = bytes).map .array
  attempts _ := {}

def helloConfig : Config := { name := "player", seed := "seed", password := "", team := 0, slot := 1 }

/-- The protocol of a campaign without locations, with an empty journal. -/
def helloProtocol : CampaignProtocol where
  config := helloConfig
  seed := { victoryJournal.seed with seedName := "seed", player := "player", team := 0, slot := 1 }
  journal := { state := emptyJournal, disk := {} }

/-- The state of the integration test, with an empty journal. -/
def helloState : State where
  config := helloConfig
  identity := ""
  disk := {}
  scouts := Scouts.unasked stateLocationIds

theorem helloPlatform_working : helloPlatform.Working := fun _ => ⟨rfl, rfl⟩

theorem helloPlatform_reads : ∀ values ∈
    visitTexts campaignHello (pocketItem 0) (pocketItem 1) (pocketItem 2) (pocketItem 3)
      ++ visitTexts stateHello (stateItem 0) (stateItem 1) (stateItem 2) (stateItem 3),
    helloPlatform.Reads values := by
  intro values hvalues
  have hdistinct := find?_distinct (f := fun values => (Json.array values).bytes) (by decide +kernel)
    values hvalues
  have hlimits : ∀ values ∈
      visitTexts campaignHello (pocketItem 0) (pocketItem 1) (pocketItem 2) (pocketItem 3)
        ++ visitTexts stateHello (stateItem 0) (stateItem 1) (stateItem 2) (stateItem 3),
      (Json.array values).bytes.length ≤ messageLimit ∧ values.length ≤ 256 := by decide +kernel
  obtain ⟨hlimit, hbatch⟩ := hlimits values hvalues
  exact ⟨congrArg (Option.map Json.array) hdistinct, hlimit, hbatch⟩

/-- A set of checks is one of four. -/
theorem mask_le {checks : Word} (h : checks &&& ~~~ checkMask = 0) : checks.toNat ≤ 3 := by
  have hall : checkMask ||| ~~~ checkMask = BitVec.allOnes 32 := by decide
  have hsplit := BitVec.and_or_distrib_left (x := checks) (y := checkMask) (z := ~~~ checkMask)
  rw [hall, BitVec.and_allOnes, h] at hsplit
  rw [hsplit, show (checks &&& checkMask ||| 0) = checks &&& checkMask from BitVec.or_zero,
    BitVec.toNat_and]
  exact Nat.and_le_right

/-- Both documents stay in bounds: each part of the list, with every set of checks. -/
theorem hello_documents :
    (∀ items ∈ [pocketItem 0, pocketItem 1, pocketItem 2, pocketItem 3].inits,
      (Json.bytes (journalDocument emptyTable victoryJournal.seed items 0)).length ≤ messageLimit)
    ∧ ∀ n < 4, ∀ items ∈ [stateItem 0, stateItem 1, stateItem 2, stateItem 3].inits,
      (Json.bytes (.object [("binding", helloConfig.binding), ("checks", .number (n : Nat)),
        ("format", .number 2), ("items", .array (items.map Item.stored))])).length ≤ messageLimit := by
  decide +kernel

/-- What the journal can hold: each part of the list, with nothing observed or all of it. -/
theorem helloProtocol_holds {s : CampaignProtocol} {list : List Item} (hs : helloProtocol.Alike s)
    (hlist : list <+: [pocketItem 0, pocketItem 1, pocketItem 2, pocketItem 3]) :
    s.Holds helloPlatform emptyTable list := by
  have hselected : s.selected = 0 := hs.selected
  refine ⟨?_, ?_, fun items observed hitems _ => ?_⟩
  · rw [hs.journal, hselected]
    rfl
  · rw [hs.journal, hselected]
    exact LocationTable.subset_zero _ _
  · have hdocument : journalDocument emptyTable s.journal.state.seed items observed =
        journalDocument emptyTable victoryJournal.seed items 0 := by
      rw [hs.journal]
      rfl
    rw [hdocument]
    exact hello_documents.1 items ((List.mem_inits _ _).mpr (hitems.trans hlist))

theorem campaign_stays : (campaignClient helloPlatform pocketCatalog emptyTable).Stays helloPlatform
    helloProtocol.Alike (campaignHello.getD 0 .null) (campaignHello.getD 1 .null)
    [pocketItem 0, pocketItem 1, pocketItem 2, pocketItem 3] where
  handle s value hs := hs.trans (handle_alike s value)
  receive s text hs := receiveBatch_keeps (fun s value hs => hs.trans (handle_alike s value)) _ text hs
  disconnect s hs := ⟨hs.seed, hs.selected, hs.journal⟩
  greets s hs := by
    refine ⟨rfl, by decide, ?_⟩
    rw [hs.seed]
    decide
  accepts s hs := by
    refine ⟨rfl, ?_⟩
    rw [hs.seed, hs.selected]
    exact ⟨rfl, by decide, rfl, by decide, by decide, ⟨_, rfl, by decide⟩, 0, 0, rfl, rfl,
      BitVec.and_self, BitVec.or_self⟩
  commits s list hs hlist := helloProtocol_holds hs hlist

theorem helloProtocol_fresh : (campaignClient helloPlatform pocketCatalog emptyTable).Fresh
    (NetworkItem pocketCatalog.catalogued) helloProtocol [pocketItem 0] where
  room := rfl
  connected := rfl
  synced := rfl
  durable := List.nil_prefix
  known item hitem := by
    obtain rfl := List.mem_singleton.mp hitem
    exact ⟨by decide, by decide, by decide⟩
  limit := by decide
  commits := helloProtocol_holds ⟨rfl, rfl, rfl⟩ ⟨_, rfl⟩

theorem helloProtocol_visits : (campaignClient helloPlatform pocketCatalog emptyTable).HonestRun
    helloPlatform (NetworkItem pocketCatalog.catalogued) helloProtocol [pocketItem 0]
      (firstVisit campaignHello (pocketItem 0) (pocketItem 1) (pocketItem 2)
        ++ secondVisit campaignHello (pocketItem 0) (pocketItem 1) (pocketItem 2) (pocketItem 3)) := by
  refine (two_visits campaign_stays ?_ ?_ ?_).honest
  · exact fun values hvalues => helloPlatform_reads values (List.mem_append_left _ hvalues)
  · have hcatalogued : ∀ i < 4, pocketCatalog.catalogued (pocketItem i).item := by decide
    simp only [List.forall_mem_cons]
    exact ⟨⟨by decide, by decide, hcatalogued 0 (by omega)⟩, ⟨by decide, by decide, hcatalogued 1 (by omega)⟩,
      ⟨by decide, by decide, hcatalogued 2 (by omega)⟩, ⟨by decide, by decide, hcatalogued 3 (by omega)⟩,
      List.forall_mem_nil _⟩
  · exact ⟨rfl, rfl, rfl, rfl, rfl, ⟨rfl, rfl, rfl⟩⟩

/-- The state of the test is that of the same player. -/
def helloStays (s : State) : Prop := s.config = helloConfig ∧ s.checks = 0

theorem helloState_holds {s : State} {list : List Item} (hs : helloStays s)
    (hlist : list <+: [stateItem 0, stateItem 1, stateItem 2, stateItem 3]) :
    s.Holds helloPlatform list := by
  refine ⟨by rw [hs.2]; decide, fun items checks hitems hchecks => ?_⟩
  have hsmall := mask_le hchecks
  rw [hs.1]
  exact hello_documents.2 checks.toNat (by omega) items ((List.mem_inits _ _).mpr (hitems.trans hlist))

theorem state_stays : (stateClient helloPlatform).Stays helloPlatform helloStays
    (stateHello.getD 0 .null) (stateHello.getD 1 .null)
    [stateItem 0, stateItem 1, stateItem 2, stateItem 3] where
  handle s value hs := ⟨(s.handle_alike value).1.trans hs.1, (s.handle_alike value).2.trans hs.2⟩
  receive s text hs := receiveBatch_keeps
    (fun s value hs => ⟨(s.handle_alike value).1.trans hs.1, (s.handle_alike value).2.trans hs.2⟩) _ text hs
  disconnect s hs := hs
  greets s hs := by
    refine ⟨rfl, by decide, ?_, rfl⟩
    rw [hs.1]
    decide
  accepts s hs := by
    have hscouts : ∀ team slot, (s.scouts.connected (stateHello.getD 1 .null) team slot).2.isSome = true := by
      intro team slot
      unfold Scouts.connected
      rw [if_pos (by rw [Bool.or_eq_true]; exact .inr rfl)]
      rfl
    refine ⟨rfl, ?_⟩
    refine ⟨?_, ?_, ?_, ?_, ?_, ⟨_, rfl, by decide, by decide⟩,
      ⟨_, _, 1, 2, rfl, rfl, rfl, rfl, rfl, rfl⟩, hscouts _ _⟩
    all_goals rw [hs.1]
    all_goals first | rfl | decide
  commits s list hs hlist := helloState_holds hs hlist

theorem helloState_fresh : (stateClient helloPlatform).Fresh (NetworkItem (· ∈ stateItemIds)) helloState
    [stateItem 0] where
  room := rfl
  connected := rfl
  synced := rfl
  durable := List.nil_prefix
  known item hitem := by
    obtain rfl := List.mem_singleton.mp hitem
    exact ⟨by decide, by decide, by decide⟩
  limit := by decide
  commits := helloState_holds ⟨rfl, rfl⟩ ⟨_, rfl⟩

theorem helloState_visits : (stateClient helloPlatform).HonestRun helloPlatform
    (NetworkItem (· ∈ stateItemIds)) helloState [stateItem 0]
      (firstVisit stateHello (stateItem 0) (stateItem 1) (stateItem 2)
        ++ secondVisit stateHello (stateItem 0) (stateItem 1) (stateItem 2) (stateItem 3)) := by
  refine (two_visits state_stays ?_ ?_ ?_).honest
  · exact fun values hvalues => helloPlatform_reads values (List.mem_append_right _ hvalues)
  · have hknown : ∀ i < 4, (stateItem i).item ∈ stateItemIds := by decide
    simp only [List.forall_mem_cons]
    exact ⟨⟨by decide, by decide, hknown 0 (by omega)⟩, ⟨by decide, by decide, hknown 1 (by omega)⟩,
      ⟨by decide, by decide, hknown 2 (by omega)⟩, ⟨by decide, by decide, hknown 3 (by omega)⟩,
      List.forall_mem_nil _⟩
  · exact ⟨rfl, rfl, rfl, rfl, rfl, ⟨rfl, rfl⟩⟩

/-- What is durable behind the first visit, and that the greeting alone makes the client ready. -/
theorem hello_leaves :
    ((((campaignClient helloPlatform pocketCatalog emptyTable).after helloPlatform helloProtocol
        [pocketItem 0] (firstVisit campaignHello (pocketItem 0) (pocketItem 1) (pocketItem 2))).seen
          (campaignClient helloPlatform pocketCatalog emptyTable)).durable.length = 3
      ∧ (((stateClient helloPlatform).after helloPlatform helloState [stateItem 0]
          (firstVisit stateHello (stateItem 0) (stateItem 1) (stateItem 2))).seen
            (stateClient helloPlatform)).durable.length = 3)
    ∧ (((campaignClient helloPlatform pocketCatalog emptyTable).after helloPlatform helloProtocol
        victoryJournal.items (enter campaignHello)).seen
          (campaignClient helloPlatform pocketCatalog emptyTable)).ready = true := by
  decide +kernel

/-- With both clients, over a whole list, two parts, a lost connection and the whole list again. -/
theorem honest_server_converges_hello :
    ((campaignClient helloPlatform pocketCatalog emptyTable).Converges helloPlatform helloProtocol
        [pocketItem 0] (firstVisit campaignHello (pocketItem 0) (pocketItem 1) (pocketItem 2))
        (secondVisit campaignHello (pocketItem 0) (pocketItem 1) (pocketItem 2) (pocketItem 3))
      ∧ (stateClient helloPlatform).Converges helloPlatform helloState [stateItem 0]
        (firstVisit stateHello (stateItem 0) (stateItem 1) (stateItem 2))
        (secondVisit stateHello (stateItem 0) (stateItem 1) (stateItem 2) (stateItem 3)))
    ∧ (((campaignClient helloPlatform pocketCatalog emptyTable).after helloPlatform helloProtocol
        [pocketItem 0] (firstVisit campaignHello (pocketItem 0) (pocketItem 1) (pocketItem 2))).seen
          (campaignClient helloPlatform pocketCatalog emptyTable)).durable.length = 3
    ∧ (((stateClient helloPlatform).after helloPlatform helloState [stateItem 0]
        (firstVisit stateHello (stateItem 0) (stateItem 1) (stateItem 2))).seen
          (stateClient helloPlatform)).durable.length = 3 :=
  ⟨honest_server_converges helloPlatform helloPlatform_working pocketCatalog emptyTable helloProtocol
    [pocketItem 0] _ _ helloProtocol_fresh helloProtocol_visits helloState [stateItem 0] _ _
    helloState_fresh helloState_visits, hello_leaves.1⟩

/-- **Ready before anything was received**: with nothing durable the acceptance is enough, while the
server has an item to say. -/
theorem ready_unsynced :
    (campaignClient helloPlatform pocketCatalog emptyTable).HonestRun helloPlatform
        (NetworkItem pocketCatalog.catalogued) helloProtocol victoryJournal.items (enter campaignHello)
      ∧ let x := (campaignClient helloPlatform pocketCatalog emptyTable).after helloPlatform helloProtocol
          victoryJournal.items (enter campaignHello)
        (x.seen (campaignClient helloPlatform pocketCatalog emptyTable)).ready = true ∧ x.heard = []
          ∧ x.list.length = 1 := by
  have hreads : helloPlatform.Reads campaignHello := helloPlatform_reads _ (List.mem_cons_self ..)
  have hbatch : batchOf helloPlatform (Json.array campaignHello).bytes = campaignHello := by
    rw [batchOf, hreads.parse]
  have hstart : Room.Idle helloProtocol.Alike ((campaignClient helloPlatform pocketCatalog
      emptyTable).start helloProtocol victoryJournal.items) victoryJournal.items 0 false :=
    ⟨rfl, rfl, rfl, rfl, rfl, ⟨rfl, rfl, rfl⟩⟩
  refine ⟨(hstart.enters campaign_stays hreads).honest, hello_leaves.2, ?_, rfl⟩
  change [] ++ ([ServerMessage.roomInfo, .connected].take
    (batchOf helloPlatform (Json.array campaignHello).bytes).length).flatMap (·.updates) = []
  rw [hbatch]
  rfl

end Dk64Port.Archipelago
