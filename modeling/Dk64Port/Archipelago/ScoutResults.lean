import Dk64Port.Archipelago.Scouts
import Dk64Port.Lib.PartialFold
import Mathlib.Data.List.Perm.Subperm

/-!
# What is built from the answers

Each handler walks an answer and builds a map. The rules of `PartialFold` say what the map holds when
the loop gets through, and that the loops over what is already known cannot fail.

* `labelValid_makeShopLabel`: a label that is made is valid, whatever the names are.
* `keys_placed`: as many placements as selected locations are those of every selected location.
* `neededGames_covers`: the games to ask for, and those known, are all that are placed.
* `packages_sound`: the names of a game that is accepted cover what is placed of it.
-/

namespace Dk64Port.Archipelago

open ByteLayout (Byte)

/-! ## Labels -/

/-- A text of a label: characters, the first of them no blank. -/
structure CleanText (text : List Byte) : Prop where
  chars : ∀ c ∈ text, labelChar c = true ∧ c ≠ 0
  visible : ∀ c, text.head? = some c → c ≠ 0x20

/-- A letter or a digit may stand anywhere. -/
theorem labelChar_alnum {c : Byte} (h : 0x41 ≤ c ∧ c ≤ 0x5A ∨ 0x30 ≤ c ∧ c ≤ 0x39) :
    (labelChar c = true ∧ c ≠ 0) ∧ c ≠ 0x20 := by
  refine ⟨⟨decide_eq_true (h.imp_right .inl), ?_⟩, ?_⟩
  · rintro rfl
    revert h
    decide
  · rintro rfl
    revert h
    decide

/-- One character more; a blank only behind another character. -/
theorem CleanText.append {text : List Byte} (h : CleanText text) {c : Byte}
    (hc : labelChar c = true ∧ c ≠ 0) (hv : c ≠ 0x20 ∨ text ≠ []) : CleanText (text ++ [c]) where
  chars c' hc' := by
    rcases List.mem_append.mp hc' with hc' | hc'
    · exact h.chars c' hc'
    · exact List.mem_singleton.mp hc' ▸ hc
  visible c' hc' := by
    cases text with
    | nil =>
      obtain rfl := Option.some.inj hc'
      exact hv.resolve_right (fun hne => hne rfl)
    | cons c₀ text => exact h.visible c' hc'

/-- One turn of the loop of `clean`. -/
theorem CleanText.cleanByte {output : List Byte} (h : CleanText output) (c : Byte) :
    CleanText (cleanByte output c) := by
  unfold Archipelago.cleanByte
  dsimp only
  generalize (if 0x61 ≤ c ∧ c ≤ 0x7A then c - 0x20 else c) = c'
  split
  · rename_i hc
    have halnum := labelChar_alnum hc
    exact h.append halnum.1 (.inl halnum.2)
  · split
    · rename_i hc
      exact h.append (by decide) (.inr hc.2.1)
    · exact h

theorem CleanText.dropLast {text : List Byte} (h : CleanText text) : CleanText text.dropLast where
  chars c hc := h.chars c (List.mem_of_mem_dropLast hc)
  visible c hc := by
    rw [List.head?_dropLast] at hc
    split at hc
    · exact h.visible c hc
    · exact absurd hc (by simp)

/-- **What `clean` gives is clean**, and not empty. -/
theorem cleanText_clean (input : List Byte) {fallback : String}
    (hf : CleanText (textBytes fallback) ∧ textBytes fallback ≠ []) :
    CleanText (clean input fallback) ∧ clean input fallback ≠ [] := by
  have hfold : CleanText (input.foldl cleanByte []) := by
    have hstep : ∀ (output : List Byte), CleanText output → CleanText (input.foldl cleanByte output) := by
      induction input with
      | nil => exact fun _ h => h
      | cons c input ih => exact fun output h => ih _ (h.cleanByte c)
    exact hstep [] ⟨fun _ h => absurd h List.not_mem_nil, fun _ h => absurd h (by simp)⟩
  unfold clean
  dsimp only
  generalize input.foldl cleanByte [] = output at hfold
  obtain ⟨trimmed, ht⟩ : ∃ trimmed, (if output.getLast? = some 0x20 then output.dropLast else output)
      = trimmed := ⟨_, rfl⟩
  have htrim : CleanText trimmed := by
    rw [← ht]
    split
    · exact hfold.dropLast
    · exact hfold
  rw [ht]
  split
  · exact hf
  · rename_i hne
    exact ⟨htrim, hne⟩

theorem cleanText_unknownItem :
    CleanText (textBytes "UNKNOWN ITEM") ∧ textBytes "UNKNOWN ITEM" ≠ [] := by
  have h : textBytes "UNKNOWN ITEM" = [85, 78, 75, 78, 79, 87, 78, 32, 73, 84, 69, 77] := by
    decide +kernel
  rw [h]
  exact ⟨⟨by decide, by decide⟩, by decide⟩

theorem cleanText_unknownPlayer :
    CleanText (textBytes "UNKNOWN PLAYER") ∧ textBytes "UNKNOWN PLAYER" ≠ [] := by
  have h : textBytes "UNKNOWN PLAYER" = [85, 78, 75, 78, 79, 87, 78, 32, 80, 76, 65, 89, 69, 82] := by
    decide +kernel
  rw [h]
  exact ⟨⟨by decide, by decide⟩, by decide⟩

/-- The text, then zeros up to the 33 bytes. -/
theorem toList_labelText {text : List Byte} (h : text.length ≤ 32) :
    (labelText text).toList = text ++ List.replicate (32 - text.length + 1) 0 := by
  unfold labelText
  rw [Vector.toList_ofFn]
  apply List.ext_getElem
  · rw [List.length_ofFn, List.length_append, List.length_replicate]
    change 33 = _
    omega
  · intro i hi hi'
    rw [List.getElem_ofFn]
    by_cases hlt : i < text.length
    · rw [List.getElem_append_left hlt, List.getElem?_eq_getElem hlt]
      rfl
    · rw [List.getElem_append_right (Nat.le_of_not_lt hlt), List.getElem_replicate,
        List.getElem?_eq_none (Nat.le_of_not_lt hlt)]
      rfl

/-- **A label that is made is valid.** -/
theorem labelValid_makeShopLabel {t : LocationTable} {location : Word} {item recipient : String}
    {label : ShopLabel} (h : makeShopLabel t location item recipient = some label) :
    labelValid label = true ∧ label.location = location := by
  unfold makeShopLabel at h
  split at h
  · exact absurd h (by simp)
  · split at h
    · exact absurd h (by simp)
    · obtain rfl := Option.some.inj h
      refine ⟨?_, rfl⟩
      obtain ⟨hitem, hne⟩ := cleanText_clean (textBytes item) cleanText_unknownItem
      obtain ⟨hname, -⟩ := cleanText_clean (textBytes recipient) cleanText_unknownPlayer
      have hto : textBytes "TO " = [0x54, 0x4F, 0x20] := by decide +kernel
      have hchars : ∀ {text : List Byte}, (∀ c ∈ text, labelChar c = true ∧ c ≠ 0) →
          ∀ c ∈ text.take 32, labelChar c = true ∧ c ≠ 0 :=
        fun h c hc => h c (List.mem_of_mem_take hc)
      rw [labelValid, toList_labelText (List.length_take_le _ _),
        toList_labelText (List.length_take_le _ _), Bool.and_eq_true, Bool.and_eq_true]
      refine ⟨⟨rfl, labelTextValid_of_chars (hchars hitem.chars) (.inr ?_)⟩,
        labelTextValid_of_chars (hchars ?_) (.inl rfl)⟩
      · obtain ⟨c, rest, hc⟩ := List.exists_cons_of_ne_nil hne
        refine ⟨c, ?_, hitem.visible c (by rw [hc]; rfl)⟩
        rw [hc, List.take_succ_cons]
        exact List.mem_cons_self
      · intro c hc
        rcases List.mem_append.mp hc with hc | hc
        · have hall : ∀ c ∈ ([0x54, 0x4F, 0x20] : List Byte), labelChar c = true ∧ c ≠ 0 := by decide
          exact hall c (hto ▸ hc)
        · exact hname.chars c hc

/-! ## Texts -/

/-- A text that is shown. -/
def ShortText (text : String) : Prop := (textBytes text).length ≤ 512

/-- `text_value` refuses long texts. -/
theorem shortText_of_textValue {value : Json} {text : String} (h : value.textValue = some text) :
    ShortText text := by
  cases value with
  | string text' =>
    rw [Json.textValue] at h
    split_ifs at h with hbad
    obtain rfl := Option.some.inj h
    by_contra hlong
    exact hbad (.inr (.inl (Nat.lt_of_not_le hlong)))
  | _ => exact absurd h nofun

/-- A shop that sells something with a short name gets a label. -/
theorem makeShopLabel_defined {t : LocationTable} {location : Int} {item recipient : String}
    (hshop : isShop t location = true) (hi : ShortText item) (hr : ShortText recipient) :
    ∃ label, makeShopLabel t (BitVec.ofInt 32 location) item recipient = some label := by
  obtain ⟨row, hrow, hdetector⟩ := (Option.any_eq_true _ _).mp (Bool.and_eq_true_iff.mp hshop).2
  unfold makeShopLabel
  rw [hrow]
  dsimp only
  rw [if_neg ?_]
  · exact ⟨_, rfl⟩
  · rintro (hrow | hlong | hlong)
    · exact hrow (of_decide_eq_true hdetector)
    · exact absurd hi (Nat.not_le_of_lt hlong)
    · exact absurd hr (Nat.not_le_of_lt hlong)

/-! ## What each loop builds -/

/-- The entries of a map hold short texts. -/
def ShortTexts {κ : Type} [LinearOrder κ] (m : SortedMap κ String) : Prop :=
  ∀ k text, m.find k = some text → ShortText text

theorem ShortTexts.empty {κ : Type} [LinearOrder κ] : ShortTexts ({} : SortedMap κ String) :=
  fun _ _ h => absurd h nofun

theorem ShortTexts.set {κ : Type} [LinearOrder κ] {m : SortedMap κ String} (h : ShortTexts m) {k : κ}
    {text : String} (ht : ShortText text) : ShortTexts (m.set k text) := by
  intro k' text' hfind
  rw [SortedMap.find_set] at hfind
  split_ifs at hfind with hk
  · exact Option.some.inj hfind ▸ ht
  · exact h k' text' hfind

namespace Scouts

variable {t : LocationTable} {s : Scouts}

/-- The alias of a player is short. -/
theorem player_short {value : Json} {team slot : Nat} {playerAlias : String}
    (h : player value = some (team, slot, playerAlias)) : ShortText playerAlias := by
  unfold player at h
  simp only [Option.bind_eq_bind, Option.bind_eq_some_iff, Option.pure_def, Option.some.injEq,
    Prod.mk.injEq] at h
  obtain ⟨_, _, _, _, _, _, _, _, _, _, text, htext, _, _, _, _, -, -, rfl⟩ := h
  exact shortText_of_textValue htext

/-- So are all aliases of an answer. -/
theorem parsedAliases_short {team : Nat} {values : List Json} {aliases : SortedMap Nat String}
    (h : parsedAliases team values = some aliases) : ShortTexts aliases := by
  refine PartialFold.foldlM_invariant (I := fun _ m => ShortTexts m) ?_ .empty h
  intro _ value m m' _ hm hstep
  simp only [Option.bind_eq_bind, Option.bind_eq_some_iff] at hstep
  obtain ⟨⟨playerTeam, slot, playerAlias⟩, hplayer, hstep⟩ := hstep
  dsimp only at hstep
  split_ifs at hstep
  · obtain ⟨-, rfl⟩ := SortedMap.emplace_eq_some_iff.mp hstep
    exact hm.set (player_short hplayer)
  · exact Option.some.inj hstep ▸ hm

/-- So are the names of a data package. -/
theorem resolvedNames_short {needed : SortedMap Int Unit} {names : List (String × Json)}
    {resolved : SortedMap Int String} (h : resolvedNames needed names = some resolved) :
    ShortTexts resolved := by
  refine PartialFold.foldlM_invariant (I := fun _ m => ShortTexts m) ?_ .empty h
  intro _ entry m m' _ hm hstep
  simp only [Option.bind_eq_bind, Option.bind_eq_some_iff] at hstep
  obtain ⟨name, hname, id, -, hstep⟩ := hstep
  split_ifs at hstep
  · obtain ⟨-, rfl⟩ := SortedMap.emplace_eq_some_iff.mp hstep
    exact hm.set (shortText_of_textValue hname)
  · exact Option.some.inj hstep ▸ hm

/-- A player who can receive: slot and alias are known. -/
def Receives (s : Scouts) (placement : Placement) : Prop :=
  s.slots.contains placement.recipient = true ∧ s.aliases.contains placement.recipient = true

/-- Every answered location is selected, and its placement has a recipient. -/
theorem placed_keys {values : List Json} {parsed : SortedMap Int Placement}
    (h : values.foldlM s.placed {} = some parsed) :
    parsed.entries.length = values.length
      ∧ ∀ location placement, parsed.find location = some placement →
          location ∈ s.selected ∧ s.Receives placement := by
  refine PartialFold.foldlM_invariant
    (I := fun seen (m : SortedMap Int Placement) => m.entries.length = seen.length
      ∧ ∀ location placement, m.find location = some placement →
          location ∈ s.selected ∧ s.Receives placement)
    ?_ ⟨rfl, ?_⟩ h
  rotate_left
  · intro _ _ hfind
    exact absurd hfind nofun
  intro seen value m m' _ ⟨hlen, hm⟩ hstep
  unfold placed at hstep
  simp only [Option.bind_eq_bind, Option.bind_eq_some_iff] at hstep
  obtain ⟨_, -, location, -, _, -, item, -, _, -, recipient, -, _, -, flags, -, hstep⟩ := hstep
  split_ifs at hstep with hok
  refine ⟨?_, ?_⟩
  · rw [SortedMap.length_emplace hstep, hlen, List.length_append, List.length_singleton]
  · obtain ⟨-, rfl⟩ := SortedMap.emplace_eq_some_iff.mp hstep
    intro location' placement hfind
    rw [SortedMap.find_set] at hfind
    split_ifs at hfind with hl
    · obtain rfl := Option.some.inj hfind
      exact ⟨hl ▸ hok.1, hok.2⟩
    · exact hm location' placement hfind

/-- **As many placements as selected locations are those of every selected location.** -/
theorem keys_placed (hsel : s.selected.Pairwise (· < ·)) {values : List Json}
    {parsed : SortedMap Int Placement} (h : values.foldlM s.placed {} = some parsed)
    (hlen : values.length = s.selected.length) : parsed.keys = s.selected := by
  obtain ⟨hcount, hmem⟩ := placed_keys h
  refine SortedMap.keys_eq hsel ?_
  have hsub : parsed.keys ⊆ s.selected := by
    intro location hloc
    obtain ⟨placement, hfind⟩ := SortedMap.contains_iff.mp (SortedMap.mem_keys_iff.mp hloc)
    exact (hmem location placement hfind).1
  have hperm : parsed.keys.Perm s.selected := by
    refine (List.subperm_of_subset parsed.keys_nodup hsub).perm_of_length_le ?_
    rw [SortedMap.keys, List.length_map, hcount, hlen]
  exact fun location => hperm.mem_iff

/-- A game whose names are known or asked for. -/
def Asked (s : Scouts) (game : String) : Prop :=
  s.itemNames.contains game = true ∨ s.requestedGames.contains game = true

/-- **The games asked for, and those known, are all that are placed.** -/
theorem neededGames_covers (h : ∀ e ∈ s.placements.entries, s.Receives e.2) :
    ∃ needed, s.neededGames = some needed ∧ ∀ e ∈ s.placements.entries, ∀ slot,
      s.slots.find e.2.recipient = some slot → s.Asked slot.game ∨ slot.game ∈ needed.keys := by
  refine PartialFold.foldlM_defined
    (I := fun (seen : List (Int × Placement)) (needed : SortedMap String Unit) => ∀ e ∈ seen, ∀ slot,
      s.slots.find e.2.recipient = some slot → s.Asked slot.game ∨ slot.game ∈ needed.keys)
    ?_ (fun e he => absurd he List.not_mem_nil)
  intro seen e needed he hseen
  obtain ⟨slot, hslot⟩ := SortedMap.contains_iff.mp (h e he).1
  simp only [hslot, Option.bind_eq_bind, Option.bind_some]
  have hlast : ∀ (needed' : SortedMap String Unit),
      (∀ game, game ∈ needed.keys → game ∈ needed'.keys) →
      (s.Asked slot.game ∨ slot.game ∈ needed'.keys) → ∀ e' ∈ seen ++ [e], ∀ slot',
        s.slots.find e'.2.recipient = some slot' → s.Asked slot'.game ∨ slot'.game ∈ needed'.keys := by
    intro needed' hmono hnew e' he' slot' hslot'
    rcases List.mem_append.mp he' with he' | he'
    · exact (hseen e' he' slot' hslot').imp_right (hmono _)
    · obtain rfl := List.mem_singleton.mp he'
      exact Option.some.inj (hslot.symm.trans hslot') ▸ hnew
  split_ifs with hneed
  · refine ⟨_, rfl, hlast _ (fun game hgame => ?_) (.inr ?_)⟩
    · rw [SortedMap.mem_keys_iff] at hgame ⊢
      rw [SortedMap.contains_set, hgame, Bool.or_true]
    · rw [SortedMap.mem_keys_iff, SortedMap.contains_set, decide_eq_true rfl, Bool.true_or]
  · refine ⟨_, rfl, hlast _ (fun _ hgame => hgame) (.inl ?_)⟩
    by_contra hno
    obtain ⟨hnames, hreq⟩ := not_or.mp hno
    exact hneed (by rw [Bool.not_eq_true] at hnames hreq; rw [hnames, hreq]; rfl)

theorem contains_foldl_set {games : List String} {m : SortedMap String Unit} {game : String} :
    (games.foldl (·.set · ()) m).contains game = true ↔ m.contains game = true ∨ game ∈ games := by
  induction games generalizing m with
  | nil => simp
  | cons game' games ih =>
    rw [List.foldl_cons, ih, SortedMap.contains_set, Bool.or_eq_true, decide_eq_true_iff,
      List.mem_cons]
    tauto

/-- The names of a game cover what is placed of it. -/
def Covers (s : Scouts) (game : String) (names : SortedMap Int String) : Prop :=
  ∀ e ∈ s.placements.entries, ∀ slot, s.slots.find e.2.recipient = some slot → slot.game = game →
    names.contains e.2.item = true

/-- The items needed of a game are all that are placed of it. -/
theorem neededItems_covers {game : String} {needed : SortedMap Int Unit}
    (h : s.neededItems game = some needed) : ∀ e ∈ s.placements.entries, ∀ slot,
      s.slots.find e.2.recipient = some slot → slot.game = game → e.2.item ∈ needed.keys := by
  refine PartialFold.foldlM_invariant
    (I := fun (seen : List (Int × Placement)) (needed : SortedMap Int Unit) => ∀ e ∈ seen, ∀ slot,
      s.slots.find e.2.recipient = some slot → slot.game = game → e.2.item ∈ needed.keys)
    ?_ (fun e he => absurd he List.not_mem_nil) h
  intro seen e needed needed' _ hseen hstep e' he' slot' hslot' hgame
  simp only [Option.bind_eq_bind, Option.bind_eq_some_iff, Option.pure_def, Option.some.injEq] at hstep
  obtain ⟨slot, hslot, rfl⟩ := hstep
  rw [SortedMap.mem_keys_iff]
  rcases List.mem_append.mp he' with he' | he'
  · have hold := SortedMap.mem_keys_iff.mp (hseen e' he' slot' hslot' hgame)
    split_ifs
    · rw [SortedMap.contains_set, hold, Bool.or_true]
    · exact hold
  · obtain rfl := List.mem_singleton.mp he'
    obtain rfl := Option.some.inj (hslot.symm.trans hslot')
    rw [if_pos hgame, SortedMap.contains_set, decide_eq_true rfl, Bool.true_or]

/-- What is known of the names of the games. -/
structure NamesSound (s : Scouts) (itemNames : SortedMap String (SortedMap Int String)) : Prop where
  requested : ∀ game names, itemNames.find game = some names → s.requestedGames.contains game = true
  covers : ∀ game names, itemNames.find game = some names → s.Covers game names
  short : ∀ game names, itemNames.find game = some names → ShortTexts names

/-- Before the first package. -/
theorem NamesSound.empty : s.NamesSound {} :=
  ⟨fun _ _ h => absurd h nofun, fun _ _ h => absurd h nofun, fun _ _ h => absurd h nofun⟩

/-- One game of a data package. -/
theorem packaged_sound {updated updated' : SortedMap String (SortedMap Int String)}
    {entry : String × Json} (hu : s.NamesSound updated)
    (h : s.packaged updated entry = some updated') :
    s.NamesSound updated' ∧ ∃ names, updated' = updated.set entry.1 names := by
  obtain ⟨game, package⟩ := entry
  unfold packaged at h
  dsimp only at h
  split_ifs at h with hknown
  simp only [Option.bind_eq_bind, Option.bind_eq_some_iff] at h
  obtain ⟨_, -, checksum, -, names, -, h⟩ := h
  have hreq : s.requestedGames.contains game = true := by
    by_contra hno
    exact hknown (by rw [Bool.not_eq_true] at hno; rw [hno]; rfl)
  cases names with
  | object names =>
    dsimp only at h
    split_ifs at h
    simp only [Option.bind_eq_some_iff] at h
    obtain ⟨needed, hneeded, resolved, hresolved, h⟩ := h
    split_ifs at h with hall
    obtain ⟨-, rfl⟩ := SortedMap.emplace_eq_some_iff.mp h
    refine ⟨⟨?_, ?_, ?_⟩, resolved, rfl⟩
    · intro game' names' hfind
      rw [SortedMap.find_set] at hfind
      split_ifs at hfind with hg
      · exact hg ▸ hreq
      · exact hu.requested game' names' hfind
    · intro game' names' hfind
      rw [SortedMap.find_set] at hfind
      split_ifs at hfind with hg
      · obtain rfl := Option.some.inj hfind
        intro e he slot hslot hgame
        exact List.all_eq_true.mp hall _ (neededItems_covers hneeded e he slot hslot (hgame.trans hg))
      · exact hu.covers game' names' hfind
    · intro game' names' hfind
      rw [SortedMap.find_set] at hfind
      split_ifs at hfind
      · exact Option.some.inj hfind ▸ resolvedNames_short hresolved
      · exact hu.short game' names' hfind
  | _ => exact absurd h nofun

/-- The games of a data package are added to those that are known. -/
theorem packages_sound {fields : List (String × Json)}
    {updated : SortedMap String (SortedMap Int String)} (hs : s.NamesSound s.itemNames)
    (h : fields.foldlM s.packaged s.itemNames = some updated) :
    s.NamesSound updated ∧ ∀ game, updated.contains game = true ↔
      s.itemNames.contains game = true ∨ game ∈ fields.map (·.1) := by
  refine PartialFold.foldlM_invariant
    (I := fun seen (m : SortedMap String (SortedMap Int String)) =>
      s.NamesSound m ∧ ∀ game, m.contains game = true ↔
        s.itemNames.contains game = true ∨ game ∈ seen.map (·.1))
    ?_ ⟨hs, fun game => by simp⟩ h
  intro seen entry m m' _ ⟨hm, hseen⟩ hstep
  obtain ⟨hm', names, rfl⟩ := packaged_sound hm hstep
  refine ⟨hm', fun game => ?_⟩
  rw [SortedMap.contains_set, Bool.or_eq_true, decide_eq_true_iff, hseen, List.map_append,
    List.mem_append, List.map_singleton, List.mem_singleton]
  tauto

/-- A room update keeps the aliases short and drops none. -/
theorem renamed_sound {values : List Json} {result : SortedMap Nat String × SortedMap Nat Unit}
    (hs : ShortTexts s.aliases) (h : values.foldlM s.renamed (s.aliases, {}) = some result) :
    ShortTexts result.1 ∧ ∀ slot, s.aliases.contains slot = true → result.1.contains slot = true := by
  refine PartialFold.foldlM_invariant
    (I := fun _ (m : SortedMap Nat String × SortedMap Nat Unit) =>
      ShortTexts m.1 ∧ ∀ slot, s.aliases.contains slot = true → m.1.contains slot = true)
    ?_ ⟨hs, fun _ h => h⟩ h
  intro _ value m m' _ ⟨hshort, hmono⟩ hstep
  unfold renamed at hstep
  simp only [Option.bind_eq_bind, Option.bind_eq_some_iff] at hstep
  obtain ⟨⟨team, slot, playerAlias⟩, hplayer, hstep⟩ := hstep
  dsimp only at hstep
  split_ifs at hstep
  · simp only [Option.bind_eq_some_iff, Option.some.injEq] at hstep
    obtain ⟨seen, -, rfl⟩ := hstep
    refine ⟨hshort.set (player_short hplayer), fun slot' h => ?_⟩
    rw [SortedMap.contains_set, hmono slot' h, Bool.or_true]
  · obtain rfl := Option.some.inj hstep
    exact ⟨hshort, hmono⟩

end Scouts

end Dk64Port.Archipelago
