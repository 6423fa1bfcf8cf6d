import Dk64Port.Archipelago.Game
import Mathlib.Data.List.Nodup
import Mathlib.Data.List.ProdSigma
import Mathlib.Algebra.Ring.Int.Defs

/-!
# Committing a receipt (`mod/campaign_transaction.c`)

A commit takes a copy of the pending transaction, compares it with the published one, advances the
trailer and writes the item into the progress. What it has checked is `Committable`.

* `commit`: the whole of `ap_campaign_transaction_commit`.
* `commit_refuses_or_executes`: it refuses and changes nothing, or it was committable and executes.
* `leastBananas_spec`: the balanced golden banana goes to a smallest counter.
-/

namespace Dk64Port.Archipelago

open ByteLayout (Byte)

/-! ## Comparing transactions -/

namespace CampaignInventory

/-- `same_bytes` over two inventories. -/
def sameBytes (a b : CampaignInventory) : Bool :=
  (List.range 5).all (fun kong => a.moves kong == b.moves kong && a.guns kong == b.guns kong &&
    a.instruments kong == b.instruments kong && a.hints kong == b.hints kong &&
      a.blueprints kong == b.blueprints kong) &&
    a.kongs == b.kongs && a.keys == b.keys && a.abilities == b.abilities &&
    a.special == b.special && a.slam == b.slam && a.belt == b.belt &&
    a.instrumentUpgrades == b.instrumentUpgrades && a.shopkeepers == b.shopkeepers &&
    a.climbing == b.climbing && a.reserved == b.reserved &&
    a.goldenBananas == b.goldenBananas && a.fairies == b.fairies && a.crowns == b.crowns &&
    a.medals == b.medals && a.pearls == b.pearls && a.rainbowCoins == b.rainbowCoins &&
    a.junk == b.junk &&
    (List.range trapTypeCount).all (fun type => a.traps type == b.traps type) &&
    (List.range itemFlagWords).all (fun word => a.flags word == b.flags word)

/-- What `executable_only` leaves of an inventory. -/
def withoutExecutable (inventory : CampaignInventory) : CampaignInventory :=
  { inventory with
    moves := fun _ => 0
    guns := fun _ => 0
    instruments := fun _ => 0
    slam := 0
    belt := 0
    instrumentUpgrades := 0
    abilities := 0
    kongs := 0
    keys := 0
    flags := fun _ => 0
    climbing := 0
    shopkeepers := 0
    special := 0
    hints := fun _ => 0
    blueprints := fun _ => 0
    goldenBananas := 0
    fairies := 0
    crowns := 0
    medals := 0
    pearls := 0
    rainbowCoins := 0
    junk := 0
    traps := fun _ => 0 }

end CampaignInventory

/-- `same_bytes` over two transactions. -/
def Transaction.sameBytes (a b : Transaction) : Bool :=
  a.magic == b.magic && a.format == b.format && a.classes == b.classes && a.itemId == b.itemId &&
    a.reserved == b.reserved && a.current == b.current && a.next == b.next &&
    a.before.sameBytes b.before && a.after.sameBytes b.after

/-- `executable_only`. -/
def executableOnly (before after : CampaignInventory) : Bool :=
  before.withoutExecutable.sameBytes after.withoutExecutable

/-- `executable_item` of a row. -/
def executableItem (item : ItemEffectDef) : Bool :=
  item.effects.all fun effect =>
    match effect.kind with
    | .unsupported => false
    | .trap => trapExecutable effect.arg0
    | _ => true

/-! ## Writing the progress -/

/-- The slots of `give_balanced_golden_banana`, in the order of its loops. -/
def bananaSlots : List (Nat × Nat) :=
  (List.range 5).flatMap fun kong => (List.range 9).map fun level => (kong, level)

namespace Progress

/-- The counter of a slot. -/
def bananas (p : Progress) (slot : Nat × Nat) : BitVec 16 :=
  (p.characters slot.1).goldenBananas slot.2

def setBananas (p : Progress) (slot : Nat × Nat) (value : BitVec 16) : Progress :=
  let character := p.characters slot.1
  let bananas := Function.update character.goldenBananas slot.2 value
  { p with characters :=
      Function.update p.characters slot.1 { character with goldenBananas := bananas } }

/-- The loops of `give_balanced_golden_banana`: the target and the minimum. -/
def leastBananas (p : Progress) : (Nat × Nat) × Int :=
  bananaSlots.foldl
    (fun best slot =>
      if (p.bananas slot).toInt < best.2 then (slot, (p.bananas slot).toInt) else best)
    ((0, 0), 99999)

/-- `give_balanced_golden_banana`. -/
def giveBalancedGoldenBanana (p : Progress) : Progress :=
  p.setBananas p.leastBananas.1 (p.bananas p.leastBananas.1 + 1)

/-- The loop over the `AP_EFFECT_FLAG` effects. -/
def setFlags (item : ItemEffectDef) (source : Transaction) (p : Progress) : Progress :=
  item.effects.foldl
    (fun p effect =>
      let flag := effect.arg1.toNat
      if effect.kind = .flag ∧ (source.before.flags (flag / 32)).getLsbD (flag % 32) = false ∧
          (source.after.flags (flag / 32)).getLsbD (flag % 32) = true then
        { p with flags := Function.update p.flags flag true }
      else p) p

/-- The rainbow coins. -/
def addCoins (p : Progress) : Progress :=
  p.forKongs fun _ character => { character with coins := character.coins + 5 }

/-- The melons that instruments come with. -/
def melonsOf (after : CampaignInventory) : Nat :=
  (List.range 5).foldl
    (fun melons kong =>
      let melons := if after.instruments kong &&& 3 != 0 then max 2 melons else melons
      if after.instruments kong &&& 12 != 0 then 3 else melons) 0

/-- The last loop: the levels the inventory says. -/
def writeOwned (after : CampaignInventory) (p : Progress) : Progress :=
  let p := p.forKongs fun kong character =>
    { character with
      moves := character.moves &&& ~~~ 7 ||| after.moves kong
      simianSlam := after.slam
      weapon := character.weapon &&& ~~~ 7 ||| after.guns kong
      ammoBelt := after.belt
      instrument := character.instrument &&& ~~~ 15 ||| after.instruments kong }
  if p.melons.toNat < melonsOf after then { p with melons := BitVec.ofNat 8 (melonsOf after) }
  else p

/-- Everything a commit writes into the progress. -/
def receive (item : ItemEffectDef) (source : Transaction) (p : Progress) : Progress :=
  let p := p.setFlags item source
  let p := if source.before.goldenBananas < source.after.goldenBananas then
    p.giveBalancedGoldenBanana else p
  let p := if source.before.rainbowCoins < source.after.rainbowCoins then p.addCoins else p
  p.writeOwned source.after

end Progress

/-! ## The commit -/

namespace Game

/-- What follows the staging of the trailer. -/
def execute (tables : TrapTables) (item : ItemEffectDef) (source : Transaction) (g : Game) :
    Game :=
  let g := g.startTraps tables item
  let g := { g with progress := g.progress.receive item source }
  let g := g.save
  { g with publications := { g.publications with
      transaction := { g.publications.transaction with ready := false } } }

/-- `AP_GAMEPLAY_MOVES | AP_GAMEPLAY_SAVE | AP_GAMEPLAY_ITEMS`. -/
def commitMode : Word := gameplayMoves ||| gameplaySave ||| gameplayItems

/-- `ap_campaign_transaction_commit`, of the transaction at `sourceAt`. -/
def commit (cat : Catalog) (tables : TrapTables) (g : Game) (sourceAt : Word)
    (source : Transaction) : Bool × Game :=
  if sourceAt == 0 || !aligned sourceAt || g.currentFile != 0 || g.numberOfPlayers != 1 ||
      g.gameMode != .adventure || g.gameModeCopy != .adventure ||
      g.gameplayMode &&& commitMode != commitMode then (false, g)
  else match cat.findItem source.itemId with
  | none => (false, g)
  | some item =>
    if source.magic != campaignTransactionMagic || source.format != campaignTransactionFormat ||
        source.reserved != 0 ||
        source.classes &&& ~~~ (transactionNoop ||| transactionOwnership ||| transactionCounted |||
          transactionTrap) != 0 || source.classes == 0 || !source.current.supported ||
        !source.next.supported || source.current.counter == 0xFFFF ||
        source.next.counter.toNat != source.current.counter.toNat + 1 ||
        !source.current.sameIdentity g.publications.transaction.identity ||
        !executableItem item || !executableOnly source.before source.after then (false, g)
    else match transactionSnapshot g.scene g.publications.transaction source.current with
    | .unavailable | .complete => (false, g)
    | .pending staged =>
      if !source.sameBytes staged then (false, g)
      else if source.classes &&& transactionTrap != 0 && g.gameplayMode &&& gameplayTraps == 0 then
        (false, g)
      else if item.effects.any fun effect =>
          effect.kind == .trap && !g.trapCanStart tables effect.arg0 then (false, g)
      else if source.current.binding != source.next.binding then (false, g)
      else match trailerStage g.currentFile g.gameplayMode g.trailer source.next with
      | none => (false, g)
      -- everything after this point is infallible
      | some trailer => (true, ({ g with trailer := trailer } : Game).execute tables item source)

end Game

/-! ## What has been checked -/

/-- The fields of an inventory that reach the progress. -/
structure CampaignInventory.SameLevels (a b : CampaignInventory) : Prop where
  moves : ∀ kong < 5, a.moves kong = b.moves kong
  guns : ∀ kong < 5, a.guns kong = b.guns kong
  instruments : ∀ kong < 5, a.instruments kong = b.instruments kong
  slam : a.slam = b.slam
  belt : a.belt = b.belt
  goldenBananas : a.goldenBananas = b.goldenBananas
  rainbowCoins : a.rainbowCoins = b.rainbowCoins

theorem CampaignInventory.sameLevels_of_sameBytes {a b : CampaignInventory}
    (h : a.sameBytes b) : a.SameLevels b := by
  simp only [sameBytes, Bool.and_eq_true, beq_iff_eq, List.all_eq_true, List.mem_range] at h
  obtain ⟨⟨⟨⟨⟨⟨⟨⟨⟨⟨⟨⟨⟨⟨⟨⟨⟨⟨⟨hkongs, -⟩, -⟩, -⟩, -⟩, hslam⟩, hbelt⟩, -⟩, -⟩, -⟩, -⟩, hbananas⟩, -⟩, -⟩,
    -⟩, -⟩, hrainbow⟩, -⟩, -⟩, -⟩ := h
  exact ⟨fun kong hk => (hkongs kong hk).1.1.1.1, fun kong hk => (hkongs kong hk).1.1.1.2,
    fun kong hk => (hkongs kong hk).1.1.2, hslam, hbelt, hbananas, hrainbow⟩

/-- What an accepted commit has checked of the transaction and of the game. -/
structure Committable (cat : Catalog) (tables : TrapTables) (g : Game) (source : Transaction)
    (item : ItemEffectDef) : Prop where
  row : cat.findItem source.itemId = some item
  executable : executableItem item
  ready : g.publications.transaction.ready
  hasItem : g.publications.transaction.hasItem
  itemId : source.itemId = g.publications.transaction.published.itemId
  next : source.next = g.publications.transaction.published.next
  before : source.before.SameLevels g.publications.transaction.published.before
  after : source.after.SameLevels g.publications.transaction.published.after
  identity : g.publications.transaction.identity = g.trailer
  trailer : g.trailer.supported
  next_supported : source.next.supported
  binding : source.next.binding = g.trailer.binding
  counter : source.next.counter.toNat = g.trailer.counter.toNat + 1
  traps : ∀ effect ∈ item.effects, effect.kind = .trap → g.trapCanStart tables effect.arg0

variable {cat : Catalog} {tables : TrapTables} {g : Game} {sourceAt : Word} {source : Transaction}

theorem transactionSnapshot_pending {s : Scene} {p : TransactionPublication}
    {identity : CampaignSave} {staged : Transaction}
    (h : transactionSnapshot s p identity = .pending staged) :
    p.ready ∧ p.hasItem ∧ staged = p.published ∧ p.identity = s.trailer ∧ identity = s.trailer ∧
      trailerRead s.currentFile s.trailer = .bound := by
  unfold transactionSnapshot at h
  split at h
  · cases h
  rename_i hguard
  split at h
  · rename_i hitem
    cases h
    simp only [Bool.or_eq_true, Bool.not_eq_true', not_or, Bool.not_eq_false, bne_iff_ne, ne_eq,
      not_not, CampaignSave.sameIdentity_iff] at hguard
    obtain ⟨⟨⟨⟨⟨-, -⟩, hready⟩, hsame⟩, hbound⟩, htrailer⟩ := hguard
    exact ⟨hready, hitem, rfl, hsame.symm.trans htrailer, htrailer, hbound⟩
  · cases h

/-- **A commit refuses and changes nothing, or it was committable and executes.** -/
theorem commit_refuses_or_executes (cat : Catalog) (tables : TrapTables) (g : Game) (sourceAt : Word)
    (source : Transaction) :
    g.commit cat tables sourceAt source = (false, g) ∨
      ∃ item, Committable cat tables g source item ∧
        g.commit cat tables sourceAt source =
          (true, ({ g with trailer := source.next } : Game).execute tables item source) := by
  unfold Game.commit
  split
  · exact .inl rfl
  split
  · exact .inl rfl
  rename_i item hitem
  split
  · exact .inl rfl
  rename_i hguard
  split
  · exact .inl rfl
  · exact .inl rfl
  rename_i staged hstaged
  split
  · exact .inl rfl
  rename_i hsame
  split
  · exact .inl rfl
  split
  · exact .inl rfl
  rename_i htraps
  split
  · exact .inl rfl
  split
  · exact .inl rfl
  rename_i next htrailer
  obtain ⟨hready, hhas, rfl, hidentity, hcurrent, hbound⟩ := transactionSnapshot_pending hstaged
  obtain ⟨rfl, hsupported, hbinding, -⟩ := trailerStage_bound htrailer hbound
  rw [Bool.not_eq_true, Bool.not_eq_false'] at hsame
  simp only [Transaction.sameBytes, Bool.and_eq_true, beq_iff_eq] at hsame
  obtain ⟨⟨⟨⟨⟨⟨-, hitemId⟩, -⟩, -⟩, hnext⟩, hbefore⟩, hafter⟩ := hsame
  simp only [Bool.or_eq_true, not_or, bne_iff_ne, ne_eq, not_not, Bool.not_eq_true',
    Bool.not_eq_false] at hguard
  obtain ⟨⟨⟨⟨-, hcounter⟩, -⟩, hexecutable⟩, -⟩ := hguard
  rw [show source.current = g.trailer from hcurrent] at hcounter
  refine .inr ⟨item, ⟨hitem, hexecutable, hready, hhas, hitemId, hnext,
    CampaignInventory.sameLevels_of_sameBytes hbefore,
    CampaignInventory.sameLevels_of_sameBytes hafter, hidentity,
    (trailerRead_bound_iff.mp hbound).2, hsupported, hbinding, hcounter, ?_⟩, rfl⟩
  intro effect hmem hkind
  by_contra hcannot
  refine htraps (List.any_eq_true.mpr ⟨effect, hmem, ?_⟩)
  rw [hkind, Bool.not_eq_true _ |>.mp hcannot]
  rfl

/-! ## What is written -/

/-- A fold that looks for a smallest value finds one. -/
theorem foldl_least {α : Type} (f : α → Int) :
    ∀ (l : List α) (best : α × Int),
      let r := l.foldl (fun best a => if f a < best.2 then (a, f a) else best) best
      (r = best ∨ r.1 ∈ l ∧ r.2 = f r.1) ∧ r.2 ≤ best.2 ∧ ∀ a ∈ l, r.2 ≤ f a
  | [], best => ⟨.inl rfl, Int.le_refl _, fun _ h => absurd h List.not_mem_nil⟩
  | a :: l, best => by
    rw [List.foldl_cons]
    by_cases hless : f a < best.2
    · rw [if_pos hless]
      obtain ⟨hmem, hle, hall⟩ := foldl_least f l (a, f a)
      refine ⟨.inr ?_, Int.le_trans hle (Int.le_of_lt hless), List.forall_mem_cons.mpr ⟨hle, hall⟩⟩
      rcases hmem with heq | ⟨hmem, hval⟩
      · rw [heq]
        exact ⟨List.mem_cons_self, rfl⟩
      · exact ⟨List.mem_cons_of_mem _ hmem, hval⟩
    · rw [if_neg hless]
      obtain ⟨hmem, hle, hall⟩ := foldl_least f l best
      refine ⟨hmem.imp_right fun h => ⟨List.mem_cons_of_mem _ h.1, h.2⟩, hle,
        List.forall_mem_cons.mpr ⟨by omega, hall⟩⟩

/-- Replacing one value of a list without repetitions. -/
theorem sum_map_ite {α : Type} [DecidableEq α] {a : α} (f : α → Int) (value : Int) :
    ∀ {l : List α}, l.Nodup → a ∈ l →
      (l.map fun b => if b = a then value else f b).sum = (l.map f).sum + (value - f a)
  | b :: l, hnodup, hmem => by
    obtain ⟨hfresh, hnodup⟩ := List.nodup_cons.mp hnodup
    rw [List.map_cons, List.map_cons, List.sum_cons, List.sum_cons]
    by_cases heq : b = a
    · subst heq
      have hrest : (l.map fun c => if c = b then value else f c) = l.map f :=
        List.map_congr_left fun c hc => if_neg (by rintro rfl; exact hfresh hc)
      rw [if_pos rfl, hrest]
      omega
    · have hrest : a ∈ l := (List.mem_cons.mp hmem).resolve_left fun e => heq e.symm
      rw [if_neg heq, sum_map_ite f value hnodup hrest]
      omega

namespace Progress

variable {p p' : Progress} {item : ItemEffectDef}

/-- The golden bananas of the nine levels. -/
def liveBananas (p : Progress) : Int := (bananaSlots.map fun slot => (p.bananas slot).toInt).sum

theorem mem_bananaSlots {slot : Nat × Nat} : slot ∈ bananaSlots ↔ slot.1 < 5 ∧ slot.2 < 9 := by
  obtain ⟨kong, level⟩ := slot
  have h : (kong, level) ∈ List.product (List.range 5) (List.range 9) ↔ _ := List.mem_product
  rw [List.mem_range, List.mem_range] at h
  exact h

theorem bananaSlots_nodup : bananaSlots.Nodup := by
  have h : (List.product (List.range 5) (List.range 9)).Nodup :=
    List.Nodup.product List.nodup_range List.nodup_range
  exact h

theorem liveBananas_congr (h : ∀ kong < 5,
    (p'.characters kong).goldenBananas = (p.characters kong).goldenBananas) :
    p'.liveBananas = p.liveBananas := by
  unfold liveBananas
  congr 1
  refine List.map_congr_left fun slot hslot => ?_
  rw [bananas, bananas, h slot.1 (mem_bananaSlots.mp hslot).1]

theorem bananas_setBananas (slot slot' : Nat × Nat) (value : BitVec 16) :
    (p.setBananas slot value).bananas slot' = if slot' = slot then value else p.bananas slot' := by
  obtain ⟨kong, level⟩ := slot
  obtain ⟨kong', level'⟩ := slot'
  unfold bananas setBananas
  by_cases hkong : kong' = kong
  · subst hkong
    by_cases hlevel : level' = level
    · simp [hlevel]
    · simp [hlevel]
  · simp [hkong]

/-- **The target is a slot with a smallest counter.** -/
theorem leastBananas_spec (p : Progress) :
    p.leastBananas.1 ∈ bananaSlots ∧
      ∀ slot ∈ bananaSlots, (p.bananas p.leastBananas.1).toInt ≤ (p.bananas slot).toInt := by
  have hspec : (p.leastBananas = ((0, 0), 99999) ∨ p.leastBananas.1 ∈ bananaSlots ∧
        p.leastBananas.2 = (p.bananas p.leastBananas.1).toInt) ∧ p.leastBananas.2 ≤ 99999 ∧
      ∀ slot ∈ bananaSlots, p.leastBananas.2 ≤ (p.bananas slot).toInt :=
    foldl_least (fun slot => (p.bananas slot).toInt) bananaSlots ((0, 0), 99999)
  generalize p.leastBananas = least at hspec ⊢
  obtain ⟨rfl | ⟨hmem, hval⟩, -, hall⟩ := hspec
  · have hlow := hall (0, 0) (mem_bananaSlots.mpr ⟨by decide, by decide⟩)
    have hhigh := BitVec.toInt_lt (x := p.bananas (0, 0))
    simp only at hlow
    omega
  · rw [hval] at hall
    exact ⟨hmem, hall⟩

/-- A golden banana changes the counter of its target. -/
theorem liveBananas_giveBalanced (p : Progress) :
    p.giveBalancedGoldenBanana.liveBananas = p.liveBananas +
      ((p.bananas p.leastBananas.1 + 1).toInt - (p.bananas p.leastBananas.1).toInt) := by
  obtain ⟨hmem, -⟩ := p.leastBananas_spec
  unfold liveBananas giveBalancedGoldenBanana
  simp only [bananas_setBananas, apply_ite BitVec.toInt]
  exact sum_map_ite (fun slot => (p.bananas slot).toInt) (p.bananas p.leastBananas.1 + 1).toInt
    bananaSlots_nodup hmem

/-- A golden banana counts, unless every counter is at its end. -/
theorem liveBananas_give (h : ∃ slot ∈ bananaSlots, (p.bananas slot).toInt < 32767) :
    p.giveBalancedGoldenBanana.liveBananas = p.liveBananas + 1 := by
  obtain ⟨-, hall⟩ := p.leastBananas_spec
  obtain ⟨slot, hslot, hless⟩ := h
  have htarget : (p.bananas p.leastBananas.1).toInt < 32767 :=
    Int.lt_of_le_of_lt (hall slot hslot) hless
  have hsucc : (p.bananas p.leastBananas.1 + 1).toInt = (p.bananas p.leastBananas.1).toInt + 1 := by
    generalize p.bananas p.leastBananas.1 = value at htarget
    have := BitVec.le_toInt value
    rw [BitVec.toInt_add, Int.bmod_eq_of_le] <;> simp <;> omega
  rw [liveBananas_giveBalanced, hsucc]
  omega

/-- Where every counter is at its end, one of them wraps. -/
theorem liveBananas_wrap (h : ∀ slot ∈ bananaSlots, p.bananas slot = 32767) :
    p.giveBalancedGoldenBanana.liveBananas = p.liveBananas - 65535 := by
  have hend : (32767#16 + 1).toInt - (32767#16).toInt = -65535 := by decide
  rw [liveBananas_giveBalanced, h _ p.leastBananas_spec.1]
  show _ + ((32767#16 + 1).toInt - (32767#16).toInt) = _
  rw [hend]
  rfl

/-! ## What a commit leaves in the progress -/

/-- The levels of the progress are those of an inventory. -/
structure Owns (p : Progress) (inventory : CampaignInventory) : Prop where
  moves : ∀ kong < 5, (p.characters kong).moves &&& 7 = inventory.moves kong
  weapon : ∀ kong < 5, (p.characters kong).weapon &&& 7 = inventory.guns kong
  instrument : ∀ kong < 5, (p.characters kong).instrument &&& 15 = inventory.instruments kong
  simianSlam : ∀ kong < 5, (p.characters kong).simianSlam = inventory.slam
  ammoBelt : ∀ kong < 5, (p.characters kong).ammoBelt = inventory.belt

theorem Owns.congr {inventory : CampaignInventory} (h : Owns p inventory) (hsame : SameItems p p') :
    Owns p' inventory where
  moves kong hk := (hsame.moves kong hk).trans (h.moves kong hk)
  weapon kong hk := (hsame.weapon kong hk).trans (h.weapon kong hk)
  instrument kong hk := (hsame.instrument kong hk).trans (h.instrument kong hk)
  simianSlam kong hk := (hsame.simianSlam kong hk).trans (h.simianSlam kong hk)
  ammoBelt kong hk := (hsame.ammoBelt kong hk).trans (h.ammoBelt kong hk)

theorem masked_or (a b mask : Byte) : (a &&& ~~~ mask ||| b) &&& mask = b &&& mask := by
  rw [BitVec.and_or_distrib_right, BitVec.and_assoc, BitVec.not_and_self]
  simp

variable {source : Transaction}

theorem setFlags_characters (item : ItemEffectDef) (source : Transaction) (p : Progress) :
    (p.setFlags item source).characters = p.characters := by
  unfold setFlags ItemEffectDef.effects
  simp only [List.foldl_cons, List.foldl_nil]
  split <;> split <;> rfl

theorem characters_setBananas (p : Progress) (slot : Nat × Nat) (value : BitVec 16) (kong : Nat) :
    ∃ bananas, (p.setBananas slot value).characters kong =
      { p.characters kong with goldenBananas := bananas } := by
  by_cases h : kong = slot.1
  · subst h
    exact ⟨_, Function.update_self _ _ _⟩
  · exact ⟨(p.characters kong).goldenBananas, Function.update_of_ne h _ _⟩

theorem characters_forKongs {f : Nat → Character → Character} {kong : Nat} (h : kong < 5) :
    (p.forKongs f).characters kong = f kong (p.characters kong) := if_pos h

theorem characters_writeOwned (after : CampaignInventory) (p : Progress) {kong : Nat}
    (h : kong < 5) :
    (p.writeOwned after).characters kong =
      { p.characters kong with
        moves := (p.characters kong).moves &&& ~~~ 7 ||| after.moves kong
        simianSlam := after.slam
        weapon := (p.characters kong).weapon &&& ~~~ 7 ||| after.guns kong
        ammoBelt := after.belt
        instrument := (p.characters kong).instrument &&& ~~~ 15 ||| after.instruments kong } := by
  simp only [writeOwned, forKongs]
  split <;> simp only [if_pos h]

/-- **The levels of a commit.** -/
theorem owns_receive {inventory : CampaignInventory} (item : ItemEffectDef)
    (source : Transaction) (p : Progress) (hsame : source.after.SameLevels inventory)
    (hmoves : ∀ kong < 5, inventory.moves kong &&& 7 = inventory.moves kong)
    (hguns : ∀ kong < 5, inventory.guns kong &&& 7 = inventory.guns kong)
    (hinstruments : ∀ kong < 5, inventory.instruments kong &&& 15 = inventory.instruments kong) :
    Owns (p.receive item source) inventory := by
  unfold receive
  simp only
  generalize (if source.before.rainbowCoins < source.after.rainbowCoins then _ else _) = p'
  constructor <;> intro kong hk <;> rw [characters_writeOwned source.after p' hk]
  · rw [masked_or, hsame.moves kong hk, hmoves kong hk]
  · rw [masked_or, hsame.guns kong hk, hguns kong hk]
  · rw [masked_or, hsame.instruments kong hk, hinstruments kong hk]
  · exact hsame.slam
  · exact hsame.belt

/-- **The coins of a commit**: five for each Kong when the item is rainbow coins. -/
theorem coins_receive (item : ItemEffectDef) (source : Transaction) (p : Progress) {kong : Nat}
    (hk : kong < 5) :
    ((p.receive item source).characters kong).coins = (p.characters kong).coins +
      if source.before.rainbowCoins < source.after.rainbowCoins then 5 else 0 := by
  have hgive : ∀ p : Progress, ((if source.before.goldenBananas < source.after.goldenBananas then
      p.giveBalancedGoldenBanana else p).characters kong).coins = (p.characters kong).coins := by
    intro p
    split
    · obtain ⟨bananas, h⟩ := characters_setBananas p p.leastBananas.1
        (p.bananas p.leastBananas.1 + 1) kong
      rw [giveBalancedGoldenBanana, h]
    · rfl
  have hflags := congrFun (setFlags_characters item source p) kong
  simp only [receive]
  rw [characters_writeOwned _ _ hk]
  simp only
  split
  · rw [addCoins, characters_forKongs hk]
    simp only
    rw [hgive, hflags]
  · rw [hgive, hflags]
    simp

theorem liveBananas_writeOwned (after : CampaignInventory) (p : Progress) :
    (p.writeOwned after).liveBananas = p.liveBananas :=
  liveBananas_congr fun _ hk => by rw [characters_writeOwned after p hk]

theorem liveBananas_addCoins (p : Progress) : p.addCoins.liveBananas = p.liveBananas :=
  liveBananas_congr fun _ hk => by rw [addCoins, characters_forKongs hk]

theorem bananas_setFlags (item : ItemEffectDef) (source : Transaction) (p : Progress)
    (slot : Nat × Nat) : (p.setFlags item source).bananas slot = p.bananas slot := by
  rw [bananas, bananas, setFlags_characters]

theorem liveBananas_receive_eq (item : ItemEffectDef) (source : Transaction) (p : Progress) :
    (p.receive item source).liveBananas =
      if source.before.goldenBananas < source.after.goldenBananas then
        (p.setFlags item source).giveBalancedGoldenBanana.liveBananas
      else p.liveBananas := by
  have hflags : (p.setFlags item source).liveBananas = p.liveBananas :=
    liveBananas_congr fun kong _ => by rw [setFlags_characters]
  simp only [receive]
  rw [liveBananas_writeOwned, apply_ite liveBananas, liveBananas_addCoins, ite_self,
    apply_ite liveBananas, hflags]

/-- **The golden bananas of a commit.** -/
theorem liveBananas_receive (item : ItemEffectDef) (source : Transaction) (p : Progress)
    (h : source.before.goldenBananas < source.after.goldenBananas →
      ∃ slot ∈ bananaSlots, (p.bananas slot).toInt < 32767) :
    (p.receive item source).liveBananas = p.liveBananas +
      if source.before.goldenBananas < source.after.goldenBananas then 1 else 0 := by
  rw [liveBananas_receive_eq]
  split
  · rename_i hmore
    obtain ⟨slot, hslot, hless⟩ := h hmore
    rw [liveBananas_give ⟨slot, hslot, by rwa [bananas_setFlags]⟩]
    congr 1
    exact liveBananas_congr fun kong _ => by rw [setFlags_characters]
  · rw [Int.add_zero]

end Progress

end Dk64Port.Archipelago
