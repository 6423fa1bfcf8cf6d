import Dk64Port.Coop.PacketLayout
import Mathlib.Algebra.Group.Nat.Defs

/-!
# A packet arrives as it was sent

* `decode_of_layout`: a datagram with the layout of a sendable packet is decoded to that packet.
* `decode_encode`: **every sendable packet arrives, its inventory cut to the page on the wire.**
-/

namespace Dk64Port.Coop

open ByteLayout

variable {b : Image} {p : Packet} {bytes : List Byte}

/-- What the checks of `decode` ask of a packet. -/
structure Sendable (p : Packet) : Prop where
  room : 100000 ≤ p.room ∧ p.room ≤ 999999
  nonce : p.nonce ≠ 0
  node : p.authorityNode ≠ 0
  session : p.session = 0 ↔ p.kind.sessionless = true
  player : validState p.player = true
  transition : p.kind ≠ .state → p.player.transitionTicket = 0 ∧ p.player.transitionRoute = 0
  progress : validProgress p.progress = true ∧ (p.kind ≠ .state → p.progress.feature = 0)
  combat : validCombat p.combat = true ∧ (p.kind ≠ .state → p.combat.enabled = 0)
  items : validItems p.items = true ∧ (p.kind ≠ .state → p.items.feature = 0)
  world : validWorld p.world = true ∧ (p.kind ≠ .state → p.world.feature = 0)
  transient : validTransient p.transient = true ∧ (p.kind ≠ .state → p.transient.feature = 0)
  shared : p.world.feature ≠ 0 → p.items.feature ≠ 0 ∧ p.world.file = p.items.file
    ∧ (p.world.ready ≠ 0 → p.items.ready ≠ 0) ∧ p.progress.feature = 0

/-- The packet as it arrives. -/
def Packet.arrived (p : Packet) : Packet := { p with items := p.items.projected }

/-! ## The fields of a layout -/

theorem ofCode_code (kind : Kind) : Kind.ofCode kind.code = some kind := by
  cases kind <;> rfl

theorem Core.readFields_player (h : Core b p) (kind : Kind) :
    (readFields b kind).player = p.player := by
  refine Eq.trans ?_ (stateFromWords_stateToWords p.player)
  unfold readFields
  dsimp only
  congr 1
  funext i
  by_cases hi : i.val < 10
  · rw [if_pos hi, h.player i.val hi, wordAt_of_lt i.isLt]
  · rw [if_neg hi]
    have hlt : i.val < 12 := i.isLt
    obtain hi' | hi' : i = 10 ∨ i = 11 := by
      rw [Fin.ext_iff, Fin.ext_iff]
      change i.val = 10 ∨ i.val = 11
      omega
    · subst hi'
      exact h.ticket
    · subst hi'
      exact h.route

theorem Core.readFields_combat (h : Core b p) (kind : Kind) (hv : validCombat p.combat = true) :
    (readFields b kind).combat = p.combat :=
  (congrArg combatFromWords (funext h.combat)).trans (combatFromWords_combatWords hv)

theorem Core.readFields_items (h : Core b p) (kind : Kind) :
    (readFields b kind).items = p.items.projected :=
  (congrArg itemsFromWords (funext h.items)).trans itemsFromWords_itemWords

theorem Core.readFields_transient (h : Core b p) (kind : Kind) :
    (readFields b kind).transient = p.transient :=
  (congrArg transientFromWords (funext h.transient)).trans (transientFromWords_transientWords _)

theorem Layout.readWorldWords (h : Layout b p) (hf : p.world.feature ≠ 0) :
    readWorldWords b = worldWords p.world := by
  have hoverlap := h.overlap
  unfold overlapWords at hoverlap
  rw [if_pos hf] at hoverlap
  funext i
  have hlt : i.val < 19 := i.isLt
  unfold Coop.readWorldWords
  by_cases hi : i.val < worldPrefixWords
  · rw [if_pos hi]
    have hi4 : i.val < 4 := hi
    obtain h0 | h0 | h0 | h0 : i = 0 ∨ i = 1 ∨ i = 2 ∨ i = 3 := by
      rw [Fin.ext_iff, Fin.ext_iff, Fin.ext_iff, Fin.ext_iff]
      change i.val = 0 ∨ i.val = 1 ∨ i.val = 2 ∨ i.val = 3
      omega
    all_goals subst h0
    · exact hoverlap 0
    · exact hoverlap 1
    · exact hoverlap 2
    · exact hoverlap 3
  · rw [if_neg hi]
    have hi4 : ¬ i.val < 4 := hi
    have hw := h.world (i.val - 4) (by omega)
    have hsub : i.val - 4 + 4 = i.val := by omega
    rw [hsub, wordAt_of_lt i.isLt] at hw
    exact hw

/-- The payload behind byte 80 is the one of the packet. -/
theorem Layout.readOverlap (h : Layout b p) (hs : Sendable p) {q : Packet} :
    readOverlap b q = some (if p.world.feature ≠ 0 then { q with world := p.world }
      else { q with progress := p.progress }) := by
  have hoverlap := h.overlap
  unfold overlapWords at hoverlap
  unfold Coop.readOverlap
  by_cases hf : p.world.feature ≠ 0
  · rw [if_pos hf] at hoverlap
    have hempty : p.progress = {} := progress_eq_empty hs.progress.1 (hs.shared hf).2.2.2
    have hzero : get32 b 100 = 0 := by
      refine (hoverlap 5).trans (if_neg ?_)
      rw [hempty]
      decide
    have hmarker : get32 b 96 = worldPrefixMarker := hoverlap 4
    rw [if_pos hmarker, if_neg (not_not.mpr hzero), if_pos hf, h.readWorldWords hf,
      worldFromWords_worldWords]
  · rw [if_neg hf] at hoverlap
    have hmarker : get32 b 96 ≠ worldPrefixMarker := by
      intro hm
      have hvalue : p.progress.value = worldPrefixMarker := (hoverlap 4).symm.trans hm
      have hle := progress_value_le hs.progress.1
      rw [hvalue] at hle
      exact absurd hle (by decide)
    have hsuffix : ¬ ∃ i : Fin worldSuffixWords, get32 b (worldOffset + 4 * i.val) ≠ 0 := by
      rintro ⟨i, hi⟩
      refine hi ((h.world i.val i.isLt).trans ?_)
      rw [world_eq_empty hs.world.1 (not_not.mp hf)]
      have hzero : ∀ i : Fin 15, wordAt (worldWords {}) (i.val + 4) = 0 := by decide
      exact hzero i
    have hwords : getWords 6 b 80 = progressWords p.progress := funext hoverlap
    rw [if_neg hmarker, if_neg hsuffix, if_neg hf, hwords, progressFromWords_progressWords]

/-! ## The checks -/

/-- What arrives of a sendable packet passes the checks. -/
theorem validPacket_arrived (h : Sendable p) : validPacket p.arrived = true := by
  have hkind : ∀ {P : Prop}, (p.kind ≠ .state → P) → p.kind = .state ∨ P :=
    fun hp => (em (p.kind = .state)).imp_right hp
  have hitems : validItems p.items.projected = true := by
    rcases validItems_iff.mp h.items.1 with h0 | h1
    · rw [h0, projected_empty]
      exact validItems_empty
    · exact h1.projected.valid
  unfold validPacket Packet.arrived
  simp only [Bool.and_eq_true, decide_eq_true_eq]
  refine ⟨⟨⟨⟨⟨⟨⟨⟨⟨h.node, h.world.1, hkind h.world.2⟩, h.transient.1, hkind h.transient.2⟩, ?_⟩,
    hitems, hkind h.items.2⟩, h.combat.1, hkind h.combat.2⟩, h.progress.1, hkind h.progress.2⟩,
    hkind h.transition⟩, ⟨h.room.1, h.room.2, h.nonce⟩, h.player⟩, ?_⟩
  · rintro ⟨hf, hbad⟩
    obtain ⟨h1, h2, h3, -⟩ := h.shared hf
    rcases hbad with h0 | h0 | ⟨h0, h0'⟩
    · exact h1 h0
    · exact h0 h2
    · exact h3 h0 h0'
  · by_cases hs : p.kind.sessionless = true
    · rw [if_pos hs]
      exact decide_eq_true (h.session.mpr hs)
    · rw [if_neg hs]
      exact decide_eq_true fun h0 => hs (h.session.mp h0)

/-- A datagram that shows a sendable packet, and whose shared words `readOverlap` takes for the
payload of the packet, is decoded to that packet. -/
theorem decode_of_core (hlen : bytes.length = packetSize) (h : Core (image bytes) p)
    (hs : Sendable p)
    (hover : readOverlap (image bytes) (readFields (image bytes) p.kind) = some
      (if p.world.feature ≠ 0 then { readFields (image bytes) p.kind with world := p.world }
        else { readFields (image bytes) p.kind with progress := p.progress })) :
    decode bytes = some p.arrived := by
  have hhead : ¬ (bytes.length ≠ packetSize ∨ get32 (image bytes) 0 ≠ packetMagic
      ∨ get16 (image bytes) 4 ≠ protocolVersion ∨ get32 (image bytes) 8 ≠ compatibility
      ∨ get32 (image bytes) 36 ≠ 0) := by
    rintro (h1 | h1 | h1 | h1 | h1)
    · exact h1 hlen
    · exact h1 h.magic
    · exact h1 h.version
    · exact h1 h.compatibility
    · exact h1 h.reserved
  unfold decode
  dsimp only
  rw [if_neg hhead, h.kind, ofCode_code, Option.bind_some, hover, Option.bind_some]
  have hq : (if p.world.feature ≠ 0 then { readFields (image bytes) p.kind with world := p.world }
      else { readFields (image bytes) p.kind with progress := p.progress }) = p.arrived := by
    by_cases hf : p.world.feature ≠ 0
    · have hempty : p.progress = {} := progress_eq_empty hs.progress.1 (hs.shared hf).2.2.2
      rw [if_pos hf]
      exact Packet.ext rfl h.sequence h.session h.nonce h.room (h.readFields_player p.kind)
        hempty.symm (h.readFields_combat p.kind hs.combat.1) (h.readFields_items p.kind) rfl
        (h.readFields_transient p.kind) h.term h.node
    · have hempty : p.world = {} := world_eq_empty hs.world.1 (not_not.mp hf)
      rw [if_neg hf]
      exact Packet.ext rfl h.sequence h.session h.nonce h.room (h.readFields_player p.kind) rfl
        (h.readFields_combat p.kind hs.combat.1) (h.readFields_items p.kind) hempty.symm
        (h.readFields_transient p.kind) h.term h.node
  rw [hq, if_pos (validPacket_arrived hs)]

/-- A datagram with the layout of a sendable packet is decoded to that packet. -/
theorem decode_of_layout (hlen : bytes.length = packetSize) (h : Layout (image bytes) p)
    (hs : Sendable p) : decode bytes = some p.arrived :=
  decode_of_core hlen h.toCore hs (h.readOverlap hs)

/-- **Every sendable packet arrives, its inventory cut to the page on the wire.** -/
theorem decode_encode (h : Sendable p) :
    decode (encode p) = some { p with items := p.items.projected } :=
  decode_of_layout (length_encode p) (layout_image_encode p) h

/-- A player meets a boss that moves, with one enemy and one shot beside it. -/
def bossPacket : Packet where
  kind := .state
  sequence := 9
  session := 7
  nonce := 5
  room := 123456
  player := { map := 8, epoch := 1, flags := stateActive }
  progress := { feature := 1, file := 1, ready := 1, scope := 1, value := 1 }
  combat :=
    { enabled := 3, file := 1, layout := 0x1234, pages := 2, page := 1
      enemies := fun i =>
        if i = 1 then { key := 256, life := 100, state := enemyRequest, peerLife := 200, kind := 34 }
        else {}
      shots := fun i => if i = 0 then { id := 4, kind := 6, scale := 0x3F800000 } else {}
      boss := { kind := 11, life := 300, peerLife := 400, phase := 1 }
      bossMotion := { kind := 11, life := 300, x := 0x3F800000, yaw := 4095, pose := 31, clipHash := 63 } }
  transient :=
    { feature := 1, file := 1, map := 8, epoch := 1, revision := 1, count := 1
      records := fun i => if i = 0 then { kind := 5, key := 3, state := 2, value := 2 } else {} }
  authorityTerm := 1
  authorityNode := 2

theorem decode_encode_bossPacket :
    decode (encode bossPacket) = some { bossPacket with items := bossPacket.items.projected } := by
  refine decode_encode ?_
  constructor
  case room => exact ⟨by decide, by decide⟩
  case items => exact ⟨validItems_empty, fun _ => rfl⟩
  case shared => exact fun h => absurd rfl h
  all_goals decide

end Dk64Port.Coop
