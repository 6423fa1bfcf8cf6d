import Dk64Port.Coop.RoundTrip

/-!
# Accepted datagrams

What `decode` accepts is almost canonical: an accepted datagram is the encoding of its packet unless
the marker of the world payload stands before a world payload that is off. `encode` never writes
that marker, and `decode` does not refuse it.

* `layout_of_decode`: an accepted datagram without such a marker has the layout of its packet.
* `encode_decode`: **when an accepted datagram is the encoding of its packet.**
-/

namespace Dk64Port.Coop

open ByteLayout

variable {b : Image} {p q : Packet} {bytes : List Byte} {kind : Kind}

/-- The marker before a world payload whose feature word is zero. -/
def StrayMarker (bytes : List Byte) : Prop :=
  get32 (image bytes) 96 = worldPrefixMarker ∧ get32 (image bytes) worldPrefixOffset = 0

/-- What `decode` found. -/
structure Accepted (bytes : List Byte) (q : Packet) : Prop where
  length : bytes.length = packetSize
  magic : get32 (image bytes) 0 = packetMagic
  version : get16 (image bytes) 4 = protocolVersion
  compatibility : get32 (image bytes) 8 = compatibility
  reserved : get32 (image bytes) 36 = 0
  fields : ∃ kind, Kind.ofCode (get16 (image bytes) 6) = some kind
    ∧ readOverlap (image bytes) (readFields (image bytes) kind) = some q
  valid : validPacket q = true

theorem accepted_of_decode (h : decode bytes = some q) : Accepted bytes q := by
  unfold decode at h
  dsimp only at h
  by_cases hhead : bytes.length ≠ packetSize ∨ get32 (image bytes) 0 ≠ packetMagic
      ∨ get16 (image bytes) 4 ≠ protocolVersion ∨ get32 (image bytes) 8 ≠ compatibility
      ∨ get32 (image bytes) 36 ≠ 0
  · rw [if_pos hhead] at h
    cases h
  · rw [if_neg hhead, Option.bind_eq_some_iff] at h
    simp only [not_or, not_not] at hhead
    obtain ⟨h1, h2, h3, h4, h5⟩ := hhead
    obtain ⟨kind, hkind, h⟩ := h
    rw [Option.bind_eq_some_iff] at h
    obtain ⟨p, hp, h⟩ := h
    by_cases hv : validPacket p = true
    · rw [if_pos hv, Option.some_inj] at h
      subst h
      exact ⟨h1, h2, h3, h4, h5, ⟨kind, hkind, hp⟩, hv⟩
    · rw [if_neg hv] at h
      cases h

theorem code_of_ofCode {code : BitVec 16} (h : Kind.ofCode code = some kind) : kind.code = code := by
  unfold Kind.ofCode at h
  split at h <;> cases h <;> exact BitVec.eq_of_toNat_eq (Eq.symm ‹_›)

/-! ## The two forms of the shared words -/

/-- What `readOverlap` adds to the other fields. -/
inductive Overlap (b : Image) (p q : Packet) : Prop
  | world (marker : get32 b 96 = worldPrefixMarker) (clear : get32 b 100 = 0)
      (packet : q = { p with world := worldFromWords (readWorldWords b) })
  | progress (marker : get32 b 96 ≠ worldPrefixMarker)
      (suffix : ∀ i, i < 15 → get32 b (1132 + 4 * i) = 0)
      (packet : q = { p with progress := progressFromWords (getWords 6 b 80) })

theorem overlap_of_readOverlap (h : readOverlap b p = some q) : Overlap b p q := by
  unfold readOverlap at h
  by_cases hm : get32 b 96 = worldPrefixMarker
  · rw [if_pos hm] at h
    by_cases hc : get32 b 100 ≠ 0
    · rw [if_pos hc] at h
      cases h
    · rw [if_neg hc, Option.some_inj] at h
      exact .world hm (not_not.mp hc) h.symm
  · rw [if_neg hm] at h
    by_cases hs : ∃ i : Fin worldSuffixWords, get32 b (worldOffset + 4 * i.val) ≠ 0
    · rw [if_pos hs] at h
      cases h
    · rw [if_neg hs, Option.some_inj] at h
      refine .progress hm (fun i hi => ?_) h.symm
      by_contra hne
      exact hs ⟨⟨i, hi⟩, hne⟩

theorem readFields_world : (readFields b kind).world = {} := rfl

theorem readFields_progress : (readFields b kind).progress = {} := rfl

/-- The fields both forms share. -/
theorem Overlap.shared (h : Overlap b p q) : q.kind = p.kind ∧ q.sequence = p.sequence
    ∧ q.session = p.session ∧ q.nonce = p.nonce ∧ q.room = p.room ∧ q.player = p.player
    ∧ q.combat = p.combat ∧ q.items = p.items ∧ q.transient = p.transient
    ∧ q.authorityTerm = p.authorityTerm ∧ q.authorityNode = p.authorityNode := by
  rcases h with ⟨-, -, rfl⟩ | ⟨-, -, rfl⟩ <;>
    exact ⟨rfl, rfl, rfl, rfl, rfl, rfl, rfl, rfl, rfl, rfl, rfl⟩

theorem readWorldWords_suffix {i : Nat} (hi : i < 15) :
    wordAt (readWorldWords b) (i + 4) = get32 b (1132 + 4 * i) := by
  have hsub : i + 4 - 4 = i := Nat.add_sub_cancel i 4
  rw [wordAt_of_lt (by omega : i + 4 < 19), readWorldWords,
    if_neg (show ¬ i + 4 < worldPrefixWords from Nat.not_lt.mpr (Nat.le_add_left 4 i))]
  change get32 b (1132 + 4 * (i + 4 - 4)) = _
  rw [hsub]

theorem Overlap.world_suffix (h : Overlap b (readFields b kind) q) {i : Nat} (hi : i < 15) :
    get32 b (1132 + 4 * i) = wordAt (worldWords q.world) (i + 4) := by
  rcases h with ⟨-, -, rfl⟩ | ⟨-, hs, rfl⟩
  · dsimp only
    rw [worldWords_worldFromWords, readWorldWords_suffix hi]
  · rw [hs i hi]
    have hzero : ∀ i : Fin 15, wordAt (worldWords {}) (i.val + 4) = 0 := by decide
    exact (hzero ⟨i, hi⟩).symm

/-- Without a stray marker the shared words are those of the packet. -/
theorem Overlap.words (h : Overlap b (readFields b kind) q)
    (hstray : ¬ (get32 b 96 = worldPrefixMarker ∧ get32 b 80 = 0)) (i : Fin 6) :
    get32 b (80 + 4 * i.val) = overlapWords q i := by
  rcases h with ⟨hm, hc, rfl⟩ | ⟨hm, hs, rfl⟩
  · have hfeature : get32 b 80 ≠ 0 := fun h0 => hstray ⟨hm, h0⟩
    unfold overlapWords
    dsimp only
    rw [if_pos (show (worldFromWords (readWorldWords b)).feature ≠ 0 from hfeature),
      readFields_progress]
    fin_cases i
    · rfl
    · rfl
    · rfl
    · rfl
    · exact hm
    · have hzero : (0 : Word) = if ∃ i, progressWords {} i ≠ 0 then 1 else 0 := by decide
      exact hc.trans hzero
  · unfold overlapWords
    dsimp only
    rw [readFields_world, if_neg (not_not.mpr rfl), progressWords_progressFromWords]
    rfl

/-! ## Accepted datagrams -/

theorem Accepted.core (h : Accepted bytes q) : Core (image bytes) q := by
  obtain ⟨kind, hkind, hread⟩ := h.fields
  have hover := overlap_of_readOverlap hread
  obtain ⟨h1, h2, h3, h4, h5, h6, h7, h8, h9, h10, h11⟩ := hover.shared
  obtain ⟨-, -, hitems, hcombat, -⟩ := payloads_of_validPacket h.valid
  constructor
  case magic => exact h.magic
  case version => exact h.version
  case kind =>
    rw [h1]
    exact (code_of_ofCode hkind).symm
  case compatibility => exact h.compatibility
  case sequence => exact h2.symm
  case session => exact h3.symm
  case nonce => exact h4.symm
  case room => exact h5.symm
  case reserved => exact h.reserved
  case player =>
    intro i hi
    have hlt : i < stateWords := Nat.lt_trans hi (by decide)
    rw [h6, readFields, stateToWords_stateFromWords, wordAt_of_lt hlt, if_pos hi]
  case combat =>
    intro i
    rw [h7] at hcombat ⊢
    exact (congrFun (combatWords_combatFromWords hcombat) i).symm
  case items =>
    intro i
    rw [h8] at hitems ⊢
    have hpage : (wordAt (getWords coopItemWireWords (image bytes) itemOffset) 4).toNat
        < coopItemPages := by
      unfold validItems at hitems
      rw [Bool.and_eq_true] at hitems
      exact of_decide_eq_true hitems.1
    exact (congrFun (itemWords_itemsFromWords hpage) i).symm
  case world => exact fun i hi => hover.world_suffix hi
  case ticket => rw [h6]; rfl
  case route => rw [h6]; rfl
  case transient =>
    intro i
    rw [h9, readFields, transientWords_transientFromWords]
    rfl
  case term => exact h10.symm
  case node => exact h11.symm

/-- An accepted datagram without a stray marker has the layout of its packet. -/
theorem Accepted.layout (h : Accepted bytes q) (hstray : ¬ StrayMarker bytes) :
    Layout (image bytes) q where
  toCore := h.core
  overlap := by
    obtain ⟨kind, -, hread⟩ := h.fields
    exact (overlap_of_readOverlap hread).words hstray

/-- A stray marker is not written back. -/
theorem Accepted.encode_ne (h : Accepted bytes q) (hstray : StrayMarker bytes) :
    encode q ≠ bytes := by
  intro heq
  obtain ⟨kind, -, hread⟩ := h.fields
  have hword : get32 (image bytes) 96 = overlapWords q 4 := by
    rw [← heq]
    exact (layout_image_encode q).overlap 4
  rcases overlap_of_readOverlap hread with ⟨-, -, hq⟩ | ⟨hm, -, -⟩
  · have hfeature : q.world.feature = 0 := by
      rw [hq]
      exact hstray.2
    have hprogress : q.progress = {} := by rw [hq]; rfl
    rw [hstray.1, overlapWords, if_neg (not_not.mpr hfeature), hprogress] at hword
    exact absurd hword (by decide)
  · exact hm hstray.1

/-- **When an accepted datagram is the encoding of its packet.** -/
theorem encode_decode (h : decode bytes = some q) : encode q = bytes ↔ ¬ StrayMarker bytes := by
  have ha := accepted_of_decode h
  constructor
  · exact fun heq hstray => ha.encode_ne hstray heq
  · exact fun hstray => encode_eq_of_layout ha.length (ha.layout hstray)

/-! ## A datagram with a stray marker -/

/-- The datagram of a packet with the marker of a world payload written over it. -/
def strayBytes (p : Packet) : List Byte :=
  (List.range packetSize).map (put32 (encodeImage p) 96 worldPrefixMarker)

theorem image_strayBytes {k : Nat} (h : k < 1368) :
    image (strayBytes p) k = put32 (encodeImage p) 96 worldPrefixMarker k := by
  have hk : k < packetSize := h
  rw [image, strayBytes, List.getD_eq_getElem?_getD, List.getElem?_map, List.getElem?_range hk]
  rfl

theorem get32_strayBytes {off : Nat} (h : off + 4 ≤ 1368) : get32 (image (strayBytes p)) off
    = get32 (put32 (encodeImage p) 96 worldPrefixMarker) off :=
  get32_congr fun _ _ h2 => image_strayBytes (by omega)

theorem strayMarker_strayBytes (hw : p.world = {}) (hp : p.progress = {}) :
    StrayMarker (strayBytes p) := by
  have hover : ∀ i : Fin 6, overlapWords p i = 0 := by
    rw [overlapWords, hw, hp]
    decide
  refine ⟨(get32_strayBytes (by omega)).trans (get32_put32_self _ _ _), ?_⟩
  rw [get32_strayBytes (by decide), get32_put32_of_disjoint _ (by decide)]
  exact ((layout_encode p).overlap 0).trans (hover 0)

/-- The marker is accepted over any packet that uses neither form of the shared words. -/
theorem decode_strayBytes (hs : Sendable p) (hw : p.world = {}) (hp : p.progress = {}) :
    decode (strayBytes p) = some p.arrived := by
  have hlen : (strayBytes p).length = packetSize := by
    rw [strayBytes, List.length_map, List.length_range]
  have hcore : Core (image (strayBytes p)) p := by
    refine (core_encode p).congr fun k hk hout => ?_
    rw [image_strayBytes hk, put32_of_outside _ (by omega)]
  have hover : ∀ i : Fin 6, overlapWords p i = 0 := by
    rw [overlapWords, hw, hp]
    decide
  have hmarker : get32 (image (strayBytes p)) 96 = worldPrefixMarker :=
    (get32_strayBytes (by omega)).trans (get32_put32_self _ _ _)
  have hword : ∀ i : Fin 6, i.val ≠ 4 → get32 (image (strayBytes p)) (80 + 4 * i.val) = 0 := by
    intro i hi
    rw [get32_strayBytes (by omega), get32_put32_of_disjoint _ (by omega)]
    exact ((layout_encode p).overlap i).trans (hover i)
  have hworld : readWorldWords (image (strayBytes p)) = worldWords {} := by
    have hzero : ∀ i, worldWords {} i = 0 := by decide
    funext i
    rw [hzero i, readWorldWords]
    by_cases hi : i.val < worldPrefixWords
    · have hi4 : i.val < 4 := hi
      rw [if_pos hi]
      exact hword ⟨i.val, by omega⟩ (by dsimp only; omega)
    · have hi4 : ¬ i.val < 4 := hi
      have hlt : i.val < 19 := i.isLt
      rw [if_neg hi]
      refine (hcore.world (i.val - 4) (by omega)).trans ?_
      rw [hw, wordAt_of_lt (by omega : i.val - 4 + 4 < 19), hzero]
  have hclear : get32 (image (strayBytes p)) 100 = 0 := hword 5 (by decide)
  refine decode_of_core hlen hcore hs ?_
  rw [readOverlap, if_pos hmarker, if_neg (not_not.mpr hclear), hworld,
    worldFromWords_worldWords, hw, hp, if_neg (not_not.mpr rfl)]
  rfl

/-- A greeting. -/
def helloPacket : Packet where
  nonce := 5
  room := 123456
  authorityNode := 3

theorem sendable_helloPacket : Sendable helloPacket := by
  constructor
  case room => exact ⟨by decide, by decide⟩
  case items => exact ⟨validItems_empty, fun _ => rfl⟩
  case shared => exact fun h => absurd rfl h
  all_goals decide

/-- The greeting as it is sent has no stray marker, the one with the marker has. -/
theorem encode_decode_helloPacket :
    (encode helloPacket.arrived = encode helloPacket ↔ ¬ StrayMarker (encode helloPacket))
    ∧ (encode helloPacket.arrived = strayBytes helloPacket
      ↔ ¬ StrayMarker (strayBytes helloPacket)) :=
  ⟨encode_decode (decode_of_layout (length_encode _) (layout_image_encode _) sendable_helloPacket),
    encode_decode (decode_strayBytes sendable_helloPacket rfl rfl)⟩

/-- The greeting with a stray marker is accepted and is not the encoding of its packet. -/
theorem stray_greeting_not_canonical :
    ¬ ∀ (bytes : List Byte) (q : Packet), bytes.length = packetSize → decode bytes = some q →
      encode q = bytes := by
  intro hclaim
  have hdecode := decode_strayBytes sendable_helloPacket rfl rfl
  have hlen : (strayBytes helloPacket).length = packetSize := by
    rw [strayBytes, List.length_map, List.length_range]
  exact (accepted_of_decode hdecode).encode_ne (strayMarker_strayBytes rfl rfl)
    (hclaim _ _ hlen hdecode)

end Dk64Port.Coop
