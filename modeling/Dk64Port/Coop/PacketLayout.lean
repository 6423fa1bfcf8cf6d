import Dk64Port.Coop.Protocol

/-!
# The layout of a datagram

`Layout b p` says that the words of the image `b` show the fields of the packet `p`. `encode` writes
an image with the layout of its packet, and a packet has one layout only, so `decode` is compared
with `encode` field by field and never byte by byte.

* `layout_encode`: **an encoded packet has its layout.**
* `Layout.unique`: **two images with the layout of one packet are the same datagram.**
-/

namespace Dk64Port.Coop

open ByteLayout

/-- The six words behind byte 80. -/
def overlapWords (p : Packet) : Fin 6 → Word :=
  if p.world.feature ≠ 0 then
    ![p.world.feature, p.world.file, p.world.scope, p.world.ready, worldPrefixMarker,
      if ∃ i, progressWords p.progress i ≠ 0 then 1 else 0]
  else progressWords p.progress

/-- The image shows the fields of the packet that share no word. -/
structure Core (b : Image) (p : Packet) : Prop where
  magic : get32 b 0 = packetMagic
  version : get16 b 4 = protocolVersion
  kind : get16 b 6 = p.kind.code
  compatibility : get32 b 8 = compatibility
  sequence : get32 b 12 = p.sequence
  session : get64 b 16 = p.session
  nonce : get64 b 24 = p.nonce
  room : get32 b 32 = p.room
  reserved : get32 b 36 = 0
  player : ∀ i, i < 10 → get32 b (40 + 4 * i) = wordAt (stateToWords p.player) i
  combat : ∀ i : Fin 204, get32 b (104 + 4 * i.val) = combatWords p.combat i
  items : ∀ i : Fin 53, get32 b (920 + 4 * i.val) = itemWords p.items i
  world : ∀ i, i < 15 → get32 b (1132 + 4 * i) = wordAt (worldWords p.world) (i + 4)
  ticket : get32 b 1192 = p.player.transitionTicket
  route : get32 b 1196 = p.player.transitionRoute
  transient : ∀ i : Fin 38, get32 b (1200 + 4 * i.val) = transientWords p.transient i
  term : get64 b 1352 = p.authorityTerm
  node : get64 b 1360 = p.authorityNode

/-- The image shows the packet. -/
structure Layout (b : Image) (p : Packet) : Prop extends Core b p where
  overlap : ∀ i : Fin 6, get32 b (80 + 4 * i.val) = overlapWords p i

/-! ## Writing -/

/-- The bytes a write touches. -/
theorem putOverlap_of_outside {b : Image} {p : Packet} {k : Nat} (h : k < 80 ∨ 104 ≤ k) :
    putOverlap b p k = b k := by
  unfold putOverlap
  split
  · rw [put32_of_outside _ (by omega), put32_of_outside _ (by omega),
      putWords_of_outside _ (show k < 80 ∨ 80 + 4 * 4 ≤ k by omega)]
  · rw [putWords_of_outside _ (show k < 80 ∨ 80 + 4 * 6 ≤ k by omega)]

theorem get32_putOverlap (b : Image) (p : Packet) (i : Fin 6) :
    get32 (putOverlap b p) (80 + 4 * i.val) = overlapWords p i := by
  unfold putOverlap overlapWords
  by_cases hf : p.world.feature ≠ 0
  · rw [if_pos hf, if_pos hf]
    have hword : ∀ j : Fin 4, get32 (put32 (put32 (putWords b worldPrefixOffset
        fun i : Fin worldPrefixWords => wordAt (worldWords p.world) i.val) 96 worldPrefixMarker) 100
          (if ∃ i, progressWords p.progress i ≠ 0 then 1 else 0)) (80 + 4 * j.val)
        = wordAt (worldWords p.world) j.val := by
      intro j
      rw [get32_put32_of_disjoint _ (by omega), get32_put32_of_disjoint _ (by omega)]
      exact get32_putWords_self _ _ _ j
    fin_cases i
    · exact hword 0
    · exact hword 1
    · exact hword 2
    · exact hword 3
    · change get32 (put32 (put32 _ 96 worldPrefixMarker) 100 _) 96 = worldPrefixMarker
      rw [get32_put32_of_disjoint _ (by omega), get32_put32_self]
    · exact get32_put32_self _ _ _
  · rw [if_neg hf, if_neg hf]
    exact get32_putWords_self _ _ _ i

/-! ## The image behind every write -/

/-- The image after the player was written, and after each of the following fields. -/
def playerImage (p : Packet) : Image :=
  putWords (putHeader (fun _ => 0) p) 40 fun i : Fin 10 => wordAt (stateToWords p.player) i.val

def combatImage (p : Packet) : Image := putWords (playerImage p) 104 (combatWords p.combat)

def itemImage (p : Packet) : Image := putWords (combatImage p) 920 (itemWords p.items)

def overlapImage (p : Packet) : Image := putOverlap (itemImage p) p

def worldImage (p : Packet) : Image :=
  putWords (overlapImage p) 1132 fun i : Fin 15 => wordAt (worldWords p.world) (i.val + 4)

def routeImage (p : Packet) : Image :=
  put32 (put32 (worldImage p) 1192 p.player.transitionTicket) 1196 p.player.transitionRoute

def transientImage (p : Packet) : Image :=
  putWords (routeImage p) 1200 (transientWords p.transient)

theorem encodeImage_eq (p : Packet) : encodeImage p =
    put64 (put64 (transientImage p) 1352 p.authorityTerm) 1360 p.authorityNode := rfl

variable {p : Packet} {k : Nat}

theorem encodeImage_transient (h : k < 1352) : encodeImage p k = transientImage p k := by
  rw [encodeImage_eq, put64_of_outside _ (by omega), put64_of_outside _ (by omega)]

theorem encodeImage_route (h : k < 1200) : encodeImage p k = routeImage p k := by
  rw [encodeImage_transient (by omega), transientImage, putWords_of_outside _ (Or.inl h)]

theorem encodeImage_world (h : k < 1192) : encodeImage p k = worldImage p k := by
  rw [encodeImage_route (by omega), routeImage, put32_of_outside _ (by omega),
    put32_of_outside _ (by omega)]

theorem encodeImage_overlap (h : k < 1132) : encodeImage p k = overlapImage p k := by
  rw [encodeImage_world (by omega), worldImage, putWords_of_outside _ (Or.inl h)]

theorem encodeImage_item (h1 : 104 ≤ k) (h2 : k < 1132) : encodeImage p k = itemImage p k := by
  rw [encodeImage_overlap h2, overlapImage, putOverlap_of_outside (Or.inr h1)]

theorem encodeImage_combat (h1 : 104 ≤ k) (h2 : k < 920) : encodeImage p k = combatImage p k := by
  rw [encodeImage_item h1 (by omega), itemImage, putWords_of_outside _ (Or.inl h2)]

theorem encodeImage_player (h : k < 80) : encodeImage p k = playerImage p k := by
  rw [encodeImage_overlap (by omega), overlapImage, putOverlap_of_outside (Or.inl h), itemImage,
    putWords_of_outside _ (Or.inl (by omega)), combatImage,
    putWords_of_outside _ (Or.inl (by omega))]

theorem encodeImage_header (h : k < 40) : encodeImage p k = putHeader (fun _ => 0) p k := by
  rw [encodeImage_player (by omega), playerImage, putWords_of_outside _ (Or.inl h)]

theorem core_encode (p : Packet) : Core (encodeImage p) p := by
  have h16 : ∀ off, off + 2 ≤ 40 →
      get16 (encodeImage p) off = get16 (putHeader (fun _ => 0) p) off :=
    fun off h => get16_congr fun k h1 h2 => encodeImage_header (by omega)
  have h32 : ∀ off, off + 4 ≤ 40 →
      get32 (encodeImage p) off = get32 (putHeader (fun _ => 0) p) off :=
    fun off h => get32_congr fun k h1 h2 => encodeImage_header (by omega)
  have h64 : ∀ off, off + 8 ≤ 40 →
      get64 (encodeImage p) off = get64 (putHeader (fun _ => 0) p) off :=
    fun off h => get64_congr fun k h1 h2 => encodeImage_header (by omega)
  constructor
  case magic | compatibility | sequence | room | reserved =>
    rw [h32 _ (by omega)]
    simp (disch := omega) only [putHeader, get32_put32_self, get32_put32_of_disjoint,
      get32_put64_of_disjoint, get32_put16_of_disjoint]
    try rfl
  case version | kind =>
    rw [h16 _ (by omega)]
    simp (disch := omega) only [putHeader, get16_put16_self, get16_put16_of_disjoint,
      get16_put32_of_disjoint, get16_put64_of_disjoint]
  case session | nonce =>
    rw [h64 _ (by omega)]
    simp (disch := omega) only [putHeader, get64_put64_self, get64_put32_of_disjoint,
      get64_put64_of_disjoint]
  case player =>
    intro i hi
    rw [get32_congr fun k h1 h2 => encodeImage_player (by omega)]
    exact get32_putWords_self _ 40 _ (⟨i, hi⟩ : Fin 10)
  case combat =>
    intro i
    rw [get32_congr fun k h1 h2 => encodeImage_combat (by omega) (by omega)]
    exact get32_putWords_self _ 104 _ i
  case items =>
    intro i
    rw [get32_congr fun k h1 h2 => encodeImage_item (by omega) (by omega)]
    exact get32_putWords_self _ 920 _ i
  case world =>
    intro i hi
    rw [get32_congr fun k h1 h2 => encodeImage_world (by omega)]
    exact get32_putWords_self _ 1132 _ (⟨i, hi⟩ : Fin 15)
  case ticket =>
    rw [get32_congr fun k h1 h2 => encodeImage_route (by omega), routeImage,
      get32_put32_of_disjoint _ (by omega), get32_put32_self]
  case route =>
    rw [get32_congr fun k h1 h2 => encodeImage_route (by omega), routeImage, get32_put32_self]
  case transient =>
    intro i
    rw [get32_congr fun k h1 h2 => encodeImage_transient (by omega)]
    exact get32_putWords_self _ 1200 _ i
  case term => rw [encodeImage_eq, get64_put64_of_disjoint _ (by omega), get64_put64_self]
  case node => rw [encodeImage_eq, get64_put64_self]

/-- **An encoded packet has its layout.** -/
theorem layout_encode (p : Packet) : Layout (encodeImage p) p where
  toCore := core_encode p
  overlap i := by
    rw [get32_congr fun k h1 h2 => encodeImage_overlap (by omega)]
    exact get32_putOverlap _ _ i

/-! ## Datagrams -/

variable {b b' : Image} {bytes : List Byte}

/-- Only the bytes of the datagram matter, and not the shared ones. -/
theorem Core.congr (h : Core b p) (hb : ∀ k, k < 1368 → k < 80 ∨ 104 ≤ k → b k = b' k) :
    Core b' p := by
  have h16 : ∀ off, off + 2 ≤ 80 → get16 b' off = get16 b off :=
    fun off ho => get16_congr fun k h1 h2 => (hb k (by omega) (by omega)).symm
  have h32 : ∀ off, off + 4 ≤ 80 ∨ 104 ≤ off ∧ off + 4 ≤ 1368 → get32 b' off = get32 b off :=
    fun off ho => get32_congr fun k h1 h2 => (hb k (by omega) (by omega)).symm
  have h64 : ∀ off, off + 8 ≤ 80 ∨ 104 ≤ off ∧ off + 8 ≤ 1368 → get64 b' off = get64 b off :=
    fun off ho => get64_congr fun k h1 h2 => (hb k (by omega) (by omega)).symm
  constructor
  case magic => exact (h32 0 (by omega)).trans h.magic
  case version => exact (h16 4 (by omega)).trans h.version
  case kind => exact (h16 6 (by omega)).trans h.kind
  case compatibility => exact (h32 8 (by omega)).trans h.compatibility
  case sequence => exact (h32 12 (by omega)).trans h.sequence
  case session => exact (h64 16 (by omega)).trans h.session
  case nonce => exact (h64 24 (by omega)).trans h.nonce
  case room => exact (h32 32 (by omega)).trans h.room
  case reserved => exact (h32 36 (by omega)).trans h.reserved
  case player => exact fun i hi => (h32 _ (by omega)).trans (h.player i hi)
  case combat => exact fun i => (h32 _ (by omega)).trans (h.combat i)
  case items => exact fun i => (h32 _ (by omega)).trans (h.items i)
  case world => exact fun i hi => (h32 _ (by omega)).trans (h.world i hi)
  case ticket => exact (h32 1192 (by omega)).trans h.ticket
  case route => exact (h32 1196 (by omega)).trans h.route
  case transient => exact fun i => (h32 _ (by omega)).trans (h.transient i)
  case term => exact (h64 1352 (by omega)).trans h.term
  case node => exact (h64 1360 (by omega)).trans h.node

theorem Layout.congr (h : Layout b p) (hb : ∀ k, k < 1368 → b k = b' k) : Layout b' p where
  toCore := h.toCore.congr fun k hk _ => hb k hk
  overlap i := (get32_congr fun k h1 h2 => (hb k (by omega)).symm).trans (h.overlap i)

/-- The four words of a pair of double words are the same in both images. -/
theorem word_eq_of_get64 {off : Nat} (h : get64 b off = get64 b' off) :
    get32 b off = get32 b' off ∧ get32 b (off + 4) = get32 b' (off + 4) := by
  rw [high_get64 b, high_get64 b', low_get64 b, low_get64 b', h]
  exact ⟨rfl, rfl⟩

/-- Every word of the datagram is a word of some field. -/
theorem Layout.word_eq (h : Layout b p) (h' : Layout b' p) {j : Nat} (hj : j < 342) :
    get32 b (4 * j) = get32 b' (4 * j) := by
  have hsession := word_eq_of_get64 (h.session.trans h'.session.symm)
  have hnonce := word_eq_of_get64 (h.nonce.trans h'.nonce.symm)
  have hterm := word_eq_of_get64 (h.term.trans h'.term.symm)
  have hnode := word_eq_of_get64 (h.node.trans h'.node.symm)
  have hblock : ∀ {n off : Nat} {w : Fin n → Word},
      (∀ i : Fin n, get32 b (off + 4 * i.val) = w i) →
      (∀ i : Fin n, get32 b' (off + 4 * i.val) = w i) →
      off % 4 = 0 ∧ off ≤ 4 * j ∧ 4 * j < off + 4 * n → get32 b (4 * j) = get32 b' (4 * j) := by
    intro n off w h1 h2 ⟨h4, hlow, hhigh⟩
    have hoff : off + 4 * ((4 * j - off) / 4) = 4 * j := by omega
    rw [← hoff, h1 ⟨(4 * j - off) / 4, by omega⟩, h2 ⟨(4 * j - off) / 4, by omega⟩]
  obtain hj | hj | hj | hj | hj | hj | hj | hj | hj | hj := (by omega : j < 4 ∨ (4 ≤ j ∧ j < 8)
    ∨ (8 ≤ j ∧ j < 10) ∨ (10 ≤ j ∧ j < 20) ∨ (20 ≤ j ∧ j < 26) ∨ (26 ≤ j ∧ j < 230)
    ∨ (230 ≤ j ∧ j < 283) ∨ (283 ≤ j ∧ j < 298) ∨ (300 ≤ j ∧ j < 338)
    ∨ (j = 298 ∨ j = 299 ∨ 338 ≤ j))
  · obtain rfl | rfl | rfl | rfl := (by omega : j = 0 ∨ j = 1 ∨ j = 2 ∨ j = 3)
    · exact h.magic.trans h'.magic.symm
    · change get32 b 4 = get32 b' 4
      rw [get32, get32, h.version, h'.version, h.kind, h'.kind]
    · exact h.compatibility.trans h'.compatibility.symm
    · exact h.sequence.trans h'.sequence.symm
  · obtain rfl | rfl | rfl | rfl := (by omega : j = 4 ∨ j = 5 ∨ j = 6 ∨ j = 7)
    · exact hsession.1
    · exact hsession.2
    · exact hnonce.1
    · exact hnonce.2
  · obtain rfl | rfl := (by omega : j = 8 ∨ j = 9)
    · exact h.room.trans h'.room.symm
    · exact h.reserved.trans h'.reserved.symm
  · exact hblock (n := 10) (fun i => h.player i i.isLt) (fun i => h'.player i i.isLt) (by omega)
  · exact hblock h.overlap h'.overlap (by omega)
  · exact hblock h.combat h'.combat (by omega)
  · exact hblock h.items h'.items (by omega)
  · exact hblock (n := 15) (fun i => h.world i i.isLt) (fun i => h'.world i i.isLt) (by omega)
  · exact hblock h.transient h'.transient (by omega)
  · obtain rfl | rfl | rfl | rfl | rfl | rfl :=
      (by omega : j = 298 ∨ j = 299 ∨ j = 338 ∨ j = 339 ∨ j = 340 ∨ j = 341)
    · exact h.ticket.trans h'.ticket.symm
    · exact h.route.trans h'.route.symm
    · exact hterm.1
    · exact hterm.2
    · exact hnode.1
    · exact hnode.2

/-- **A packet has one layout only.** -/
theorem Layout.unique (h : Layout b p) (h' : Layout b' p) (hk : k < 1368) : b k = b' k :=
  image_ext (n := 342) (fun _ hj => h.word_eq h' hj) hk

theorem length_encode (p : Packet) : (encode p).length = packetSize := by
  rw [encode, List.length_map, List.length_range]

theorem image_encode (h : k < 1368) : encodeImage p k = image (encode p) k := by
  have hk : k < packetSize := h
  rw [image, encode, List.getD_eq_getElem?_getD, List.getElem?_map, List.getElem?_range hk]
  rfl

/-- The datagram of a packet has its layout. -/
theorem layout_image_encode (p : Packet) : Layout (image (encode p)) p :=
  (layout_encode p).congr fun _ h => image_encode h

/-- A datagram of the right size with the layout of a packet is the datagram of the packet. -/
theorem encode_eq_of_layout (hlen : bytes.length = packetSize) (h : Layout (image bytes) p) :
    encode p = bytes := by
  refine List.ext_getElem ((length_encode p).trans hlen.symm) fun k h1 h2 => ?_
  have hk : k < 1368 := by
    rw [length_encode] at h1
    exact h1
  have heq := (layout_image_encode p).unique h hk
  rw [image, image, List.getD_eq_getElem?_getD, List.getD_eq_getElem?_getD,
    List.getElem?_eq_getElem h1, List.getElem?_eq_getElem h2] at heq
  exact heq

end Dk64Port.Coop
