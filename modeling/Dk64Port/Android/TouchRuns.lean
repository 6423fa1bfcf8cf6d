import Dk64Port.Android.TouchControls
import Dk64Port.Lib.Run

/-!
# What the touch controls tell the game

Android reports the fingers by gestures: the first finger begins one, and the view gets the rest of it
if it took the beginning. A layout or a reset may fall in between.

* `Touching.step`: the view and the fingers; `Touching.Reported`: how fingers are reported.
* `TouchControls.Held`: what is owned, followed and deflected is of a finger that is down.
* `touches_seen`: **after any run the game is told the controls under the fingers, and no others.**
-/

namespace Dk64Port.Android

/-! ## Bits -/

namespace DpadInput

variable {mask : Buttons} {i : Nat}

theorem updown_bit : ∀ i < 32, (up ||| down).getLsbD i = decide (i = 10 ∨ i = 11) := by decide

theorem leftright_bit : ∀ i < 32, (left ||| right).getLsbD i = decide (i = 8 ∨ i = 9) := by decide

/-- A pair of bits is masked out where both are set, and nothing else is. -/
theorem and_pair {pair : Buttons} {a b : Nat} (hpair : ∀ i < 32, pair.getLsbD i = decide (i = a ∨ i = b))
    (ha : a < 32) (hb : b < 32) :
    mask &&& pair = pair ↔ mask.getLsbD a = true ∧ mask.getLsbD b = true := by
  constructor
  · intro h
    have hbit : ∀ i < 32, (mask &&& pair).getLsbD i = pair.getLsbD i := fun i _ => by rw [h]
    have hat := hbit a ha
    have hbt := hbit b hb
    rw [BitVec.getLsbD_and, hpair a ha] at hat
    rw [BitVec.getLsbD_and, hpair b hb] at hbt
    simp only [true_or, or_true, decide_true, Bool.and_true] at hat hbt
    exact ⟨hat, hbt⟩
  · rintro ⟨hat, hbt⟩
    refine BitVec.eq_of_getLsbD_eq fun i hi => ?_
    rw [BitVec.getLsbD_and, hpair i hi]
    by_cases h : i = a ∨ i = b
    · rcases h with rfl | rfl
      · simp [hat]
      · simp [hbt]
    · simp [h]

theorem withoutPair_bit {pair : Buttons} {a b : Nat}
    (hpair : ∀ i < 32, pair.getLsbD i = decide (i = a ∨ i = b)) (ha : a < 32) (hb : b < 32) :
    (if mask &&& pair = pair then mask &&& ~~~pair else mask).getLsbD i
      = (mask.getLsbD i && !((i == a || i == b) && mask.getLsbD a && mask.getLsbD b)) := by
  by_cases hi : i < 32
  · by_cases h : mask.getLsbD a = true ∧ mask.getLsbD b = true
    · rw [if_pos ((and_pair hpair ha hb).mpr h), BitVec.getLsbD_and, BitVec.getLsbD_not, hpair i hi,
        h.1, h.2]
      by_cases hab : i = a ∨ i = b
      · rcases hab with rfl | rfl <;> simp
      · obtain ⟨h1, h2⟩ := not_or.mp hab
        simp [h1, h2, hi]
    · rw [if_neg fun hp => h ((and_pair hpair ha hb).mp hp)]
      have : (mask.getLsbD a && mask.getLsbD b) = false := by simpa using h
      rw [Bool.and_assoc, this]
      simp
  · have hout : ∀ x : Buttons, x.getLsbD i = false := fun x => BitVec.getLsbD_of_ge x i (by omega)
    rw [hout, hout, Bool.false_and]

/-- **A direction is left of a mask exactly where its opposite is not in it.** -/
theorem withoutOpposites_bit : (withoutOpposites mask).getLsbD i
    = (mask.getLsbD i && !((i == 10 || i == 11) && mask.getLsbD 10 && mask.getLsbD 11)
      && !((i == 8 || i == 9) && mask.getLsbD 8 && mask.getLsbD 9)) := by
  unfold withoutOpposites
  dsimp only
  rw [withoutPair_bit leftright_bit (by decide) (by decide),
    withoutPair_bit updown_bit (by decide) (by decide),
    withoutPair_bit updown_bit (by decide) (by decide),
    withoutPair_bit updown_bit (by decide) (by decide)]
  simp

theorem direction_bit : ∀ i < 32, (up.getLsbD i || down.getLsbD i || left.getLsbD i
    || right.getLsbD i) = true → 8 ≤ i ∧ i ≤ 11 := by decide

theorem directions_bit (r : Reading) (h : (directions r).getLsbD i = true) : 8 ≤ i ∧ i ≤ 11 := by
  have hi : i < 32 := BitVec.lt_of_getLsbD h
  refine direction_bit i hi ?_
  unfold directions at h
  split_ifs at h <;>
    simp only [BitVec.getLsbD_or, Bool.or_eq_true, BitVec.ofNat_eq_ofNat, BitVec.getLsbD_zero,
      Bool.false_eq_true, or_false, false_or] at h ⊢ <;> tauto

end DpadInput

/-! ## The fingers -/

/-- What happens to the view: a motion is reported, it is laid out, or the activity resets it. -/
inductive TouchEvent (ρ τ : Type*)
  | motion (ev : MotionEvent τ)
  | layout (place : Option (Int → ρ))
  | reset

/-- The view, the fingers that are down, and whether their gesture is reported to it. -/
structure Touching (ρ : Type*) where
  view : TouchControls ρ
  touching : List Nat := []
  delivered : Bool := false

namespace Touching

variable {ρ τ : Type*} (g : Geometry ρ τ) (m : Touching ρ)

/-- The fingers after a motion. -/
def fingers (ev : MotionEvent τ) : List Nat :=
  match ev.action with
  | .down => [ev.pointer]
  | .pointerDown => ev.pointer :: m.touching
  | .pointerUp => m.touching.filter (· ≠ ev.pointer)
  | .up | .cancel => []
  | .move => m.touching

/-- A motion is reported where its gesture began in the view. -/
def step : TouchEvent ρ τ → Touching ρ
  | .motion ev =>
    if ev.action = .down then
      { view := (m.view.onTouchEvent g ev).2, touching := m.fingers ev
        delivered := (m.view.onTouchEvent g ev).1 }
    else if m.delivered then
      { m with view := (m.view.onTouchEvent g ev).2, touching := m.fingers ev }
    else { m with touching := m.fingers ev }
  | .layout place => { m with view := m.view.layout place }
  | .reset => { m with view := m.view.reset }

/-- How Android reports the fingers: a gesture begins with the first finger and ends with the last, and
every report has the fingers that are down. -/
def Reported (m : Touching ρ) : TouchEvent ρ τ → Prop
  | .motion ev =>
    match ev.action with
    | .down => m.touching = [] ∧ ∀ t ∈ ev.touches, t.1 = ev.pointer
    | .pointerDown => ev.pointer ∉ m.touching
        ∧ ∀ t ∈ ev.touches, t.1 = ev.pointer ∨ t.1 ∈ m.touching
    | .up => (∀ id ∈ m.touching, id = ev.pointer) ∧ ∀ t ∈ ev.touches, t.1 ∈ m.touching
    | .pointerUp | .cancel | .move => ∀ t ∈ ev.touches, t.1 ∈ m.touching
  | _ => True

/-- What the game was last told. -/
def game : TouchState := m.view.sent.getD ⟨0, 0, 0⟩

end Touching

namespace TouchControls

variable {ρ τ : Type*} {g : Geometry ρ τ} {s : TouchControls ρ} {fingers fingers' : List Nat}
  {c d : Control ρ} {p id : Nat}

/-! ## What the view holds -/

/-- What is drawn is one layout, or nothing. -/
structure Laid (s : TouchControls ρ) : Prop where
  stick : ∀ c, s.stick = some c → c.mask = stickMask
  dpad : ∀ c, s.dpad = some c → c.mask = dpadMask
  shown : s.controls ≠ [] → s.stick.isSome ∧ s.dpad.isSome
  masks : ∀ c ∈ s.controls, c.mask ∈ layoutControls.map (·.2)

/-- What is owned, followed and deflected is of a finger that is down. -/
structure Held (s : TouchControls ρ) (fingers : List Nat) : Prop where
  laid : s.Laid
  owned : ∀ id c, s.pointers.find id = some c →
    id ∈ fingers ∧ c ∈ s.controls ∧ c.mask ≠ visibilityMask ∧ c.mask ≠ menuMask
  followed : ∀ id b, s.dpadPointers.find id = some b →
    (∃ c, s.pointers.find id = some c ∧ c.mask = dpadMask) ∧ ∃ r, b = DpadInput.directions r
  single : ∀ id id' c c', s.pointers.find id = some c → s.pointers.find id' = some c' →
    c.mask = stickMask → c'.mask = stickMask → id = id'
  centred : s.deflected ≠ (0, 0) → ∃ id c, s.pointers.find id = some c ∧ c.mask = stickMask

theorem Laid.same_stick (h : s.Laid) (hc : c ∈ s.controls) :
    same (some c) s.stick = true ↔ c.mask = stickMask := by
  obtain ⟨d, hd⟩ := Option.isSome_iff_exists.mp (h.shown (List.ne_nil_of_mem hc)).1
  simp [same, hd, h.stick d hd]

theorem Held.mono (h : s.Held fingers) (hsub : ∀ id ∈ fingers, id ∈ fingers') : s.Held fingers' :=
  { h with owned := fun id c hid => ⟨hsub id (h.owned id c hid).1, (h.owned id c hid).2⟩ }

theorem Held.reset (h : s.Held fingers) : s.reset.Held [] where
  laid := ⟨h.laid.stick, h.laid.dpad, h.laid.shown, h.laid.masks⟩
  owned _ _ hid := by cases hid
  followed _ _ hid := by cases hid
  single _ _ _ _ hid := by cases hid
  centred hne := absurd rfl hne

theorem held_layout (place : Option (Int → ρ)) : (s.layout place).Held [] := by
  have hrest : ∀ s' : TouchControls ρ, s'.Laid → s'.pointers = {} → s'.dpadPointers = {} →
      s'.deflected = (0, 0) → s'.Held [] := by
    intro s' hlaid hpointers hdpad hdeflected
    refine ⟨hlaid, fun id c hid => ?_, fun id b hid => ?_, fun id _ c _ hid => ?_, fun hne =>
      absurd hdeflected hne⟩
    all_goals first | rw [hpointers] at hid | rw [hdpad] at hid
    all_goals cases hid
  cases place with
  | none =>
    refine hrest _ ⟨fun c hc => ?_, fun c hc => ?_, fun hne => absurd rfl hne, fun c hc => ?_⟩ rfl rfl rfl
    all_goals cases hc
  | some place =>
    refine hrest _ ⟨fun c hc => ?_, fun c hc => ?_, fun _ => ⟨rfl, rfl⟩, fun c hc => ?_⟩ rfl rfl rfl
    · cases hc
      rfl
    · cases hc
      rfl
    · obtain ⟨e, he, rfl⟩ := List.mem_map.mp hc
      exact List.mem_map.mpr ⟨e, he, rfl⟩

/-! ## Fingers come and go -/

theorem Held.press (h : s.Held fingers) (hp : p ∉ fingers) (hc : c ∈ s.controls) :
    (s.press p c).Held (p :: fingers) := by
  unfold TouchControls.press
  split_ifs with hvisible hmenu hstick
  · have hhidden : ({ s with visible := !s.visible } : TouchControls ρ).Held fingers :=
      ⟨⟨h.laid.stick, h.laid.dpad, h.laid.shown, h.laid.masks⟩, h.owned, h.followed, h.single, h.centred⟩
    exact hhidden.reset.mono fun id hid => absurd hid List.not_mem_nil
  · exact ⟨⟨h.laid.stick, h.laid.dpad, h.laid.shown, h.laid.masks⟩,
      (h.mono fun _ => List.mem_cons_of_mem _).owned, h.followed, h.single, h.centred⟩
  · have hfind : ∀ id, (s.pointers.set p c).find id = if id = p then some c else s.pointers.find id :=
      fun id => SortedMap.find_set _ _ _ _
    have hold : ∀ id d, s.pointers.find id = some d → id ≠ p := by
      rintro id d hid rfl
      exact hp (h.owned _ _ hid).1
    have hkept : ∀ id d, s.pointers.find id = some d → (s.pointers.set p c).find id = some d := by
      intro id d hid
      rw [hfind, if_neg (hold id d hid), hid]
    have halone : c.mask = stickMask → ∀ id d, s.pointers.find id = some d → d.mask ≠ stickMask := by
      intro hmask id d hid hd
      refine absurd (hstick.resolve_left (not_not_intro hmask)) (Bool.eq_false_iff.not.mpr ?_)
      rw [not_not, stickOwned, List.any_eq_true]
      exact ⟨(id, d), SortedMap.mem_entries_iff.mpr hid, (h.laid.same_stick (h.owned _ _ hid).2.1).mpr hd⟩
    refine ⟨⟨h.laid.stick, h.laid.dpad, h.laid.shown, h.laid.masks⟩, fun id d hid => ?_,
      fun id b hid => ?_, fun id id' d d' hid hid' hd hd' => ?_, fun hne => ?_⟩
    · change (s.pointers.set p c).find id = some d at hid
      rw [hfind] at hid
      split_ifs at hid with hip
      · cases hid
        exact ⟨hip ▸ List.mem_cons_self, hc, hvisible, hmenu⟩
      · exact ⟨List.mem_cons_of_mem _ (h.owned id d hid).1, (h.owned id d hid).2⟩
    · obtain ⟨⟨d, hd, hmask⟩, hr⟩ := h.followed id b hid
      exact ⟨⟨d, hkept id d hd, hmask⟩, hr⟩
    · change (s.pointers.set p c).find id = some d at hid
      change (s.pointers.set p c).find id' = some d' at hid'
      rw [hfind] at hid hid'
      split_ifs at hid hid' with hip hip' hip'
      · exact hip.trans hip'.symm
      · cases hid
        exact absurd hd' (halone hd id' d' hid')
      · cases hid'
        exact absurd hd (halone hd' id d hid)
      · exact h.single id id' d d' hid hid' hd hd'
    · obtain ⟨id, d, hid, hd⟩ := h.centred hne
      exact ⟨id, d, hkept id d hid, hd⟩
  · exact h.mono fun _ => List.mem_cons_of_mem _

theorem Held.release (h : s.Held fingers) : (s.release p).Held (fingers.filter (· ≠ p)) := by
  have hfind : ∀ id, (s.pointers.erase p).find id = if id = p then none else s.pointers.find id :=
    fun id => SortedMap.find_erase _ _ _
  have hrest : ∀ id d, (s.pointers.erase p).find id = some d ↔ id ≠ p ∧ s.pointers.find id = some d := by
    intro id d
    rw [hfind]
    by_cases hip : id = p <;> simp [hip]
  refine ⟨⟨h.laid.stick, h.laid.dpad, h.laid.shown, h.laid.masks⟩, fun id d hid => ?_, fun id b hid => ?_,
    fun id id' d d' hid hid' => ?_, fun hne => ?_⟩
  · obtain ⟨hip, hid⟩ := (hrest id d).mp hid
    exact ⟨List.mem_filter.mpr ⟨(h.owned id d hid).1, decide_eq_true hip⟩, (h.owned id d hid).2⟩
  · change (s.dpadPointers.erase p).find id = some b at hid
    rw [SortedMap.find_erase] at hid
    split_ifs at hid with hip
    obtain ⟨⟨d, hd, hmask⟩, hr⟩ := h.followed id b hid
    exact ⟨⟨d, (hrest id d).mpr ⟨hip, hd⟩, hmask⟩, hr⟩
  · exact h.single id id' d d' ((hrest id d).mp hid).2 ((hrest id' d').mp hid').2
  · change (if same (s.pointers.find p) s.stick then ((0, 0) : FloatBits × FloatBits) else s.deflected) ≠ (0, 0) at hne
    split_ifs at hne with hsame
    · exact absurd rfl hne
    · obtain ⟨id, d, hid, hd⟩ := h.centred hne
      refine ⟨id, d, (hrest id d).mpr ⟨?_, hid⟩, hd⟩
      rintro rfl
      rw [hid] at hsame
      exact hsame ((h.laid.same_stick (h.owned _ _ hid).2.1).mpr hd)

/-! ## Fingers are followed -/

theorem follow_rest (t : Nat × τ) : (s.follow g t).controls = s.controls ∧ (s.follow g t).stick = s.stick
    ∧ (s.follow g t).dpad = s.dpad ∧ (s.follow g t).pointers = s.pointers := by
  unfold follow
  dsimp only
  split_ifs <;> exact ⟨rfl, rfl, rfl, rfl⟩

theorem follow_dpadPointers (t : Nat × τ) : (s.follow g t).dpadPointers = s.dpadPointers
    ∨ (s.dpad.isSome ∧ same (s.pointers.find t.1) s.dpad = true) ∧ ∃ r, (s.follow g t).dpadPointers
      = s.dpadPointers.set t.1 (DpadInput.directions r) := by
  unfold follow
  dsimp only
  by_cases h : s.dpad.isSome ∧ same (s.pointers.find t.1) s.dpad = true
  · obtain ⟨d, hd⟩ := Option.isSome_iff_exists.mp h.1
    refine .inr ⟨h, g.reading d.bounds t.2, ?_⟩
    rw [if_pos h, hd]
    split_ifs <;> rfl
  · rw [if_neg h]
    exact .inl (by split_ifs <;> rfl)

theorem follow_deflected (t : Nat × τ) : (s.follow g t).deflected = s.deflected
    ∨ (s.stick.isSome ∧ same (s.pointers.find t.1) s.stick = true) := by
  unfold follow
  dsimp only
  by_cases h : s.dpad.isSome ∧ same (s.pointers.find t.1) s.dpad = true
  · rw [if_pos h]
    split_ifs with h'
    · exact .inr h'
    · exact .inl rfl
  · rw [if_neg h]
    split_ifs with h'
    · exact .inr h'
    · exact .inl rfl

theorem same_some {o : Option (Control ρ)} {d : Control ρ} (h : same o (some d) = true) :
    ∃ c, o = some c ∧ c.mask = d.mask := by
  cases o with
  | none => exact absurd h (by simp [same])
  | some c => exact ⟨c, rfl, by simpa [same] using h⟩

theorem Held.follow (h : s.Held fingers) (t : Nat × τ) : (s.follow g t).Held fingers := by
  obtain ⟨hcontrols, hstick, hdpad, hpointers⟩ := follow_rest (g := g) (s := s) t
  refine ⟨⟨hstick ▸ h.laid.stick, hdpad ▸ h.laid.dpad, ?_, hcontrols ▸ h.laid.masks⟩, ?_, ?_, ?_, ?_⟩
  · rw [hcontrols, hstick, hdpad]
    exact h.laid.shown
  · rw [hcontrols, hpointers]
    exact h.owned
  · intro id b hid
    rw [hpointers]
    rcases follow_dpadPointers (g := g) (s := s) t with heq | ⟨⟨hsome, hsame⟩, r, heq⟩
    · exact h.followed id b (heq ▸ hid)
    · rw [heq, SortedMap.find_set] at hid
      split_ifs at hid with hip
      · obtain ⟨d, hd⟩ := Option.isSome_iff_exists.mp hsome
        rw [hd] at hsame
        obtain ⟨c, hc, hmask⟩ := same_some hsame
        cases hid
        exact ⟨⟨c, hip ▸ hc, hmask.trans (h.laid.dpad d hd)⟩, r, rfl⟩
      · exact h.followed id b hid
  · rw [hpointers]
    exact h.single
  · intro hne
    rw [hpointers]
    rcases follow_deflected (g := g) (s := s) t with heq | ⟨hsome, hsame⟩
    · exact h.centred (heq ▸ hne)
    · obtain ⟨d, hd⟩ := Option.isSome_iff_exists.mp hsome
      rw [hd] at hsame
      obtain ⟨c, hc, hmask⟩ := same_some hsame
      exact ⟨t.1, c, hc, hmask.trans (h.laid.stick d hd)⟩

theorem Held.track (h : s.Held fingers) (touches : List (Nat × τ)) :
    (s.track g touches).Held fingers ∧ (s.track g touches).sent = some (s.track g touches).state := by
  have hfold : (touches.foldl (TouchControls.follow g) s).Held fingers := by
    induction touches generalizing s with
    | nil => exact h
    | cons t touches ih => exact ih (h.follow t)
  exact ⟨⟨⟨hfold.laid.stick, hfold.laid.dpad, hfold.laid.shown, hfold.laid.masks⟩, hfold.owned,
    hfold.followed, hfold.single, hfold.centred⟩, rfl⟩

end TouchControls

/-! ## What the game is told -/

namespace TouchControls

variable {ρ τ : Type*} {g : Geometry ρ τ} {s : TouchControls ρ} {fingers : List Nat} {i : Nat}

theorem foldl_or_bit {α : Type*} (f : α → Buttons) (start : Buttons) (l : List α) :
    (l.foldl (fun mask a => mask ||| f a) start).getLsbD i
      = (start.getLsbD i || l.any fun a => (f a).getLsbD i) := by
  induction l generalizing start with
  | nil => simp
  | cons a l ih => rw [List.foldl_cons, ih, BitVec.getLsbD_or, List.any_cons, Bool.or_assoc]

/-- The button of a control, or none. -/
def button (c : Control ρ) : Buttons := if 0 < c.mask then BitVec.ofInt 32 c.mask else 0

theorem state_bit : s.state.buttons.getLsbD i
    = (s.dpadButtons.getLsbD i || s.pointers.entries.any fun e => (button e.2).getLsbD i) := by
  have hstep : (fun (buttons : Buttons) (e : Nat × Control ρ) =>
      if 0 < e.2.mask then buttons ||| BitVec.ofInt 32 e.2.mask else buttons)
        = fun buttons e => buttons ||| button e.2 := by
    funext buttons e
    unfold button
    split_ifs
    · rfl
    · exact (BitVec.or_zero).symm
  unfold state
  rw [hstep, foldl_or_bit]

theorem dpadButtons_bit (h : s.dpadButtons.getLsbD i = true) :
    ∃ id b, s.dpadPointers.find id = some b ∧ b.getLsbD i = true := by
  unfold dpadButtons at h
  rw [DpadInput.withoutOpposites_bit, Bool.and_assoc, Bool.and_eq_true] at h
  have hany := h.1
  rw [foldl_or_bit, Bool.or_eq_true, List.any_eq_true] at hany
  rcases hany with hzero | ⟨⟨id, b⟩, he, hb⟩
  · simp at hzero
  · exact ⟨id, b, SortedMap.mem_entries_iff.mp he, hb⟩

theorem dpadButtons_apart : (s.dpadButtons.getLsbD 10 && s.dpadButtons.getLsbD 11) = false
    ∧ (s.dpadButtons.getLsbD 8 && s.dpadButtons.getLsbD 9) = false := by
  unfold dpadButtons
  simp only [DpadInput.withoutOpposites_bit]
  generalize (List.foldl (fun mask (e : Nat × Buttons) => mask ||| e.2) 0 s.dpadPointers.entries) = mask
  cases mask.getLsbD 8 <;> cases mask.getLsbD 9 <;> cases mask.getLsbD 10 <;> cases mask.getLsbD 11 <;> simp

/-- No button of a layout is a direction. -/
theorem button_bit (hmask : c.mask ∈ layoutControls.map (·.2)) (hi : 8 ≤ i ∧ i ≤ 11) :
    (button c).getLsbD i = false := by
  have hall : ∀ mask ∈ layoutControls.map (·.2), ∀ i ∈ [8, 9, 10, 11],
      (if 0 < mask then BitVec.ofInt 32 mask else (0 : Buttons)).getLsbD i = false := by decide
  exact hall _ hmask i (by simp; omega)

end TouchControls

/-! ## Runs -/

namespace Touching

variable {ρ τ : Type*} {g : Geometry ρ τ} {m : Touching ρ} {ev : TouchEvent ρ τ}

/-- The fingers the view is told about. -/
def told (m : Touching ρ) : List Nat := if m.delivered then m.touching else []

/-- What the view holds is touched, and was sent. -/
structure Sound (m : Touching ρ) : Prop where
  held : m.view.Held m.told
  sent : m.game = m.view.state

theorem sound_of_held {view : TouchControls ρ} {touching : List Nat} {delivered : Bool}
    (hheld : view.Held (if delivered then touching else [])) (hsent : view.sent = some view.state) :
    Sound { view := view, touching := touching, delivered := delivered } :=
  ⟨hheld, by rw [game, hsent]; rfl⟩

/-- **A report keeps it.** -/
theorem Sound.step (hreported : m.Reported ev) (h : m.Sound) : (m.step g ev).Sound := by
  cases ev with
  | layout place =>
    refine sound_of_held ((TouchControls.held_layout place).mono fun id hid =>
      absurd hid List.not_mem_nil) ?_
    cases place <;> rfl
  | reset =>
    exact sound_of_held (h.held.reset.mono fun id hid => absurd hid List.not_mem_nil) rfl
  | motion ev =>
    unfold Touching.step
    dsimp only
    unfold Reported at hreported
    dsimp only at hreported
    by_cases hdown : ev.action = .down
    · rw [if_pos hdown]
      rw [hdown] at hreported
      have hnone : m.view.Held [] := h.held.mono fun id hid => by
        unfold told at hid
        rw [hreported.1] at hid
        split_ifs at hid <;> exact hid
      unfold TouchControls.onTouchEvent fingers
      rw [hdown]
      dsimp only
      cases hhit : m.view.hit g ev.position with
      | none => exact ⟨hnone, h.sent⟩
      | some c =>
        obtain ⟨hheld, hsent⟩ := (hnone.press List.not_mem_nil (List.mem_of_find?_eq_some hhit)
          (p := ev.pointer)).track (g := g) ev.touches
        exact sound_of_held hheld hsent
    · rw [if_neg hdown]
      by_cases hdelivered : m.delivered = true
      · rw [if_pos hdelivered]
        have hheld : m.view.Held m.touching := by
          have := h.held
          rwa [told, if_pos hdelivered] at this
        unfold TouchControls.onTouchEvent fingers
        cases haction : ev.action with
        | down => exact absurd haction hdown
        | pointerDown =>
          rw [haction] at hreported
          dsimp only
          cases hhit : m.view.hit g ev.position with
          | none =>
            obtain ⟨hheld, hsent⟩ := (hheld.mono fun _ => List.mem_cons_of_mem ev.pointer).track (g := g)
              ev.touches
            exact sound_of_held (by rw [if_pos hdelivered]; exact hheld) hsent
          | some c =>
            obtain ⟨hheld, hsent⟩ := (hheld.press hreported.1
              (List.mem_of_find?_eq_some hhit)).track (g := g) ev.touches
            exact sound_of_held (by rw [if_pos hdelivered]; exact hheld) hsent
        | up =>
          rw [haction] at hreported
          obtain ⟨hheld, hsent⟩ := (hheld.release (p := ev.pointer)).track (g := g) ev.touches
          refine sound_of_held (hheld.mono fun id hid => ?_) hsent
          obtain ⟨hin, hne⟩ := List.mem_filter.mp hid
          exact absurd (hreported.1 id hin) (of_decide_eq_true hne)
        | pointerUp =>
          obtain ⟨hheld, hsent⟩ := (hheld.release (p := ev.pointer)).track (g := g) ev.touches
          exact sound_of_held (by rw [if_pos hdelivered]; exact hheld) hsent
        | cancel =>
          obtain ⟨hheld, hsent⟩ := hheld.reset.track (g := g) ev.touches
          exact sound_of_held (hheld.mono fun id hid => absurd hid List.not_mem_nil) hsent
        | move =>
          obtain ⟨hheld, hsent⟩ := hheld.track (g := g) ev.touches
          exact sound_of_held (by rw [if_pos hdelivered]; exact hheld) hsent
      · rw [if_neg hdelivered]
        refine ⟨?_, h.sent⟩
        have := h.held
        unfold told at this ⊢
        rw [if_neg hdelivered] at this
        dsimp only
        rwa [if_neg hdelivered]

/-- What the game may be told: nothing without a finger, every button and direction of a finger that is
down, no two opposite directions, and the stick of one finger. -/
structure Seen (m : Touching ρ) : Prop where
  idle : m.told = [] → m.game = ⟨0, 0, 0⟩
  attributed : ∀ i, m.game.buttons.getLsbD i = true → ∃ id ∈ m.told, ∃ c,
    m.view.pointers.find id = some c ∧
      ((TouchControls.button c).getLsbD i = true ∨ c.mask = dpadMask ∧ 8 ≤ i ∧ i ≤ 11)
  pressed : ∀ id c, m.view.pointers.find id = some c → ∀ i, (TouchControls.button c).getLsbD i = true →
    m.game.buttons.getLsbD i = true
  apart : (m.game.buttons.getLsbD 10 && m.game.buttons.getLsbD 11) = false
    ∧ (m.game.buttons.getLsbD 8 && m.game.buttons.getLsbD 9) = false
  stick : (m.game.x, m.game.y) ≠ (0, 0) → ∃! id, ∃ c, m.view.pointers.find id = some c ∧ c.mask = stickMask

theorem Sound.attributed (h : m.Sound) {i : Nat} (hi : m.game.buttons.getLsbD i = true) :
    ∃ id ∈ m.told, ∃ c, m.view.pointers.find id = some c ∧
      ((TouchControls.button c).getLsbD i = true ∨ c.mask = dpadMask ∧ 8 ≤ i ∧ i ≤ 11) := by
  rw [h.sent, TouchControls.state_bit, Bool.or_eq_true, List.any_eq_true] at hi
  rcases hi with hi | ⟨⟨id, c⟩, he, hc⟩
  · obtain ⟨id, b, hid, hb⟩ := TouchControls.dpadButtons_bit hi
    obtain ⟨⟨c, hc, hmask⟩, r, rfl⟩ := h.held.followed id b hid
    exact ⟨id, (h.held.owned id c hc).1, c, hc, .inr ⟨hmask, DpadInput.directions_bit r hb⟩⟩
  · have hid := SortedMap.mem_entries_iff.mp he
    exact ⟨id, (h.held.owned id c hid).1, c, hid, .inl hc⟩

theorem Sound.direction (h : m.Sound) {i : Nat} (hi : 8 ≤ i ∧ i ≤ 11) :
    m.game.buttons.getLsbD i = m.view.dpadButtons.getLsbD i := by
  rw [h.sent, TouchControls.state_bit, List.any_eq_false.mpr, Bool.or_false]
  rintro ⟨id, c⟩ he
  have hid := SortedMap.mem_entries_iff.mp he
  rw [TouchControls.button_bit (h.held.laid.masks c (h.held.owned id c hid).2.1) hi]
  exact Bool.false_ne_true

theorem Sound.seen (h : m.Sound) : m.Seen where
  idle hnone := by
    have hpointers : ∀ id c, m.view.pointers.find id ≠ some c := fun id c hid => by
      have := (h.held.owned id c hid).1
      rw [hnone] at this
      exact List.not_mem_nil this
    have hbuttons : m.game.buttons = 0 := by
      refine BitVec.eq_of_getLsbD_eq fun i _ => ?_
      have hzero : (0 : Buttons).getLsbD i = false := by simp
      rw [hzero, ← Bool.not_eq_true]
      intro hi
      obtain ⟨id, -, c, hid, -⟩ := h.attributed hi
      exact hpointers id c hid
    have hstick : m.view.deflected = (0, 0) := by
      by_contra hne
      obtain ⟨id, c, hid, -⟩ := h.held.centred hne
      exact hpointers id c hid
    have hx : m.game.x = m.view.deflected.1 := congrArg TouchState.x h.sent
    have hy : m.game.y = m.view.deflected.2 := congrArg TouchState.y h.sent
    rw [hstick] at hx hy
    calc m.game = ⟨m.game.buttons, m.game.x, m.game.y⟩ := rfl
      _ = ⟨0, 0, 0⟩ := by rw [hbuttons, hx, hy]
  attributed i hi := h.attributed hi
  pressed id c hid i hi := by
    rw [h.sent, TouchControls.state_bit, Bool.or_eq_true, List.any_eq_true]
    exact .inr ⟨(id, c), SortedMap.mem_entries_iff.mpr hid, hi⟩
  apart := by
    rw [h.direction (by omega), h.direction (by omega), h.direction (by omega), h.direction (by omega)]
    exact TouchControls.dpadButtons_apart
  stick hne := by
    rw [h.sent] at hne
    obtain ⟨id, c, hid, hc⟩ := h.held.centred hne
    refine ⟨id, ⟨c, hid, hc⟩, ?_⟩
    rintro id' ⟨c', hid', hc'⟩
    exact h.held.single id' id c' c hid' hid hc' hc

end Touching

theorem Touching.sound_start {ρ : Type*} : Touching.Sound ({ view := {} } : Touching ρ) := by
  have hnone : ({} : TouchControls ρ).state = ⟨0, 0, 0⟩ := by
    have hzero : DpadInput.withoutOpposites 0 = 0 := by decide
    simp only [TouchControls.state, TouchControls.dpadButtons, List.foldl_nil, hzero]
  exact ⟨⟨⟨nofun, nofun, fun hne => absurd rfl hne, nofun⟩, nofun, nofun, nofun, fun hne => absurd rfl hne⟩,
    hnone.symm⟩

/-- **The touch controls tell the game what the fingers hold**, after any run of gestures, layouts and
resets. -/
theorem touches_seen {ρ τ : Type*} (g : Geometry ρ τ) (events : List (TouchEvent ρ τ))
    (h : Run.Along (Touching.step g) Touching.Reported { view := {} } events) :
    (Run.run (Touching.step g) { view := {} } events).Seen := by
  exact (Run.invariant (fun m ev hev hm => hm.step hev) Touching.sound_start h).seen

/-- A touch is at the control whose mask it is. -/
def maskGeometry : Geometry Int Int where
  contains bounds position := decide (bounds = position)
  reading _ _ := ⟨false, false, false, false, false, false⟩
  deflection _ _ := (0, 0)

/-- A finger comes down on A. -/
def pressEvents : List (TouchEvent Int Int) :=
  [.layout (some id), .motion ⟨.down, [(0, 0x8000)], ⟨0, Nat.one_pos⟩⟩]

theorem touches_seen_press :
    (Run.run (Touching.step maskGeometry) { view := {} } pressEvents).Seen ∧
      (Run.run (Touching.step maskGeometry) { view := {} } pressEvents).game.buttons = 0x8000 := by
  refine ⟨touches_seen maskGeometry pressEvents ⟨trivial, ⟨rfl, fun t ht => ?_⟩, trivial⟩, by decide⟩
  rw [List.mem_singleton.mp ht]
  rfl

end Dk64Port.Android
