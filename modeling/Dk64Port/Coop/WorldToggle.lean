import Dk64Port.Coop.World
import Dk64Port.Lib.IndexedLoop

/-!
# One world toggle at a time

The loops of `WorldSync::update` treat the toggles independently. `Toggle` is what both sides keep
about one of them, with the bodies of the loops as functions on it, and the update of the whole
`WorldSync` is that function at every toggle.

* `toggle_exchange`: the loops are `Toggle.exchange` at every toggle.
* `update_inSession`: **within a session with fixed files an update either leaves every toggle alone
  or is an exchange**; the resets of the source do not occur.
-/

namespace Dk64Port.Coop

/-- What a snapshot carries about one toggle. -/
@[ext] structure WireToggle where
  revision : Word := 0
  desired : Bool := false
  request : Word := 0
  base : Word := 0
  requestValue : Bool := false
  ack : Word := 0

/-- What a `WorldSync` keeps about one toggle. -/
@[ext] structure Toggle extends WireToggle where
  lastChange : Word := 0
  pending : Bool := false

def WorldWire.toggle (w : WorldWire) (i : Fin coopWorldToggles) : WireToggle where
  revision := w.revision i
  desired := toggleBit w.desired i
  request := w.request i
  base := w.base i
  requestValue := toggleBit w.requestValues i
  ack := w.ack i

def WorldSync.toggle (s : WorldSync) (i : Fin coopWorldToggles) : Toggle where
  toWireToggle := s.outgoing.toggle i
  lastChange := s.lastChange i
  pending := toggleBit s.pending i

/-- `WorldSync::initialize` at one toggle. -/
def Toggle.initializeFrom (host : Bool) (change : Word) (value : Bool) (r : WireToggle) (t : Toggle) :
    Toggle :=
  { t with
    desired := if host then value else r.desired
    revision := if host then 1 else r.revision
    lastChange := change }

/-- `WorldSync.intent` at its toggle. -/
def Toggle.intent (host : Bool) (change : Word) (value : Bool) (t : Toggle) : Toggle :=
  if change = t.lastChange then t
  else if host then
    { t with lastChange := change, desired := value, revision := advance t.revision }
  else
    { t with
      lastChange := change
      request := advance t.request
      base := t.revision
      requestValue := value
      pending := true }

/-- The host takes up a request it has not acknowledged. -/
def Toggle.takesUp (r : WireToggle) (t : Toggle) : Bool :=
  decide (r.request ≠ 0 ∧ (t.ack = 0 ∨ newer r.request t.ack))

/-- `WorldSync.incoming` at its toggle. -/
def Toggle.incoming (host : Bool) (r : WireToggle) (t : Toggle) : Toggle :=
  if host then
    if t.takesUp r then
      if r.base = t.revision then
        { t with desired := r.requestValue, revision := advance t.revision, ack := r.request }
      else { t with ack := r.request }
    else t
  else if r.revision = t.revision ∨ newer r.revision t.revision then
    { t with
      revision := r.revision
      desired := r.desired
      pending := if t.request ≠ 0 ∧ r.ack = t.request then false else t.pending }
  else t

/-- `WorldSync.exchange` at one toggle. -/
def Toggle.exchange (host initialized peerBound : Bool) (l : CoopWorldInput) (r : WorldWire)
    (i : Fin coopWorldToggles) (t : Toggle) : Toggle :=
  let t := if initialized then t
    else t.initializeFrom host (l.change i) (toggleBit l.values i) (r.toggle i)
  let t := if l.ready = 0 then t else t.intent host (l.change i) (toggleBit l.values i)
  if peerBound then t.incoming host (r.toggle i) else t

variable {host : Bool} {l : CoopWorldInput} {r : WorldWire} {s s' : WorldSync}
  {i j : Fin coopWorldToggles}

/-! ## The loops at one toggle -/

theorem toggleBit_setBit (values source : Word) (i j : Fin coopWorldToggles) :
    toggleBit (setBit values i source) j
      = if j = i then toggleBit source i else toggleBit values j := by
  have hj : j.val < 32 := lt_trans j.isLt (by decide)
  unfold toggleBit setBit
  rw [BitVec.getLsbD_or, BitVec.getLsbD_and, BitVec.getLsbD_and, BitVec.getLsbD_not,
    BitVec.getLsbD_twoPow]
  by_cases h : j = i
  · subst h
    simp [hj]
  · have hne : i.val ≠ j.val := fun e => h (Fin.ext e.symm)
    simp [h, hne, hj]

theorem toggleBit_or_twoPow (values : Word) (i j : Fin coopWorldToggles) :
    toggleBit (values ||| BitVec.twoPow 32 i.val) j
      = if j = i then true else toggleBit values j := by
  have hj : j.val < 32 := lt_trans j.isLt (by decide)
  unfold toggleBit
  rw [BitVec.getLsbD_or, BitVec.getLsbD_twoPow]
  by_cases h : j = i
  · subst h
    simp [hj]
  · have hne : i.val ≠ j.val := fun e => h (Fin.ext e.symm)
    simp [h, hne]

theorem toggleBit_and_not_twoPow (values : Word) (i j : Fin coopWorldToggles) :
    toggleBit (values &&& ~~~ BitVec.twoPow 32 i.val) j
      = if j = i then false else toggleBit values j := by
  have hj : j.val < 32 := lt_trans j.isLt (by decide)
  unfold toggleBit
  rw [BitVec.getLsbD_and, BitVec.getLsbD_not, BitVec.getLsbD_twoPow]
  by_cases h : j = i
  · subst h
    simp [hj]
  · have hne : i.val ≠ j.val := fun e => h (Fin.ext e.symm)
    simp [h, hne, hj]

theorem toggle_intent (s : WorldSync) (i : Fin coopWorldToggles) :
    (s.intent host l i).toggle i
      = (s.toggle i).intent host (l.change i) (toggleBit l.values i) := by
  unfold WorldSync.intent Toggle.intent
  simp only [show (s.toggle i).lastChange = s.lastChange i from rfl]
  split
  · rfl
  · split <;>
      simp [WorldSync.toggle, WorldWire.toggle, toggleBit_setBit, toggleBit_or_twoPow]

theorem toggle_intent_of_ne (s : WorldSync) (i j : Fin coopWorldToggles) (h : i ≠ j) :
    (s.intent host l j).toggle i = s.toggle i := by
  unfold WorldSync.intent
  split
  · rfl
  · split <;>
      simp [WorldSync.toggle, WorldWire.toggle, toggleBit_setBit, toggleBit_or_twoPow, h]

theorem takesUp_toggle : (s.toggle i).takesUp (r.toggle i) = true
    ↔ r.request i ≠ 0
      ∧ (s.outgoing.ack i = 0 ∨ newer (r.request i) (s.outgoing.ack i) = true) :=
  decide_eq_true_iff

theorem toggle_incoming (s : WorldSync) (i : Fin coopWorldToggles) :
    (s.incoming host r i).toggle i = (s.toggle i).incoming host (r.toggle i) := by
  unfold WorldSync.incoming Toggle.incoming
  simp only [takesUp_toggle, show (s.toggle i).revision = s.outgoing.revision i from rfl,
    show (r.toggle i).base = r.base i from rfl,
    show (r.toggle i).revision = r.revision i from rfl]
  split_ifs <;> simp_all [WorldSync.toggle, WorldWire.toggle, toggleBit_setBit,
    toggleBit_and_not_twoPow]

theorem toggle_incoming_of_ne (s : WorldSync) (i j : Fin coopWorldToggles) (h : i ≠ j) :
    (s.incoming host r j).toggle i = s.toggle i := by
  unfold WorldSync.incoming
  split
  · split
    · split <;> simp [WorldSync.toggle, WorldWire.toggle, toggleBit_setBit, h]
    · rfl
  · split
    · split <;>
        simp [WorldSync.toggle, WorldWire.toggle, toggleBit_setBit, toggleBit_and_not_twoPow, h]
    · rfl

theorem toggle_intents (s : WorldSync) (i : Fin coopWorldToggles) :
    (s.intents host l).toggle i = if l.ready = 0 then s.toggle i
      else (s.toggle i).intent host (l.change i) (toggleBit l.values i) := by
  unfold WorldSync.intents
  split
  · rfl
  · exact IndexedLoop.foldl_finRange WorldSync.toggle toggle_intent
      toggle_intent_of_ne _ i

/-- The part of a `WorldSync` that no toggle changes. -/
structure SameBinding (s s' : WorldSync) : Prop where
  binding : s'.binding = s.binding
  file : s'.file = s.file
  scope : s'.scope = s.scope
  peerFile : s'.peerFile = s.peerFile
  wireFile : s'.outgoing.file = s.outgoing.file

theorem SameBinding.trans {s'' : WorldSync} (h : SameBinding s s') (h' : SameBinding s' s'') :
    SameBinding s s'' :=
  ⟨h'.binding.trans h.binding, h'.file.trans h.file, h'.scope.trans h.scope,
    h'.peerFile.trans h.peerFile, h'.wireFile.trans h.wireFile⟩

theorem sameBinding_foldl {body : WorldSync → Fin coopWorldToggles → WorldSync}
    (h : ∀ s i, SameBinding s (body s i)) :
    ∀ (is : List (Fin coopWorldToggles)) (s : WorldSync), SameBinding s (is.foldl body s)
  | [], _ => ⟨rfl, rfl, rfl, rfl, rfl⟩
  | i :: is, s => (h s i).trans (sameBinding_foldl h is _)

theorem sameBinding_intent (host : Bool) (l : CoopWorldInput) (s : WorldSync) (i : Fin coopWorldToggles) :
    SameBinding s (s.intent host l i) := by
  unfold WorldSync.intent
  split
  · exact ⟨rfl, rfl, rfl, rfl, rfl⟩
  · split <;> exact ⟨rfl, rfl, rfl, rfl, rfl⟩

theorem sameBinding_incoming (host : Bool) (r : WorldWire) (s : WorldSync) (i : Fin coopWorldToggles) :
    SameBinding s (s.incoming host r i) := by
  unfold WorldSync.incoming
  split
  · split
    · split <;> exact ⟨rfl, rfl, rfl, rfl, rfl⟩
    · exact ⟨rfl, rfl, rfl, rfl, rfl⟩
  · split <;> exact ⟨rfl, rfl, rfl, rfl, rfl⟩

theorem sameBinding_intents (host : Bool) (l : CoopWorldInput) (s : WorldSync) :
    SameBinding s (s.intents host l) := by
  unfold WorldSync.intents
  split
  · exact ⟨rfl, rfl, rfl, rfl, rfl⟩
  · obtain ⟨h1, h2, h3, h4, h5⟩ := sameBinding_foldl (sameBinding_intent host l)
      (List.finRange coopWorldToggles)
      { s with outgoing := { s.outgoing with values := l.values, ready := 1 } }
    exact ⟨h1, h2, h3, h4, h5⟩

/-- What an exchange starts from. -/
def WorldSync.started (host : Bool) (l : CoopWorldInput) (r : WorldWire) (s : WorldSync) :
    WorldSync :=
  if s.initialized then s else s.initializeFrom host l r

theorem sameBinding_started (s : WorldSync) : SameBinding s (s.started host l r) := by
  unfold WorldSync.started
  split <;> exact ⟨rfl, rfl, rfl, rfl, rfl⟩

theorem initialized_started (s : WorldSync) : (s.started host l r).initialized = true := by
  unfold WorldSync.started
  split
  · assumption
  · rfl

theorem initialized_intents (host : Bool) (l : CoopWorldInput) (s : WorldSync) :
    (s.intents host l).initialized = s.initialized := by
  unfold WorldSync.intents
  split
  · rfl
  · rw [IndexedLoop.foldl_keeps WorldSync.initialized]
    intro s i
    unfold WorldSync.intent
    split_ifs <;> rfl

theorem initialized_incoming (s : WorldSync) (i : Fin coopWorldToggles) :
    (s.incoming host r i).initialized = s.initialized := by
  unfold WorldSync.incoming
  split_ifs <;> rfl

theorem exchange_eq (s : WorldSync) : s.exchange host l r
    = if s.peerBound r then
        ((List.finRange coopWorldToggles).foldl (WorldSync.incoming host r)
          ((s.started host l r).intents host l)).report l r
      else (s.started host l r).intents host l := by
  have hb := (sameBinding_started s).trans (sameBinding_intents host l
    (s.started host l r))
  have hp : ((s.started host l r).intents host l).peerBound r = s.peerBound r := by
    simp only [WorldSync.peerBound, hb.scope]
  change (if ¬ ((s.started host l r).intents host l).peerBound r then _ else _) = _
  rw [hp]
  by_cases h : s.peerBound r = true
  · rw [if_neg (not_not.mpr h), if_pos h]
    rfl
  · rw [if_pos h, if_neg h]
    rfl

theorem sameBinding_exchange (host : Bool) (l : CoopWorldInput) (r : WorldWire) (s : WorldSync) :
    SameBinding s (s.exchange host l r) := by
  rw [exchange_eq]
  have h := (sameBinding_started s).trans (sameBinding_intents host l
    (s.started host l r))
  split
  · have hf := h.trans (sameBinding_foldl (sameBinding_incoming host r)
      (List.finRange coopWorldToggles) ((s.started host l r).intents host l))
    exact ⟨hf.binding, hf.file, hf.scope, hf.peerFile, hf.wireFile⟩
  · exact h

theorem initialized_exchange (host : Bool) (l : CoopWorldInput) (r : WorldWire) (s : WorldSync) :
    (s.exchange host l r).initialized = true := by
  rw [exchange_eq]
  have h := (initialized_intents host l (s.started host l r)).trans
    (initialized_started s)
  split
  · exact (IndexedLoop.foldl_keeps WorldSync.initialized initialized_incoming _ _).trans h
  · exact h

theorem toggle_started (s : WorldSync) (i : Fin coopWorldToggles) :
    (s.started host l r).toggle i = if s.initialized then s.toggle i
      else (s.toggle i).initializeFrom host (l.change i) (toggleBit l.values i) (r.toggle i) := by
  unfold WorldSync.started
  split
  · rfl
  · cases host <;> rfl

/-- **The loops of the source are `Toggle.exchange` at every toggle.** -/
theorem toggle_exchange (s : WorldSync) (i : Fin coopWorldToggles) :
    (s.exchange host l r).toggle i
      = (s.toggle i).exchange host s.initialized (s.peerBound r) l r i := by
  rw [exchange_eq]
  unfold Toggle.exchange
  dsimp only
  rw [← toggle_started, ← toggle_intents]
  split
  · exact IndexedLoop.foldl_finRange WorldSync.toggle toggle_incoming
      toggle_incoming_of_ne _ i
  · rfl

/-- An exchange stage by stage: the first usable update, local intent, incoming changes. -/
theorem exchange_of_stages {t : Toggle} {initialized hears : Bool} {P Q R : Toggle → Prop}
    (hstart : P (if initialized then t
      else t.initializeFrom host (l.change i) (toggleBit l.values i) (r.toggle i)))
    (hintent : ∀ t, P t → Q t ∧ Q (t.intent host (l.change i) (toggleBit l.values i)))
    (hincoming : ∀ t, Q t → R t ∧ (hears = true → R (t.incoming host (r.toggle i)))) :
    R (t.exchange host initialized hears l r i) := by
  unfold Toggle.exchange
  dsimp only
  generalize (if initialized then t
    else t.initializeFrom host (l.change i) (toggleBit l.values i) (r.toggle i)) = t₁ at hstart ⊢
  have h₂ : Q (if l.ready = 0 then t₁
      else t₁.intent host (l.change i) (toggleBit l.values i)) := by
    split
    · exact (hintent t₁ hstart).1
    · exact (hintent t₁ hstart).2
  split
  · rename_i hh
    exact (hincoming _ h₂).2 hh
  · exact (hincoming _ h₂).1

/-! ## An update within a session -/

/-- The binding of a session between fixed files. -/
structure WorldBound (session : Word64) (f scopeFile p : Word) (s : WorldSync) : Prop where
  binding : s.binding = session
  live : session ≠ 0
  file : s.file = f
  known : f ≠ 0
  scope : s.scope = scopeFile
  peerFile : s.peerFile = p

/-- Nothing was exchanged yet. -/
structure Blank (s : WorldSync) : Prop where
  initialized : s.initialized = false
  toggles : ∀ i, s.toggle i = {}

/-- Within a session between fixed files the toggles are blank until the first exchange, and the
binding never changes once it is there. -/
structure InWorldSession (session : Word64) (f scopeFile p : Word) (s : WorldSync) : Prop where
  announced : s.outgoing.file = 0 ∨ s.outgoing.file = f
  blank : s.initialized = false → Blank s
  binding : s.binding = 0 ∧ Blank s ∨ WorldBound session f scopeFile p s

/-- The input is valid, has the feature on and is about file `f`. -/
structure FixedWorldInput (f : Word) (l : CoopWorldInput) : Prop where
  valid : validWorldInput l = true
  enabled : l.enabled ≠ 0
  file : l.file = f

instance (f : Word) (l : CoopWorldInput) : Decidable (FixedWorldInput f l) :=
  decidable_of_iff (validWorldInput l = true ∧ l.enabled ≠ 0 ∧ l.file = f)
    ⟨fun h => ⟨h.1, h.2.1, h.2.2⟩, fun h => ⟨h.valid, h.enabled, h.file⟩⟩

/-- What an update within a session does to the toggles; `hears` says whether it reaches the remote
loop. -/
inductive UpdateEffect (host hears fresh permitted : Bool) (l : CoopWorldInput) (r : WorldWire)
    (s s' : WorldSync) : Prop
  | idle (silent : hears = false) (initialized : s'.initialized = s.initialized)
      (toggles : ∀ i, s'.toggle i = s.toggle i)
  | exchange (guard : (fresh = true ∧ permitted = true)
        ∧ (s.initialized = true ∨ l.ready ≠ 0 ∧ (host = true ∨ hears = true)))
      (initialized : s'.initialized = true)
      (toggles : ∀ i, s'.toggle i = (s.toggle i).exchange host s.initialized hears l r i)

/-- A reset `WorldSync`, whatever it is bound to. -/
theorem blank_reset (binding : Word64) (file scope peerFile : Word) :
    Blank { binding := binding, file := file, scope := scope, peerFile := peerFile } :=
  ⟨rfl, fun i => by simp [WorldSync.toggle, WorldWire.toggle, toggleBit]⟩

theorem Blank.effect {fresh permitted : Bool} (h : Blank s) (h' : Blank s') :
    UpdateEffect host false fresh permitted l r s s' :=
  .idle rfl (h'.initialized.trans h.initialized.symm) fun i => (h'.toggles i).trans (h.toggles i).symm

variable {session : Word64} {f p : Word}

theorem inWorldSession_blank (ha : s.outgoing.file = 0 ∨ s.outgoing.file = f)
    (hb : s.binding = 0) (h : Blank s) : InWorldSession session f (if host then f else p) p s :=
  ⟨ha, fun _ => h, .inl ⟨hb, h⟩⟩

theorem wait_inSession (fresh permitted : Bool) (hl : l.file = f)
    (h : InWorldSession session f (if host then f else p) p s) :
    InWorldSession session f (if host then f else p) p (s.wait l session)
    ∧ UpdateEffect host false fresh permitted l r s (s.wait l session) := by
  have hblank : Blank (({} : WorldSync).waiting l) := ⟨rfl, (blank_reset 0 0 0 0).toggles⟩
  unfold WorldSync.wait
  by_cases hne : s.binding ≠ session ∨ s.file ≠ l.file
  · rw [if_pos hne]
    rcases h.binding with ⟨-, hb⟩ | hb
    · exact ⟨inWorldSession_blank (.inr hl) rfl hblank, hb.effect hblank⟩
    · rcases hne with hne | hne
      · exact absurd hb.binding hne
      · exact absurd (hb.file.trans hl.symm) hne
  · rw [if_neg hne]
    refine ⟨⟨.inr hl, fun hi => ⟨hi, (h.blank hi).toggles⟩, ?_⟩, .idle rfl rfl fun _ => rfl⟩
    rcases h.binding with ⟨hb, hs⟩ | hb
    · exact .inl ⟨hb, hs.initialized, hs.toggles⟩
    · exact .inr ⟨hb.binding, hb.live, hb.file, hb.known, hb.scope, hb.peerFile⟩

theorem rebind_inSession (hs : session ≠ 0) (hl : l.file = f) (hf : f ≠ 0) (hr : r.file = p)
    (h : InWorldSession session f (if host then f else p) p s) :
    WorldBound session f (if host then f else p) p (s.rebind host l r session)
    ∧ (s.rebind host l r session).outgoing.file = f
    ∧ (s.rebind host l r session).initialized = s.initialized
    ∧ ∀ i, (s.rebind host l r session).toggle i = s.toggle i := by
  subst hl hr
  unfold WorldSync.rebind
  dsimp only
  by_cases hne : s.binding ≠ session ∨ s.file ≠ l.file
      ∨ s.scope ≠ (if host then l.file else r.file) ∨ s.peerFile ≠ r.file
  · rw [if_pos hne]
    rcases h.binding with ⟨-, hb⟩ | hb
    · have hz := blank_reset session l.file (if host then l.file else r.file) r.file
      exact ⟨⟨rfl, hs, rfl, hf, rfl, rfl⟩, rfl, hb.initialized.symm,
        fun i => (hz.toggles i).trans (hb.toggles i).symm⟩
    · exfalso
      rcases hne with hne | hne | hne | hne
      · exact hne hb.binding
      · exact hne hb.file
      · exact hne hb.scope
      · exact hne hb.peerFile
  · rw [if_neg hne]
    simp only [not_or, not_not] at hne
    exact ⟨⟨hne.1, hs, hne.2.1, hf, hne.2.2.1, hne.2.2.2⟩, hne.2.1, rfl, fun _ => rfl⟩

/-- Only a connected endpoint is bound. -/
theorem connected_of_update {connected fresh permitted : Bool}
    (h : (s.update host l r connected fresh permitted session).binding ≠ 0) :
    connected = true := by
  by_contra hn
  apply h
  unfold WorldSync.update
  split
  · rfl
  · rw [if_pos (.inl hn)]

/-- **Within a session with fixed files an update leaves every toggle alone or is an exchange.** -/
theorem update_inSession {connected : Bool} (fresh permitted : Bool) (hl : FixedWorldInput f l)
    (hr : r.file = 0 ∨ r.file = p) (hc : s.binding ≠ 0 → connected = true)
    (h : InWorldSession session f (if host then f else p) p s) :
    InWorldSession session f (if host then f else p) p
      (s.update host l r connected fresh permitted session)
    ∧ UpdateEffect host (s.hears host l r connected fresh permitted session) fresh permitted l r s
      (s.update host l r connected fresh permitted session) := by
  have hon : ¬ (¬ validWorldInput l = true ∨ l.enabled = 0) := by
    rw [not_or, not_not]
    exact ⟨hl.valid, hl.enabled⟩
  unfold WorldSync.update
  rw [if_neg hon]
  by_cases hn : ¬ connected = true ∨ session = 0 ∨ l.file = 0
  · -- nothing was bound yet, so the reset changes nothing
    have hh : s.hears host l r connected fresh permitted session = false := by
      rcases hn with hn | hn | hn <;> simp [WorldSync.hears, hn]
    rw [if_pos hn, hh]
    have hb : Blank s := by
      rcases h.binding with hb | hb
      · exact hb.2
      · rcases hn with hn | hn | hn
        · exact absurd (hc (hb.binding.symm ▸ hb.live)) hn
        · exact absurd hn hb.live
        · exact absurd (hl.file.symm.trans hn) hb.known
    have hb' : Blank { outgoing := { feature := 1, file := l.file }, output := { status := 1 } } :=
      ⟨rfl, (blank_reset 0 0 0 0).toggles⟩
    exact ⟨inWorldSession_blank (.inr hl.file) rfl hb', hb.effect hb'⟩
  rw [if_neg hn]
  simp only [not_or, not_not] at hn
  by_cases hw : ¬ validWorld r = true ∨ r.feature = 0 ∨ r.file = 0
  · have hh : s.hears host l r connected fresh permitted session = false := by
      rcases hw with hw | hw | hw <;> simp [WorldSync.hears, hw]
    rw [if_pos hw, hh]
    exact wait_inSession fresh permitted hl.file h
  rw [if_neg hw]
  simp only [not_or, not_not] at hw
  obtain ⟨hb, ha, hi, ht⟩ := rebind_inSession hn.2.1 hl.file (hl.file ▸ hn.2.2)
    (hr.resolve_left hw.2.2) h
  have hh : s.hears host l r connected fresh permitted session
      = ((s.rebind host l r session).mayExchange host l r fresh permitted
        && (s.rebind host l r session).peerBound r) := by
    have hd := decide_eq_true (show l.enabled ≠ 0 ∧ session ≠ 0 ∧ l.file ≠ 0 ∧ r.feature ≠ 0
      ∧ r.file ≠ 0 from ⟨hl.enabled, hn.2.1, hn.2.2, hw.2.1, hw.2.2⟩)
    rw [WorldSync.hears, hl.valid, hn.1, hw.1, hd, Bool.and_self, Bool.and_self, Bool.and_self,
      Bool.true_and]
  rw [hh]
  dsimp only
  generalize s.rebind host l r session = t at hb ha hi ht ⊢
  by_cases hm : t.mayExchange host l r fresh permitted = true
  · rw [if_pos hm, hm, Bool.true_and]
    have hsame := sameBinding_exchange host l r t
    have hinit := initialized_exchange host l r t
    refine ⟨⟨.inr (hsame.wireFile.trans ha), fun hi' => ?_, .inr ?_⟩, .exchange ?_ hinit fun i => ?_⟩
    · rw [hinit] at hi'
      cases hi'
    · exact ⟨hsame.binding.trans hb.binding, hb.live, hsame.file.trans hb.file, hb.known,
        hsame.scope.trans hb.scope, hsame.peerFile.trans hb.peerFile⟩
    · rw [← hi]
      simp only [WorldSync.mayExchange, Bool.and_eq_true, Bool.or_eq_true,
        decide_eq_true_eq] at hm
      exact ⟨⟨hm.1.1.1.2, hm.1.1.2⟩, hm.2⟩
    · rw [toggle_exchange, hi, ht]
  · have hf : t.mayExchange host l r fresh permitted = false := by simpa using hm
    rw [if_neg hm, hf, Bool.false_and]
    refine ⟨⟨.inr ha, fun hi' => ?_, .inr hb⟩, .idle rfl hi ht⟩
    exact ⟨hi', fun i => (ht i).trans ((h.blank (hi ▸ hi')).toggles i)⟩

end Dk64Port.Coop
