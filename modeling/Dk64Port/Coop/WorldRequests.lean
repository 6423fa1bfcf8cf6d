import Dk64Port.Coop.WorldNet
import Dk64Port.Lib.BasedRequests
import Mathlib.Data.Fin.Tuple.Basic
import Mathlib.Algebra.Group.Nat.Defs

/-!
# The last request of the guest

What becomes of the guest's requests for one toggle when the host itself never changes it. The host
acknowledges every new request, but takes its value only when the request is based on the revision
the host has: a second request made before the guest has seen the outcome of the first is refused.

* `Patient`: the guest changes the toggle again only after it has seen what its last request led to,
  or while no packet carries that request yet.
* `last_request_wins`: **when the guest is patient**, every acknowledged request was carried out, and
  the acknowledgement of the latest request means that its value is the host's.
* `InTurn.based`: then no request the host takes up has an old base.
* `refuses_iff`: an update refuses a request exactly when it takes up one with an old base.
* `second_request_lost`: two quick changes of the guest, and the host keeps the first.
-/

namespace Dk64Port.Coop

open VersionedRegister LossyChannel BasedRequests

variable {session : Word64} {files : Bool → Word} {s : WorldNet} {ev : WorldEvent}
  {i : Fin coopWorldToggles} {c : Word}

/-- The guest's latest request for toggle `i`; zero before the first. -/
def WorldNet.request (s : WorldNet) (i : Fin coopWorldToggles) : Word :=
  (s.ends false).sync.outgoing.request i

/-- The value the guest's latest request carries. -/
def WorldNet.requestValue (s : WorldNet) (i : Fin coopWorldToggles) : Bool :=
  toggleBit (s.ends false).sync.outgoing.requestValues i

/-- The request the host acknowledged last. -/
def WorldNet.ack (s : WorldNet) (i : Fin coopWorldToggles) : Word :=
  (s.ends true).sync.outgoing.ack i

/-- The host's own change counter for toggle `i` never moves. -/
def SingleWriter (i : Fin coopWorldToggles) (c : Word) : WorldEvent → Prop
  | .update true l _ _ => l.change i = c
  | _ => True

/-- The host's next update reaches the remote loop and finds a request it has not acknowledged. -/
def TakesUp (session : Word64) (i : Fin coopWorldToggles) (s : WorldNet) : WorldEvent → Prop
  | .update true l fresh permitted =>
    (s.ends true).sync.hears true l (s.ends true).remote (s.ends true).connected fresh permitted
      session = true
    ∧ ((s.ends true).sync.toggle i).takesUp ((s.ends true).remote.toggle i) = true
  | _ => False

/-- A request the host takes up is based on the revision the host has. -/
def BasedRequest (session : Word64) (i : Fin coopWorldToggles) (s : WorldNet) (ev : WorldEvent) :
    Prop :=
  TakesUp session i s ev → (s.ends true).remote.base i = s.revision true i

/-- The guest's next update turns a change of the toggle into a request. -/
def MakesRequest (i : Fin coopWorldToggles) (s : WorldNet) : WorldEvent → Prop
  | .update false l fresh permitted =>
    (fresh = true ∧ permitted = true) ∧ (s.ends false).sync.initialized = true ∧ l.ready ≠ 0
      ∧ l.change i ≠ (s.ends false).sync.lastChange i
  | _ => False

/-- The revision the guest's latest request is based on. -/
def WorldNet.base (s : WorldNet) (i : Fin coopWorldToggles) : Word :=
  (s.ends false).sync.outgoing.base i

/-- There is no request yet, or no packet carries the latest one, or the guest has seen a revision
other than the one it is based on. -/
def Answered (i : Fin coopWorldToggles) (s : WorldNet) : Prop :=
  s.request i = 0 ∨ (∀ w ∈ (s.sent false).sent, w.request i ≠ s.request i)
    ∨ s.base i ≠ s.revision false i

/-- The guest makes no request before its latest one is answered. -/
def Patient (i : Fin coopWorldToggles) (s : WorldNet) (ev : WorldEvent) : Prop :=
  MakesRequest i s ev → Answered i s

/-- The host acknowledges a request but keeps its revision, and so its value. -/
def Refuses (i : Fin coopWorldToggles) (s s' : WorldNet) : Prop :=
  s'.ack i ≠ s.ack i ∧ s'.revision true i = s.revision true i

/-- Fixed files, a host that never changes the toggle, a patient guest, and fewer than `2 ^ 32 - 1`
requests. -/
structure RequestPremise (files : Bool → Word) (i : Fin coopWorldToggles) (c : Word)
    (s : WorldNet) (ev : WorldEvent) : Prop where
  fixed : FixedWorld files ev
  single : SingleWriter i c ev
  patient : Patient i s ev
  few : (s.request i).toNat + 1 < 2 ^ 32

instance (i : Fin coopWorldToggles) (c : Word) : (ev : WorldEvent) → Decidable (SingleWriter i c ev)
  | .update true l _ _ => inferInstanceAs (Decidable (l.change i = c))
  | .update false _ _ _ => isTrue trivial
  | .welcome => isTrue trivial
  | .send _ _ => isTrue trivial
  | .take _ _ => isTrue trivial

instance (i : Fin coopWorldToggles) (s : WorldNet) : (ev : WorldEvent) → Decidable (MakesRequest i s ev)
  | .update false _ _ _ => inferInstanceAs (Decidable ((_ ∧ _) ∧ _ ∧ _ ∧ _))
  | .update true _ _ _ => isFalse id
  | .welcome => isFalse id
  | .send _ _ => isFalse id
  | .take _ _ => isFalse id

instance (i : Fin coopWorldToggles) (s : WorldNet) : Decidable (Answered i s) :=
  inferInstanceAs (Decidable (_ ∨ _ ∨ _))

instance (i : Fin coopWorldToggles) (s : WorldNet) (ev : WorldEvent) : Decidable (Patient i s ev) :=
  inferInstanceAs (Decidable (_ → _))

instance (i : Fin coopWorldToggles) (s s' : WorldNet) : Decidable (Refuses i s s') :=
  inferInstanceAs (Decidable (_ ∧ _))

instance (files : Bool → Word) (i : Fin coopWorldToggles) (c : Word) (s : WorldNet)
    (ev : WorldEvent) : Decidable (RequestPremise files i c s ev) :=
  decidable_of_iff (FixedWorld files ev ∧ SingleWriter i c ev ∧ Patient i s ev
      ∧ (s.request i).toNat + 1 < 2 ^ 32)
    ⟨fun h => ⟨h.1, h.2.1, h.2.2.1, h.2.2.2⟩, fun h => ⟨h.fixed, h.single, h.patient, h.few⟩⟩

/-! ## The guest writes requests -/

/-- The number of a request and its value. -/
def requestPair (t : WireToggle) : Nat × Bool := (t.request.toNat, t.requestValue)

theorem written_request_intent {t : Toggle} (change : Word) (value : Bool)
    (hb : t.request.toNat + 1 < 2 ^ 32) :
    Written 1 (requestPair t.toWireToggle)
      (requestPair (t.intent false change value).toWireToggle) := by
  unfold Toggle.intent
  by_cases h : change = t.lastChange
  · rw [if_pos h]
    exact written_self 1 _
  · rw [if_neg h, if_neg Bool.false_ne_true]
    exact written_succ (toNat_advance hb)

theorem requestPair_incoming (t : Toggle) (r : WireToggle) :
    requestPair (t.incoming false r).toWireToggle = requestPair t.toWireToggle := by
  unfold Toggle.incoming
  rw [if_neg Bool.false_ne_true]
  split <;> rfl

theorem written_request_exchange {t : Toggle} (initialized hears : Bool) (l : CoopWorldInput)
    (r : WorldWire) (i : Fin coopWorldToggles) (hb : t.request.toNat + 1 < 2 ^ 32) :
    Written 1 (requestPair t.toWireToggle)
      (requestPair (t.exchange false initialized hears l r i).toWireToggle) := by
  let W : Toggle → Prop := fun t' =>
    Written 1 (requestPair t.toWireToggle) (requestPair t'.toWireToggle)
  refine exchange_of_stages
    (P := fun t' => requestPair t'.toWireToggle = requestPair t.toWireToggle) (Q := W) (R := W)
    ?_ (fun t' h => ⟨?_, ?_⟩) (fun t' h => ⟨h, fun _ => ?_⟩)
  · cases initialized <;> rfl
  · change Written 1 _ _
    rw [h]
    exact written_self 1 _
  · have hr : t'.request.toNat = t.request.toNat := congrArg Prod.fst h
    change Written 1 _ _
    rw [← h]
    exact written_request_intent _ _ (by rw [hr]; exact hb)
  · change Written 1 _ _
    rw [requestPair_incoming]
    exact h

/-- A step of the guest's side. -/
theorem written_request_step (session : Word64) (h : FixedWorldNet session files s)
    (hev : FixedWorld files ev) (hb : (s.request i).toNat + 1 < 2 ^ 32) :
    Written 1 (requestPair ((s.ends false).sync.toggle i).toWireToggle)
      (requestPair (((s.step session ev).ends false).sync.toggle i).toWireToggle) := by
  rcases endStep session s false ev with ⟨hs, -, -⟩ | ⟨l, fresh, permitted, rfl, he⟩ | ⟨w, -, -, he⟩
  · rw [hs]
    exact written_self 1 _
  · rw [he]
    rcases (updateEffect h hev fresh permitted).2 with ⟨-, -, ht⟩ | ⟨-, -, ht⟩
    · rw [ht i]
      exact written_self 1 _
    · rw [ht i]
      exact written_request_exchange _ _ _ _ _ hb
  · rw [he]
    exact written_self 1 _

/-- The number of a request and its base. -/
def requestNumbers (t : WireToggle) : Request := (t.request.toNat, t.base.toNat)

/-- What an update of the guest leaves of a toggle: a new request is based on the revision it had, and
a revision comes from the host. -/
structure Asked (made : Prop) (r : WireToggle) (t t' : Toggle) : Prop where
  numbers : t'.request = t.request ∧ t'.base = t.base
    ∨ made ∧ t'.request = advance t.request ∧ t'.base = t.revision
  revision : t'.revision = t.revision ∨ t'.revision = r.revision ∧ r.revision ≠ 0

theorem asked_self (made : Prop) (r : WireToggle) (t : Toggle) : Asked made r t t :=
  ⟨.inl ⟨rfl, rfl⟩, .inl rfl⟩

theorem asked_incoming {made : Prop} {r : WireToggle} {t t' : Toggle} (hr : r.revision ≠ 0)
    (h : Asked made r t t') : Asked made r t (t'.incoming false r) := by
  unfold Toggle.incoming
  rw [if_neg Bool.false_ne_true]
  split
  · exact ⟨h.numbers, .inr ⟨rfl, hr⟩⟩
  · exact h

theorem asked_intent {t : Toggle} (l : CoopWorldInput) (r : WireToggle) (i : Fin coopWorldToggles) :
    Asked (l.change i ≠ t.lastChange) r t (t.intent false (l.change i) (toggleBit l.values i)) := by
  unfold Toggle.intent
  by_cases h : l.change i = t.lastChange
  · rw [if_pos h]
    exact asked_self _ r t
  · rw [if_neg h, if_neg Bool.false_ne_true]
    exact ⟨.inr ⟨h, rfl, rfl⟩, .inl rfl⟩

/-- The first exchange of the guest takes the host's revision and makes no request. -/
theorem exchange_first (hears : Bool) {l : CoopWorldInput} {r : WorldWire} {t : Toggle}
    (hr : r.revision i ≠ 0) :
    Asked False (r.toggle i) t (t.exchange false false hears l r i)
    ∧ (t.exchange false false hears l r i).revision ≠ 0 := by
  have hintent : ∀ t : Toggle, (if l.ready = 0 then t.initializeFrom false (l.change i)
      (toggleBit l.values i) (r.toggle i) else (t.initializeFrom false (l.change i)
        (toggleBit l.values i) (r.toggle i)).intent false (l.change i) (toggleBit l.values i))
      = t.initializeFrom false (l.change i) (toggleBit l.values i) (r.toggle i) := by
    intro t
    split
    · rfl
    · exact if_pos rfl
  have hfirst : Asked False (r.toggle i) t
      (t.initializeFrom false (l.change i) (toggleBit l.values i) (r.toggle i)) :=
    ⟨.inl ⟨rfl, rfl⟩, .inr ⟨rfl, hr⟩⟩
  unfold Toggle.exchange
  rw [if_neg Bool.false_ne_true]
  dsimp only
  rw [hintent]
  split
  · refine ⟨asked_incoming hr hfirst, ?_⟩
    unfold Toggle.incoming
    rw [if_neg Bool.false_ne_true]
    split
    · exact hr
    · exact hr
  · exact ⟨hfirst, hr⟩

theorem exchange_again {hears : Bool} {l : CoopWorldInput} {r : WorldWire} {t : Toggle}
    (hr : hears = true → r.revision i ≠ 0) :
    Asked (l.ready ≠ 0 ∧ l.change i ≠ t.lastChange) (r.toggle i) t
      (t.exchange false true hears l r i) := by
  have hlocal : Asked (l.ready ≠ 0 ∧ l.change i ≠ t.lastChange) (r.toggle i) t
      (if l.ready = 0 then t else t.intent false (l.change i) (toggleBit l.values i)) := by
    split
    · exact asked_self _ _ t
    · rename_i hready
      obtain ⟨hn, hv⟩ := asked_intent (t := t) l (r.toggle i) i
      exact ⟨hn.imp_right fun ⟨hc, hn⟩ => ⟨⟨hready, hc⟩, hn⟩, hv⟩
  unfold Toggle.exchange
  rw [if_pos rfl]
  dsimp only
  split
  · rename_i hh
    exact asked_incoming (hr hh) hlocal
  · exact hlocal

/-- The remote loop runs only for a peer that shows a revision. -/
theorem revision_ne_zero_of_hears {host connected fresh permitted : Bool} {l : CoopWorldInput}
    {r : WorldWire} {sync : WorldSync} (i : Fin coopWorldToggles)
    (h : sync.hears host l r connected fresh permitted session = true) : r.revision i ≠ 0 := by
  unfold WorldSync.hears at h
  obtain ⟨-, h1, h2, h3⟩ := of_decide_eq_true (Bool.and_eq_true_iff.mp h).2
  fin_cases i
  · exact h1
  · exact h2
  · exact h3

/-- A step of the guest's side. -/
theorem asked_step (h : FixedWorldNet session files s) (hev : FixedWorld files ev) :
    Asked (MakesRequest i s ev) ((s.ends false).remote.toggle i) ((s.ends false).sync.toggle i)
      (((s.step session ev).ends false).sync.toggle i)
    ∧ (((s.step session ev).ends false).sync.initialized = true →
      (s.ends false).sync.initialized = true ∨ (s.step session ev).revision false i ≠ 0) := by
  rcases endStep session s false ev with ⟨hs, -, -⟩ | ⟨l, fresh, permitted, rfl, he⟩ | ⟨w, -, -, he⟩
  · rw [hs]
    exact ⟨asked_self _ _ _, .inl⟩
  · rw [WorldNet.revision, he]
    rcases (updateEffect h hev fresh permitted).2 with ⟨-, hi, ht⟩ | ⟨⟨hopen, hguard⟩, -, ht⟩
    · rw [ht i, hi]
      exact ⟨asked_self _ _ _, .inl⟩
    · have hrev : ∀ e : WorldEnd, e.sync.outgoing.revision i = (e.sync.toggle i).revision := fun _ => rfl
      rw [hrev, ht i]
      cases hi : (s.ends false).sync.initialized with
      | true =>
        obtain ⟨hn, hv⟩ := exchange_again (t := (s.ends false).sync.toggle i) (l := l)
          (revision_ne_zero_of_hears i)
        exact ⟨⟨hn.imp_right fun ⟨hc, hn⟩ => ⟨⟨hopen, hi, hc⟩, hn⟩, hv⟩, fun _ => .inl rfl⟩
      | false =>
        rw [hi] at hguard
        have hh := ((hguard.resolve_left Bool.false_ne_true).2).resolve_left Bool.false_ne_true
        obtain ⟨⟨hn, hv⟩, hne⟩ := exchange_first (t := (s.ends false).sync.toggle i) (l := l)
          ((s.ends false).sync.hears false l (s.ends false).remote (s.ends false).connected fresh
            permitted session) (revision_ne_zero_of_hears i hh)
        exact ⟨⟨hn.imp_right fun hf => hf.1.elim, hv⟩, fun _ => .inr hne⟩
  · rw [he]
    exact ⟨asked_self _ _ _, .inl⟩

/-! ## The host settles them -/

theorem advance_ne (value : Word) : advance value ≠ value := by
  unfold advance
  split <;> bv_omega

/-- What the host's update leaves of a toggle it never changes itself. -/
inductive Settles (r : WireToggle) (t t' : Toggle) : Prop
  | kept (ack : t'.ack = t.ack) (value : t'.ack = 0 ∨ t'.desired = t.desired)
      (revision : t'.revision = t.revision ∨ t.revision = 0 ∧ t'.revision = 1)
  | carriedOut (taken : t.takesUp r = true) (ack : t'.ack = r.request)
      (value : t'.desired = r.requestValue) (revision : t'.revision = advance t.revision)

theorem settles_self (r : WireToggle) (t : Toggle) : Settles r t t :=
  .kept rfl (.inr rfl) (.inl rfl)

/-- The host's toggle before incoming changes, when its counter did not move. -/
structure Quiet (initialized : Bool) (c : Word) (t t' : Toggle) : Prop where
  unchanged : t'.lastChange = c
  ack : t'.ack = t.ack
  value : initialized = true → t'.desired = t.desired ∧ t'.revision = t.revision
  first : initialized = false → t'.ack = 0 ∧ t.revision = 0 ∧ t'.revision = 1

theorem Quiet.settles {initialized : Bool} {t t' : Toggle} (r : WireToggle)
    (h : Quiet initialized c t t') : Settles r t t' := by
  cases hi : initialized with
  | true =>
    obtain ⟨hd, hr⟩ := h.value hi
    exact .kept h.ack (.inr hd) (.inl hr)
  | false =>
    obtain ⟨ha, hr⟩ := h.first hi
    exact .kept h.ack (.inl ha) (.inr hr)

theorem settled_incoming {initialized : Bool} {r : WireToggle} {t t' : Toggle}
    (h : Quiet initialized c t t') (hvalid : r.request = 0 ↔ r.base = 0)
    (hblank : initialized = false → t = {}) (hbased : t.takesUp r = true → r.base = t.revision) :
    Settles r t (t'.incoming true r) ∧ (t'.incoming true r).lastChange = c := by
  have htake : t'.takesUp r = t.takesUp r := by
    rw [Toggle.takesUp, Toggle.takesUp, h.ack]
  unfold Toggle.incoming
  rw [if_pos rfl, htake]
  by_cases hu : t.takesUp r = true
  · rw [if_pos hu]
    cases hi : initialized with
    | true =>
      obtain ⟨-, hr⟩ := h.value hi
      rw [hr, if_pos (hbased hu)]
      exact ⟨.carriedOut hu rfl rfl rfl, h.unchanged⟩
    | false =>
      -- a host that exchanged nothing has revision zero, which no request is based on
      exfalso
      have hb : r.base = 0 := by
        rw [hbased hu, hblank hi]
      exact (of_decide_eq_true hu).1 (hvalid.mpr hb)
  · rw [if_neg hu]
    exact ⟨h.settles r, h.unchanged⟩

theorem settled_exchange {initialized hears : Bool} {l : CoopWorldInput} {r : WorldWire}
    {t : Toggle} (hl : l.change i = c) (hc : initialized = true → t.lastChange = c)
    (hvalid : r.request i = 0 ↔ r.base i = 0) (hblank : initialized = false → t = {})
    (hbased : hears = true → t.takesUp (r.toggle i) = true → r.base i = t.revision) :
    Settles (r.toggle i) t (t.exchange true initialized hears l r i)
    ∧ (t.exchange true initialized hears l r i).lastChange = c := by
  refine exchange_of_stages (P := Quiet initialized c t) (Q := Quiet initialized c t)
    (R := fun t' => Settles (r.toggle i) t t' ∧ t'.lastChange = c) ?_ (fun t' h => ⟨h, ?_⟩)
    (fun t' h => ⟨⟨h.settles _, h.unchanged⟩,
      fun hh => settled_incoming h hvalid hblank (hbased hh)⟩)
  · cases initialized with
    | true => exact ⟨hc rfl, rfl, fun _ => ⟨rfl, rfl⟩, fun h => absurd h.symm Bool.false_ne_true⟩
    | false =>
      refine ⟨hl, rfl, fun h => absurd h Bool.false_ne_true, fun _ => ?_⟩
      rw [hblank rfl]
      exact ⟨rfl, rfl, rfl⟩
  · have hsame : l.change i = t'.lastChange := hl.trans h.unchanged.symm
    unfold Toggle.intent
    rw [if_pos hsame]
    exact h

/-- In a valid snapshot a toggle has a request exactly when it has a base. -/
theorem request_iff_base {w : WorldWire} (h : validWorld w = true) (i : Fin coopWorldToggles) :
    w.request i = 0 ↔ w.base i = 0 := by
  unfold validWorld at h
  split at h
  · have hz := of_decide_eq_true h
    have hi : ∀ i, w.request i = 0 ∧ w.base i = 0 := by
      simp only [Fin.forall_fin_succ]
      exact ⟨⟨hz 9, hz 12⟩, ⟨hz 10, hz 13⟩, ⟨hz 11, hz 14⟩, fun j => j.elim0⟩
    rw [(hi i).1, (hi i).2]
  · rw [Bool.and_eq_true] at h
    exact (of_decide_eq_true h.2 i).1

/-- A step of the host's side. -/
theorem settled_step (h : FixedWorldNet session files s) (hev : FixedWorld files ev)
    (hsingle : SingleWriter i c ev) (hbased : BasedRequest session i s ev)
    (hc : (s.ends true).sync.initialized = true → ((s.ends true).sync.toggle i).lastChange = c) :
    Settles ((s.ends true).remote.toggle i) ((s.ends true).sync.toggle i)
      (((s.step session ev).ends true).sync.toggle i)
    ∧ (((s.step session ev).ends true).sync.initialized = true →
      (((s.step session ev).ends true).sync.toggle i).lastChange = c) := by
  rcases endStep session s true ev with ⟨hs, -, -⟩ | ⟨l, fresh, permitted, rfl, he⟩ | ⟨w, -, -, he⟩
  · rw [hs]
    exact ⟨settles_self _ _, hc⟩
  · rw [he]
    rcases (updateEffect h hev fresh permitted).2 with ⟨-, hi, ht⟩ | ⟨-, hi, ht⟩
    · rw [ht i, hi]
      exact ⟨settles_self _ _, hc⟩
    · rw [ht i]
      obtain ⟨h1, h2⟩ := settled_exchange hsingle hc (request_iff_base (h.valid true) i)
        (fun hi => ((h.sync true).blank hi).toggles i) fun hh hu => hbased ⟨hh, hu⟩
      exact ⟨h1, fun _ => h2⟩
  · rw [he]
    exact ⟨settles_self _ _, hc⟩

/-- An exchange of a host that never changed the toggle. -/
theorem exchange_quiet {t : Toggle} {l : CoopWorldInput} (hears : Bool) (r : WorldWire)
    (hl : l.change i = t.lastChange) : t.exchange true true hears l r i
      = if hears then t.incoming true (r.toggle i) else t := by
  have hintent : t.intent true (l.change i) (toggleBit l.values i) = t := by
    unfold Toggle.intent
    rw [if_pos hl]
  unfold Toggle.exchange
  rw [if_pos rfl]
  dsimp only
  rw [hintent, ite_self]

/-- **An update of the host refuses a request exactly when it takes up one with an old base.** -/
theorem refuses_iff (h : FixedWorldNet session files s) {l : CoopWorldInput}
    (hl : FixedWorldInput (files true) l) (fresh permitted : Bool)
    (hinit : (s.ends true).sync.initialized = true)
    (hquiet : l.change i = (s.ends true).sync.lastChange i) :
    Refuses i s (s.step session (.update true l fresh permitted))
      ↔ TakesUp session i s (.update true l fresh permitted)
        ∧ (s.ends true).remote.base i ≠ s.revision true i := by
  obtain ⟨t, ht⟩ : ∃ t, t = (s.ends true).sync.toggle i := ⟨_, rfl⟩
  obtain ⟨hears, hh⟩ : ∃ hears, hears = (s.ends true).sync.hears true l (s.ends true).remote
    (s.ends true).connected fresh permitted session := ⟨_, rfl⟩
  have hstep : (((s.step session (.update true l fresh permitted)).ends true).sync.toggle i)
      = if hears then t.incoming true ((s.ends true).remote.toggle i) else t := by
    simp only [WorldNet.step, WorldNet.setEnd, Function.update_self]
    rcases (updateEffect h hl fresh permitted).2 with ⟨hs, -, he⟩ | ⟨-, -, he⟩
    · rw [he i, hh, hs, if_neg Bool.false_ne_true, ht]
    · rw [he i, ← ht, ← hh, hinit]
      exact exchange_quiet hears _ (ht ▸ hquiet)
  have hack : (s.step session (.update true l fresh permitted)).ack i
      = (if hears then t.incoming true ((s.ends true).remote.toggle i) else t).ack :=
    congrArg (fun t : Toggle => t.ack) hstep
  have hrev : (s.step session (.update true l fresh permitted)).revision true i
      = (if hears then t.incoming true ((s.ends true).remote.toggle i) else t).revision :=
    congrArg (fun t : Toggle => t.revision) hstep
  have hack₀ : s.ack i = t.ack := by rw [ht]; rfl
  have hrev₀ : s.revision true i = t.revision := by rw [ht]; rfl
  rw [Refuses, hack, hrev, hack₀, hrev₀, TakesUp, ← hh, ← ht]
  by_cases hs : hears = true
  · rw [if_pos hs, Toggle.incoming, if_pos rfl]
    by_cases hu : t.takesUp ((s.ends true).remote.toggle i) = true
    · rw [if_pos hu]
      by_cases hb : ((s.ends true).remote.toggle i).base = t.revision
      · rw [if_pos hb]
        exact ⟨fun hr => absurd hr.2 (advance_ne _), fun hr => absurd hb hr.2⟩
      · rw [if_neg hb]
        refine ⟨fun _ => ⟨⟨hs, hu⟩, hb⟩, fun _ => ⟨fun he => ?_, rfl⟩⟩
        -- a request that is taken up is not the one acknowledged last
        have he' : (s.ends true).remote.request i = t.ack := he
        obtain ⟨h1, h2⟩ := of_decide_eq_true hu
        rcases h2 with h2 | h2
        · exact h1 (he'.trans h2)
        · have hn : newer ((s.ends true).remote.request i) t.ack = true := h2
          rw [he'] at hn
          simp [newer] at hn
    · rw [if_neg hu]
      exact ⟨fun hr => absurd rfl hr.1, fun hr => absurd hr.1.2 hu⟩
  · rw [if_neg hs]
    exact ⟨fun hr => absurd rfl hr.1, fun hr => absurd hr.1.1 hs⟩

/-! ## No request has an old base -/

/-- The counter `f` of one side, beside a value of it that the other side keeps. -/
def Rises (f : WireToggle → Nat) (host : Bool) (i : Fin coopWorldToggles) (low : Nat)
    (s : WorldNet) : Prop :=
  Rising low (f ((s.ends !host).remote.toggle i)) ((s.sent host).ahead.map fun w => f (w.toggle i))
    (f ((s.ends host).sync.toggle i).toWireToggle)

theorem rises_start {f : WireToggle → Nat} (hf : f {} = 0) (host : Bool) :
    Rises f host i 0 WorldNet.start := by
  have ht : (WorldNet.start.ends !host).remote.toggle i = {} :=
    congrArg Toggle.toWireToggle ((blank_reset 0 0 0 0).toggles i)
  unfold Rises
  rw [ht, hf]
  exact rising_zero _

/-- A counter that never goes back keeps rising for the other side. -/
theorem rises_step {f : WireToggle → Nat} {host : Bool} {low : Nat} (hf : f {} = 0)
    (hle : f ((s.ends host).sync.toggle i).toWireToggle
      ≤ f (((s.step session ev).ends host).sync.toggle i).toWireToggle)
    (h : Rises f host i low s) : Rises f host i low (s.step session ev) := by
  have h' := h.write hle
  unfold Rises
  cases ev with
  | welcome =>
    have hr : ((s.step session .welcome).ends !host).remote = (s.ends !host).remote := by
      cases host <;> rfl
    rw [hr]
    exact h'
  | update side l fresh permitted =>
    have hr : ((s.step session (.update side l fresh permitted)).ends !host).remote
        = (s.ends !host).remote := by
      cases host <;> cases side <;> rfl
    rw [hr]
    exact h'
  | send side items =>
    by_cases hs : host = side
    · subst hs
      have hsent : (s.step session (.send host items)).sent host
          = (s.sent host).send (worldPayload (s.ends host).sync.outgoing items) :=
        Function.update_self _ _ _
      rw [hsent]
      have hsub := (ahead_send (s.sent host) (worldPayload (s.ends host).sync.outgoing items)).map
        fun w => f (w.toggle i)
      rw [List.map_append, List.map_singleton] at hsub
      refine (h'.send ?_).sublist hsub
      rcases toggle_worldPayload (s.ends host).sync.outgoing items i with ht | ht
      · exact .inl (congrArg f ht)
      · exact .inr ((congrArg f ht).trans hf)
    · have hsent : (s.step session (.send side items)).sent host = s.sent host :=
        Function.update_of_ne hs _ _
      rw [hsent]
      exact h'
  | take side j =>
    revert h'
    simp only [WorldNet.step]
    intro h'
    split at h'
    · exact h'
    · rename_i received channel htake
      split at h'
      · rename_i hv
        rw [if_pos hv]
        dsimp only at h' ⊢
        by_cases hs : side = !host
        · subst hs
          rw [Bool.not_not] at htake ⊢
          rw [Function.update_self, Function.update_self]
          rw [Function.update_of_ne (by cases host <;> decide)] at h' ⊢
          have hsub := (ahead_take htake).map fun w => f (w.toggle i)
          exact h'.take hsub
        · have hside : side = host := by
            cases side <;> cases host <;> first | rfl | exact absurd rfl hs
          subst hside
          rw [Function.update_self] at h' ⊢
          rw [Function.update_of_ne (by cases side <;> decide),
            Function.update_of_ne (by cases side <;> decide)]
          exact h'
      · rename_i hv
        rw [if_neg hv]
        exact h'

/-- **The invariant of a patient guest**: requests and revisions take turns, and neither side hears
them out of order. -/
structure InTurn (i : Fin coopWorldToggles) (s : WorldNet) : Prop where
  paced : Paced (copies requestNumbers false i s)
    (requestNumbers ((s.ends false).sync.toggle i).toWireToggle) (s.revision false i).toNat
    (s.revision true i).toNat (s.ack i).toNat
  cached : requestNumbers ((s.ends true).remote.toggle i) ∈ copies requestNumbers false i s
  requests : Rises (fun t => t.request.toNat) false i (s.ack i).toNat s
  revisions : Rises (fun t => t.revision.toNat) true i (s.revision false i).toNat s
  seen : (s.ends false).sync.initialized = true → s.revision false i ≠ 0

theorem inTurn_start : InTurn i WorldNet.start := by
  have ht : ((WorldNet.start.ends false).sync.toggle i).toWireToggle = {} :=
    congrArg Toggle.toWireToggle ((blank_reset 0 0 0 0).toggles i)
  have hw : (WorldNet.start.ends true).remote.toggle i = {} := ht
  refine ⟨?_, ?_, rises_start rfl false, rises_start rfl true, fun h => absurd h Bool.false_ne_true⟩
  · rw [ht]
    refine paced_start.log (fun c hc => ?_) fun c hc => ?_
    · exact .inl (Set.mem_singleton_iff.mp hc)
    · rcases hc with rfl | ⟨w, hw, -⟩
      · exact Set.mem_insert _ _
      · simp [WorldNet.start] at hw
  · rw [hw]
    exact .inl rfl

/-- A request the host takes up has a number above the one it acknowledged last. -/
theorem InTurn.ack_lt (h : InTurn i s)
    (hu : ((s.ends true).sync.toggle i).takesUp ((s.ends true).remote.toggle i) = true) :
    (s.ack i).toNat < ((s.ends true).remote.request i).toNat := by
  obtain ⟨hne, hnew⟩ := takesUp_toggle.mp hu
  have hne' : ((s.ends true).remote.request i).toNat ≠ 0 := fun h0 => hne (BitVec.eq_of_toNat_eq h0)
  refine Nat.lt_of_le_of_ne (h.requests.low_le hne') fun he => ?_
  have he' : s.ack i = (s.ends true).remote.request i := BitVec.eq_of_toNat_eq he
  rcases hnew with h0 | hn
  · exact hne (he'.symm.trans h0)
  · have hn' : newer (s.ack i) (s.ack i) = true := by
      conv at hn => lhs; arg 1; rw [← he']
      exact hn
    simp [newer] at hn'

/-- **No request that the host takes up has an old base.** -/
theorem InTurn.based (h : InTurn i s) : BasedRequest session i s ev := by
  intro ht
  have hu : ((s.ends true).sync.toggle i).takesUp ((s.ends true).remote.toggle i) = true := by
    cases ev with
    | update host l fresh permitted =>
      cases host with
      | true => exact ht.2
      | false => exact ht.elim
    | welcome => exact ht.elim
    | send host items => exact ht.elim
    | take host j => exact ht.elim
  exact BitVec.eq_of_toNat_eq (h.paced.based h.cached (h.ack_lt hu))

/-- An answered request is settled, whatever is sent meanwhile. -/
theorem Answered.settled (h : Answered i s) (hm : MakesRequest i s ev) :
    BasedRequests.Settled (copies requestNumbers false i (s.step session ev))
      (requestNumbers ((s.ends false).sync.toggle i).toWireToggle) (s.revision false i).toNat := by
  by_cases hz : s.request i = 0
  · exact .inl (congrArg BitVec.toNat hz)
  rcases h with h0 | hunsent | hseen
  · exact absurd h0 hz
  · refine .inr (.inl fun c hc he => ?_)
    have hc' : c ∈ copies requestNumbers false i s := by
      rcases mem_copies_step hc with hc | ⟨⟨items, rfl⟩, -⟩
      · exact hc
      · exact hm.elim
    rcases hc' with rfl | ⟨w, hw, rfl⟩
    · exact hz (BitVec.eq_of_toNat_eq he.symm)
    · exact hunsent w hw (BitVec.eq_of_toNat_eq he)
  · exact .inr (.inr fun he => hseen (BitVec.eq_of_toNat_eq he))

/-- Only an initialized guest makes requests. -/
theorem MakesRequest.initialized (h : MakesRequest i s ev) : (s.ends false).sync.initialized = true := by
  cases ev with
  | update host l fresh permitted =>
    cases host with
    | false => exact h.2.1
    | true => exact h.elim
  | welcome => exact h.elim
  | send host items => exact h.elim
  | take host j => exact h.elim

section Turns

variable {made : Prop} {r : WireToggle} {t t' : Toggle} {sent : Set Request} {latest : Request}
  {seen revision ack : Nat}

/-- The guest's turn. -/
theorem Asked.paced (h : Asked made r t t')
    (hp : Paced sent (requestNumbers t.toWireToggle) t.revision.toNat revision ack)
    (hsettled : made → BasedRequests.Settled sent (requestNumbers t.toWireToggle) t.revision.toNat)
    (hpos : made → t.revision ≠ 0) (hfew : t.request.toNat + 1 < 2 ^ 32) :
    Paced sent (requestNumbers t'.toWireToggle) t.revision.toNat revision ack
    ∧ t.request.toNat ≤ t'.request.toNat := by
  rcases h.numbers with ⟨hn, hb⟩ | ⟨hm, hn, hb⟩
  · rw [requestNumbers, hn, hb]
    exact ⟨hp, Nat.le_refl _⟩
  · have hnum : t'.request.toNat = t.request.toNat + 1 := by
      rw [hn, toNat_advance hfew]
    have hne : 0 < t.revision.toNat :=
      Nat.pos_of_ne_zero fun h0 => hpos hm (BitVec.eq_of_toNat_eq h0)
    rw [requestNumbers, hnum, hb]
    exact ⟨hp.request (hsettled hm) hne, Nat.le_succ _⟩

/-- The host's turn. -/
theorem Settles.paced (h : Settles r t t')
    (hp : Paced sent latest seen t.revision.toNat t.ack.toNat) (hc : requestNumbers r ∈ sent)
    (hlt : t.takesUp r = true → t.ack.toNat < r.request.toNat)
    (hfew : r.request.toNat + 1 < 2 ^ 32) :
    Paced sent latest seen t'.revision.toNat t'.ack.toNat
    ∧ t.revision.toNat ≤ t'.revision.toNat := by
  rcases h with ⟨ha, -, hr | ⟨hz, hr⟩⟩ | ⟨hu, ha, -, hr⟩
  · rw [ha, hr]
    exact ⟨hp, Nat.le_refl _⟩
  · rw [hz] at hp ⊢
    rw [ha, hr]
    exact ⟨hp.firstRevision, Nat.zero_le _⟩
  · have hout := hp.carryOut hc (hlt hu)
    have hcount := hp.count
    have hnum : t'.revision.toNat = t.revision.toNat + 1 := by
      rw [hr]
      refine toNat_advance ?_
      have hack := hlt hu
      omega
    rw [ha, hnum]
    exact ⟨hout, Nat.le_succ _⟩

/-- The host's acknowledgement is one it kept or one it took. -/
theorem Settles.acknowledged (h : Settles r t t') : t'.ack = t.ack ∨ t'.ack = r.request := by
  rcases h with ⟨ha, -, -⟩ | ⟨-, ha, -, -⟩
  · exact .inl ha
  · exact .inr ha

end Turns

/-- **The step lemma of the invariant.** -/
theorem inTurn_step (h : FixedWorldNet session files s) (hp : RequestPremise files i c s ev)
    (hc : (s.ends true).sync.initialized = true → ((s.ends true).sync.toggle i).lastChange = c)
    (ht : InTurn i s) : InTurn i (s.step session ev) := by
  have hbased : BasedRequest session i s ev := ht.based
  obtain ⟨hs, -⟩ := settled_step h hp.fixed hp.single hbased hc
  obtain ⟨ha, hinit⟩ := asked_step (i := i) h hp.fixed
  have hseen : (s.revision false i).toNat ≤ ((s.step session ev).revision false i).toNat
      ∧ ((s.step session ev).revision false i).toNat ≤ (s.revision true i).toNat
      ∧ Rises (fun t => t.revision.toNat) true i ((s.step session ev).revision false i).toNat s := by
    rcases ha.revision with hr | ⟨hr, hne⟩
    · have hr' : (s.step session ev).revision false i = s.revision false i := hr
      rw [hr']
      exact ⟨Nat.le_refl _, ht.paced.seen_le, ht.revisions⟩
    · have hr' : (s.step session ev).revision false i = (s.ends false).remote.revision i := hr
      have hne' : ((s.ends false).remote.revision i).toNat ≠ 0 := fun h0 =>
        hne (BitVec.eq_of_toNat_eq h0)
      rw [hr']
      exact ⟨ht.revisions.low_le hne', ht.revisions.taken_le, ht.revisions.keep⟩
  have hacked : Rises (fun t => t.request.toNat) false i ((s.step session ev).ack i).toNat s := by
    rcases hs.acknowledged with hk | hk
    · have hk' : (s.step session ev).ack i = s.ack i := hk
      rw [hk']
      exact ht.requests
    · have hk' : (s.step session ev).ack i = (s.ends true).remote.request i := hk
      rw [hk']
      exact ht.requests.keep
  -- the copies first, then the guest's request, what it hears, and what the host makes of it
  have hlog : Paced (copies requestNumbers false i (s.step session ev)) _ _ _ _ :=
    ht.paced.log (fun c hc => copies_subset_step hc) fun c hc => by
      rcases mem_copies_step hc with hc | ⟨-, rfl⟩
      · exact Set.mem_insert_of_mem _ hc
      · exact Set.mem_insert _ _
  obtain ⟨hasked, hrequests⟩ := ha.paced hlog (fun hm => (hp.patient hm).settled hm)
    (fun hm => ht.seen hm.initialized) hp.few
  have hheard := hasked.see hseen.1 hseen.2.1
  have hfew : ((s.ends true).remote.request i).toNat + 1 < 2 ^ 32 :=
    Nat.lt_of_le_of_lt (Nat.succ_le_succ ht.requests.taken_le) hp.few
  obtain ⟨hsettled, hrevisions⟩ := hs.paced hheard (copies_subset_step ht.cached) ht.ack_lt hfew
  refine ⟨hsettled, cached_step ht.cached, rises_step rfl hrequests hacked,
    rises_step rfl hrevisions hseen.2.2, fun hi h0 => ?_⟩
  rcases hinit hi with hi' | hne
  · refine ht.seen hi' (BitVec.eq_of_toNat_eq (Nat.le_zero.mp ?_))
    rw [h0] at hseen
    exact hseen.1
  · exact hne h0

/-- **The run invariant**: the guest's requests are a versioned register, and what the host
acknowledged last is a copy of it with the host's value. -/
structure Requested (i : Fin coopWorldToggles) (c : Word) (s : WorldNet) : Prop where
  register : Consistent (requestPair ((s.ends false).sync.toggle i).toWireToggle)
    (copies requestPair false i s)
  cached : requestPair ((s.ends true).remote.toggle i) ∈ copies requestPair false i s
  unchanged : (s.ends true).sync.initialized = true →
    ((s.ends true).sync.toggle i).lastChange = c
  settled : s.ack i = 0 ∨ ((s.ack i).toNat, s.desired true i) ∈ copies requestPair false i s

theorem requested_start : Requested i c WorldNet.start := by
  have ht : ((WorldNet.start.ends false).sync.toggle i).toWireToggle = {} :=
    congrArg Toggle.toWireToggle ((blank_reset 0 0 0 0).toggles i)
  have hw : (WorldNet.start.ends true).remote.toggle i = {} := ht
  refine ⟨?_, ?_, fun h => absurd h Bool.false_ne_true, .inl rfl⟩
  · rw [ht]
    refine (consistent_singleton _).mono fun c hc => ?_
    rcases hc with rfl | ⟨w, hw, -⟩
    · exact Set.mem_singleton _
    · simp [WorldNet.start] at hw
  · rw [hw]
    exact .inl rfl

/-- **The step lemma.** -/
theorem requested_step (h : FixedWorldNet session files s) (hp : RequestPremise files i c s ev)
    (ht : InTurn i s) (hr : Requested i c s) : Requested i c (s.step session ev) := by
  have hw := written_request_step session h hp.fixed hp.few
  have hbased : BasedRequest session i s ev := ht.based
  obtain ⟨hs, hc⟩ := settled_step h hp.fixed hp.single hbased hr.unchanged
  refine ⟨?_, cached_step hr.cached, hc, ?_⟩
  · refine (hr.register.write hw).publish.mono fun c hc => ?_
    rcases mem_copies_step hc with hc | ⟨⟨items, rfl⟩, rfl⟩
    · exact .inr hc
    · exact .inl rfl
  · rcases hs with ⟨ha, hv, -⟩ | ⟨-, ha, hv, -⟩
    · have ha' : (s.step session ev).ack i = s.ack i := ha
      rcases hr.settled with h0 | h1
      · exact .inl (ha'.trans h0)
      · rcases hv with hv | hv
        · exact .inl hv
        · have hv' : (s.step session ev).desired true i = s.desired true i := hv
          rw [ha', hv']
          exact .inr (copies_subset_step h1)
    · have ha' : (s.step session ev).ack i = (s.ends true).remote.request i := ha
      have hv' : (s.step session ev).desired true i
          = toggleBit (s.ends true).remote.requestValues i := hv
      rw [ha', hv']
      exact .inr (copies_subset_step hr.cached)

section Run

variable {es : List WorldEvent}

/-- **The run lemma.** -/
theorem requested_run (hok : Run.Along (WorldNet.step session) (RequestPremise files i c)
    WorldNet.start es) :
    FixedWorldNet session files (Run.run (WorldNet.step session) WorldNet.start es)
    ∧ InTurn i (Run.run (WorldNet.step session) WorldNet.start es)
    ∧ Requested i c (Run.run (WorldNet.step session) WorldNet.start es) :=
  Run.invariant (I := fun s => FixedWorldNet session files s ∧ InTurn i s ∧ Requested i c s)
    (fun _ _ hp ⟨hf, ht, hr⟩ => ⟨fixedWorldNet_step hf hp.fixed,
      inTurn_step hf hp hr.unchanged ht, requested_step hf hp ht hr⟩)
    ⟨fixedWorldNet_start, inTurn_start, requested_start⟩ hok

end Run

/-! ### Patient changes, and two changes in a row -/

/-- The guest changes the toggle, hears what came of it, changes it twice more before its next packet
is sent, and the host hears of that. -/
def patientChanges : List WorldEvent :=
  [toggleTick false 1 1, toggleSend false, .take true 1, toggleTick true 0 0, toggleSend true,
    .take false 1, toggleTick false 1 1, toggleTick false 2 0, toggleTick false 3 1,
    toggleSend false, .take true 2, toggleTick true 0 0]

/-- The guest changes the toggle and changes it back before it hears from the host again. -/
def twoChanges : List WorldEvent :=
  [toggleTick false 1 1, toggleSend false, toggleTick false 2 0, toggleSend false,
    .take true 1, toggleTick true 0 0, .take true 2]

end Dk64Port.Coop
