import Dk64Port.Archipelago.Catalog

/-!
# The save trailer (`mod/campaign_receipts.h`, `mod/campaign_save.c`)

The last bytes of the game file say which received list the file has processed, and how far. They
carry a checksum. The file holds nothing, or a trailer, or garbage.

* `sameIdentity_iff`: two headers are the same identity when they are equal.
* `CampaignSave.sealSave_valid`: a sealed header is valid.
* `trailerStage_bound`: over a bound file the counter moves by at most one, under its binding.
-/

namespace Dk64Port.Archipelago

open ByteLayout (Byte)

/-- `ap_campaign_save`. -/
structure CampaignSave where
  magic : Word := 0
  format : Half := 0
  counter : Half := 0
  binding : Vector Byte 16 := Vector.replicate 16 0
  reserved : Word := 0
  checksum : Word := 0
deriving DecidableEq

/-- `AP_CAMPAIGN_SAVE_MAGIC`, "APC1". -/
def campaignSaveMagic : Word := 0x41504331
/-- `AP_CAMPAIGN_SAVE_FORMAT`. -/
def campaignSaveFormat : Half := 1

/-! ## The checksum -/

/-- One turn of the bit loop. -/
def crcBit (crc : Word) : Word := (crc >>> 1) ^^^ (0xEDB88320 &&& (0 - (crc &&& 1)))

/-- `ap_campaign_crc_byte`. -/
def crcByte (crc : Word) (byte : Byte) : Word := Nat.repeat crcBit 8 (crc ^^^ byte.setWidth 32)

/-- `ap_campaign_crc_word`: the highest of the `bytes` bytes first. -/
def crcWord (crc word : Word) (bytes : Nat) : Word :=
  (List.range bytes).foldl
    (fun crc i => crcByte crc ((word >>> (8 * (bytes - 1 - i))).setWidth 8)) crc

namespace CampaignSave

/-- `ap_campaign_save_checksum`. -/
def computed (save : CampaignSave) : Word :=
  let crc := crcWord 0xFFFFFFFF save.magic 4
  let crc := crcWord crc (save.format.setWidth 32) 2
  let crc := crcWord crc (save.counter.setWidth 32) 2
  let crc := save.binding.toList.foldl crcByte crc
  ~~~ crcWord crc save.reserved 4

/-- `ap_campaign_save_seal`. -/
def sealSave (save : CampaignSave) : CampaignSave :=
  let cleared := { save with reserved := 0 }
  { cleared with checksum := cleared.computed }

/-- `ap_campaign_save_valid`. -/
def valid (save : CampaignSave) : Bool := save.reserved == 0 && save.checksum == save.computed

/-- `supported`. -/
def supported (save : CampaignSave) : Bool :=
  save.valid && save.magic == campaignSaveMagic && save.format == campaignSaveFormat

/-- `all_zero`. -/
def allZero (save : CampaignSave) : Bool := save == {}

/-- `same_binding`. -/
def sameBinding (a b : CampaignSave) : Bool := a.binding == b.binding

/-- `same_identity`. -/
def sameIdentity (a b : CampaignSave) : Bool :=
  a.magic == b.magic && a.format == b.format && a.counter == b.counter &&
    a.reserved == b.reserved && a.checksum == b.checksum && a.binding == b.binding

@[simp] theorem sealSave_magic (save : CampaignSave) : save.sealSave.magic = save.magic := rfl
@[simp] theorem sealSave_format (save : CampaignSave) : save.sealSave.format = save.format := rfl
@[simp] theorem sealSave_counter (save : CampaignSave) : save.sealSave.counter = save.counter := rfl
@[simp] theorem sealSave_binding (save : CampaignSave) : save.sealSave.binding = save.binding := rfl

theorem sealSave_valid (save : CampaignSave) : save.sealSave.valid := by
  unfold valid
  rw [Bool.and_eq_true, beq_iff_eq, beq_iff_eq]
  exact ⟨rfl, rfl⟩

theorem sameIdentity_iff {a b : CampaignSave} : a.sameIdentity b ↔ a = b := by
  obtain ⟨magic, format, counter, binding, reserved, checksum⟩ := a
  obtain ⟨magic', format', counter', binding', reserved', checksum'⟩ := b
  simp only [sameIdentity, Bool.and_eq_true, beq_iff_eq, CampaignSave.mk.injEq]
  constructor
  · rintro ⟨⟨⟨⟨⟨h1, h2⟩, h3⟩, h5⟩, h6⟩, h4⟩
    exact ⟨h1, h2, h3, h4, h5, h6⟩
  · rintro ⟨h1, h2, h3, h4, h5, h6⟩
    exact ⟨⟨⟨⟨⟨h1, h2⟩, h3⟩, h5⟩, h6⟩, h4⟩

theorem supported_iff {save : CampaignSave} :
    save.supported ↔
      save.valid ∧ save.magic = campaignSaveMagic ∧ save.format = campaignSaveFormat := by
  simp [supported, and_assoc]

theorem allZero_false_of_supported {save : CampaignSave} (h : save.supported) :
    save.allZero = false := by
  rw [← Bool.not_eq_true, allZero, beq_iff_eq]
  rintro rfl
  obtain ⟨-, hmagic, -⟩ := supported_iff.mp h
  exact absurd hmagic (by decide)

end CampaignSave

/-! ## Reading and staging -/

/-- What the trailer of the current file says: `ap_campaign_trailer_read`. -/
inductive TrailerState where
  /-- 0. -/
  | unbound
  /-- 1. -/
  | bound
  /-- −1. -/
  | corrupt
deriving DecidableEq

/-- `ap_campaign_trailer_read`. -/
def trailerRead (currentFile : Byte) (trailer : CampaignSave) : TrailerState :=
  if currentFile != 0 then .corrupt
  else if trailer.allZero then .unbound
  else if trailer.supported then .bound else .corrupt

/-- `AP_GAMEPLAY_*`. -/
def gameplayMoves : Word := 1
def gameplaySave : Word := 8
def gameplayItems : Word := 32
def gameplayTraps : Word := 64

/-- `ap_campaign_trailer_stage`: the new trailer, or nothing when it refuses. -/
def trailerStage (currentFile : Byte) (gameplayMode : Word) (previous candidate : CampaignSave) :
    Option CampaignSave :=
  if currentFile != 0 || !candidate.supported then none
  else match trailerRead currentFile previous with
    | .corrupt => none
    | .unbound =>
      if candidate.counter != 0 || gameplayMode &&& gameplaySave != 0 then none
      else some candidate
    | .bound =>
      if !candidate.sameBinding previous then none
      else if candidate.counter != previous.counter &&
          (gameplayMode &&& gameplaySave == 0 || previous.counter == 0xFFFF ||
            candidate.counter.toNat != previous.counter.toNat + 1) then none
      else some candidate

variable {currentFile : Byte} {gameplayMode : Word} {previous candidate next : CampaignSave}

theorem trailerRead_bound_iff :
    trailerRead currentFile previous = .bound ↔ currentFile = 0 ∧ previous.supported := by
  unfold trailerRead
  by_cases hfile : currentFile = 0
  · rw [if_neg (by simp [hfile])]
    by_cases hsup : previous.supported
    · simp only [CampaignSave.allZero_false_of_supported hsup, hsup, hfile]
      exact ⟨fun _ => ⟨trivial, trivial⟩, fun _ => rfl⟩
    · simp only [hsup]
      cases previous.allZero <;> simp
  · rw [if_pos (by simpa using hfile)]
    exact ⟨fun h => absurd h TrailerState.noConfusion, fun h => absurd h.1 hfile⟩

/-- **Over a bound file** only the header with the next counter, or one with the same counter, is
staged, and only under the same binding. -/
theorem trailerStage_bound (h : trailerStage currentFile gameplayMode previous candidate = some next)
    (hbound : trailerRead currentFile previous = .bound) :
    next = candidate ∧ candidate.supported ∧ candidate.binding = previous.binding ∧
      (candidate.counter = previous.counter ∨
        candidate.counter.toNat = previous.counter.toNat + 1) := by
  unfold trailerStage at h
  rw [hbound] at h
  simp only [Option.ite_none_left_eq_some, Option.some.injEq, Bool.not_eq_true, Bool.or_eq_false_iff,
    Bool.and_eq_false_iff, bne_eq_false_iff_eq, Bool.not_eq_false'] at h
  obtain ⟨⟨-, hsup⟩, hbinding, hcounter, rfl⟩ := h
  refine ⟨rfl, hsup, LawfulBEq.eq_of_beq hbinding, ?_⟩
  rcases hcounter with hsame | ⟨-, hnext⟩
  · exact .inl hsame
  · exact .inr hnext

end Dk64Port.Archipelago
