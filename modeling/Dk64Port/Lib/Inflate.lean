import Mathlib.Tactic.Common
import Mathlib.Data.List.Basic

/-!
# Stream decoders

A decoder takes what it can of its input at each call, fills at most the room it is given, and says
how it stands. What it is documented to do is stated against the meaning of whole inputs: an input
holds a whole stream, or is refused, or is cut short.

* `Session`: the calls made so far for one input.
* `Documented`: the contract; a call that has room makes progress or says why it cannot.
* `Documented.rank_lt`: **every call that goes on brings the end nearer.**
* `documented_buffered`: every meaning has a decoder.
-/

namespace Inflate

/-- What a call returns. -/
inductive Status where
  | ok
  | streamEnd
  | needDict
  | errno
  | streamError
  | dataError
  | memError
  | bufError
  | versionError
deriving DecidableEq

/-- The statuses that are errors, apart from `bufError`. -/
def Status.failed : Status → Bool
  | .ok => false
  | .streamEnd => false
  | .bufError => false
  | _ => true

/-- What an input holds. -/
inductive Verdict (β : Type) where
  /-- A whole stream, whatever follows it. -/
  | whole (output : List β)
  /-- The decoder reports an error. -/
  | refused (output : List β)
  /-- It ends before the stream does. -/
  | cut (output : List β)
deriving DecidableEq

/-- The output up to the end of the stream, the error or the end of the input. -/
def Verdict.output {β : Type} : Verdict β → List β
  | .whole out => out
  | .refused out => out
  | .cut out => out

/-- The outcome of one call. -/
structure Call (σ β : Type) where
  status : Status
  state : σ
  rest : List β
  output : List β

/-- A decoder: what it starts from, and a call with the input that is left and the room there is. -/
structure Decoder (β : Type) where
  State : Type
  start : State
  call : State → List β → Nat → Call State β

/-- The calls made so far for `input`: the state, the input that is left, the output so far. -/
inductive Session {β : Type} (z : Decoder β) (input : List β) :
    z.State → List β → List β → Prop
  | start : Session z input z.start input []
  | call {st : z.State} {rest out : List β} {room : Nat} (h : Session z input st rest out)
      (hroom : 0 < room)
      (hstatus : (z.call st rest room).status = .ok ∨ (z.call st rest room).status = .bufError) :
      Session z input (z.call st rest room).state (z.call st rest room).rest
        (out ++ (z.call st rest room).output)

/-- What a call in state `st` is documented to do: `rest` is left of an input of meaning `v` and
`out` has been made of it. -/
structure CallOk {σ β : Type} (v : Verdict β) (st : σ) (rest out : List β) (c : Call σ β) :
    Prop where
  rest_le : c.rest.length ≤ rest.length
  /-- The output is that of the input. -/
  bounded : (out ++ c.output).length ≤ v.output.length
  /-- Input is consumed or output is made. -/
  progress : c.status = .ok → c.rest.length < rest.length ∨ c.output ≠ []
  /-- No progress was possible, and nothing changes. -/
  stuck : c.status = .bufError → c.state = st ∧ c.rest = rest ∧ c.output = [] ∧ v = .cut out
  ended : c.status = .streamEnd → v = .whole (out ++ c.output)
  failed : c.status.failed = true → v = .refused (out ++ c.output)

/-- The contract of a decoder, for the calls that have room for output. -/
def Documented {β : Type} (z : Decoder β) (meaning : List β → Verdict β) : Prop :=
  ∀ {input : List β} {st : z.State} {rest out : List β} {room : Nat},
    Session z input st rest out → 0 < room →
      CallOk (meaning input) st rest out (z.call st rest room)

variable {β : Type} {z : Decoder β} {meaning : List β → Verdict β} {input rest out : List β}
  {st : z.State} {room : Nat}

/-! ## Progress -/

/-- The input that is left and the output that is to come. -/
def rank (meaning : List β → Verdict β) (input rest out : List β) : Nat :=
  rest.length + ((meaning input).output.length - out.length)

/-- **Every call that goes on brings the end nearer.** -/
theorem Documented.rank_lt (h : Documented z meaning) (hs : Session z input st rest out)
    (hroom : 0 < room) (hok : (z.call st rest room).status = .ok) :
    rank meaning input (z.call st rest room).rest (out ++ (z.call st rest room).output)
      < rank meaning input rest out := by
  have hc := h hs hroom
  have hle := hc.rest_le
  have hbound := hc.bounded
  unfold rank
  rw [List.length_append] at hbound ⊢
  rcases hc.progress hok with hlt | hne
  · omega
  · have hpos := List.length_pos_iff.mpr hne
    omega

/-- What a call can be: it goes on, ends the stream, fails, or finds the input cut short. -/
theorem Status.cases (s : Status) :
    s = .ok ∨ s = .streamEnd ∨ s = .bufError ∨ s.failed = true := by
  cases s <;> simp [Status.failed]

/-! ## A decoder for every meaning -/

/-- What the decoder that takes all input at once remembers. -/
structure Buffered (β : Type) where
  seen : List β := []
  given : Nat := 0

/-- Its call: the output that is still to come, as far as there is room. -/
def bufferedCall (meaning : List β → Verdict β) (st : Buffered β) (rest : List β) (room : Nat) :
    Call (Buffered β) β :=
  let pending := (meaning (st.seen ++ rest)).output.drop st.given
  let next : Buffered β := ⟨st.seen ++ rest, st.given + (pending.take room).length⟩
  let status : Status :=
    if room < pending.length then .ok
    else
      match meaning (st.seen ++ rest) with
      | .whole _ => .streamEnd
      | .refused _ => .dataError
      | .cut _ => if rest.isEmpty && pending.isEmpty then .bufError else .ok
  ⟨status, next, [], pending.take room⟩

/-- The decoder that takes all input at once. -/
def buffered (meaning : List β → Verdict β) : Decoder β := ⟨Buffered β, {}, bufferedCall meaning⟩

/-- It has seen what is gone of the input and given what is out of the output. -/
theorem buffered_session {st : (buffered meaning).State}
    (h : Session (buffered meaning) input st rest out) :
    Buffered.seen st ++ rest = input ∧ Buffered.given st = out.length
      ∧ out = (meaning input).output.take out.length := by
  induction h with
  | start => exact ⟨rfl, rfl, rfl⟩
  | @call st rest out room hs hroom hstatus ih =>
    obtain ⟨hseen, hgiven, hout⟩ := ih
    have hcall : ((buffered meaning).call st rest room).output
        = ((meaning input).output.drop out.length).take room := by
      show ((meaning (Buffered.seen st ++ rest)).output.drop (Buffered.given st)).take room = _
      rw [hseen, hgiven]
    refine ⟨?_, ?_, ?_⟩
    · show (Buffered.seen st ++ rest) ++ [] = input
      rw [List.append_nil, hseen]
    · rw [List.length_append, hcall]
      show Buffered.given st
        + (((meaning (Buffered.seen st ++ rest)).output.drop (Buffered.given st)).take room).length = _
      rw [hseen, hgiven]
    · rw [hcall, List.length_append, List.take_add, ← hout]
      congr 1
      rw [List.length_take, List.take_eq_take_min]

/-- **Every meaning has a decoder.** -/
theorem documented_buffered (meaning : List β → Verdict β) :
    Documented (buffered meaning) meaning := by
  intro input st rest out room hs hroom
  obtain ⟨hseen, hgiven, hout⟩ := buffered_session hs
  have hle : out.length ≤ (meaning input).output.length := by
    rw [hout, List.length_take]
    exact Nat.min_le_right _ _
  have hcall : (buffered meaning).call st rest room = bufferedCall meaning st rest room := rfl
  rw [hcall]
  unfold bufferedCall
  rw [hseen, hgiven]
  dsimp only
  have hfull : ¬ room < ((meaning input).output.drop out.length).length →
      out ++ ((meaning input).output.drop out.length).take room = (meaning input).output := by
    intro hroom'
    rw [List.take_of_length_le (Nat.le_of_not_lt hroom')]
    conv => lhs; rw [hout]
    rw [List.length_take, Nat.min_eq_left hle, List.take_append_drop]
  constructor
  · exact Nat.zero_le _
  · rw [List.length_append, List.length_take, List.length_drop]
    omega
  · intro hok
    dsimp only at hok ⊢
    split at hok
    · rename_i hlt
      right
      intro hnil
      have := congrArg List.length hnil
      rw [List.length_take, List.length_nil] at this
      omega
    · split at hok
      · cases hok
      · cases hok
      · split at hok
        · cases hok
        · rename_i hne
          rw [Bool.and_eq_true, not_and_or] at hne
          rcases hne with hne | hne
          · left
            rw [List.length_nil]
            exact List.length_pos_iff.mpr fun h => hne (by rw [h]; rfl)
          · right
            rw [List.take_of_length_le (by omega)]
            exact fun h => hne (by rw [h]; rfl)
  · intro hbuf
    dsimp only at hbuf ⊢
    split at hbuf
    · cases hbuf
    · rename_i hroom'
      split at hbuf
      · cases hbuf
      · cases hbuf
      · rename_i cutOut hv
        split at hbuf
        · rename_i hnil
          rw [Bool.and_eq_true, List.isEmpty_iff, List.isEmpty_iff] at hnil
          have hall := hfull hroom'
          rw [hnil.2, List.take_nil, List.append_nil, hv] at hall
          refine ⟨?_, hnil.1.symm, by rw [hnil.2, List.take_nil], by rw [hv, hall]; rfl⟩
          rw [hnil.2, List.take_nil, List.length_nil, Nat.add_zero, ← hgiven, ← hseen, hnil.1,
            List.append_nil]
          rfl
        · cases hbuf
  · intro hend
    dsimp only at hend ⊢
    split at hend
    · cases hend
    · rename_i hroom'
      rw [hfull hroom']
      split at hend
      · rename_i hv
        rw [hv]
        rfl
      · cases hend
      · split at hend <;> cases hend
  · intro hfail
    dsimp only at hfail ⊢
    split at hfail
    · cases hfail
    · rename_i hroom'
      rw [hfull hroom']
      split at hfail
      · cases hfail
      · rename_i hv
        rw [hv]
        rfl
      · split at hfail <;> cases hfail

end Inflate
