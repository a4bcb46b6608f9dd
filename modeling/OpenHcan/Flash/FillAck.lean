import OpenHcan.Flash.Transfer
import OpenHcan.Lib.Machine

/-!
# FillAck — what a FLASH_BUFFER_FILL_ACK promises

"After each complete line, wait for ACK": the host takes the acknowledgement
for the line it has just sent. The bootloader counts bytes and starts the
count only with the first piece of a line. This module follows the count over
lines, pages and retries with every loss and duplication of pieces and says
exactly when all acknowledgements are true (`fillAcks_whole_iff`).

A duplicate arrives right behind its original: the bus keeps the order.
-/

namespace OpenHcan.Flash

open OpenHcan.Lib

/-- How often each of the four pieces of a line arrives. -/
structure Copies where
  first : Nat
  second : Nat
  third : Nat
  fourth : Nat
deriving DecidableEq, Repr

/-- The pieces behind the first, as they arrive. -/
def Copies.tail (n : Copies) : List Nat :=
  List.replicate n.second 1 ++ List.replicate n.third 2 ++ List.replicate n.fourth 3

/-- All pieces, as they arrive. -/
def Copies.pieces (n : Copies) : List Nat := List.replicate n.first 0 ++ n.tail

/-- An acknowledgement: the line of the piece it answers, and the offsets of
the pieces stored since the first piece of this line was sent. -/
structure FillAck where
  line : Nat
  stored : List UInt8
deriving DecidableEq, Repr

/-- All four pieces of the line have been stored. -/
def FillAck.Whole (a : FillAck) : Prop := ∀ i, i < 4 → pieceIndex a.line i ∈ a.stored

instance (a : FillAck) : Decidable a.Whole :=
  inferInstanceAs (Decidable (∀ i, i < 4 → pieceIndex a.line i ∈ a.stored))

/-- A board that is being flashed: the line on the bus, the offsets of its
pieces stored so far, and all acknowledgements. -/
structure FillBus where
  boot : Bootloader
  line : Nat
  stored : List UInt8
  acks : List FillAck

/-- A board in the bootloader's main loop, before the first line. -/
def FillBus.start (boot : Bootloader) : FillBus where
  boot := { boot with lineCounter := 0 }
  line := 0
  stored := []
  acks := []

/-- One copy of piece `i` of line `k` arrives. -/
def deliverPiece (mcu : Mcu) (host : UInt16) (block : Nat → UInt8) (k : Nat) (s : FillBus)
    (i : Nat) : FillBus :=
  let f := pieceFrame host s.boot.selfAddr block k i
  let r := bootReceive mcu s.boot f
  let stored := s.stored ++ [f.byte 2]
  { s with
    boot := r.boot
    stored := stored
    acks := s.acks ++ if r.answer.isSome then [⟨s.line, stored⟩] else [] }

/-- What happens on the bus: a line with its copies, a message that is no
piece (the order to write a page, a checksum query, ...), or the restart of
the board before a retry, which leaves anything in the two arrays. -/
inductive FillEvent
  | line (block : Nat → UInt8) (k : Nat) (n : Copies)
  | other (f : CanixFrame) (h : f.byte 1 ≠ hmsFlashBufferFill)
  | restart (data flashBuffer : Nat → UInt8)

def fillStep (mcu : Mcu) (host : UInt16) (s : FillBus) : FillEvent → FillBus
  | .line block k n =>
      n.pieces.foldl (deliverPiece mcu host block k) { s with line := k, stored := [] }
  | .other f _ => { s with boot := (bootReceive mcu s.boot f).boot }
  | .restart data flashBuffer =>
      { s with
        boot := { s.boot with
          bootCounter := 1, lineCounter := 0, data := data, flashBuffer := flashBuffer } }

/-- The lines of a block, one after the other, as the block loop sends them. -/
def blockEvents (block : Nat → UInt8) (copies : List Copies) : List FillEvent :=
  copies.mapIdx fun k n => .line block k n

/-! ## One piece -/

theorem pieceIndex_toNat (k i : Nat) : (pieceIndex k i).toNat = (16 * k + 4 * i) % 256 := by
  unfold pieceIndex
  rw [UInt8.toNat_ofNat']

/-- Only the first piece of a line starts the count. -/
theorem pieceIndex_start {k i : Nat} (hi : i < 4) :
    pieceIndex k i &&& 0x0f = 0 ↔ i = 0 := by
  have hand : (pieceIndex k i &&& 0x0f).toNat = 4 * i := by
    rw [UInt8.toNat_and, pieceIndex_toNat]
    have hmask : (0x0f : UInt8).toNat = 2 ^ 4 - 1 := rfl
    rw [hmask, Nat.and_two_pow_sub_one_eq_mod]
    omega
  rw [← UInt8.toNat_inj, hand]
  show 4 * i = 0 ↔ i = 0
  omega

theorem pieceIndex_inj {k i j : Nat} (hi : i < 4) (hj : j < 4) :
    pieceIndex k i = pieceIndex k j ↔ i = j := by
  rw [← UInt8.toNat_inj, pieceIndex_toNat, pieceIndex_toNat]
  omega

section

variable {mcu : Mcu} {host : UInt16} {block : Nat → UInt8} {k : Nat}

theorem deliverPiece_stored (s : FillBus) (i : Nat) :
    (deliverPiece mcu host block k s i).stored = s.stored ++ [pieceIndex k i] := by
  unfold deliverPiece
  dsimp only
  unfold pieceFrame
  rw [fillFrame_byte_index]

theorem deliverPiece_lineCounter (s : FillBus) (i : Nat) :
    (deliverPiece mcu host block k s i).boot.lineCounter =
      countPiece s.boot.lineCounter (pieceIndex k i) :=
  (bootReceive_filled mcu s.boot host (pieceIndex k i) _).lineCounter

theorem deliverPiece_acks (s : FillBus) (i : Nat) :
    (deliverPiece mcu host block k s i).acks =
      s.acks ++ if 16 ≤ countPiece s.boot.lineCounter (pieceIndex k i) then
        [⟨s.line, s.stored ++ [pieceIndex k i]⟩] else [] := by
  have hack := (bootReceive_filled mcu s.boot host (pieceIndex k i)
    (fun j => block (16 * k + 4 * i + j))).ack
  unfold deliverPiece pieceFrame
  dsimp only
  rw [fillFrame_byte_index]
  by_cases hfull : 16 ≤ countPiece s.boot.lineCounter (pieceIndex k i)
  · rw [if_pos hfull, if_pos (hack.mpr hfull)]
  · rw [if_neg hfull, if_neg (fun h => hfull (hack.mp h))]

theorem countPiece_first (c k : Nat) : countPiece c (pieceIndex k 0) = 4 := by
  unfold countPiece
  rw [if_pos ((pieceIndex_start (by omega)).mpr rfl)]

theorem countPiece_tail (c k : Nat) {i : Nat} (h1 : 1 ≤ i) (h4 : i < 4) :
    countPiece c (pieceIndex k i) = (c + 4) % 65536 := by
  unfold countPiece
  rw [if_neg]
  intro h
  have := (pieceIndex_start h4).mp h
  omega

/-! ## The pieces of one line -/

/-- The copies of the first piece start the count and acknowledge nothing. -/
theorem deliver_first (mcu : Mcu) (host : UInt16) (block : Nat → UInt8) (k n : Nat) :
    ∀ s : FillBus, ∃ s' : FillBus,
      (List.replicate n 0).foldl (deliverPiece mcu host block k) s = s' ∧
      s'.line = s.line ∧ s'.acks = s.acks ∧
      s'.stored = s.stored ++ List.replicate n (pieceIndex k 0) ∧
      s'.boot.lineCounter = if n = 0 then s.boot.lineCounter else 4 := by
  induction n with
  | zero =>
      intro s
      exact ⟨s, rfl, rfl, rfl, (List.append_nil _).symm, rfl⟩
  | succ n ih =>
      intro s
      obtain ⟨s', hrun, hline, hacks, hstored, hcount⟩ := ih (deliverPiece mcu host block k s 0)
      refine ⟨s', hrun, hline, ?_, ?_, ?_⟩
      · rw [hacks, deliverPiece_acks, countPiece_first, if_neg (by omega), List.append_nil]
      · rw [hstored, deliverPiece_stored, List.append_assoc]
        rfl
      · rw [hcount, deliverPiece_lineCounter, countPiece_first, if_neg (Nat.succ_ne_zero n)]
        split <;> rfl

/-- The acknowledgements of the pieces behind the first: one for every piece
with which the count is 16 or more. -/
theorem deliver_tail_acks (ps : List Nat) :
    (∀ i ∈ ps, 1 ≤ i ∧ i < 4) → ∀ (s : FillBus) (a : FillAck),
      (a ∈ (ps.foldl (deliverPiece mcu host block k) s).acks ↔
        a ∈ s.acks ∨ ∃ j, j < ps.length ∧ 16 ≤ (s.boot.lineCounter + 4 * (j + 1)) % 65536 ∧
          a = ⟨s.line, s.stored ++ (ps.take (j + 1)).map (pieceIndex k)⟩) := by
  induction ps with
  | nil => intro _ s a; simp
  | cons i ps ih =>
      intro hps s a
      obtain ⟨h1, h4⟩ := hps i (by simp)
      have hstep := ih (fun i' hi' => hps i' (by simp [hi'])) (deliverPiece mcu host block k s i) a
      rw [List.foldl_cons, hstep, deliverPiece_acks, deliverPiece_lineCounter,
        deliverPiece_stored, countPiece_tail _ _ h1 h4]
      have hline : (deliverPiece mcu host block k s i).line = s.line := rfl
      rw [hline]
      have hmod : ∀ j, ((s.boot.lineCounter + 4) % 65536 + 4 * (j + 1)) % 65536 =
          (s.boot.lineCounter + 4 * (j + 1 + 1)) % 65536 := by
        intro j
        omega
      constructor
      · rintro (hold | ⟨j, hj, hfull, rfl⟩)
        · rw [List.mem_append] at hold
          rcases hold with hold | hnew
          · exact .inl hold
          · split at hnew
            · rename_i hfull
              rw [List.mem_singleton] at hnew
              exact .inr ⟨0, by simp, hfull, hnew⟩
            · cases hnew
        · rw [hmod] at hfull
          refine .inr ⟨j + 1, by simpa using hj, hfull, ?_⟩
          simp
      · rintro (hold | ⟨j, hj, hfull, rfl⟩)
        · exact .inl (List.mem_append_left _ hold)
        · cases j with
          | zero =>
              refine .inl (List.mem_append_right _ ?_)
              rw [if_pos (by simpa using hfull)]
              simp
          | succ j =>
              refine .inr ⟨j, by simpa using hj, ?_, ?_⟩
              · rw [hmod]
                exact hfull
              · simp

end

/-- The number of pieces that arrive behind the first. -/
def Copies.rest (n : Copies) : Nat := n.second + n.third + n.fourth

theorem Copies.tail_length (n : Copies) : n.tail.length = n.rest := by
  simp [Copies.tail, Copies.rest, Nat.add_assoc]

theorem Copies.tail_mem {n : Copies} {i : Nat} (h : i ∈ n.tail) : 1 ≤ i ∧ i < 4 := by
  unfold Copies.tail at h
  rw [List.mem_append, List.mem_append] at h
  rcases h with (h | h) | h
  · have := (List.mem_replicate.mp h).2
    omega
  · have := (List.mem_replicate.mp h).2
    omega
  · have := (List.mem_replicate.mp h).2
    omega

/-- With how many pieces behind the first the other three are complete. -/
theorem Copies.take_complete (n : Copies) {j : Nat} (hj : j < n.rest) :
    (∀ i, 1 ≤ i → i < 4 → i ∈ n.tail.take (j + 1)) ↔
      1 ≤ n.second ∧ 1 ≤ n.third ∧ n.second + n.third ≤ j := by
  have hmem : ∀ i, i ∈ n.tail.take (j + 1) ↔
      (1 ≤ n.second ∧ i = 1) ∨ (1 ≤ n.third ∧ n.second ≤ j ∧ i = 2) ∨
        (n.second + n.third ≤ j ∧ i = 3) := by
    intro i
    unfold Copies.rest at hj
    unfold Copies.tail
    simp only [List.take_append, List.take_replicate, List.length_append, List.length_replicate,
      List.mem_append, List.mem_replicate]
    omega
  constructor
  · intro h
    have h1 := (hmem 1).mp (h 1 (by omega) (by omega))
    have h2 := (hmem 2).mp (h 2 (by omega) (by omega))
    have h3 := (hmem 3).mp (h 3 (by omega) (by omega))
    omega
  · rintro ⟨h1, h2, h3⟩ i hi1 hi4
    rw [hmem]
    omega

section

variable {mcu : Mcu} {host : UInt16} {block : Nat → UInt8} {k : Nat}

/-- The acknowledgements a line adds. -/
theorem line_acks (s : FillBus) (n : Copies) (a : FillAck) :
    a ∈ (fillStep mcu host s (.line block k n)).acks ↔
      a ∈ s.acks ∨ ∃ j, j < n.rest ∧
        16 ≤ ((if n.first = 0 then s.boot.lineCounter else 4) + 4 * (j + 1)) % 65536 ∧
        a = ⟨k, List.replicate n.first (pieceIndex k 0) ++
          (n.tail.take (j + 1)).map (pieceIndex k)⟩ := by
  obtain ⟨s', hrun, hline, hacks, hstored, hcount⟩ :=
    deliver_first mcu host block k n.first { s with line := k, stored := [] }
  unfold fillStep Copies.pieces
  dsimp only
  rw [List.foldl_append, hrun, deliver_tail_acks n.tail (fun i hi => Copies.tail_mem hi),
    hline, hacks, hstored, hcount, Copies.tail_length]
  rfl

/-- Which acknowledgements are true. -/
theorem whole_iff (n : Copies) {j : Nat} (hj : j < n.rest) :
    FillAck.Whole ⟨k, List.replicate n.first (pieceIndex k 0) ++
        (n.tail.take (j + 1)).map (pieceIndex k)⟩ ↔
      n.first ≠ 0 ∧ 1 ≤ n.second ∧ 1 ≤ n.third ∧ n.second + n.third ≤ j := by
  rw [← Copies.take_complete n hj]
  have hlater : ∀ i, i < 4 → (pieceIndex k i ∈ (n.tail.take (j + 1)).map (pieceIndex k) ↔
      i ∈ n.tail.take (j + 1)) := by
    intro i hi
    rw [List.mem_map]
    constructor
    · rintro ⟨i', hi', heq⟩
      have hbound := Copies.tail_mem (List.mem_of_mem_take hi')
      rw [← (pieceIndex_inj hbound.2 hi).mp heq]
      exact hi'
    · intro h
      exact ⟨i, h, rfl⟩
  have hfirst : ∀ i, i < 4 → (pieceIndex k i ∈ List.replicate n.first (pieceIndex k 0) ↔
      n.first ≠ 0 ∧ i = 0) := by
    intro i hi
    rw [List.mem_replicate, pieceIndex_inj hi (by omega)]
  constructor
  · intro h
    refine ⟨?_, fun i h1 h4 => ?_⟩
    · have h0 := h 0 (by omega)
      rw [List.mem_append, hfirst 0 (by omega), hlater 0 (by omega)] at h0
      rcases h0 with h0 | h0
      · exact h0.1
      · have := (Copies.tail_mem (List.mem_of_mem_take h0)).1
        omega
    · have hi := h i h4
      rw [List.mem_append, hfirst i h4, hlater i h4] at hi
      rcases hi with hi | hi
      · omega
      · exact hi
  · rintro ⟨h0, hrest⟩ i hi
    show pieceIndex k i ∈ _ ++ _
    rw [List.mem_append, hfirst i hi, hlater i hi]
    by_cases hzero : i = 0
    · exact .inl ⟨h0, hzero⟩
    · exact .inr (hrest i (by omega) hi)

end

/-! ## Runs -/

/-- All acknowledgements so far were true. -/
def AcksWhole (s : FillBus) : Prop := ∀ a ∈ s.acks, a.Whole

/-- The losses and duplications of a line that do no harm. With the first
piece lost, the bytes counted so far and those that arrive stay below a line;
with the first piece there, at most two pieces follow, or the second and the
third exactly once. -/
def LineWhole (s : FillBus) : FillEvent → Prop
  | .line _ _ n =>
      if n.first = 0 then n.rest = 0 ∨ (s.boot.lineCounter + 4) % 65536 + 4 * n.rest < 20
      else n.rest < 3 ∨ (n.second = 1 ∧ n.third = 1)
  | .other _ _ => True
  | .restart _ _ => True

/-- **One step**: a line keeps the acknowledgements true exactly if its losses
and duplications do no harm. -/
theorem fillStep_whole_iff (mcu : Mcu) (host : UInt16) (s : FillBus) (e : FillEvent) :
    AcksWhole (fillStep mcu host s e) ↔ AcksWhole s ∧ LineWhole s e := by
  cases e with
  | other f h => exact ⟨fun hw => ⟨hw, trivial⟩, fun hw => hw.1⟩
  | restart data flashBuffer => exact ⟨fun hw => ⟨hw, trivial⟩, fun hw => hw.1⟩
  | line block k n =>
      have hnew : AcksWhole (fillStep mcu host s (.line block k n)) ↔
          AcksWhole s ∧ ∀ j, j < n.rest →
            16 ≤ ((if n.first = 0 then s.boot.lineCounter else 4) + 4 * (j + 1)) % 65536 →
              n.first ≠ 0 ∧ 1 ≤ n.second ∧ 1 ≤ n.third ∧ n.second + n.third ≤ j := by
        constructor
        · intro hw
          refine ⟨fun a ha => hw a ((line_acks s n a).mpr (.inl ha)), fun j hj hfull => ?_⟩
          exact (whole_iff n hj).mp (hw _ ((line_acks s n _).mpr (.inr ⟨j, hj, hfull, rfl⟩)))
        · rintro ⟨hold, hall⟩ a ha
          rcases (line_acks s n a).mp ha with ha | ⟨j, hj, hfull, rfl⟩
          · exact hold a ha
          · exact (whole_iff n hj).mpr (hall j hj hfull)
      rw [hnew]
      refine and_congr_right fun _ => ?_
      unfold LineWhole
      dsimp only
      have hrest : n.rest = n.second + n.third + n.fourth := rfl
      by_cases hfirst : n.first = 0
      · -- every acknowledgement would be false
        simp only [if_pos hfirst]
        constructor
        · intro hall
          by_contra hbad
          rw [not_or] at hbad
          have hsmall := hall ((19 - (s.boot.lineCounter + 4) % 65536) / 4) (by omega)
          omega
        · intro hsmall j hj hfull
          omega
      · simp only [if_neg hfirst]
        constructor
        · intro hall
          by_contra hbad
          have hthird := hall 2 (by omega) (by omega)
          omega
        · intro hwhole j hj hfull
          omega

/-- **When the acknowledgements are true**: in a run, whatever the order of
lines, other messages and restarts, every FLASH_BUFFER_FILL_ACK is true if
and only if the losses and duplications of every line do no harm. -/
theorem fillAcks_whole_iff (mcu : Mcu) (host : UInt16) (boot : Bootloader)
    (es : List FillEvent) :
    AcksWhole (run (fillStep mcu host) (FillBus.start boot) es) ↔
      Guarded (fillStep mcu host) LineWhole (FillBus.start boot) es := by
  rw [run_iff_guarded (fillStep_whole_iff mcu host) es]
  refine ⟨fun h => h.2, fun h => ⟨?_, h⟩⟩
  intro a ha
  cases ha

/-- **A false acknowledgement**: the first line of a block arrives, of the
second only the second piece does. The counter stands at 16 from the first
line, so this one piece is acknowledged as a line. -/
theorem fillAck_false :
    ¬ ∀ (mcu : Mcu) (host : UInt16) (boot : Bootloader) (block : Nat → UInt8)
      (copies : List Copies),
      AcksWhole (run (fillStep mcu host) (FillBus.start boot) (blockEvents block copies)) := by
  intro hall
  have hrun := hall .atmega32 1
    { selfAddr := 2, bootCounter := 0, lineCounter := 0, data := fun _ => 0
      flashBuffer := fun _ => 0, flash := fun _ => 0xff, eeprom := fun _ => 0xff }
    (fun _ => 0) [⟨1, 1, 1, 1⟩, ⟨0, 1, 0, 0⟩]
  revert hrun
  unfold AcksWhole
  decide

end OpenHcan.Flash
