import OpenHcan.Flash.Bootloader
import OpenHcan.Flash.Ihexfile

/-!
# CmdFlash — flashing a board (`board_driver::cmd_flash`)

The host's side of a flash run, with everything the board, the bus and the
user do as input: which exchanges time out, what a page holds after its
transfer, which bytes get into the EEPROM although the answer is lost. The
acknowledgement of a page says nothing here about its content.

The messages on the terminal are left out, and so is the copy of the hexfile
into the cache at the end.
-/

namespace OpenHcan.Flash

/-! ## What the board does -/

/-- The transfer of one block: what its page holds afterwards, and whether all
acknowledgements arrived. -/
structure BlockOutcome where
  left : Nat → UInt8
  acked : Bool

/-- One `write_eeprom_byte`: written and acknowledged, written with the
acknowledgement lost, or not written. -/
inductive WriteOutcome
  | done
  | ackLost
  | lost
deriving DecidableEq, Repr

/-- The exchanges after the last block: the checksum query, and the four bytes
of `save_crc16_to_board`. -/
structure CrcPhase where
  answered : Bool
  crcLo : WriteOutcome
  crcHi : WriteOutcome
  sizeLo : WriteOutcome
  sizeHi : WriteOutcome

/-- One round of the retry loop. `reset` tells whether the board comes back
into the bootloader after a timeout. -/
structure Attempt where
  block : Nat → BlockOutcome
  crc : CrcPhase
  reset : Bool

/-- The board, the bus and the user during one `cmd_flash`: the type the board
answers, the answer to "Flash at own risk?", the reset before an incremental
run, the answer to its checksum query, and the rounds. -/
structure Behaviour where
  arch : Option UInt8
  atOwnRisk : Bool
  bootStop : Bool
  cacheQuery : Bool
  attempts : Nat → Attempt

/-! ## What the host does -/

/-- `maxsize`, 0 for an unknown MCU. -/
def maxsize (arch : UInt8) : Nat :=
  if arch = 0x01 ∨ arch = 0x11 then 28672
  else if arch = 0x33 then 28672
  else if arch = 0x02 ∨ arch = 0x22 then 61440
  else 0

/-- What the command line and the file system give: the new hexfile, the option
`incremental_flash`, the cached hexfile if there is one, and what the memory
behind a vector holds. -/
structure FlashJob (pageSize : Nat) where
  hexfile : Ihexfile pageSize
  incrementalFlash : Bool
  cached : Option (Ihexfile pageSize)
  heap : Nat → UInt8

/-- How `cmd_flash` ends: the application runs, the checksums differ, three
rounds timed out, an exception leaves it, or it refuses the file. -/
inductive FlashEnd
  | completed
  | crcError
  | gaveUp
  | timeout
  | refused
deriving DecidableEq, Repr

/-- The program memory, and whether a comparison has read outside the cached
hexfile. -/
structure FlashState where
  flash : FlashMemory
  outside : Bool

structure FlashResult where
  flash : FlashMemory
  eeprom : Eeprom
  outside : Bool
  incremental : Bool
  ended : FlashEnd

variable {pageSize : Nat}

/-- `cached_hexfile.data()[i]`, unchecked. -/
def cachedByte (cached : Ihexfile pageSize) (heap : Nat → UInt8) (i : Nat) : UInt8 :=
  if i < cached.data.length then cached.byte i else heap i

/-- The comparison of a block from byte `i` on, `n` bytes at most: whether they
are equal, and whether a read went outside. -/
def compareLoop (hexfile cached : Ihexfile pageSize) (heap : Nat → UInt8) (offset : Nat) :
    Nat → Nat → Bool × Bool
  | 0, _ => (true, false)
  | n + 1, i =>
      let outside := decide (cached.data.length ≤ offset + i)
      if hexfile.byte (offset + i) ≠ cachedByte cached heap (offset + i) then (false, outside)
      else
        let rest := compareLoop hexfile cached heap offset n (i + 1)
        (rest.1, outside || rest.2)

/-- The comparison of a block; without the incremental mode there is none. -/
def compareBlock (job : FlashJob pageSize) (cached : Option (Ihexfile pageSize)) (block : Nat) :
    Bool × Bool :=
  match cached with
  | none => (false, false)
  | some cached => compareLoop job.hexfile cached job.heap (block * pageSize) pageSize 0

/-- The page of a block after its transfer. -/
def writeBlock (flash : FlashMemory) (pageSize block : Nat) (left : Nat → UInt8) : FlashMemory :=
  fun x => if x / pageSize = block then left (x % pageSize) else flash x

/-- The block loop for `n` blocks from `block` on; `false` after a timeout. -/
def blockLoop (job : FlashJob pageSize) (cached : Option (Ihexfile pageSize)) (a : Attempt) :
    Nat → Nat → FlashState → FlashState × Bool
  | 0, _, s => (s, true)
  | n + 1, block, s =>
      let (equal, outside) := compareBlock job cached block
      let s := { s with outside := s.outside || outside }
      if equal then blockLoop job cached a n (block + 1) s
      else
        let s := { s with flash := writeBlock s.flash pageSize block (a.block block).left }
        if (a.block block).acked then blockLoop job cached a n (block + 1) s else (s, false)

/-- Bytes written to the EEPROM one after the other, up to the first timeout. -/
def writeEepromBytes : List (Nat × UInt8 × WriteOutcome) → Eeprom → Eeprom × Bool
  | [], eeprom => (eeprom, true)
  | (address, v, .done) :: rest, eeprom =>
      writeEepromBytes rest (eepromWriteByte eeprom address v)
  | (address, v, .ackLost) :: _, eeprom => (eepromWriteByte eeprom address v, false)
  | (_, _, .lost) :: _, eeprom => (eeprom, false)

/-- `save_crc16_to_board` -/
def saveCrc16ToBoard (p : CrcPhase) (crc size : Nat) (eeprom : Eeprom) : Eeprom × Bool :=
  writeEepromBytes
    [(eeprFirmwareCrc16, loByte crc, p.crcLo), (eeprFirmwareCrc16 + 1, hiByte crc, p.crcHi),
      (eeprFirmwareSize, loByte size, p.sizeLo), (eeprFirmwareSize + 1, hiByte size, p.sizeHi)]
    eeprom

/-- The end of a round that got through: the board computes its checksum, the
host saves it on the board and compares it. A timeout on the way is only
reported ("no firmware crc16 check support"). -/
def crcPhase (job : FlashJob pageSize) (p : CrcPhase) (s : FlashState) (eeprom : Eeprom) :
    Eeprom × FlashEnd :=
  if p.answered then
    let boardCrc := calculateCrc16OverFlash s.flash job.hexfile.size
    let (eeprom, acked) := saveCrc16ToBoard p boardCrc.toNat job.hexfile.size eeprom
    if acked ∧ boardCrc ≠ job.hexfile.crc16 then (eeprom, .crcError) else (eeprom, .completed)
  else (eeprom, .completed)

/-- The retry loop: `n` rounds, the next one is round `i`. -/
def tryLoop (job : FlashJob pageSize) (cached : Option (Ihexfile pageSize))
    (attempts : Nat → Attempt) (eeprom : Eeprom) : Nat → Nat → FlashState → FlashResult
  | 0, _, s => ⟨s.flash, eeprom, s.outside, cached.isSome, .gaveUp⟩
  | n + 1, i, s =>
      let (s, acked) := blockLoop job cached (attempts i) (job.hexfile.size / pageSize) 0 s
      if acked then
        let (eeprom, ended) := crcPhase job (attempts i).crc s eeprom
        ⟨s.flash, eeprom, s.outside, cached.isSome, ended⟩
      else if (attempts i).reset then tryLoop job cached attempts eeprom n (i + 1) s
      else ⟨s.flash, eeprom, s.outside, cached.isSome, .timeout⟩

/-- The incremental decision: `none` if an exception leaves `cmd_flash`,
otherwise the cached hexfile if the incremental mode is enabled. -/
def incrementalDecision (job : FlashJob pageSize) (b : Behaviour) (flash : FlashMemory) :
    Option (Option (Ihexfile pageSize)) :=
  if job.incrementalFlash then
    if b.bootStop then
      match job.cached with
      | none => some none
      | some cached =>
          if b.cacheQuery then
            if calculateCrc16OverFlash flash job.hexfile.size = cached.crc16 then
              some (some cached)
            else some none
          else none
    else none
  else some none

/-- The host goes on with a file of this size for this MCU. -/
def sizeAccepted (job : FlashJob pageSize) (b : Behaviour) (arch : UInt8) : Bool :=
  if maxsize arch = 0 then b.atOwnRisk else decide (job.hexfile.size ≤ maxsize arch)

/-- `board_driver::cmd_flash` -/
def cmdFlash (job : FlashJob pageSize) (b : Behaviour) (flash : FlashMemory) (eeprom : Eeprom) :
    FlashResult :=
  match b.arch with
  | none => ⟨flash, eeprom, false, false, .timeout⟩
  | some arch =>
      if sizeAccepted job b arch then
        match incrementalDecision job b flash with
        | none => ⟨flash, eeprom, false, false, .timeout⟩
        | some cached => tryLoop job cached b.attempts eeprom 3 0 ⟨flash, false⟩
      else ⟨flash, eeprom, false, false, .refused⟩

/-! ## The blocks of a round -/

/-- Block `block` is left out. -/
def Skipped (job : FlashJob pageSize) (cached : Option (Ihexfile pageSize)) (block : Nat) : Prop :=
  (compareBlock job cached block).1 = true

instance (job : FlashJob pageSize) (cached : Option (Ihexfile pageSize)) (block : Nat) :
    Decidable (Skipped job cached block) :=
  inferInstanceAs (Decidable ((compareBlock job cached block).1 = true))

/-- Every block that is transferred in the round is acknowledged. -/
def AllAcked (job : FlashJob pageSize) (cached : Option (Ihexfile pageSize)) (a : Attempt) : Prop :=
  ∀ block, block < job.hexfile.size / pageSize → ¬ Skipped job cached block →
    (a.block block).acked = true

instance (job : FlashJob pageSize) (cached : Option (Ihexfile pageSize)) (a : Attempt) :
    Decidable (AllAcked job cached a) :=
  inferInstanceAs (Decidable (∀ block, block < job.hexfile.size / pageSize →
    ¬ Skipped job cached block → (a.block block).acked = true))

/-- What the block loop leaves, for the blocks from `block` on. -/
structure BlocksDone (job : FlashJob pageSize) (cached : Option (Ihexfile pageSize)) (a : Attempt)
    (n block : Nat) (s s' : FlashState) (acked : Bool) : Prop where
  acked_iff : acked = true ↔
    ∀ b, block ≤ b → b < block + n → ¬ Skipped job cached b → (a.block b).acked = true
  stored : acked = true → ∀ x, block ≤ x / pageSize → x / pageSize < block + n →
    ¬ Skipped job cached (x / pageSize) →
      s'.flash x = (a.block (x / pageSize)).left (x % pageSize)
  kept : ∀ x, x / pageSize < block ∨ block + n ≤ x / pageSize ∨
    Skipped job cached (x / pageSize) → s'.flash x = s.flash x
  reads : s'.outside = true → s.outside = true ∨
    ∃ b, block ≤ b ∧ b < block + n ∧ (compareBlock job cached b).2 = true
  mono : s.outside = true → s'.outside = true
  outside : acked = true →
    (∃ b, block ≤ b ∧ b < block + n ∧ (compareBlock job cached b).2 = true) → s'.outside = true

section

variable (job : FlashJob pageSize) (cached : Option (Ihexfile pageSize)) (a : Attempt)

theorem blockLoop_succ (n block : Nat) (s : FlashState) :
    blockLoop job cached a (n + 1) block s =
      if Skipped job cached block then
        blockLoop job cached a n (block + 1)
          ⟨s.flash, s.outside || (compareBlock job cached block).2⟩
      else if (a.block block).acked then
        blockLoop job cached a n (block + 1)
          ⟨writeBlock s.flash pageSize block (a.block block).left,
            s.outside || (compareBlock job cached block).2⟩
      else
        (⟨writeBlock s.flash pageSize block (a.block block).left,
          s.outside || (compareBlock job cached block).2⟩, false) := rfl

theorem writeBlock_page {flash : FlashMemory} {block x : Nat} {left : Nat → UInt8}
    (h : x / pageSize = block) : writeBlock flash pageSize block left x = left (x % pageSize) :=
  if_pos h

theorem writeBlock_other {flash : FlashMemory} {block x : Nat} {left : Nat → UInt8}
    (h : x / pageSize ≠ block) : writeBlock flash pageSize block left x = flash x :=
  if_neg h

/-- The first block, or one of the others. -/
theorem exists_block {P : Nat → Prop} (n block : Nat) :
    (∃ b, block ≤ b ∧ b < block + (n + 1) ∧ P b) ↔
      P block ∨ ∃ b, block + 1 ≤ b ∧ b < block + 1 + n ∧ P b := by
  constructor
  · rintro ⟨b, h1, h2, h⟩
    by_cases heq : b = block
    · exact .inl (heq ▸ h)
    · exact .inr ⟨b, by omega, by omega, h⟩
  · rintro (h | ⟨b, h1, h2, h⟩)
    · exact ⟨block, by omega, by omega, h⟩
    · exact ⟨b, by omega, by omega, h⟩

variable {job cached a}

theorem BlocksDone.nil (block : Nat) (s : FlashState) : BlocksDone job cached a 0 block s s true := by
  constructor
  case acked_iff => exact ⟨fun _ b h1 h2 => by omega, fun _ => rfl⟩
  case stored => intro _ x h1 h2; omega
  case kept => intro x _; rfl
  case reads => intro h; exact .inl h
  case mono => intro h; exact h
  case outside => rintro _ ⟨b, h1, h2, _⟩; omega

/-- A block that is left out, or written and acknowledged, comes before the others. -/
theorem BlocksDone.cons {n block : Nat} {s t s' : FlashState} {acked : Bool}
    (hkept : ∀ x, x / pageSize ≠ block ∨ Skipped job cached block → t.flash x = s.flash x)
    (hacked : ¬ Skipped job cached block → (a.block block).acked = true)
    (hpage : ¬ Skipped job cached block → ∀ x, x / pageSize = block →
      t.flash x = (a.block block).left (x % pageSize))
    (houtside : t.outside = (s.outside || (compareBlock job cached block).2))
    (h : BlocksDone job cached a n (block + 1) t s' acked) :
    BlocksDone job cached a (n + 1) block s s' acked := by
  constructor
  case acked_iff =>
    rw [h.acked_iff]
    constructor
    · intro hall b h1 h2 hb
      by_cases heq : b = block
      · rw [heq] at hb ⊢
        exact hacked hb
      · exact hall b (by omega) (by omega) hb
    · intro hall b h1 h2 hb
      exact hall b (by omega) (by omega) hb
  case stored =>
    intro hall x h1 h2 hx
    by_cases heq : x / pageSize = block
    · rw [heq] at hx
      rw [h.kept x (.inl (by omega)), heq]
      exact hpage hx x heq
    · exact h.stored hall x (by omega) (by omega) hx
  case kept =>
    intro x hx
    have hfirst : t.flash x = s.flash x := by
      apply hkept
      by_cases heq : x / pageSize = block
      · rcases hx with hx | hx | hx
        · omega
        · omega
        · exact .inr (heq ▸ hx)
      · exact .inl heq
    rw [← hfirst]
    apply h.kept
    rcases hx with hx | hx | hx
    · exact .inl (by omega)
    · by_cases hmore : block + 1 + n ≤ x / pageSize
      · exact .inr (.inl hmore)
      · exact .inl (by omega)
    · exact .inr (.inr hx)
  case reads =>
    intro hread
    rw [exists_block, ← or_assoc, ← Bool.or_eq_true, ← houtside]
    exact h.reads hread
  case mono =>
    intro hread
    apply h.mono
    rw [houtside, hread]
    rfl
  case outside =>
    rw [exists_block]
    rintro hall (hread | hread)
    · apply h.mono
      rw [houtside, hread]
      exact Bool.or_true _
    · exact h.outside hall hread

/-- The loop ends with a block that is not acknowledged. -/
theorem BlocksDone.nack {n block : Nat} {s s' : FlashState} (hskip : ¬ Skipped job cached block)
    (hacked : (a.block block).acked = false)
    (hkept : ∀ x, x / pageSize ≠ block → s'.flash x = s.flash x)
    (houtside : s'.outside = (s.outside || (compareBlock job cached block).2)) :
    BlocksDone job cached a (n + 1) block s s' false := by
  constructor
  case acked_iff =>
    refine ⟨fun h => (by cases h), fun h => ?_⟩
    rw [h block (by omega) (by omega) hskip] at hacked
    cases hacked
  case stored => intro h; cases h
  case kept =>
    intro x hx
    apply hkept
    intro heq
    rcases hx with hx | hx | hx
    · omega
    · omega
    · exact hskip (heq ▸ hx)
  case reads =>
    intro hread
    rw [exists_block, ← or_assoc, ← Bool.or_eq_true, ← houtside]
    exact .inl hread
  case mono =>
    intro hread
    rw [houtside, hread]
    rfl
  case outside => intro h; cases h

variable (job cached a)

/-- **What the block loop does.** -/
theorem blockLoop_done (n : Nat) :
    ∀ (block : Nat) (s : FlashState), BlocksDone job cached a n block s
      (blockLoop job cached a n block s).1 (blockLoop job cached a n block s).2 := by
  induction n with
  | zero => exact .nil
  | succ n ih =>
      intro block s
      by_cases hskip : Skipped job cached block
      · rw [blockLoop_succ, if_pos hskip]
        exact .cons (t := ⟨s.flash, s.outside || (compareBlock job cached block).2⟩)
          (fun _ _ => rfl) (absurd hskip) (absurd hskip) rfl (ih (block + 1) _)
      · have hother (x : Nat) (hx : x / pageSize ≠ block) :
            writeBlock s.flash pageSize block (a.block block).left x = s.flash x :=
          writeBlock_other hx
        rw [blockLoop_succ, if_neg hskip]
        cases hack : (a.block block).acked with
        | false => exact .nack hskip hack hother rfl
        | true =>
            exact .cons (fun x hx => hother x (hx.resolve_right hskip)) (fun _ => hack)
              (fun _ _ heq => writeBlock_page heq) rfl (ih (block + 1) _)

/-! ## The rounds -/

/-- The round whose blocks are all acknowledged, among `n` rounds from `i` on. -/
def finalRound (job : FlashJob pageSize) (cached : Option (Ihexfile pageSize))
    (attempts : Nat → Attempt) : Nat → Nat → Option Nat
  | 0, _ => none
  | n + 1, i =>
      if AllAcked job cached (attempts i) then some i
      else if (attempts i).reset then finalRound job cached attempts n (i + 1)
      else none

/-- What the rounds leave when round `t` gets through. -/
structure RoundsDone (job : FlashJob pageSize) (cached : Option (Ihexfile pageSize)) (a : Attempt)
    (eeprom : Eeprom) (s : FlashState) (r : FlashResult) : Prop where
  crc : (r.eeprom, r.ended) = crcPhase job a.crc ⟨r.flash, r.outside⟩ eeprom
  stored : ∀ x, x / pageSize < job.hexfile.size / pageSize →
    ¬ Skipped job cached (x / pageSize) →
      r.flash x = (a.block (x / pageSize)).left (x % pageSize)
  kept : ∀ x, Skipped job cached (x / pageSize) → r.flash x = s.flash x
  outside : r.outside = true ↔ s.outside = true ∨
    ∃ b, b < job.hexfile.size / pageSize ∧ (compareBlock job cached b).2 = true

theorem acked_iff_allAcked (s : FlashState) :
    (blockLoop job cached a (job.hexfile.size / pageSize) 0 s).2 = true ↔
      AllAcked job cached a := by
  rw [(blockLoop_done job cached a _ 0 s).acked_iff]
  constructor
  · intro h b hb
    exact h b (Nat.zero_le _) (by omega)
  · intro h b _ hb
    exact h b (by omega)

variable (attempts : Nat → Attempt) (eeprom : Eeprom)

theorem tryLoop_succ (n i : Nat) (s : FlashState) :
    tryLoop job cached attempts eeprom (n + 1) i s =
      if AllAcked job cached (attempts i) then
        ⟨(blockLoop job cached (attempts i) (job.hexfile.size / pageSize) 0 s).1.flash,
          (crcPhase job (attempts i).crc
            (blockLoop job cached (attempts i) (job.hexfile.size / pageSize) 0 s).1 eeprom).1,
          (blockLoop job cached (attempts i) (job.hexfile.size / pageSize) 0 s).1.outside,
          cached.isSome,
          (crcPhase job (attempts i).crc
            (blockLoop job cached (attempts i) (job.hexfile.size / pageSize) 0 s).1 eeprom).2⟩
      else if (attempts i).reset then
        tryLoop job cached attempts eeprom n (i + 1)
          (blockLoop job cached (attempts i) (job.hexfile.size / pageSize) 0 s).1
      else
        ⟨(blockLoop job cached (attempts i) (job.hexfile.size / pageSize) 0 s).1.flash, eeprom,
          (blockLoop job cached (attempts i) (job.hexfile.size / pageSize) 0 s).1.outside,
          cached.isSome, .timeout⟩ := by
  refine Eq.trans ?_ (if_congr (acked_iff_allAcked job cached (attempts i) s) rfl rfl)
  rfl

theorem finalRound_succ (n i : Nat) :
    finalRound job cached attempts (n + 1) i =
      if AllAcked job cached (attempts i) then some i
      else if (attempts i).reset then finalRound job cached attempts n (i + 1) else none := rfl

/-- The blocks of a round are all blocks. -/
theorem blocks_range (P : Nat → Prop) :
    (∃ b, 0 ≤ b ∧ b < 0 + job.hexfile.size / pageSize ∧ P b) ↔
      ∃ b, b < job.hexfile.size / pageSize ∧ P b := by
  simp

/-- The round gets through. -/
theorem BlocksDone.rounds {s s' : FlashState}
    (h : BlocksDone job cached a (job.hexfile.size / pageSize) 0 s s' true) :
    RoundsDone job cached a eeprom s
      ⟨s'.flash, (crcPhase job a.crc s' eeprom).1, s'.outside, cached.isSome,
        (crcPhase job a.crc s' eeprom).2⟩ := by
  constructor
  case crc => rfl
  case stored =>
    intro x hx hskip
    exact h.stored rfl x (Nat.zero_le _) (by omega) hskip
  case kept =>
    intro x hskip
    exact h.kept x (.inr (.inr hskip))
  case outside =>
    rw [← blocks_range]
    constructor
    · exact h.reads
    · rintro (hold | hnew)
      · exact h.mono hold
      · exact h.outside rfl hnew

/-- A round before that does not get through. -/
theorem RoundsDone.later {b : Attempt} {s s' : FlashState} {acked : Bool} {r : FlashResult}
    (hdone : BlocksDone job cached b (job.hexfile.size / pageSize) 0 s s' acked)
    (h : RoundsDone job cached a eeprom s' r) : RoundsDone job cached a eeprom s r := by
  constructor
  case crc => exact h.crc
  case stored => exact h.stored
  case kept =>
    intro x hskip
    rw [h.kept x hskip]
    exact hdone.kept x (.inr (.inr hskip))
  case outside =>
    rw [h.outside]
    constructor
    · rintro (hold | hnew)
      · rw [← blocks_range]
        exact hdone.reads hold
      · exact .inr hnew
    · rintro (hold | hnew)
      · exact .inl (hdone.mono hold)
      · exact .inr hnew

/-- A round that gets through ends the loop. -/
theorem tryLoop_final {t : Nat} (n : Nat) :
    ∀ (i : Nat) (s : FlashState), finalRound job cached attempts n i = some t →
      RoundsDone job cached (attempts t) eeprom s
        (tryLoop job cached attempts eeprom n i s) := by
  induction n with
  | zero => intro i s h; cases h
  | succ n ih =>
      intro i s h
      have hdone := blockLoop_done job cached (attempts i) (job.hexfile.size / pageSize) 0 s
      rw [finalRound_succ] at h
      rw [tryLoop_succ]
      by_cases hall : AllAcked job cached (attempts i)
      · rw [if_pos hall] at h
        rw [if_pos hall]
        obtain rfl : i = t := Option.some.inj h
        rw [(acked_iff_allAcked job cached (attempts i) s).mpr hall] at hdone
        exact hdone.rounds job cached (attempts i) eeprom
      · rw [if_neg hall] at h
        rw [if_neg hall]
        cases hreset : (attempts i).reset with
        | false =>
            rw [hreset] at h
            cases h
        | true =>
            rw [hreset, if_pos rfl] at h
            exact .later job cached (attempts t) eeprom hdone (ih (i + 1) _ h)

/-- Without such a round nothing gets into the EEPROM, and nothing completes. -/
theorem tryLoop_none (n : Nat) :
    ∀ (i : Nat) (s : FlashState), finalRound job cached attempts n i = none →
      (tryLoop job cached attempts eeprom n i s).eeprom = eeprom ∧
        (tryLoop job cached attempts eeprom n i s).ended ≠ .completed := by
  induction n with
  | zero => intro i s _; exact ⟨rfl, by intro h; cases h⟩
  | succ n ih =>
      intro i s h
      rw [finalRound_succ] at h
      rw [tryLoop_succ]
      by_cases hall : AllAcked job cached (attempts i)
      · rw [if_pos hall] at h
        cases h
      · rw [if_neg hall] at h
        rw [if_neg hall]
        cases hreset : (attempts i).reset with
        | false => exact ⟨rfl, by intro hend; cases hend⟩
        | true =>
            rw [hreset, if_pos rfl] at h
            rw [if_pos rfl]
            exact ih (i + 1) _ h

theorem tryLoop_incremental (n : Nat) :
    ∀ (i : Nat) (s : FlashState),
      (tryLoop job cached attempts eeprom n i s).incremental = cached.isSome := by
  induction n with
  | zero => intro i s; rfl
  | succ n ih =>
      intro i s
      rw [tryLoop_succ]
      split
      · rfl
      · split
        · exact ih _ _
        · rfl

end

/-! ## The whole run -/

/-- The round in which a run of `cmd_flash` gets through all blocks. -/
def flashRound (job : FlashJob pageSize) (b : Behaviour) (flash : FlashMemory) : Option Nat :=
  match b.arch with
  | none => none
  | some arch =>
      if sizeAccepted job b arch then
        match incrementalDecision job b flash with
        | none => none
        | some cached => finalRound job cached b.attempts 3 0
      else none

section

variable (job : FlashJob pageSize) (b : Behaviour) (flash : FlashMemory) (eeprom : Eeprom)

/-- A run without such a round leaves the EEPROM alone and does not complete. -/
theorem cmdFlash_no_round (h : flashRound job b flash = none) :
    (cmdFlash job b flash eeprom).eeprom = eeprom ∧
      (cmdFlash job b flash eeprom).ended ≠ .completed := by
  unfold flashRound at h
  unfold cmdFlash
  cases harch : b.arch with
  | none => exact ⟨rfl, by intro hend; cases hend⟩
  | some arch =>
      rw [harch] at h
      dsimp only at h ⊢
      by_cases hsize : sizeAccepted job b arch = true
      · rw [if_pos hsize] at h
        rw [if_pos hsize]
        cases hdec : incrementalDecision job b flash with
        | none => exact ⟨rfl, by intro hend; cases hend⟩
        | some cached =>
            rw [hdec] at h
            exact tryLoop_none job cached b.attempts eeprom 3 0 _ h
      · rw [if_neg hsize]
        exact ⟨rfl, by intro hend; cases hend⟩

/-- **A run that gets through all blocks**, in round `t`. -/
theorem cmdFlash_round {t : Nat} (h : flashRound job b flash = some t) :
    ∃ cached, incrementalDecision job b flash = some cached ∧
      (cmdFlash job b flash eeprom).incremental = cached.isSome ∧
      RoundsDone job cached (b.attempts t) eeprom ⟨flash, false⟩
        (cmdFlash job b flash eeprom) := by
  unfold flashRound at h
  unfold cmdFlash
  cases harch : b.arch with
  | none =>
      rw [harch] at h
      cases h
  | some arch =>
      rw [harch] at h
      dsimp only at h ⊢
      by_cases hsize : sizeAccepted job b arch = true
      · rw [if_pos hsize] at h
        rw [if_pos hsize]
        cases hdec : incrementalDecision job b flash with
        | none =>
            rw [hdec] at h
            cases h
        | some cached =>
            rw [hdec] at h
            exact ⟨cached, rfl, tryLoop_incremental job cached b.attempts eeprom 3 0 _,
              tryLoop_final job cached b.attempts eeprom 3 0 _ h⟩
      · rw [if_neg hsize] at h
        cases h

end

end OpenHcan.Flash
