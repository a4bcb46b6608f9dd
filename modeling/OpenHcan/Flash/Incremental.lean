import OpenHcan.Flash.CmdFlash

/-!
# Incremental — when an incremental flash run is as good as a full one

The incremental mode leaves out the blocks in which the new hexfile equals the
cached one. It relies on the board holding the cached hexfile, which it
concludes from one checksum: the board's over the NEW size against the cached
file's over its own. The sizes themselves are not compared.

That two byte strings of one length with one checksum are equal is assumed
where the code relies on it, for the two pairs of strings of the run.
-/

namespace OpenHcan.Flash

set_option maxRecDepth 100000

/-- The checksum of a byte string. -/
def crc16Bytes (xs : List UInt8) : UInt16 :=
  crc16Words (fun i => xs.getD (2 * i) 0) (fun i => xs.getD (2 * i + 1) 0) (xs.length / 2)

/-- The first bytes of the program memory. -/
def flashBytes (flash : FlashMemory) (size : Nat) : List UInt8 := (List.range size).map flash

/-- Equal length and checksum mean equal strings, for these two. -/
def NoCollision (xs ys : List UInt8) : Prop :=
  xs.length = ys.length → crc16Bytes xs = crc16Bytes ys → xs = ys

theorem flashBytes_length (flash : FlashMemory) (size : Nat) :
    (flashBytes flash size).length = size := by
  simp [flashBytes]

theorem flashBytes_getD {flash : FlashMemory} {size x : Nat} (hx : x < size) :
    (flashBytes flash size).getD x 0 = flash x := by
  simp [flashBytes, hx]

/-- The board's checksum is the one of its bytes. -/
theorem crc16Bytes_flashBytes (flash : FlashMemory) (size : Nat) :
    crc16Bytes (flashBytes flash size) = calculateCrc16OverFlash flash size := by
  unfold crc16Bytes calculateCrc16OverFlash
  rw [flashBytes_length]
  apply crc16Words_congr
  · intro i hi
    exact flashBytes_getD (by omega)
  · intro i hi
    exact flashBytes_getD (by omega)

theorem Ihexfile.crc16_eq {pageSize : Nat} (h : Ihexfile pageSize) :
    h.crc16 = crc16Bytes h.data := rfl

/-- A page memory that agrees with a string of that length, byte by byte. -/
theorem flashBytes_eq {flash : FlashMemory} {xs : List UInt8} {size : Nat}
    (h : flashBytes flash size = xs) {x : Nat} (hx : x < size) : flash x = xs.getD x 0 := by
  rw [← h, flashBytes_getD hx]

/-! ## The comparison of a block -/

section

variable {pageSize : Nat} (hexfile cached : Ihexfile pageSize) (heap : Nat → UInt8) (offset : Nat)

theorem compareLoop_equal (n : Nat) :
    ∀ i, (compareLoop hexfile cached heap offset n i).1 = true ↔
      ∀ j, i ≤ j → j < i + n →
        hexfile.byte (offset + j) = cachedByte cached heap (offset + j) := by
  induction n with
  | zero =>
      intro i
      exact ⟨fun _ j h1 h2 => by omega, fun _ => rfl⟩
  | succ n ih =>
      intro i
      unfold compareLoop
      dsimp only
      by_cases heq : hexfile.byte (offset + i) = cachedByte cached heap (offset + i)
      · rw [if_neg (not_not.mpr heq)]
        dsimp only
        rw [ih (i + 1)]
        constructor
        · intro h j h1 h2
          by_cases hj : j = i
          · exact hj ▸ heq
          · exact h j (by omega) (by omega)
        · intro h j h1 h2
          exact h j (by omega) (by omega)
      · rw [if_pos heq]
        exact ⟨fun h => (by cases h), fun h => absurd (h i (Nat.le_refl _) (by omega)) heq⟩

theorem compareLoop_inside (n : Nat) :
    ∀ i, offset + i + n ≤ cached.data.length →
      (compareLoop hexfile cached heap offset n i).2 = false := by
  induction n with
  | zero => intro i _; rfl
  | succ n ih =>
      intro i h
      unfold compareLoop
      dsimp only
      have hin : decide (cached.data.length ≤ offset + i) = false := by
        rw [decide_eq_false_iff_not]
        omega
      split
      · exact hin
      · dsimp only
        rw [hin, ih (i + 1) (by omega)]
        rfl

theorem compareLoop_outside {n i : Nat} (hn : 0 < n) (h : cached.data.length ≤ offset + i) :
    (compareLoop hexfile cached heap offset n i).2 = true := by
  cases n with
  | zero => exact absurd hn (Nat.lt_irrefl 0)
  | succ n =>
      unfold compareLoop
      dsimp only
      have hout : decide (cached.data.length ≤ offset + i) = true := decide_eq_true h
      split
      · exact hout
      · dsimp only
        rw [hout]
        rfl

end

/-! ## What the decision and the last comparison tell -/

/-- The incremental mode is enabled by equal checksums. -/
theorem incrementalDecision_some {pageSize : Nat} {job : FlashJob pageSize} {b : Behaviour}
    {flash : FlashMemory} {c : Ihexfile pageSize}
    (h : incrementalDecision job b flash = some (some c)) :
    job.cached = some c ∧ calculateCrc16OverFlash flash job.hexfile.size = c.crc16 := by
  unfold incrementalDecision at h
  split at h
  · split at h
    · split at h
      · cases h
      · rename_i c' hc
        split at h
        · split at h
          · rename_i hcrc
            obtain rfl := Option.some.inj (Option.some.inj h)
            exact ⟨hc, hcrc⟩
          · cases h
        · cases h
    · cases h
  · cases h

/-- All exchanges of the last phase get through, so that the host compares. -/
def CrcPhase.Compared (p : CrcPhase) : Prop :=
  p.answered = true ∧ p.crcLo = .done ∧ p.crcHi = .done ∧ p.sizeLo = .done ∧ p.sizeHi = .done

theorem crcPhase_compared {pageSize : Nat} {job : FlashJob pageSize} {p : CrcPhase}
    {s : FlashState} {eeprom : Eeprom} (hp : p.Compared)
    (h : (crcPhase job p s eeprom).2 = .completed) :
    calculateCrc16OverFlash s.flash job.hexfile.size = job.hexfile.crc16 := by
  obtain ⟨hanswer, h1, h2, h3, h4⟩ := hp
  have hacked : ∀ crc size e, (saveCrc16ToBoard p crc size e).2 = true := by
    intro crc size e
    unfold saveCrc16ToBoard
    rw [h1, h2, h3, h4]
    rfl
  unfold crcPhase at h
  rw [if_pos hanswer] at h
  dsimp only at h
  by_contra hne
  rw [if_pos ⟨hacked _ _ _, hne⟩] at h
  cases h

/-! ## Incremental and full -/

section

variable {mcu : Mcu}

theorem sizeOfFlashbuffer_pos (mcu : Mcu) : 0 < sizeOfFlashbuffer mcu := by
  cases mcu <;> decide

theorem sizeOfFlashbuffer_dvd (mcu : Mcu) : sizeOfFlashbuffer mcu ∣ 65536 := by
  cases mcu <;> decide

theorem Ihexfile.page_dvd_size (h : Ihexfile (sizeOfFlashbuffer mcu)) :
    sizeOfFlashbuffer mcu ∣ h.size :=
  (Nat.dvd_mod_iff (sizeOfFlashbuffer_dvd mcu)).mpr (h.pageSize_dvd (sizeOfFlashbuffer_pos mcu))

/-- A byte below the size lies in a block of the loop. -/
theorem block_lt {h : Ihexfile (sizeOfFlashbuffer mcu)} {x : Nat} (hx : x < h.size) :
    x / sizeOfFlashbuffer mcu < h.size / sizeOfFlashbuffer mcu := by
  rw [Nat.div_lt_iff_lt_mul (sizeOfFlashbuffer_pos mcu), Nat.div_mul_cancel h.page_dvd_size]
  exact hx

variable (job : FlashJob (sizeOfFlashbuffer mcu)) (b : Behaviour) (flash : FlashMemory)

/-- The bytes of the blocks left out are on the board already. -/
def SkippedRight (c : Ihexfile (sizeOfFlashbuffer mcu)) : Prop :=
  ∀ x, x < job.hexfile.size → Skipped job (some c) (x / sizeOfFlashbuffer mcu) →
    flash x = job.hexfile.byte x

/-- The transfers of a round leave the bytes they should. -/
def TransferredRight (c : Ihexfile (sizeOfFlashbuffer mcu)) (a : Attempt) : Prop :=
  ∀ x, x < job.hexfile.size → ¬ Skipped job (some c) (x / sizeOfFlashbuffer mcu) →
    (a.block (x / sizeOfFlashbuffer mcu)).left (x % sizeOfFlashbuffer mcu) = job.hexfile.byte x

/-- The cached hexfile is at least as long as the new one; and the checksums
are compared at the end (and the hexfile fits its 16-bit size), or every
block is right by itself: the transferred ones as they were stored, the ones
left out because the cached file has the new size or because they were there. -/
def IncrementalSafe : Prop :=
  ∃ c t, job.cached = some c ∧ flashRound job b flash = some t ∧
    job.hexfile.size ≤ c.data.length ∧
    (((b.attempts t).crc.Compared ∧ job.hexfile.data.length < 65536) ∨
      ((c.data.length = job.hexfile.size ∨ SkippedRight job flash c) ∧
        TransferredRight job c (b.attempts t)))

/-- The comparisons read outside the cached hexfile exactly if it is shorter. -/
theorem outside_iff (c : Ihexfile (sizeOfFlashbuffer mcu)) :
    (∃ block, block < job.hexfile.size / sizeOfFlashbuffer mcu ∧
      (compareBlock job (some c) block).2 = true) ↔ c.data.length < job.hexfile.size := by
  have hpos := sizeOfFlashbuffer_pos mcu
  obtain ⟨blocks, hblocks⟩ := job.hexfile.page_dvd_size
  obtain ⟨cachedBlocks, hcached⟩ := c.pageSize_dvd hpos
  rw [hblocks, Nat.mul_div_cancel_left _ hpos]
  constructor
  · rintro ⟨block, hlt, hout⟩
    by_contra hle
    have hbound : block * sizeOfFlashbuffer mcu + 0 + sizeOfFlashbuffer mcu ≤ c.data.length := by
      have hmul := Nat.mul_le_mul_left (sizeOfFlashbuffer mcu) (Nat.succ_le_of_lt hlt)
      rw [Nat.mul_succ, Nat.mul_comm] at hmul
      omega
    have hin := compareLoop_inside job.hexfile c job.heap (block * sizeOfFlashbuffer mcu)
      (sizeOfFlashbuffer mcu) 0 hbound
    exact Bool.noConfusion (hin.symm.trans hout)
  · intro hlt
    rw [hcached] at hlt
    refine ⟨cachedBlocks, Nat.lt_of_mul_lt_mul_left hlt, ?_⟩
    apply compareLoop_outside _ _ _ _ hpos
    rw [hcached, Nat.mul_comm]
    exact Nat.le_refl _

/-- With a cached hexfile of the new size the board holds the blocks left out. -/
theorem skippedRight_of_length {c : Ihexfile (sizeOfFlashbuffer mcu)}
    (hcrc : calculateCrc16OverFlash flash job.hexfile.size = c.crc16)
    (hboard : NoCollision (flashBytes flash job.hexfile.size) c.data)
    (hlength : c.data.length = job.hexfile.size) : SkippedRight job flash c := by
  intro x hx hskip
  have hsame := hboard (by rw [flashBytes_length, hlength])
    (by rw [crc16Bytes_flashBytes, hcrc, Ihexfile.crc16_eq])
  have hequal := (compareLoop_equal job.hexfile c job.heap
    (x / sizeOfFlashbuffer mcu * sizeOfFlashbuffer mcu) _ 0).mp hskip
    (x % sizeOfFlashbuffer mcu) (Nat.zero_le _)
    (by rw [Nat.zero_add]; exact Nat.mod_lt _ (sizeOfFlashbuffer_pos mcu))
  rw [Nat.div_add_mod'] at hequal
  rw [hequal, flashBytes_eq hsame hx]
  unfold cachedByte Ihexfile.byte
  rw [if_pos (by omega)]

variable {job b flash}

/-- What a completed incremental run leaves, block by block. -/
theorem incremental_run {eeprom : Eeprom}
    (hincr : (cmdFlash job b flash eeprom).incremental = true)
    (hdone : (cmdFlash job b flash eeprom).ended = .completed) :
    ∃ c t, job.cached = some c ∧ flashRound job b flash = some t ∧
      calculateCrc16OverFlash flash job.hexfile.size = c.crc16 ∧
      RoundsDone job (some c) (b.attempts t) eeprom ⟨flash, false⟩
        (cmdFlash job b flash eeprom) := by
  cases hround : flashRound job b flash with
  | none => exact absurd hdone (cmdFlash_no_round job b flash eeprom hround).2
  | some t =>
      obtain ⟨cached, hdec, hflag, hrun⟩ := cmdFlash_round job b flash eeprom hround
      cases cached with
      | none =>
          rw [hincr] at hflag
          cases hflag
      | some c =>
          obtain ⟨hcached, hcrc⟩ := incrementalDecision_some hdec
          exact ⟨c, t, hcached, rfl, hcrc, hrun⟩

/-- **Incremental and full flash**: a completed incremental run leaves the new
hexfile on the board and has not read outside the cached one if and only if it
is safe. -/
theorem incremental_equals_full_iff {eeprom : Eeprom}
    (hincr : (cmdFlash job b flash eeprom).incremental = true)
    (hdone : (cmdFlash job b flash eeprom).ended = .completed)
    (hboard : ∀ c, job.cached = some c →
      NoCollision (flashBytes flash job.hexfile.size) c.data)
    (hnew : NoCollision (flashBytes (cmdFlash job b flash eeprom).flash job.hexfile.size)
      job.hexfile.data) :
    ((∀ x, x < job.hexfile.size →
        (cmdFlash job b flash eeprom).flash x = job.hexfile.byte x) ∧
      (cmdFlash job b flash eeprom).outside = false) ↔ IncrementalSafe job b flash := by
  obtain ⟨c, t, hcached, hround, hcrc, hrun⟩ := incremental_run hincr hdone
  have houtside : (cmdFlash job b flash eeprom).outside = false ↔
      job.hexfile.size ≤ c.data.length := by
    rw [← Bool.not_eq_true, hrun.outside, outside_iff]
    simp
  rw [houtside]
  constructor
  · rintro ⟨hflash, hlength⟩
    refine ⟨c, t, hcached, hround, hlength, .inr ⟨.inr ?_, ?_⟩⟩
    · intro x hx hskip
      exact (hrun.kept x hskip).symm.trans (hflash x hx)
    · intro x hx hskip
      exact (hrun.stored x (block_lt hx) hskip).symm.trans (hflash x hx)
  · rintro ⟨c', t', hcached', hround', hlength, hcases⟩
    obtain rfl : c = c' := Option.some.inj (hcached.symm.trans hcached')
    obtain rfl : t = t' := Option.some.inj (hround.symm.trans hround')
    refine ⟨fun x hx => ?_, hlength⟩
    rcases hcases with ⟨hcompared, hfits⟩ | ⟨hskipped, htransferred⟩
    · -- the last comparison vouches for every byte
      have hended := congrArg Prod.snd hrun.crc
      have hfinal := crcPhase_compared hcompared (hended.symm.trans hdone)
      have hsize : job.hexfile.size = job.hexfile.data.length := Nat.mod_eq_of_lt hfits
      have hsame := hnew (by rw [flashBytes_length, hsize])
        (by rw [crc16Bytes_flashBytes, hfinal, Ihexfile.crc16_eq])
      exact flashBytes_eq hsame hx
    · by_cases hskip : Skipped job (some c) (x / sizeOfFlashbuffer mcu)
      · have hright : SkippedRight job flash c := by
          rcases hskipped with hlen | hright
          · exact skippedRight_of_length job flash hcrc (hboard c hcached) hlen
          · exact hright
        exact (hrun.kept x hskip).trans (hright x hx hskip)
      · exact (hrun.stored x (block_lt hx) hskip).trans (htransferred x hx hskip)

end

/-! ### A cached hexfile that is too short -/

section Example

theorem crcPhase_match {pageSize : Nat} {job : FlashJob pageSize} {p : CrcPhase}
    {s : FlashState} {eeprom : Eeprom}
    (h : calculateCrc16OverFlash s.flash job.hexfile.size = job.hexfile.crc16) :
    (crcPhase job p s eeprom).2 = .completed := by
  unfold crcPhase
  split
  · dsimp only
    rw [if_neg (fun hne => hne.2 h)]
  · rfl

/-- A program memory with the bytes of a hexfile has its checksum. -/
theorem crc16_of_right {pageSize : Nat} {h : Ihexfile pageSize} {flash : FlashMemory}
    (hfits : h.data.length < 65536) (hright : ∀ x, x < h.size → flash x = h.byte x) :
    calculateCrc16OverFlash flash h.size = h.crc16 := by
  have hsize : h.size = h.data.length := Nat.mod_eq_of_lt hfits
  unfold calculateCrc16OverFlash Ihexfile.crc16
  rw [← hsize]
  apply crc16Words_congr
  · intro i hi
    exact hright _ (by omega)
  · intro i hi
    exact hright _ (by omega)

theorem noCollision_of_right {pageSize : Nat} {h : Ihexfile pageSize} {flash : FlashMemory}
    (hright : ∀ x, x < h.size → flash x = h.byte x) :
    NoCollision (flashBytes flash h.size) h.data := by
  intro hlength _
  rw [flashBytes_length] at hlength
  apply List.ext_getElem
  · rw [flashBytes_length, hlength]
  · intro x hx hx'
    rw [flashBytes_length] at hx
    have hbyte := hright x hx
    unfold Ihexfile.byte at hbyte
    rw [List.getD_eq_getElem?_getD, List.getElem?_eq_getElem hx'] at hbyte
    simpa [flashBytes] using hbyte

/-- A run in which every exchange gets through at the first attempt. -/
private def allAcked (left : Nat → Nat → UInt8) : Behaviour where
  arch := some 0x11
  atOwnRisk := false
  bootStop := true
  cacheQuery := true
  attempts := fun _ =>
    { block := fun n => ⟨left n, true⟩
      crc := ⟨true, .done, .done, .done, .done⟩
      reset := true }

section

variable {job : FlashJob (sizeOfFlashbuffer .atmega32)} {flash : FlashMemory}
  {c : Ihexfile (sizeOfFlashbuffer .atmega32)}

private theorem allAcked_decision (left : Nat → Nat → UInt8) (hincr : job.incrementalFlash = true)
    (hcached : job.cached = some c)
    (hcrc : calculateCrc16OverFlash flash job.hexfile.size = c.crc16) :
    incrementalDecision job (allAcked left) flash = some (some c) := by
  unfold incrementalDecision
  rw [if_pos hincr, hcached]
  exact if_pos hcrc

/-- Such a run gets through at once, with the page contents the board leaves. -/
private theorem allAcked_run (left : Nat → Nat → UInt8) (hincr : job.incrementalFlash = true)
    (hcached : job.cached = some c) (hsize : job.hexfile.size ≤ 28672)
    (hcrc : calculateCrc16OverFlash flash job.hexfile.size = c.crc16) (eeprom : Eeprom) :
    (cmdFlash job (allAcked left) flash eeprom).incremental = true ∧
      RoundsDone job (some c) ((allAcked left).attempts 0) eeprom ⟨flash, false⟩
        (cmdFlash job (allAcked left) flash eeprom) := by
  have hdec := allAcked_decision left hincr hcached hcrc
  have haccepted : sizeAccepted job (allAcked left) 0x11 = true := decide_eq_true hsize
  have hround : flashRound job (allAcked left) flash = some 0 := by
    unfold flashRound
    show (if sizeAccepted job (allAcked left) 0x11 = true then _ else none) = some 0
    rw [if_pos haccepted, hdec]
    dsimp only
    have hall : AllAcked job (some c) ((allAcked left).attempts 0) := fun _ _ _ => rfl
    rw [finalRound_succ, if_pos hall]
  obtain ⟨cached, hdec', hflag, hrun⟩ := cmdFlash_round job _ flash eeprom hround
  obtain rfl := Option.some.inj (hdec.symm.trans hdec')
  exact ⟨hflag, hrun⟩

/-- If the board leaves the bytes of the hexfile, the run completes. -/
private theorem allAcked_completed (left : Nat → Nat → UInt8)
    (hincr : job.incrementalFlash = true) (hcached : job.cached = some c)
    (hsize : job.hexfile.size ≤ 28672) (hfits : job.hexfile.data.length < 65536)
    (hcrc : calculateCrc16OverFlash flash job.hexfile.size = c.crc16) (eeprom : Eeprom)
    (hright : ∀ x, x < job.hexfile.size →
      (cmdFlash job (allAcked left) flash eeprom).flash x = job.hexfile.byte x) :
    (cmdFlash job (allAcked left) flash eeprom).ended = .completed := by
  have hrun := (allAcked_run left hincr hcached hsize hcrc eeprom).2
  have hended := congrArg Prod.snd hrun.crc
  rw [crcPhase_match (crc16_of_right hfits hright)] at hended
  exact hended

end

private theorem shortFile_ends :
    padding (sizeOfFlashbuffer .atmega32)
      ((0xff : UInt8) :: 0xff :: List.replicate 125 0).length ≤ 255 := by
  simp [padding, sizeOfFlashbuffer]

/-- One page: 0xffff, zeros, and the padding byte 0xff. -/
private def shortFile : Ihexfile (sizeOfFlashbuffer .atmega32) := ⟨_, shortFile_ends⟩

private theorem longFile_ends :
    padding (sizeOfFlashbuffer .atmega32)
      ((1 : UInt8) :: List.replicate 199 0).length ≤ 255 := by
  decide

/-- Two pages: a one, zeros, and the padding. -/
private def longFile : Ihexfile (sizeOfFlashbuffer .atmega32) := ⟨_, longFile_ends⟩

/-- The program memory with 0xffff, zeros, and 0xff at `last`. -/
private def zerosUpTo (last : Nat) : FlashMemory :=
  fun x => if x < 2 ∨ x = last then 0xff else 0

private theorem zerosUpTo_crc16 (n : Nat) :
    calculateCrc16OverFlash (zerosUpTo (2 * n + 3)) (2 * n + 4) = 0xf041 := by
  have hwords : (2 * n + 4) / 2 = n + 1 + 1 := by omega
  have hlast : zerosUpTo (2 * n + 3) (2 * (n + 1) + 1) = 0xff ∧
      zerosUpTo (2 * n + 3) (2 * (n + 1)) = 0 := by
    unfold zerosUpTo
    rw [if_pos (by omega), if_neg (by omega)]
    exact ⟨rfl, rfl⟩
  unfold calculateCrc16OverFlash
  rw [hwords, crc16Words_succ, hlast.1, hlast.2, crc16Words_zero]
  · decide
  · exact ⟨rfl, rfl⟩
  · intro i h1 hi
    unfold zerosUpTo
    rw [if_neg (by omega), if_neg (by omega)]
    exact ⟨rfl, rfl⟩

private theorem shortFile_byte : ∀ x, x < shortFile.size → zerosUpTo 127 x = shortFile.byte x := by
  decide

private theorem shortFile_crc16 : shortFile.crc16 = 0xf041 := by
  have hsize : shortFile.size = 2 * 62 + 4 := by decide
  have hfits : shortFile.data.length < 65536 := by decide
  rw [← crc16_of_right hfits shortFile_byte, hsize]
  exact zerosUpTo_crc16 62

/-- The new hexfile is the one on the board: nothing has to be transferred. -/
private def sameJob : FlashJob (sizeOfFlashbuffer .atmega32) where
  hexfile := shortFile
  incrementalFlash := true
  cached := some shortFile
  heap := fun _ => 0

private theorem shortFile_fits : shortFile.data.length < 65536 := by
  decide

private theorem sameJob_right (x : Nat) (hx : x < sameJob.hexfile.size) :
    (cmdFlash sameJob (allAcked fun _ _ => 0) (zerosUpTo 127) (fun _ => 0xff)).flash x =
      sameJob.hexfile.byte x := by
  have hcrc : calculateCrc16OverFlash (zerosUpTo 127) sameJob.hexfile.size = shortFile.crc16 :=
    crc16_of_right shortFile_fits shortFile_byte
  have hrun := (allAcked_run (fun _ _ => 0) rfl rfl (by decide) hcrc
    (fun _ => 0xff)).2
  have hskip : Skipped sameJob (some shortFile) (x / sizeOfFlashbuffer .atmega32) := by
    have hsize : sameJob.hexfile.size = 128 := by decide
    rw [hsize] at hx
    have hzero : x / sizeOfFlashbuffer .atmega32 = 0 := Nat.div_eq_of_lt hx
    rw [hzero]
    decide
  exact (hrun.kept x hskip).trans (shortFile_byte x hx)

theorem incremental_equals_full_iff_same :
    ((∀ x, x < sameJob.hexfile.size →
        (cmdFlash sameJob (allAcked fun _ _ => 0) (zerosUpTo 127) (fun _ => 0xff)).flash x =
          sameJob.hexfile.byte x) ∧
      (cmdFlash sameJob (allAcked fun _ _ => 0) (zerosUpTo 127) (fun _ => 0xff)).outside =
        false) ↔
      IncrementalSafe sameJob (allAcked fun _ _ => 0) (zerosUpTo 127) := by
  have hcrc : calculateCrc16OverFlash (zerosUpTo 127) sameJob.hexfile.size = shortFile.crc16 :=
    crc16_of_right shortFile_fits shortFile_byte
  have hsize : sameJob.hexfile.size ≤ 28672 := by decide
  refine incremental_equals_full_iff (allAcked_run _ rfl rfl hsize hcrc _).1
    (allAcked_completed _ rfl rfl hsize shortFile_fits hcrc _ sameJob_right) ?_
    (noCollision_of_right sameJob_right)
  intro c hc
  obtain rfl : shortFile = c := Option.some.inj hc
  exact noCollision_of_right shortFile_byte

/-- A hexfile of two pages, while one page is cached. The board holds two pages
with the checksum of the cached one. -/
private def longJob : FlashJob (sizeOfFlashbuffer .atmega32) where
  hexfile := longFile
  incrementalFlash := true
  cached := some shortFile
  heap := fun _ => 1

/-- The board stores every block as it is sent. -/
private def storesLong : Nat → Nat → UInt8 :=
  fun block x => longFile.byte (block * 128 + x)

private theorem longJob_size : longJob.hexfile.size = 256 := by
  decide

private theorem longJob_crc :
    calculateCrc16OverFlash (zerosUpTo 255) longJob.hexfile.size = shortFile.crc16 := by
  rw [longJob_size, shortFile_crc16]
  exact zerosUpTo_crc16 126

private theorem longJob_right (x : Nat) (hx : x < longJob.hexfile.size) :
    (cmdFlash longJob (allAcked storesLong) (zerosUpTo 255) (fun _ => 0xff)).flash x =
      longJob.hexfile.byte x := by
  have hrun := (allAcked_run storesLong rfl rfl (by decide) longJob_crc
    (fun _ => 0xff)).2
  have hskip : ∀ block, block < 2 → ¬ Skipped longJob (some shortFile) block := by
    decide
  have hblock : x / sizeOfFlashbuffer .atmega32 < 2 := by
    rw [longJob_size] at hx
    exact Nat.div_lt_of_lt_mul hx
  rw [hrun.stored x (block_lt hx) (hskip _ hblock)]
  show longFile.byte (x / 128 * 128 + x % 128) = longFile.byte x
  rw [Nat.div_add_mod']

/-- **A read outside the cached hexfile**: the checksums agree, the cached
hexfile is one page short, and everything else goes well. -/
theorem incremental_reads_outside :
    ¬ ∀ (mcu : Mcu) (job : FlashJob (sizeOfFlashbuffer mcu)) (b : Behaviour)
      (flash : FlashMemory) (eeprom : Eeprom),
      (cmdFlash job b flash eeprom).incremental = true →
      (cmdFlash job b flash eeprom).ended = .completed →
      (∀ c, job.cached = some c → NoCollision (flashBytes flash job.hexfile.size) c.data) →
      NoCollision (flashBytes (cmdFlash job b flash eeprom).flash job.hexfile.size)
        job.hexfile.data →
        (∀ x, x < job.hexfile.size →
          (cmdFlash job b flash eeprom).flash x = job.hexfile.byte x) ∧
        (cmdFlash job b flash eeprom).outside = false := by
  intro hall
  have hsize : longJob.hexfile.size ≤ 28672 := by decide
  have hfits : longJob.hexfile.data.length < 65536 := by decide
  obtain ⟨hincr, hrun⟩ := allAcked_run storesLong rfl rfl hsize longJob_crc (fun _ => 0xff)
  have hboard : ∀ c, longJob.cached = some c →
      NoCollision (flashBytes (zerosUpTo 255) longJob.hexfile.size) c.data := by
    intro c hc hlength
    obtain rfl : shortFile = c := Option.some.inj hc
    rw [flashBytes_length, longJob_size] at hlength
    exact absurd hlength (by decide)
  have hinside := (hall .atmega32 longJob (allAcked storesLong) (zerosUpTo 255) (fun _ => 0xff)
    hincr (allAcked_completed _ rfl rfl hsize hfits longJob_crc _ longJob_right) hboard
    (noCollision_of_right longJob_right)).2
  have hshort : shortFile.data.length < longJob.hexfile.size := by decide
  have houtside := hrun.outside.mpr (.inr ((outside_iff longJob shortFile).mpr hshort))
  exact Bool.noConfusion (hinside.symm.trans houtside)

end Example

end OpenHcan.Flash
