import Mathlib.Data.List.Induction
import Mathlib.Tactic.Ring
import OpenHcan.HcanData.DataFileRuns
import OpenHcan.Host.OapAccess

/-!
# Archive — the daemon that writes a file for each day (`hcanswd/main.cc`)

`run_archive_mode` opens the file of the day, writes what it receives, and looks
after each frame whether the name of the file would be another one now. The frame
it looks after is in the file already: the first frame of a day may end the file of
a day before. `archive_tage` says that this is all that is misplaced, and
`archive_liest_alles` that no frame is lost between two files.

Left out are what `transport_connection` does, and with it the frames that are on
the bus while the daemon is between two files.
-/

namespace OpenHcan.HcanData

open Lib (run Guarded run_append run_guarded guarded_append printU)
open Host.OapField (setw2 decimal_setw2)

/-! ## The daemon -/

/-- The date in a `struct tm`, as `generate_filename` prints it. -/
structure Tm where
  year : Nat
  mon : Nat
  mday : Nat
deriving DecidableEq, Repr

/-- `generate_filename`, at the time `now`. `%02d` prints what `setw(2)` does. -/
def generateFilename (localtime : UInt64 → Tm) (now : UInt64) : List Char :=
  let t := localtime now
  printU t.year ++ setw2 t.mon ++ setw2 t.mday ++ ".hdump".toList

/-- A frame that is received: its entry with the time `write_frame` asks for, the
bytes the kernel takes of it, and the time of the look at the name behind it. -/
structure Arrival where
  entry : DataFileFrameEntry
  k : Nat
  checked : UInt64

/-- A turn of the outer loop: the time the name of the file is made at, the time it
is opened, and the frames that arrive until the daemon is told to reload or to quit. -/
structure ArchiveTurn where
  named : UInt64
  opened : UInt64
  arrivals : List Arrival

/-- The directory: each file, and the frames written to it so far. -/
abbrev Directory := List Char → List UInt8 × List DataFileFrameEntry

section

variable (localtime : UInt64 → Tm)

/-- The inner loop: what it writes until the name of the file changes. -/
def innerLoop (filename : List Char) : List Arrival → List (DataFileFrameEntry × Nat)
  | [] => []
  | a :: arrivals =>
      (a.entry, a.k) ::
        if generateFilename localtime a.checked ≠ filename then []
        else innerLoop filename arrivals

/-- The session of a turn. An exception leaves through the destructor. -/
def ArchiveTurn.session (t : ArchiveTurn) : Session :=
  ⟨t.opened, innerLoop localtime (generateFilename localtime t.named) t.arrivals, true⟩

/-- A turn of `run_archive_mode`, of this start of the daemon or of a later one. -/
def archiveStep (dir : Directory) (t : ArchiveTurn) : Directory :=
  let filename := generateFilename localtime t.named
  Function.update dir filename (sessionStep (dir filename) (t.session localtime))

/-- The frames the turns write, in the order they arrive in. -/
def protokoll (turns : List ArchiveTurn) : List DataFileFrameEntry :=
  turns.flatMap fun t => written (t.session localtime).attempts

/-- What a turn reads from the clock. -/
def ArchiveTurn.times (t : ArchiveTurn) : List UInt64 :=
  t.named :: t.opened :: t.arrivals.flatMap fun a => [a.entry.timestamp, a.checked]

/-- The clock does not go back. -/
def ClockOk (turns : List ArchiveTurn) : Prop :=
  (turns.flatMap ArchiveTurn.times).Pairwise (· ≤ ·)

instance (turns : List ArchiveTurn) : Decidable (ClockOk turns) :=
  inferInstanceAs (Decidable (List.Pairwise _ _))

/-- The date as a number. -/
def Tm.datum (t : Tm) : Nat := (t.year * 100 + t.mon) * 100 + t.mday

/-- The date of a time. -/
def tag (t : UInt64) : Nat := (localtime t).datum

/-- What the daemon relies on of `localtime`: months and days have two digits, and a
later time has no earlier date. -/
structure Kalender : Prop where
  mon : ∀ t, (localtime t).mon < 100
  mday : ∀ t, (localtime t).mday < 100
  mono : ∀ t t', t ≤ t' → tag localtime t ≤ tag localtime t'

/-- No turn completes a record behind a torn one. -/
def TurnOk (dir : Directory) (t : ArchiveTurn) : Prop :=
  NotBehindTorn (dir (generateFilename localtime t.named)) (t.session localtime)

instance (dir : Directory) (t : ArchiveTurn) : Decidable (TurnOk localtime dir t) :=
  inferInstanceAs (Decidable (NotBehindTorn _ _))

end

variable {localtime : UInt64 → Tm}

/-! ## Names of files -/

theorem decimal_append (ds es : List Char) :
    Lib.decimal (ds ++ es) = Lib.decimal ds * 10 ^ es.length + Lib.decimal es := by
  induction es using List.reverseRecOn with
  | nil => simp [Lib.decimal]
  | append_singleton es e ih =>
      rw [← List.append_assoc]
      simp only [Lib.decimal, List.foldl_append, List.foldl_cons, List.foldl_nil, List.length_append,
        List.length_singleton] at ih ⊢
      rw [ih, pow_succ]
      ring

theorem length_setw2 {n : Nat} (h : n < 100) : (setw2 n).length = 2 := by
  have hall : ∀ n : Fin 100, (setw2 n.val).length = 2 := by decide
  exact hall ⟨n, h⟩

/-- The name of a file is the number of its date. -/
theorem decimal_filename (hk : Kalender localtime) (t : UInt64) :
    Lib.decimal (printU (localtime t).year ++ setw2 (localtime t).mon ++ setw2 (localtime t).mday)
      = tag localtime t := by
  rw [decimal_append, decimal_append, length_setw2 (hk.mon t), length_setw2 (hk.mday t),
    decimal_setw2, decimal_setw2, Lib.decimal_printU]
  rfl

theorem Tm.eq_of_datum {d d' : Tm} (hmon : d.mon < 100) (hmday : d.mday < 100)
    (hmon' : d'.mon < 100) (hmday' : d'.mday < 100) (h : d.datum = d'.datum) : d = d' := by
  obtain ⟨year, mon, mday⟩ := d
  obtain ⟨year', mon', mday'⟩ := d'
  simp only [datum] at h hmon hmday hmon' hmday'
  have hyear : year = year' ∧ mon = mon' ∧ mday = mday' := by omega
  obtain ⟨rfl, rfl, rfl⟩ := hyear
  rfl

/-- Two times have a file in common when they have the date in common. -/
theorem generateFilename_eq_iff (hk : Kalender localtime) (t t' : UInt64) :
    generateFilename localtime t = generateFilename localtime t' ↔
      tag localtime t = tag localtime t' := by
  constructor
  · intro h
    rw [← decimal_filename hk t, ← decimal_filename hk t']
    exact congrArg Lib.decimal (List.append_cancel_right h)
  · intro h
    have hsame := Tm.eq_of_datum (hk.mon t) (hk.mday t) (hk.mon t') (hk.mday t') h
    rw [generateFilename, generateFilename, hsame]

/-! ## One turn -/

theorem written_cons {e : DataFileFrameEntry} {k : Nat} {l : List (DataFileFrameEntry × Nat)} :
    written ((e, k) :: l) = if k < sizeofEntry then [] else e :: written l := rfl

/-- A turn writes frames that arrive. -/
theorem mem_written_innerLoop {filename : List Char} {arrivals : List Arrival}
    {e : DataFileFrameEntry} (h : e ∈ written (innerLoop localtime filename arrivals)) :
    ∃ a ∈ arrivals, a.entry = e := by
  induction arrivals with
  | nil => cases h
  | cons a arrivals ih =>
      rw [innerLoop, written_cons] at h
      split at h
      · cases h
      · rcases List.mem_cons.mp h with rfl | h
        · exact ⟨a, List.mem_cons_self, rfl⟩
        · split at h
          · cases h
          · obtain ⟨b, hb, hentry⟩ := ih h
            exact ⟨b, List.mem_cons_of_mem a hb, hentry⟩

/-- Behind each frame but the last the name of the file is looked at and found to be
the same. -/
theorem checked_of_written {filename : List Char} {arrivals : List Arrival}
    {e : DataFileFrameEntry} (h : e ∈ (written (innerLoop localtime filename arrivals)).dropLast) :
    ∃ a ∈ arrivals, a.entry = e ∧ generateFilename localtime a.checked = filename := by
  induction arrivals with
  | nil => cases h
  | cons a arrivals ih =>
      rw [innerLoop, written_cons] at h
      split at h
      · cases h
      · split at h
        · cases h
        · next hname =>
            rw [List.dropLast_cons_of_ne_nil (fun hnil => by simp [hnil] at h)] at h
            rcases List.mem_cons.mp h with rfl | h
            · exact ⟨a, List.mem_cons_self, rfl, by simpa using hname⟩
            · obtain ⟨b, hb, hentry⟩ := ih h
              exact ⟨b, List.mem_cons_of_mem a hb, hentry⟩

/-! ## The clock -/

theorem ClockOk.init {turns : List ArchiveTurn} {t : ArchiveTurn} (h : ClockOk (turns ++ [t])) :
    ClockOk turns := by
  rw [ClockOk, List.flatMap_append, List.pairwise_append] at h
  exact h.1

/-- The last turn comes after the others. -/
theorem ClockOk.before {turns : List ArchiveTurn} {t u : ArchiveTurn} {x : UInt64}
    (h : ClockOk (turns ++ [t])) (hu : u ∈ turns) (hx : x ∈ u.times) : x ≤ t.named := by
  rw [ClockOk, List.flatMap_append, List.pairwise_append] at h
  refine h.2.2 x (List.mem_flatMap.mpr ⟨u, hu, hx⟩) t.named ?_
  simp [ArchiveTurn.times]

theorem ClockOk.named {turns : List ArchiveTurn} {t u : ArchiveTurn}
    (h : ClockOk (turns ++ [t])) (hu : u ∈ turns) : u.named ≤ t.named :=
  h.before hu List.mem_cons_self

/-- A turn makes the name, receives a frame, and looks at the name again. -/
theorem ClockOk.turn {turns : List ArchiveTurn} {t : ArchiveTurn} (h : ClockOk turns)
    (ht : t ∈ turns) {a : Arrival} (ha : a ∈ t.arrivals) :
    t.named ≤ a.entry.timestamp ∧ a.entry.timestamp ≤ a.checked := by
  obtain ⟨pre, post, rfl⟩ := List.append_of_mem ht
  rw [ClockOk, List.flatMap_append, List.flatMap_cons, List.pairwise_append,
    List.pairwise_append] at h
  have htimes : t.times.Pairwise (· ≤ ·) := h.2.1.1
  rw [ArchiveTurn.times, List.pairwise_cons, List.pairwise_cons] at htimes
  constructor
  · refine htimes.1 _ (List.mem_cons_of_mem _ (List.mem_flatMap.mpr ⟨a, ha, ?_⟩))
    simp
  · obtain ⟨apre, apost, happ⟩ := List.append_of_mem ha
    have harrivals := htimes.2.2
    rw [happ, List.flatMap_append, List.flatMap_cons, List.pairwise_append,
      List.pairwise_append] at harrivals
    have hpair := harrivals.2.1.1
    simpa using hpair

/-- A frame belongs to the day of its turn, or to a later one. -/
theorem tag_written (hk : Kalender localtime) {turns : List ArchiveTurn} (h : ClockOk turns)
    {t : ArchiveTurn} (ht : t ∈ turns) {e : DataFileFrameEntry}
    (he : e ∈ written (t.session localtime).attempts) :
    tag localtime t.named ≤ tag localtime e.timestamp := by
  obtain ⟨a, ha, rfl⟩ := mem_written_innerLoop he
  exact hk.mono _ _ (h.turn ht ha).1

/-- Only the last one may belong to a later one. -/
theorem tag_dropLast (hk : Kalender localtime) {turns : List ArchiveTurn} (h : ClockOk turns)
    {t : ArchiveTurn} (ht : t ∈ turns) {e : DataFileFrameEntry}
    (he : e ∈ (written (t.session localtime).attempts).dropLast) :
    tag localtime e.timestamp = tag localtime t.named := by
  have hle := tag_written hk h ht (List.dropLast_subset _ he)
  obtain ⟨a, ha, rfl, hname⟩ := checked_of_written he
  have hchecked := (generateFilename_eq_iff hk _ _).mp hname
  have := hk.mono _ _ (h.turn ht ha).2
  omega

/-! ## The directory -/

/-- A session on a file of the writer adds the frames it writes. -/
theorem sessionStep_log {st : List UInt8 × List DataFileFrameEntry} (h : FileInv st)
    (s : Session) : (sessionStep st s).2 = st.2 ++ written s.attempts := by
  obtain ⟨tail, hfile, -⟩ := h
  obtain ⟨file', hopen, -⟩ := openWriter_ok hfile s.now
  simp only [sessionStep, hopen]

/-- Before the first start the directory is empty. -/
def leeresArchiv : Directory := fun _ => ([], [])

theorem fileInv_leeresArchiv (filename : List Char) : FileInv (leeresArchiv filename) :=
  ⟨[], .inl ⟨rfl, rfl, rfl⟩, by decide, show 0 < 2 ^ 31 by decide⟩

variable {turns : List ArchiveTurn}

theorem archive_fileInv (hguard : Guarded (archiveStep localtime) (TurnOk localtime) leeresArchiv turns) :
    ∀ filename, FileInv (run (archiveStep localtime) leeresArchiv turns filename) := by
  refine @run_guarded _ _ _ _ (fun dir => ∀ filename, FileInv (dir filename))
    (fun dir t hg hinv filename => ?_) turns leeresArchiv hguard fileInv_leeresArchiv
  rw [archiveStep]
  by_cases hname : filename = generateFilename localtime t.named
  · subst hname
    rw [Function.update_self]
    exact ((hinv _).session hg).fileInv
  · rw [Function.update_of_ne hname]
    exact hinv filename

/-- What one more turn does to the file of a day. -/
theorem archive_snoc (hk : Kalender localtime) {t : ArchiveTurn}
    (hguard : Guarded (archiveStep localtime) (TurnOk localtime) leeresArchiv (turns ++ [t]))
    (x : UInt64) :
    (run (archiveStep localtime) leeresArchiv (turns ++ [t]) (generateFilename localtime x)).2
      = (run (archiveStep localtime) leeresArchiv turns (generateFilename localtime x)).2
        ++ if tag localtime x = tag localtime t.named then written (t.session localtime).attempts
          else [] := by
  have hinv := archive_fileInv ((guarded_append _ _ _).mp hguard).1
  rw [run_append]
  show (archiveStep localtime _ t _).2 = _
  rw [archiveStep]
  by_cases hday : tag localtime x = tag localtime t.named
  · rw [if_pos hday, (generateFilename_eq_iff hk x t.named).mpr hday, Function.update_self,
      sessionStep_log (hinv _)]
  · have hname := fun h => hday ((generateFilename_eq_iff hk x t.named).mp h)
    rw [if_neg hday, Function.update_of_ne hname, List.append_nil]

theorem protokoll_snoc (t : ArchiveTurn) :
    protokoll localtime (turns ++ [t])
      = protokoll localtime turns ++ written (t.session localtime).attempts := by
  rw [protokoll, List.flatMap_append, List.flatMap_singleton]
  rfl

/-- There is nothing of the days to come. -/
theorem archive_later (hk : Kalender localtime)
    (hguard : Guarded (archiveStep localtime) (TurnOk localtime) leeresArchiv turns) {x : UInt64}
    (hx : ∀ t ∈ turns, tag localtime t.named < tag localtime x) :
    (run (archiveStep localtime) leeresArchiv turns (generateFilename localtime x)).2 = [] := by
  induction turns using List.reverseRecOn with
  | nil => rfl
  | append_singleton turns t ih =>
      have hlt := hx t (List.mem_append_right _ (List.mem_singleton_self t))
      rw [archive_snoc hk hguard, if_neg (by omega), List.append_nil]
      exact ih ((guarded_append _ _ _).mp hguard).1 fun u hu => hx u (List.mem_append_left _ hu)

/-- What is written is written before the next turn. -/
theorem tag_protokoll (hk : Kalender localtime) {t : ArchiveTurn}
    (hclock : ClockOk (turns ++ [t])) {e : DataFileFrameEntry}
    (he : e ∈ protokoll localtime turns) :
    tag localtime e.timestamp ≤ tag localtime t.named := by
  obtain ⟨u, hu, he⟩ := List.mem_flatMap.mp he
  obtain ⟨a, ha, rfl⟩ := mem_written_innerLoop he
  refine hk.mono _ _ (hclock.before hu ?_)
  simp only [ArchiveTurn.times, List.mem_cons, List.mem_flatMap]
  exact .inr (.inr ⟨a, ha, .inl rfl⟩)

/-- A file that was opened is one of the writer's. -/
theorem archive_opened
    (hguard : Guarded (archiveStep localtime) (TurnOk localtime) leeresArchiv turns) :
    ∀ t ∈ turns,
      OpenedInv (run (archiveStep localtime) leeresArchiv turns (generateFilename localtime t.named)) := by
  induction turns using List.reverseRecOn with
  | nil => simp
  | append_singleton turns t ih =>
      obtain ⟨hbefore, hlast, -⟩ := (guarded_append _ _ _).mp hguard
      intro u hu
      rw [run_append]
      show OpenedInv (archiveStep localtime _ t _)
      rw [archiveStep]
      by_cases hname : generateFilename localtime u.named = generateFilename localtime t.named
      · rw [hname, Function.update_self]
        exact (archive_fileInv hbefore _).session hlast
      · rw [Function.update_of_ne hname]
        rcases List.mem_append.mp hu with hu | hu
        · exact ih hbefore u hu
        · rw [List.mem_singleton] at hu
          exact absurd (by rw [hu]) hname

/-- The files of some days, in their order, behind one more turn. -/
theorem archive_tage_snoc (hk : Kalender localtime) {t : ArchiveTurn}
    (hclock : ClockOk (turns ++ [t]))
    (hguard : Guarded (archiveStep localtime) (TurnOk localtime) leeresArchiv (turns ++ [t]))
    {tage : List UInt64} (hpair : tage.Pairwise fun x y => tag localtime x < tag localtime y)
    (hday : ∃ x ∈ tage, tag localtime x = tag localtime t.named) :
    tage.flatMap (fun x =>
        (run (archiveStep localtime) leeresArchiv (turns ++ [t]) (generateFilename localtime x)).2)
      = tage.flatMap (fun x =>
          (run (archiveStep localtime) leeresArchiv turns (generateFilename localtime x)).2)
        ++ written (t.session localtime).attempts := by
  obtain ⟨y, hy, hday⟩ := hday
  obtain ⟨pre, post, rfl⟩ := List.append_of_mem hy
  rw [List.pairwise_append, List.pairwise_cons] at hpair
  obtain ⟨-, ⟨hpost, -⟩, hpre⟩ := hpair
  have hbefore := ((guarded_append _ _ _).mp hguard).1
  have hearlier : ∀ u ∈ turns, tag localtime u.named ≤ tag localtime t.named := fun u hu =>
    hk.mono _ _ (hclock.named hu)
  -- the days before are left alone, and of those behind there is nothing
  have hsame : ∀ x ∈ pre,
      (run (archiveStep localtime) leeresArchiv (turns ++ [t]) (generateFilename localtime x)).2
        = (run (archiveStep localtime) leeresArchiv turns (generateFilename localtime x)).2 := by
    intro x hx
    have hlt := hpre x hx y List.mem_cons_self
    rw [archive_snoc hk hguard, if_neg (by omega), List.append_nil]
  have hnone : ∀ x ∈ post,
      (run (archiveStep localtime) leeresArchiv turns (generateFilename localtime x)).2 = [] ∧
      (run (archiveStep localtime) leeresArchiv (turns ++ [t]) (generateFilename localtime x)).2 = [] := by
    intro x hx
    have hlt := hpost x hx
    have hold : (run (archiveStep localtime) leeresArchiv turns (generateFilename localtime x)).2 = [] :=
      archive_later hk hbefore fun u hu => by
        have := hearlier u hu
        omega
    refine ⟨hold, ?_⟩
    rw [archive_snoc hk hguard, if_neg (by omega), hold, List.append_nil]
  rw [List.flatMap_append, List.flatMap_append, List.flatMap_cons, List.flatMap_cons,
    List.flatMap_congr hsame, archive_snoc hk hguard, if_pos hday,
    List.flatMap_eq_nil_iff.mpr fun x hx => (hnone x hx).1,
    List.flatMap_eq_nil_iff.mpr fun x hx => (hnone x hx).2]
  simp only [List.append_assoc, List.append_nil]

/-! ## What the files hold -/

/-- **No frame is lost between two files**: the files, read in the order of their
days, are what the daemon wrote, in the order it came in; and the reader finds in
each of them what was written to it. -/
theorem archive_liest_alles (hk : Kalender localtime) (hclock : ClockOk turns)
    (hguard : Guarded (archiveStep localtime) (TurnOk localtime) leeresArchiv turns) :
    (∀ t ∈ turns,
      ReadsBack (run (archiveStep localtime) leeresArchiv turns (generateFilename localtime t.named)).1
        (run (archiveStep localtime) leeresArchiv turns (generateFilename localtime t.named)).2) ∧
    ∀ tage : List UInt64, tage.Pairwise (fun x y => tag localtime x < tag localtime y) →
      (∀ t ∈ turns, ∃ x ∈ tage, tag localtime x = tag localtime t.named) →
      tage.flatMap (fun x =>
          (run (archiveStep localtime) leeresArchiv turns (generateFilename localtime x)).2)
        = protokoll localtime turns := by
  refine ⟨fun t ht => ?_, ?_⟩
  · obtain ⟨tail, hshaped, htail, hes⟩ := archive_opened hguard t ht
    exact hshaped.readsBack htail hes
  · induction turns using List.reverseRecOn with
    | nil => simp [protokoll, leeresArchiv]
    | append_singleton turns t ih =>
        intro tage hpair htage
        have hbefore := ((guarded_append _ _ _).mp hguard).1
        rw [archive_tage_snoc hk hclock hguard hpair
            (htage t (List.mem_append_right _ (List.mem_singleton_self t))),
          ih hclock.init hbefore tage hpair fun u hu => htage u (List.mem_append_left _ hu),
          protokoll_snoc]

/-- A turn writes frames of its day, and behind them one of a later day at most. -/
theorem written_split (hk : Kalender localtime) (hclock : ClockOk turns) {t : ArchiveTurn}
    (ht : t ∈ turns) :
    ∃ eigene spaeter, written (t.session localtime).attempts = eigene ++ spaeter ∧
      (∀ e ∈ eigene, tag localtime e.timestamp = tag localtime t.named) ∧ spaeter.length ≤ 1 ∧
      ∀ e ∈ spaeter, tag localtime t.named < tag localtime e.timestamp := by
  have hle := fun e => @tag_written _ hk turns hclock t ht e
  have hdrop := fun e => @tag_dropLast _ hk turns hclock t ht e
  set w := written (t.session localtime).attempts with hw
  clear_value w
  by_cases hall : ∀ e ∈ w, tag localtime e.timestamp = tag localtime t.named
  · exact ⟨w, [], (List.append_nil w).symm, hall, by simp, by simp⟩
  · -- one that is later can only be the last
    have hne : w ≠ [] := by
      rintro rfl
      simp at hall
    have hsplit := List.dropLast_append_getLast hne
    refine ⟨w.dropLast, [w.getLast hne], hsplit.symm, hdrop, by simp, fun e he => ?_⟩
    rw [List.mem_singleton] at he
    subst he
    refine Nat.lt_of_le_of_ne (hle _ (List.getLast_mem hne)) fun heq => hall fun e he => ?_
    rw [← hsplit, List.mem_append, List.mem_singleton] at he
    rcases he with he | rfl
    · exact hdrop e he
    · exact heq.symm

/-- What is in a file was written. -/
theorem archive_protokoll (hk : Kalender localtime)
    (hguard : Guarded (archiveStep localtime) (TurnOk localtime) leeresArchiv turns) (x : UInt64) :
    (run (archiveStep localtime) leeresArchiv turns (generateFilename localtime x)).2
      ⊆ protokoll localtime turns := by
  induction turns using List.reverseRecOn with
  | nil => exact List.nil_subset _
  | append_singleton turns t ih =>
      rw [archive_snoc hk hguard, protokoll_snoc]
      refine List.append_subset.mpr ⟨fun e he => ?_, fun e he => ?_⟩
      · exact List.mem_append_left _ (ih ((guarded_append _ _ _).mp hguard).1 he)
      · split at he
        · exact List.mem_append_right _ he
        · cases he

theorem filter_other {l : List DataFileFrameEntry} {x : UInt64}
    (h : ∀ e ∈ l, tag localtime e.timestamp ≠ tag localtime x) :
    l.filter (fun e => tag localtime e.timestamp = tag localtime x) = [] :=
  List.filter_eq_nil_iff.mpr fun e he => by simpa using h e he

theorem filter_same {l : List DataFileFrameEntry} {x : UInt64}
    (h : ∀ e ∈ l, tag localtime e.timestamp = tag localtime x) :
    l.filter (fun e => tag localtime e.timestamp = tag localtime x) = l :=
  List.filter_eq_self.mpr fun e he => by simpa using h e he

/-- **The file of a day holds the frames of the day**, except that the first of them may
be in the file of an earlier day, and that one frame of a later day may be at the end. -/
theorem archive_tage (hk : Kalender localtime) (hclock : ClockOk turns)
    (hguard : Guarded (archiveStep localtime) (TurnOk localtime) leeresArchiv turns) (x : UInt64) :
    ∃ frueher eigene spaeter : List DataFileFrameEntry,
      (run (archiveStep localtime) leeresArchiv turns (generateFilename localtime x)).2
        = eigene ++ spaeter ∧
      (protokoll localtime turns).filter (fun e => tag localtime e.timestamp = tag localtime x)
        = frueher ++ eigene ∧
      frueher.length ≤ 1 ∧ spaeter.length ≤ 1 ∧
      ∀ e ∈ spaeter, tag localtime x < tag localtime e.timestamp := by
  induction turns using List.reverseRecOn with
  | nil => exact ⟨[], [], [], rfl, rfl, by simp, by simp, by simp⟩
  | append_singleton turns t ih =>
      have hbefore := ((guarded_append _ _ _).mp hguard).1
      obtain ⟨frueher, eigene, spaeter, hfile, hfilter, hone, hlate, hspaeter⟩ :=
        ih hclock.init hbefore
      obtain ⟨mine, late, hwritten, hmine, hmax, hlater⟩ :=
        written_split hk hclock (List.mem_append_right turns (List.mem_singleton_self t))
      rw [archive_snoc hk hguard, protokoll_snoc, List.filter_append, hfile, hfilter, hwritten,
        List.filter_append]
      -- the day is over, it is the day of the turn, or it is still to come
      rcases Nat.lt_trichotomy (tag localtime x) (tag localtime t.named) with hlt | heq | hgt
      · rw [if_neg (by omega), List.append_nil,
          filter_other fun e he => by rw [hmine e he]; omega,
          filter_other fun e he => by have := hlater e he; omega, List.append_nil, List.append_nil]
        exact ⟨frueher, eigene, spaeter, rfl, rfl, hone, hlate, hspaeter⟩
      · have hnot : spaeter = [] := List.eq_nil_iff_forall_not_mem.mpr fun e he => by
          have hmem := archive_protokoll hk hbefore x (hfile ▸ List.mem_append_right eigene he)
          have hle := tag_protokoll hk hclock hmem
          have := hspaeter e he
          omega
        rw [if_pos heq, hnot, filter_same fun e he => by rw [hmine e he, heq],
          filter_other fun e he => by have := hlater e he; omega, List.append_nil, List.append_nil]
        refine ⟨frueher, eigene ++ mine, late, ?_, ?_, hone, hmax, fun e he => ?_⟩
        · rw [List.append_assoc]
        · rw [List.append_assoc]
        · rw [heq]
          exact hlater e he
      · have hempty := archive_later hk hbefore (x := x) fun u hu => by
          have := hk.mono _ _ (hclock.named hu)
          omega
        rw [hempty] at hfile
        obtain ⟨rfl, rfl⟩ := List.append_eq_nil_iff.mp hfile.symm
        rw [List.append_nil,
          filter_other fun e he => by have := tag_protokoll hk hclock he; omega] at hfilter
        rw [if_neg (by omega), filter_other fun e he => by rw [hmine e he]; omega, ← hfilter]
        refine ⟨_, [], [], rfl, (List.append_nil _).symm, ?_, by simp, by simp⟩
        exact Nat.le_trans (List.length_filter_le _ _) hmax

/-! ## A night -/

set_option maxRecDepth 100000

/-- The days of January 1970. -/
def januar (t : UInt64) : Tm := ⟨1970, 1, min (1 + t.toNat / 86400) 31⟩

theorem kalender_januar : Kalender januar := by
  refine ⟨fun _ => show 1 < 100 by decide, fun t => ?_, fun t t' h => ?_⟩
  · show min (1 + t.toNat / 86400) 31 < 100
    omega
  · have hle : t.toNat / 86400 ≤ t'.toNat / 86400 :=
      Nat.div_le_div_right (UInt64.le_iff_toNat_le.mp h)
    simp only [tag, Tm.datum, januar]
    omega

def ankunft (t : UInt64) : Arrival := ⟨countedFrame t, 24, t⟩

/-- The daemon runs over midnight; then it is told to reload, and later to quit. -/
def nacht : List ArchiveTurn :=
  [⟨86390, 86391, [ankunft 86395, ankunft 86405, ankunft 86407]⟩,
    ⟨86410, 86410, [ankunft 86420]⟩, ⟨86430, 86431, [ankunft 86440]⟩]

theorem nacht_ok : Guarded (archiveStep januar) (TurnOk januar) leeresArchiv nacht :=
  ⟨by decide, by decide, by decide, trivial⟩

/-- The first frame after midnight is in the file of the day before. -/
example : (run (archiveStep januar) leeresArchiv nacht (generateFilename januar 86395)).2
    = [countedFrame 86395, countedFrame 86405] := by decide

theorem archive_liest_alles_nacht :
    [0, 86400].flatMap (fun x =>
        (run (archiveStep januar) leeresArchiv nacht (generateFilename januar x)).2)
      = protokoll januar nacht :=
  (archive_liest_alles kalender_januar (by decide) nacht_ok).2 [0, 86400] (by decide) (by decide)

theorem archive_tage_nacht :
    ∃ frueher eigene spaeter : List DataFileFrameEntry,
      (run (archiveStep januar) leeresArchiv nacht (generateFilename januar 86400)).2
        = eigene ++ spaeter ∧
      (protokoll januar nacht).filter (fun e => tag januar e.timestamp = tag januar 86400)
        = frueher ++ eigene ∧
      frueher.length ≤ 1 ∧ spaeter.length ≤ 1 ∧
      ∀ e ∈ spaeter, tag januar 86400 < tag januar e.timestamp :=
  archive_tage kalender_januar (by decide) nacht_ok 86400

end OpenHcan.HcanData
