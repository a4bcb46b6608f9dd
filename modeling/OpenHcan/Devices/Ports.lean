import OpenHcan.Lib.BitField
import OpenHcan.Lib.Blocks
import Mathlib.Data.Set.Function
import Mathlib.Logic.Function.Basic

/-!
# Ports — the port expanders (`ports.c`)

Up to four expander boards hang on the I2C bus, each with two MCP23017 chips of
two ports of eight pins. `configurePorts` asks every chip whether it is there
and gives the ports of the boards their first pin numbers, the inputs from
`inBase` and the outputs from `outBase` on; a board with a silent chip leaves
the configuration.

The static arrays are functions of their index. What the C leaves undefined (a
`portindex` that nothing has been written to, a shift of an `int` by 16 or
more) is `none`.
-/

namespace OpenHcan.Expander

open Lib

def maximumNumberOfExpanderBoards : Nat := 4

/-- `eds_ports_block_t`, with `expander0` to `expander3` as an array, which is what
`expBoard` makes of them. -/
structure EdsPortsBlock where
  base : UInt8
  expander : Nat → UInt8

/-- The static variables of `ports.c` -/
structure Ports where
  portsDeviceCreated : Bool
  expanderActive : Bool
  expBoard : Nat → UInt8
  outBase : UInt8
  inBase : UInt8
  expStartPins : Nat → UInt8
  valuesOfPortsOnExpBoard : Nat → UInt8

/-- `configurePorts`: the static variables beside its locals. -/
structure Konfiguration where
  ports : Ports
  portindex : Nat
  adr : Nat
  numberOfInputs : Nat
  numberOfOutputs : Nat

/-! ## `configurePorts` -/

/-- `(expander & (1 << port)) != 0`: the port is configured as an input. -/
def alsInput (expander : UInt8) (port : Nat) : Bool := expander &&& (1 <<< UInt8.ofNat port) ≠ 0

/-- A port whose chip is there gets its first pin number. -/
def startPinVergeben (boardindex port : Nat) (k : Konfiguration) : Konfiguration :=
  if alsInput (k.ports.expBoard boardindex) port then
    { k with
      ports := { k.ports with
        expanderActive := true
        expStartPins := Function.update k.ports.expStartPins k.portindex
          (k.ports.inBase + UInt8.ofNat (8 * k.numberOfInputs)) }
      numberOfInputs := k.numberOfInputs + 1 }
  else
    { k with
      ports := { k.ports with
        expanderActive := true
        expStartPins := Function.update k.ports.expStartPins k.portindex
          (k.ports.outBase + UInt8.ofNat (8 * k.numberOfOutputs)) }
      numberOfOutputs := k.numberOfOutputs + 1 }

/-- A board with a silent chip leaves the configuration. -/
def boardEntfernen (boardindex : Nat) (k : Konfiguration) : Konfiguration :=
  { k with ports := { k.ports with
      expBoard := Function.update k.ports.expBoard boardindex 255 } }

/-- One round of the loop over the ports of a board. `bus` says which chips answer. -/
def configurePort (bus : Nat → Bool) (boardindex : Nat) (k : Konfiguration) (port : Nat) :
    Konfiguration :=
  let k := if bus k.adr then startPinVergeben boardindex port k else boardEntfernen boardindex k
  { k with
    portindex := k.portindex + 1
    adr := if port = 1 then k.adr - 1 else k.adr + 1 }

/-- One round of the loop over the boards -/
def configureBoard (bus : Nat → Bool) (k : Konfiguration) (boardindex : Nat) : Konfiguration :=
  if k.ports.expBoard boardindex ≠ 255 then
    (List.range 4).foldl (configurePort bus boardindex) k
  else { k with adr := k.adr + 2, portindex := k.portindex + 4 }

/-- `configurePorts` -/
def configurePorts (bus : Nat → Bool) (s : Ports) : Konfiguration :=
  (List.range maximumNumberOfExpanderBoards).foldl (configureBoard bus) ⟨s, 0, 0, 0, 0⟩

/-! ## `ports_init` -/

/-- `outBase` and `inBase` -/
def basen (base : UInt8) : UInt8 × UInt8 :=
  if base = 16 then (0, 15) else if base = 128 then (12, 16) else (32, 32)

/-- `ports_init` before it calls `configurePorts` -/
def portsVorbereiten (config : EdsPortsBlock) (s : Ports) : Ports :=
  ⟨true, false, config.expander, (basen config.base).1, (basen config.base).2, s.expStartPins,
    fun _ => 0⟩

/-- The boards after `ports_init` has looked at them. -/
def eingerichtet (bus : Nat → Bool) (config : EdsPortsBlock) (s : Ports) : Konfiguration :=
  configurePorts bus (portsVorbereiten config s)

/-- `ports_init`: there is one device of this kind at most. -/
def portsInit (bus : Nat → Bool) (config : EdsPortsBlock) (s : Ports) : Ports :=
  if s.portsDeviceCreated then s else (eingerichtet bus config s).ports

/-! ## The pins -/

/-- The search for the port of a pin number. `portindex` is `4 * boardindex + port` all
along: both loops count it on for the boards that are not configured, too. -/
def suchePort (s : Ports) (input : Bool) (n : UInt8) : Option Nat :=
  (List.range maximumNumberOfExpanderBoards).findSome? fun boardindex =>
    if s.expBoard boardindex ≠ 255 then
      (List.range 4).findSome? fun port =>
        if alsInput (s.expBoard boardindex) port = input ∧
            n.toNat < (s.expStartPins (4 * boardindex + port)).toNat + 8 then
          some (4 * boardindex + port)
        else none
    else none

/-- The bit of a pin number at its port: the pins of port B are mirrored. -/
def bitAmPort (s : Ports) (n : UInt8) (portindex : Nat) : UInt8 :=
  if portindex % 4 > 1 then 7 - (n - s.expStartPins portindex) else n - s.expStartPins portindex

/-- The low byte of `1 << n`, for an `int` of 16 bits. -/
def maske (n : UInt8) : Option UInt8 := if n < 16 then some (UInt8.ofNat (2 ^ n.toNat)) else none

/-- `ports_getInput` -/
def portsGetInput (s : Ports) (n : UInt8) : Option UInt8 :=
  match suchePort s true n with
  | some portindex =>
      (maske (bitAmPort s n portindex)).map (s.valuesOfPortsOnExpBoard portindex &&& ·)
  | none => some 1

/-- `getMCP23017outportpin`: what it returns, and what it writes to `*pportindex`. -/
def getMCP23017outportpin (s : Ports) (n : UInt8) : UInt8 × Option Nat :=
  match suchePort s false n with
  | some portindex => (bitAmPort s n portindex, some portindex)
  | none => (0, none)

/-- `value |= m`, or `value &= ~m` -/
def bitSetzen (value m state : UInt8) : UInt8 := if state ≠ 0 then value ||| m else value &&& ~~~m

/-- `ports_setOutput` -/
def portsSetOutput (s : Ports) (n state : UInt8) : Option Ports :=
  match getMCP23017outportpin s n with
  | (n, some portindex) =>
      (maske n).map fun m =>
        { s with
          valuesOfPortsOnExpBoard := Function.update s.valuesOfPortsOnExpBoard portindex
            (bitSetzen (s.valuesOfPortsOnExpBoard portindex) m state) }
  | (_, none) => none

/-- `ports_getOutput` -/
def portsGetOutput (s : Ports) (n : UInt8) : Option UInt8 :=
  match getMCP23017outportpin s n with
  | (n, some portindex) => (maske n).map (s.valuesOfPortsOnExpBoard portindex &&& ·)
  | (_, none) => none

/-! ## What the pin map has to be -/

/-- A port that is configured as an output. -/
def Ausgang (s : Ports) (portindex : Nat) : Prop :=
  portindex < 4 * maximumNumberOfExpanderBoards ∧ s.expBoard (portindex / 4) ≠ 255 ∧
    alsInput (s.expBoard (portindex / 4)) (portindex % 4) = false

/-- The pin numbers `outBase .. outBase + 8 * numberOfOutputs - 1` -/
def InRange (k : Konfiguration) (n : UInt8) : Prop :=
  k.ports.outBase.toNat ≤ n.toNat ∧ n.toNat < k.ports.outBase.toNat + 8 * k.numberOfOutputs

/-- The same boards, with these bytes at their ports. -/
def mitWerten (s : Ports) (values : Nat → UInt8) : Ports :=
  { s with valuesOfPortsOnExpBoard := values }

/-- The numbers in the range are the pins of the output ports, and an output that is set
is the only one that changes. -/
structure PinMap (k : Konfiguration) : Prop where
  eindeutig : Set.BijOn (getMCP23017outportpin k.ports) {n | InRange k n}
    {r | r.1 < 8 ∧ ∃ portindex, r.2 = some portindex ∧ Ausgang k.ports portindex}
  setzen : ∀ values n state, InRange k n →
    ∃ s', portsSetOutput (mitWerten k.ports values) n state = some s' ∧
      (∃ x, portsGetOutput s' n = some x ∧ (x ≠ 0 ↔ state ≠ 0)) ∧
      ∀ m, InRange k m → m ≠ n →
        ∃ x, portsGetOutput (mitWerten k.ports values) m = some x ∧ portsGetOutput s' m = some x

/-- `ports_setOutput` with this number changes nothing. -/
def Unveraendert (s : Ports) (n : UInt8) : Prop :=
  ∀ values state, portsSetOutput (mitWerten s values) n state = some (mitWerten s values)

/-- No board leaves the configuration after its first port has got an output's numbers: a
board whose port 0 is an output does not have its first chip alone on the bus. -/
def KeinAusgangVerloren (bus : Nat → Bool) (expander : Nat → UInt8) : Prop :=
  ∀ b < maximumNumberOfExpanderBoards, expander b ≠ 255 → alsInput (expander b) 0 = false →
    bus (2 * b) = true → bus (2 * b + 1) = true

/-- The chip of a port -/
def adrVon (i : Nat) : Nat := 2 * (i / 4) + i % 2

/-- Of the ports before `i`, one of board `b` has a silent chip. -/
def Ausgefallen (bus : Nat → Bool) (i b : Nat) : Prop := ∃ j < i, j / 4 = b ∧ bus (adrVon j) = false

/-- Port `i` gets the numbers of an output. -/
def Vergeben (bus : Nat → Bool) (expander : Nat → UInt8) (i : Nat) : Prop :=
  expander (i / 4) ≠ 255 ∧ bus (adrVon i) = true ∧ ¬ Ausgefallen bus i (i / 4) ∧
    alsInput (expander (i / 4)) (i % 4) = false

/-- The first port that gets the numbers of an output is a mirrored one. -/
def ErsterGespiegelt (bus : Nat → Bool) (expander : Nat → UInt8) : Prop :=
  ∃ i < 4 * maximumNumberOfExpanderBoards, i % 4 > 1 ∧ Vergeben bus expander i ∧
    ∀ j < i, ¬ Vergeben bus expander j

instance (s : Ports) : DecidablePred (Ausgang s) := by
  intro i
  unfold Ausgang
  infer_instance

instance (bus : Nat → Bool) (i b : Nat) : Decidable (Ausgefallen bus i b) := by
  unfold Ausgefallen
  infer_instance

instance (bus : Nat → Bool) (expander : Nat → UInt8) : DecidablePred (Vergeben bus expander) := by
  intro i
  unfold Vergeben
  infer_instance

/-! ## The first pin numbers -/

section

variable {bus : Nat → Bool} {s₀ : Ports} {k : Konfiguration} {i : Nat}

theorem ausgefallen_succ (bus : Nat → Bool) (i b : Nat) :
    Ausgefallen bus (i + 1) b ↔ Ausgefallen bus i b ∨ (i / 4 = b ∧ bus (adrVon i) = false) := by
  simp only [Ausgefallen, Nat.lt_succ_iff_lt_or_eq, or_and_right, exists_or, exists_eq_left]

/-- A board that is not in the configuration has inputs only. -/
theorem alsInput_255 {port : Nat} (h : port < 4) : alsInput 255 port = true := by
  have hall : ∀ port < 4, alsInput 255 port = true := by decide
  exact hall port h

/-- What `configurePorts` keeps, before it looks at port `i`. -/
structure KonfigInv (bus : Nat → Bool) (s₀ : Ports) (i : Nat) (k : Konfiguration) : Prop where
  portindex : k.portindex = i
  adr : k.adr = adrVon i
  outBase : k.ports.outBase = s₀.outBase
  expBoard : ∀ b, k.ports.expBoard b = if Ausgefallen bus i b then 255 else s₀.expBoard b
  numberOfOutputs : k.numberOfOutputs = Nat.count (Vergeben bus s₀.expBoard) i
  start : ∀ j < i, Vergeben bus s₀.expBoard j → k.ports.expStartPins j =
    s₀.outBase + UInt8.ofNat (8 * Nat.count (Vergeben bus s₀.expBoard) j)

theorem konfigInv_start (bus : Nat → Bool) (s₀ : Ports) : KonfigInv bus s₀ 0 ⟨s₀, 0, 0, 0, 0⟩ where
  portindex := rfl
  adr := rfl
  outBase := rfl
  expBoard b := by simp [Ausgefallen]
  numberOfOutputs := rfl
  start j hj := absurd hj (Nat.not_lt_zero j)

/-- A port has been looked at: what has to be so afterwards. -/
theorem KonfigInv.succ (h : KonfigInv bus s₀ i k) {k' : Konfiguration}
    (hindex : k'.portindex = i + 1) (hadr : k'.adr = adrVon (i + 1))
    (hbase : k'.ports.outBase = k.ports.outBase)
    (hexp : ∀ b, k'.ports.expBoard b = if Ausgefallen bus (i + 1) b then 255 else s₀.expBoard b)
    (hzahl : k'.numberOfOutputs =
      k.numberOfOutputs + if Vergeben bus s₀.expBoard i then 1 else 0)
    (hpins : ∀ j < i, k'.ports.expStartPins j = k.ports.expStartPins j)
    (hpin : Vergeben bus s₀.expBoard i →
      k'.ports.expStartPins i = k.ports.outBase + UInt8.ofNat (8 * k.numberOfOutputs)) :
    KonfigInv bus s₀ (i + 1) k' := by
  refine ⟨hindex, hadr, hbase.trans h.outBase, hexp, ?_, fun j hj hv => ?_⟩
  · rw [hzahl, h.numberOfOutputs, Nat.count_succ]
  · rcases Nat.lt_succ_iff_lt_or_eq.mp hj with hlt | rfl
    · exact (hpins j hlt).trans (h.start j hlt hv)
    · rw [hpin hv, h.outBase, h.numberOfOutputs]

/-- A board that is not configured is passed over, port by port. -/
theorem KonfigInv.skip (h : KonfigInv bus s₀ i k) (h255 : s₀.expBoard (i / 4) = 255) :
    KonfigInv bus s₀ (i + 1)
      ⟨k.ports, i + 1, adrVon (i + 1), k.numberOfInputs, k.numberOfOutputs⟩ := by
  have hnot : ¬ Vergeben bus s₀.expBoard i := fun hv => hv.1 h255
  refine h.succ rfl rfl rfl (fun b => ?_) ?_ (fun _ _ => rfl) (fun hv => absurd hv hnot)
  · rw [h.expBoard]
    by_cases hb : i / 4 = b
    · simp only [← hb, h255, ite_self]
    · simp only [ausgefallen_succ, hb, false_and, or_false]
  · rw [if_neg hnot]
    rfl

/-- **One port** of a configured board. -/
theorem KonfigInv.port (h : KonfigInv bus s₀ i k) (hne : s₀.expBoard (i / 4) ≠ 255) :
    KonfigInv bus s₀ (i + 1) (configurePort bus (i / 4) k (i % 4)) := by
  have hport : i % 4 < 4 := Nat.mod_lt i (by decide)
  have hadr : (if i % 4 = 1 then k.adr - 1 else k.adr + 1) = adrVon (i + 1) := by
    rw [h.adr]
    unfold adrVon
    split
    all_goals omega
  have hpins (x : UInt8) : ∀ j < i,
      Function.update k.ports.expStartPins k.portindex x j = k.ports.expStartPins j := by
    intro j hlt
    rw [h.portindex]
    exact Function.update_of_ne (Nat.ne_of_lt hlt) _ _
  unfold configurePort
  by_cases hbus : bus (adrVon i) = true
  · have hexp (b : Nat) : k.ports.expBoard b =
        if Ausgefallen bus (i + 1) b then 255 else s₀.expBoard b := by
      simp [h.expBoard, ausgefallen_succ, hbus]
    -- the port is an output as long as its board is there
    have houtput : alsInput (k.ports.expBoard (i / 4)) (i % 4) = false ↔
        Vergeben bus s₀.expBoard i := by
      rw [h.expBoard]
      by_cases hweg : Ausgefallen bus i (i / 4)
      · simp [Vergeben, hweg, alsInput_255 hport]
      · simp [Vergeben, hweg, hne, hbus]
    rw [h.adr, if_pos hbus]
    unfold startPinVergeben
    by_cases hinput : alsInput (k.ports.expBoard (i / 4)) (i % 4) = true
    · have hnot : ¬ Vergeben bus s₀.expBoard i := by
        rw [← houtput, hinput]
        decide
      rw [if_pos hinput]
      refine h.succ (congrArg (· + 1) h.portindex) hadr rfl hexp ?_ (hpins _)
        (fun hv => absurd hv hnot)
      rw [if_neg hnot]
      rfl
    · have hv := houtput.mp (Bool.not_eq_true _ ▸ hinput)
      rw [if_neg hinput]
      refine h.succ (congrArg (· + 1) h.portindex) hadr rfl hexp ?_ (hpins _) (fun _ => ?_)
      · rw [if_pos hv]
      · rw [h.portindex]
        exact Function.update_self _ _ _
  · have hnot : ¬ Vergeben bus s₀.expBoard i := fun hv => hbus hv.2.1
    have hfalse : bus (adrVon i) = false := Bool.not_eq_true _ ▸ hbus
    rw [h.adr, if_neg hbus]
    refine h.succ (congrArg (· + 1) h.portindex) hadr rfl (fun b => ?_) ?_ (fun _ _ => rfl)
      (fun hv => absurd hv hnot)
    · show Function.update k.ports.expBoard (i / 4) 255 b = _
      by_cases hb : b = i / 4
      · subst hb
        rw [Function.update_self, if_pos ((ausgefallen_succ bus i _).mpr (.inr ⟨rfl, hfalse⟩))]
      · rw [Function.update_of_ne hb, h.expBoard]
        simp only [ausgefallen_succ, Ne.symm hb, false_and, or_false]
    · rw [if_neg hnot]
      rfl

/-- One board -/
theorem KonfigInv.board {b : Nat} (h : KonfigInv bus s₀ (4 * b) k) :
    KonfigInv bus s₀ (4 * (b + 1)) (configureBoard bus k b) := by
  have hb : ¬ Ausgefallen bus (4 * b) b := by
    rintro ⟨j, hj, hjb, -⟩
    omega
  have hexp : k.ports.expBoard b = s₀.expBoard b := (h.expBoard b).trans (if_neg hb)
  have hdiv (p : Nat) (hp : p < 4) : (4 * b + p) / 4 = b ∧ (4 * b + p) % 4 = p := by omega
  unfold configureBoard
  rw [hexp]
  by_cases h255 : s₀.expBoard b = 255
  · have hskip (p : Nat) (hp : p < 4) : s₀.expBoard ((4 * b + p) / 4) = 255 := by
      rw [(hdiv p hp).1, h255]
    have hfour := (((h.skip (hskip 0 (by decide))).skip (hskip 1 (by decide))).skip
      (hskip 2 (by decide))).skip (hskip 3 (by decide))
    have hadr : adrVon (4 * b + 4) = k.adr + 2 := by
      rw [h.adr]
      unfold adrVon
      omega
    rw [if_neg (not_not_intro h255), h.portindex, ← hadr]
    exact hfour
  · have hport {p : Nat} (hp : p < 4) {k : Konfiguration} (hk : KonfigInv bus s₀ (4 * b + p) k) :
        KonfigInv bus s₀ (4 * b + p + 1) (configurePort bus b k p) := by
      have hstep := hk.port (by rwa [(hdiv p hp).1])
      rwa [(hdiv p hp).1, (hdiv p hp).2] at hstep
    rw [if_pos h255]
    exact hport (p := 3) (by decide) (hport (p := 2) (by decide) (hport (p := 1) (by decide)
      (hport (p := 0) (by decide) h)))

theorem konfigInv_boards (bus : Nat → Bool) (s₀ : Ports) (n : Nat) :
    KonfigInv bus s₀ (4 * n) ((List.range n).foldl (configureBoard bus) ⟨s₀, 0, 0, 0, 0⟩) := by
  induction n with
  | zero => exact konfigInv_start bus s₀
  | succ n ih =>
      rw [List.range_succ, List.foldl_append]
      exact ih.board

/-- **The run of `configurePorts`** -/
theorem configurePorts_inv (bus : Nat → Bool) (s₀ : Ports) :
    KonfigInv bus s₀ (4 * maximumNumberOfExpanderBoards) (configurePorts bus s₀) :=
  konfigInv_boards bus s₀ maximumNumberOfExpanderBoards

/-! ## The search -/

/-- Port `i` is one that the search for pin `n` stops at. -/
def Passt (s : Ports) (input : Bool) (n : UInt8) (i : Nat) : Prop :=
  s.expBoard (i / 4) ≠ 255 ∧ alsInput (s.expBoard (i / 4)) (i % 4) = input ∧
    n.toNat < (s.expStartPins i).toNat + 8

instance (s : Ports) (input : Bool) (n : UInt8) : DecidablePred (Passt s input n) := by
  intro i
  unfold Passt
  infer_instance

theorem findSome?_congr {α β : Type} {f g : α → Option β} {l : List α}
    (h : ∀ x ∈ l, f x = g x) : l.findSome? f = l.findSome? g := by
  induction l with
  | nil => rfl
  | cons x l ih =>
      simp only [List.findSome?_cons, h x List.mem_cons_self,
        ih fun y hy => h y (List.mem_cons_of_mem x hy)]

/-- The two loops run through the 16 ports. -/
theorem suchePort_eq_find (s : Ports) (input : Bool) (n : UInt8) :
    suchePort s input n =
      (List.range (4 * maximumNumberOfExpanderBoards)).find? (Passt s input n ·) := by
  have hrange : List.range (4 * maximumNumberOfExpanderBoards) =
      (List.range maximumNumberOfExpanderBoards).flatMap
        fun b => (List.range 4).map (4 * b + ·) := rfl
  rw [hrange, List.find?_flatMap]
  refine findSome?_congr fun b _ => ?_
  rw [List.find?_eq_findSome?_guard, List.findSome?_map]
  have hport (p : Nat) (hp : p ∈ List.range 4) : (4 * b + p) / 4 = b ∧ (4 * b + p) % 4 = p := by
    rw [List.mem_range] at hp
    omega
  by_cases h255 : s.expBoard b = 255
  · rw [if_neg (not_not_intro h255), eq_comm, List.findSome?_eq_none_iff]
    intro p hp
    simp [Option.guard, Passt, (hport p hp).1, h255]
  · rw [if_pos h255]
    refine findSome?_congr fun p hp => ?_
    simp [Option.guard, Passt, hport p hp, h255]

theorem suchePort_eq_some_iff {s : Ports} {input : Bool} {n : UInt8} {i : Nat} :
    suchePort s input n = some i ↔ i < 4 * maximumNumberOfExpanderBoards ∧ Passt s input n i ∧
      ∀ j < i, ¬ Passt s input n j := by
  simp only [suchePort_eq_find, List.find?_range_eq_some, decide_eq_true_eq, List.mem_range,
    Bool.not_eq_true', decide_eq_false_iff_not]
  tauto

/-! ## The bit of a pin -/

/-- A pin of the port: one of its eight bits, from below or from above. -/
theorem bitAmPort_of_le {s : Ports} {n : UInt8} (hle : (s.expStartPins i).toNat ≤ n.toNat)
    (hlt : n.toNat < (s.expStartPins i).toNat + 8) :
    (bitAmPort s n i).toNat = if i % 4 > 1 then 7 - (n.toNat - (s.expStartPins i).toNat)
      else n.toNat - (s.expStartPins i).toNat := by
  have hsub : (n - s.expStartPins i).toNat = n.toNat - (s.expStartPins i).toNat :=
    UInt8.toNat_sub_of_le _ _ hle
  unfold bitAmPort
  split
  · have h7 : n - s.expStartPins i ≤ 7 := by
      show (n - s.expStartPins i).toNat ≤ 7
      omega
    rw [UInt8.toNat_sub_of_le _ _ h7, hsub]
    rfl
  · exact hsub

/-- A number below the pins of the port: the difference wraps around. -/
theorem bitAmPort_of_lt {s : Ports} {n : UInt8} (hlt : n.toNat < (s.expStartPins i).toNat)
    (hstart : (s.expStartPins i).toNat ≤ 152) :
    (bitAmPort s n i).toNat = if i % 4 > 1 then 7 + ((s.expStartPins i).toNat - n.toNat)
      else 256 - ((s.expStartPins i).toNat - n.toNat) := by
  have hsub : (n - s.expStartPins i).toNat = 256 - ((s.expStartPins i).toNat - n.toNat) := by
    rw [UInt8.toNat_sub]
    omega
  unfold bitAmPort
  split
  · rw [UInt8.toNat_sub, hsub]
    show (2 ^ 8 - _ + 7) % 2 ^ 8 = _
    omega
  · exact hsub

/-- Two numbers of one port with the same bit are the same. -/
theorem bitAmPort_inj {s : Ports} {n m : UInt8} (h : bitAmPort s n i = bitAmPort s m i) :
    n = m := by
  unfold bitAmPort at h
  split at h
  · exact (UInt8.sub_left_inj _).mp ((UInt8.sub_right_inj _).mp h)
  · exact (UInt8.sub_left_inj _).mp h

/-- Every bit of the port is that of a number. -/
theorem exists_bitAmPort {s : Ports} {bit : UInt8} (hbit : bit < 8)
    (hstart : (s.expStartPins i).toNat ≤ 152) :
    ∃ n : UInt8, (s.expStartPins i).toNat ≤ n.toNat ∧ n.toNat < (s.expStartPins i).toNat + 8 ∧
      bitAmPort s n i = bit := by
  have hlt : bit.toNat < 8 := hbit
  have hpin (d : Nat) (hd : d < 8) : ∃ n : UInt8, (s.expStartPins i).toNat ≤ n.toNat ∧
      n.toNat < (s.expStartPins i).toNat + 8 ∧ n.toNat - (s.expStartPins i).toNat = d := by
    refine ⟨UInt8.ofNat ((s.expStartPins i).toNat + d), ?_⟩
    rw [UInt8.toNat_ofNat_of_lt' (by show _ < 256; omega)]
    omega
  by_cases hport : i % 4 > 1
  · obtain ⟨n, hle, hlt', hd⟩ := hpin (7 - bit.toNat) (by omega)
    refine ⟨n, hle, hlt', UInt8.toNat_inj.mp ?_⟩
    rw [bitAmPort_of_le hle hlt', if_pos hport, hd]
    omega
  · obtain ⟨n, hle, hlt', hd⟩ := hpin bit.toNat hlt
    refine ⟨n, hle, hlt', UInt8.toNat_inj.mp ?_⟩
    rw [bitAmPort_of_le hle hlt', if_neg hport, hd]

/-! ## Masks -/

theorem maske_of_lt {bit : UInt8} (h : bit < 8) :
    ∃ m, maske bit = some m ∧ m ≠ 0 := by
  have hlt : bit.toNat < 8 := h
  have hall : ∀ b < 8, UInt8.ofNat (2 ^ b) ≠ 0 := by decide
  exact ⟨_, if_pos (Nat.lt_trans hlt (by decide)), hall _ hlt⟩

theorem maske_disjoint {bit bit' m m' : UInt8} (h : bit < 8) (h' : bit' < 8) (hne : bit ≠ bit')
    (hm : maske bit = some m) (hm' : maske bit' = some m') : m &&& m' = 0 := by
  have hlt : bit.toNat < 8 := h
  have hlt' : bit'.toNat < 8 := h'
  have hall : ∀ b < 8, ∀ b' < 8, b ≠ b' →
      UInt8.ofNat (2 ^ b) &&& UInt8.ofNat (2 ^ b') = 0 := by decide
  unfold maske at hm hm'
  rw [if_pos (UInt8.lt_trans h (by decide)), Option.some_inj] at hm
  rw [if_pos (UInt8.lt_trans h' (by decide)), Option.some_inj] at hm'
  rw [← hm, ← hm']
  exact hall _ hlt _ hlt' fun heq => hne (UInt8.toNat_inj.mp heq)

/-- No bit of a byte: a shift by 8 to 15. -/
theorem maske_of_ge {bit : UInt8} (h : 8 ≤ bit.toNat) :
    maske bit = if bit.toNat < 16 then some 0 else none := by
  unfold maske
  by_cases hlt : bit.toNat < 16
  · have hall : ∀ b < 16, 8 ≤ b → UInt8.ofNat (2 ^ b) = 0 := by decide
    rw [if_pos (show bit < 16 from hlt), if_pos hlt, hall _ hlt h]
  · rw [if_neg (show ¬ bit < 16 from hlt), if_neg hlt]

theorem bitSetzen_zero (value state : UInt8) : bitSetzen value 0 state = value := by
  unfold bitSetzen
  split
  · exact UInt8.or_zero
  · exact UInt8.and_neg_one

/-- The bit that is written -/
theorem bitSetzen_and_self {m : UInt8} (hm : m ≠ 0) (value state : UInt8) :
    bitSetzen value m state &&& m ≠ 0 ↔ state ≠ 0 := by
  unfold bitSetzen
  by_cases hstate : state ≠ 0
  · rw [if_pos hstate]
    refine iff_of_true ?_ hstate
    have hself : (value ||| m) &&& m = m := by
      rw [← UInt8.toBitVec_inj]
      ext i hi
      simpa using Or.inr
    rwa [hself]
  · rw [if_neg hstate, UInt8.and_assoc, UInt8.not_and_self, UInt8.and_zero]
    exact iff_of_false (not_not_intro rfl) hstate

/-- The other bits -/
theorem bitSetzen_and_of_disjoint {m m' : UInt8} (h : m &&& m' = 0) (value state : UInt8) :
    bitSetzen value m state &&& m' = value &&& m' := by
  have hbits : m.toBitVec &&& m'.toBitVec = 0 := congrArg UInt8.toBitVec h
  unfold bitSetzen
  split
  · exact UInt8.toBitVec_inj.mp (or_and_of_disjoint hbits value.toBitVec)
  · exact UInt8.toBitVec_inj.mp (and_not_and_of_disjoint hbits value.toBitVec)

/-! ## One write -/

theorem pin_of_suchePort {s : Ports} {n : UInt8} (h : suchePort s false n = some i) :
    getMCP23017outportpin s n = (bitAmPort s n i, some i) := by
  unfold getMCP23017outportpin
  rw [h]

theorem pin_of_suchePort_none {s : Ports} {n : UInt8} (h : suchePort s false n = none) :
    getMCP23017outportpin s n = (0, none) := by
  unfold getMCP23017outportpin
  rw [h]

theorem pin_mitWerten (s : Ports) (values : Nat → UInt8) (n : UInt8) :
    getMCP23017outportpin (mitWerten s values) n = getMCP23017outportpin s n := rfl

theorem portsSetOutput_eq {s : Ports} {n bit m : UInt8}
    (h : getMCP23017outportpin s n = (bit, some i)) (hm : maske bit = some m)
    (values : Nat → UInt8) (state : UInt8) : portsSetOutput (mitWerten s values) n state =
      some (mitWerten s (Function.update values i (bitSetzen (values i) m state))) := by
  unfold portsSetOutput
  rw [pin_mitWerten, h]
  exact congrArg (Option.map _) hm

theorem portsGetOutput_eq {s : Ports} {n bit m : UInt8}
    (h : getMCP23017outportpin s n = (bit, some i)) (hm : maske bit = some m)
    (values : Nat → UInt8) : portsGetOutput (mitWerten s values) n = some (values i &&& m) := by
  unfold portsGetOutput
  rw [pin_mitWerten, h]
  exact congrArg (Option.map _) hm

theorem portsSetOutput_none {s : Ports} {n bit : UInt8}
    (h : getMCP23017outportpin s n = (bit, none)) (values : Nat → UInt8) (state : UInt8) :
    portsSetOutput (mitWerten s values) n state = none := by
  unfold portsSetOutput
  rw [pin_mitWerten, h]

/-- **One write**, when the numbers are pins: the bit that is written, and no other. -/
theorem setzen_of_bijOn (h : Set.BijOn (getMCP23017outportpin k.ports) {n | InRange k n}
    {r | r.1 < 8 ∧ ∃ portindex, r.2 = some portindex ∧ Ausgang k.ports portindex})
    (values : Nat → UInt8) {n : UInt8} (state : UInt8) (hn : InRange k n) :
    ∃ s', portsSetOutput (mitWerten k.ports values) n state = some s' ∧
      (∃ x, portsGetOutput s' n = some x ∧ (x ≠ 0 ↔ state ≠ 0)) ∧
      ∀ m, InRange k m → m ≠ n →
        ∃ x, portsGetOutput (mitWerten k.ports values) m = some x ∧
          portsGetOutput s' m = some x := by
  obtain ⟨hbit, i, hi, -⟩ := h.mapsTo hn
  obtain ⟨x, hx, hne⟩ := maske_of_lt hbit
  have hpin : getMCP23017outportpin k.ports n = (_, some i) := Prod.ext rfl hi
  refine ⟨_, portsSetOutput_eq hpin hx values state, ⟨_, portsGetOutput_eq hpin hx _, ?_⟩,
    fun m hm hmn => ?_⟩
  · rw [Function.update_self]
    exact bitSetzen_and_self hne (values i) state
  · obtain ⟨hbit', j, hj, -⟩ := h.mapsTo hm
    obtain ⟨y, hy, -⟩ := maske_of_lt hbit'
    have hpin' : getMCP23017outportpin k.ports m = (_, some j) := Prod.ext rfl hj
    refine ⟨_, portsGetOutput_eq hpin' hy values, (portsGetOutput_eq hpin' hy _).trans ?_⟩
    by_cases hij : j = i
    · -- the same port: another bit, since the numbers are different
      subst hij
      have hother : (getMCP23017outportpin k.ports n).1 ≠ (getMCP23017outportpin k.ports m).1 :=
        fun heq => hmn (h.injOn hm hn (Prod.ext heq.symm (hj.trans hi.symm)))
      rw [Function.update_self, bitSetzen_and_of_disjoint (maske_disjoint hbit hbit' hother hx hy)]
    · rw [Function.update_of_ne hij]

theorem portsGetInput_mitWerten (s : Ports) (values : Nat → UInt8) (n : UInt8) :
    portsGetInput (mitWerten s values) n =
      match suchePort s true n with
      | some portindex => (maske (bitAmPort s n portindex)).map (values portindex &&& ·)
      | none => some 1 := rfl

/-- **The inputs**: no write to an output is read at an input. -/
theorem portsGetInput_of_set {s s' : Ports} {values : Nat → UInt8} {n state : UInt8}
    (h : portsSetOutput (mitWerten s values) n state = some s') (m : UInt8) :
    portsGetInput s' m = portsGetInput (mitWerten s values) m := by
  cases hout : suchePort s false n with
  | none =>
      rw [portsSetOutput_none (pin_of_suchePort_none hout)] at h
      exact absurd h nofun
  | some i =>
      obtain ⟨x, hx⟩ : ∃ x, mitWerten s (Function.update values i x) = s' := by
        unfold portsSetOutput at h
        rw [pin_mitWerten, pin_of_suchePort hout] at h
        obtain ⟨m, -, hs'⟩ := Option.map_eq_some_iff.mp h
        exact ⟨_, hs'⟩
      rw [← hx, portsGetInput_mitWerten, portsGetInput_mitWerten]
      cases hin : suchePort s true m with
      | none => rfl
      | some j =>
          -- a port is an input or an output
          have hne : j ≠ i := by
            rintro rfl
            have hinput := (suchePort_eq_some_iff.mp hin).2.1.2.1
            rw [(suchePort_eq_some_iff.mp hout).2.1.2.1] at hinput
            exact Bool.noConfusion hinput
          show (maske (bitAmPort s m j)).map (Function.update values i x j &&& ·) = _
          rw [Function.update_of_ne hne]

end

/-! ## After `ports_init` -/

section

variable (bus : Nat → Bool) (config : EdsPortsBlock) (s₀ : Ports)

theorem portsInit_of_not_created (h : s₀.portsDeviceCreated = false) :
    portsInit bus config s₀ = (eingerichtet bus config s₀).ports :=
  if_neg (by rw [h]; decide)

/-- The numbers that the ports get -/
theorem eingerichtet_inv :
    KonfigInv bus (portsVorbereiten config s₀) 16 (eingerichtet bus config s₀) :=
  configurePorts_inv bus (portsVorbereiten config s₀)

theorem outBase_eingerichtet : (eingerichtet bus config s₀).ports.outBase = (basen config.base).1 :=
  (eingerichtet_inv bus config s₀).outBase

theorem basen_le (base : UInt8) : (basen base).1.toNat ≤ 32 := by
  unfold basen
  split
  · decide
  · split
    all_goals decide

/-- The ports that are outputs afterwards -/
theorem ausgang_iff (i : Nat) : Ausgang (eingerichtet bus config s₀).ports i ↔
    i < 16 ∧ config.expander (i / 4) ≠ 255 ∧ ¬ Ausgefallen bus 16 (i / 4) ∧
      alsInput (config.expander (i / 4)) (i % 4) = false := by
  have hexp : (eingerichtet bus config s₀).ports.expBoard (i / 4) =
      if Ausgefallen bus 16 (i / 4) then 255 else config.expander (i / 4) :=
    (eingerichtet_inv bus config s₀).expBoard (i / 4)
  unfold Ausgang
  rw [hexp]
  refine and_congr_right fun _ => ?_
  by_cases hweg : Ausgefallen bus 16 (i / 4)
  · simp [hweg]
  · simp [hweg]

/-- They have got numbers. -/
theorem vergeben_of_ausgang (i : Nat) (h : Ausgang (eingerichtet bus config s₀).ports i) :
    Vergeben bus config.expander i := by
  obtain ⟨hlt, hne, hda, hout⟩ := (ausgang_iff bus config s₀ i).mp h
  refine ⟨hne, ?_, fun ⟨j, hj, hboard, hbus⟩ => ?_, hout⟩
  · by_contra hbus
    exact hda ⟨i, hlt, rfl, Bool.not_eq_true _ ▸ hbus⟩
  · exact hda ⟨j, Nat.lt_trans hj hlt, hboard, hbus⟩

/-- A port that has got numbers and is no output: the first one of its board, whose other
chip is silent. -/
theorem ausgang_of_vergeben {i : Nat} (hi : i < 16) (h : Vergeben bus config.expander i)
    (hzwei : i % 4 = 0 → bus (2 * (i / 4) + 1) = true) :
    Ausgang (eingerichtet bus config s₀).ports i := by
  obtain ⟨hne, hbus, hda, hout⟩ := h
  refine (ausgang_iff bus config s₀ i).mpr ⟨hi, hne, fun ⟨j, hj, hboard, hsilent⟩ => ?_, hout⟩
  have hchip (c : Nat) (hc : c < 2) : bus (2 * (i / 4) + c) = true := by
    by_cases hself : i % 2 = c
    · rw [← hself]
      exact hbus
    · by_cases hfirst : i % 4 = 0
      · rw [show c = 1 by omega]
        exact hzwei hfirst
      · -- the port that asked the other chip comes before
        by_contra hfalse
        have hadr : adrVon (4 * (i / 4) + c) = 2 * (i / 4) + c := by
          unfold adrVon
          omega
        have hvor : 4 * (i / 4) + c < i := by omega
        exact hda ⟨_, hvor, by omega, by rw [hadr]; exact Bool.not_eq_true _ ▸ hfalse⟩
  have hjadr : adrVon j = 2 * (i / 4) + j % 2 := by
    unfold adrVon
    rw [hboard]
  rw [hjadr, hchip (j % 2) (Nat.mod_lt j (by decide))] at hsilent
  exact Bool.noConfusion hsilent

/-- The number `n` is one of port `i`. -/
abbrev ImBlock (i : Nat) (n : UInt8) : Prop :=
  Blocks.InBlock (Vergeben bus config.expander) 8 (basen config.base).1.toNat i n.toNat

/-- The first number of a port is the start of its block. -/
theorem expStartPins_eq {i : Nat} (hi : i < 16) (h : Vergeben bus config.expander i) :
    ((eingerichtet bus config s₀).ports.expStartPins i).toNat =
      Blocks.start (Vergeben bus config.expander) 8 (basen config.base).1.toNat i := by
  have hcount := Nat.count_le (p := Vergeben bus config.expander) (n := i)
  have hbase := basen_le config.base
  have hpin : (eingerichtet bus config s₀).ports.expStartPins i =
      (basen config.base).1 + UInt8.ofNat (8 * Nat.count (Vergeben bus config.expander) i) :=
    (eingerichtet_inv bus config s₀).start i hi h
  rw [hpin, UInt8.toNat_add, UInt8.toNat_ofNat_of_lt' (by show _ < 256; omega)]
  exact Nat.mod_eq_of_lt (by omega)

theorem expStartPins_le {i : Nat} (h : Ausgang (eingerichtet bus config s₀).ports i) :
    ((eingerichtet bus config s₀).ports.expStartPins i).toNat ≤ 152 := by
  have hcount := Nat.count_le (p := Vergeben bus config.expander) (n := i)
  have hbase := basen_le config.base
  have hi : i < 16 := h.1
  rw [expStartPins_eq bus config s₀ hi (vergeben_of_ausgang bus config s₀ _ h), Blocks.start]
  omega

/-- The range is that of the blocks. -/
theorem inRange_iff (n : UInt8) : InRange (eingerichtet bus config s₀) n ↔
    (basen config.base).1.toNat ≤ n.toNat ∧
      n.toNat < Blocks.start (Vergeben bus config.expander) 8 (basen config.base).1.toNat 16 := by
  unfold InRange
  rw [outBase_eingerichtet, (eingerichtet_inv bus config s₀).numberOfOutputs]
  exact Iff.rfl

/-- **The search** looks at the upper ends of the blocks. -/
theorem suchePort_eq_search (n : UInt8) :
    suchePort (eingerichtet bus config s₀).ports false n =
      Blocks.search (Ausgang (eingerichtet bus config s₀).ports) (Vergeben bus config.expander) 8
        (basen config.base).1.toNat 16 n.toNat := by
  have hpasst (i : Nat) (hi : i < 16) : Passt (eingerichtet bus config s₀).ports false n i ↔
      Ausgang (eingerichtet bus config s₀).ports i ∧
        n.toNat <
          Blocks.start (Vergeben bus config.expander) 8 (basen config.base).1.toNat i + 8 := by
    unfold Passt
    constructor
    · rintro ⟨hne, hout, hlt⟩
      have hausgang : Ausgang (eingerichtet bus config s₀).ports i := ⟨hi, hne, hout⟩
      rw [expStartPins_eq bus config s₀ hi (vergeben_of_ausgang bus config s₀ _ hausgang)] at hlt
      exact ⟨hausgang, hlt⟩
    · rintro ⟨hausgang, hlt⟩
      rw [← expStartPins_eq bus config s₀ hi (vergeben_of_ausgang bus config s₀ _ hausgang)] at hlt
      exact ⟨hausgang.2.1, hausgang.2.2, hlt⟩
  ext i
  rw [suchePort_eq_some_iff, Blocks.search_eq_some_iff]
  refine and_congr_right fun hi => ?_
  rw [hpasst i hi, and_assoc]
  refine and_congr_right fun _ => and_congr_right fun _ => forall_congr' fun j =>
    forall_congr' fun hj => ?_
  rw [hpasst j (Nat.lt_trans hj hi), not_and, Nat.not_lt]

/-- **A number of an output port** is one of its pins. -/
theorem pin_of_inBlock {n : UInt8} {i : Nat} (h : Ausgang (eingerichtet bus config s₀).ports i)
    (hblock : ImBlock bus config i n) :
    getMCP23017outportpin (eingerichtet bus config s₀).ports n =
        (bitAmPort (eingerichtet bus config s₀).ports n i, some i) ∧
      bitAmPort (eingerichtet bus config s₀).ports n i < 8 := by
  have hi : i < 16 := h.1
  have hsearch := Blocks.search_of_inBlock (vergeben_of_ausgang bus config s₀) hi h hblock
  refine ⟨pin_of_suchePort ((suchePort_eq_search bus config s₀ n).trans hsearch), ?_⟩
  · obtain ⟨hv, hle, hlt⟩ := hblock
    rw [← expStartPins_eq bus config s₀ h.1 hv] at hle hlt
    show (bitAmPort _ n i).toNat < 8
    rw [bitAmPort_of_le hle hlt]
    split
    all_goals omega

/-- **The pin map**, when every port that has got numbers is an output. -/
theorem bijOn_of_ausgang (hkein : ∀ i < 16, Vergeben bus config.expander i →
      Ausgang (eingerichtet bus config s₀).ports i) :
    Set.BijOn (getMCP23017outportpin (eingerichtet bus config s₀).ports)
      {n | InRange (eingerichtet bus config s₀) n}
      {r | r.1 < 8 ∧ ∃ portindex, r.2 = some portindex ∧
        Ausgang (eingerichtet bus config s₀).ports portindex} := by
  -- the port of a number
  have hport (n : UInt8) (hn : InRange (eingerichtet bus config s₀) n) :
      ∃ i, Ausgang (eingerichtet bus config s₀).ports i ∧ ImBlock bus config i n := by
    obtain ⟨hle, hlt⟩ := (inRange_iff bus config s₀ n).mp hn
    obtain ⟨i, hi, hblock⟩ := Blocks.exists_inBlock hle hlt
    exact ⟨i, hkein i hi hblock.1, hblock⟩
  refine ⟨fun n hn => ?_, fun n hn m hm heq => ?_, ?_⟩
  · obtain ⟨i, hausgang, hblock⟩ := hport n hn
    obtain ⟨hpin, hbit⟩ := pin_of_inBlock bus config s₀ hausgang hblock
    rw [hpin]
    exact ⟨hbit, i, rfl, hausgang⟩
  · obtain ⟨i, hausgang, hblock⟩ := hport n hn
    obtain ⟨j, hausgang', hblock'⟩ := hport m hm
    rw [(pin_of_inBlock bus config s₀ hausgang hblock).1,
      (pin_of_inBlock bus config s₀ hausgang' hblock').1, Prod.mk.injEq, Option.some_inj] at heq
    obtain ⟨hbit, rfl⟩ := heq
    exact bitAmPort_inj hbit
  · rintro ⟨bit, portindex⟩ ⟨hbit, i, rfl, hausgang⟩
    have hv := vergeben_of_ausgang bus config s₀ _ hausgang
    obtain ⟨n, hle, hlt, rfl⟩ := exists_bitAmPort hbit (expStartPins_le bus config s₀ hausgang)
    rw [expStartPins_eq bus config s₀ hausgang.1 hv] at hle hlt
    have hblock : ImBlock bus config i n := ⟨hv, hle, hlt⟩
    exact ⟨n, (inRange_iff bus config s₀ n).mpr (hblock.bounds hausgang.1),
      (pin_of_inBlock bus config s₀ hausgang hblock).1⟩

/-- A number whose port is gone is no pin. -/
theorem not_pin_of_verloren {n : UInt8} {i : Nat}
    (hgone : ¬ Ausgang (eingerichtet bus config s₀).ports i)
    (hblock : ImBlock bus config i n) :
    ¬ ((getMCP23017outportpin (eingerichtet bus config s₀).ports n).1 < 8 ∧
        ∃ portindex, (getMCP23017outportpin (eingerichtet bus config s₀).ports n).2 =
          some portindex ∧ Ausgang (eingerichtet bus config s₀).ports portindex) := by
  rintro ⟨hbit, j, hj, hausgang⟩
  cases hfound : suchePort (eingerichtet bus config s₀).ports false n with
  | none =>
      rw [pin_of_suchePort_none hfound] at hj
      exact absurd hj nofun
  | some i' =>
      rw [pin_of_suchePort hfound] at hj hbit
      obtain rfl : i' = j := Option.some_inj.mp hj
      have hlt := Blocks.lt_start_of_search (vergeben_of_ausgang bus config s₀) hgone hblock
        ((suchePort_eq_search bus config s₀ n).symm.trans hfound)
      have hle := expStartPins_le bus config s₀ hausgang
      rw [← expStartPins_eq bus config s₀ hausgang.1
        (vergeben_of_ausgang bus config s₀ _ hausgang)] at hlt
      have hbit' : (bitAmPort (eingerichtet bus config s₀).ports n i').toNat < 8 := hbit
      rw [bitAmPort_of_lt hlt hle] at hbit'
      split at hbit'
      all_goals omega

/-- **The numbers in the range** are pins exactly if no output is lost. -/
theorem pinMap_iff : PinMap (eingerichtet bus config s₀) ↔
    KeinAusgangVerloren bus config.expander := by
  constructor
  · intro hmap b hb hne hout hchip
    by_contra hsilent
    have hsilent' : bus (2 * b + 1) = false := Bool.not_eq_true _ ▸ hsilent
    have hb4 : b < 4 := hb
    have hdiv : 4 * b / 4 = b := by omega
    have hmod : 4 * b % 4 = 0 := by omega
    have hadr : adrVon (4 * b) = 2 * b ∧ adrVon (4 * b + 1) = 2 * b + 1 := by
      unfold adrVon
      omega
    -- port 0 of the board has got numbers, and is gone
    have hv : Vergeben bus config.expander (4 * b) := by
      refine ⟨by rwa [hdiv], by rwa [hadr.1], fun ⟨j, hj, hboard, _⟩ => ?_, by rwa [hdiv, hmod]⟩
      omega
    have hgone : ¬ Ausgang (eingerichtet bus config s₀).ports (4 * b) := by
      intro hausgang
      obtain ⟨-, -, hda, -⟩ := (ausgang_iff bus config s₀ _).mp hausgang
      exact hda ⟨4 * b + 1, by omega, by omega, by rwa [hadr.2]⟩
    have hi : 4 * b < 16 := by omega
    have hpin := expStartPins_eq bus config s₀ hi hv
    have hblock : ImBlock bus config (4 * b)
        ((eingerichtet bus config s₀).ports.expStartPins (4 * b)) := by
      refine ⟨hv, Nat.le_of_eq hpin.symm, ?_⟩
      rw [hpin]
      exact Nat.lt_add_of_pos_right (by decide)
    exact not_pin_of_verloren bus config s₀ hgone hblock
      (hmap.eindeutig.mapsTo ((inRange_iff bus config s₀ _).mpr (hblock.bounds hi)))
  · intro hkein
    have hbij := bijOn_of_ausgang bus config s₀ fun i hi hv =>
      ausgang_of_vergeben bus config s₀ hi hv fun hfirst => by
        have hadr : adrVon i = 2 * (i / 4) := by
          unfold adrVon
          omega
        have hbus := hv.2.1
        have hout := hv.2.2.2
        rw [hadr] at hbus
        rw [hfirst] at hout
        exact hkein (i / 4) (by show _ < 4; omega) hv.1 hout hbus
    exact ⟨hbij, fun values n state hn => setzen_of_bijOn hbij values state hn⟩

/-- A write to a number below the pins of its port: no bit of a byte, if the shift is
defined. -/
theorem unveraendert_of_lt {s : Ports} {n : UInt8} {i : Nat} (hfound : suchePort s false n = some i)
    (hlt : n.toNat < (s.expStartPins i).toNat) (hstart : (s.expStartPins i).toNat ≤ 152) :
    Unveraendert s n ↔ i % 4 > 1 ∧ (s.expStartPins i).toNat ≤ n.toNat + 8 := by
  have hpin := pin_of_suchePort hfound
  have hbit := bitAmPort_of_lt hlt hstart
  have hge : 8 ≤ (bitAmPort s n i).toNat := by
    rw [hbit]
    split
    all_goals omega
  have hmaske := maske_of_ge hge
  by_cases hlt16 : (bitAmPort s n i).toNat < 16
  · rw [if_pos hlt16] at hmaske
    refine iff_of_true (fun values state => ?_) ?_
    · rw [portsSetOutput_eq hpin hmaske, bitSetzen_zero, Function.update_eq_self]
    · rw [hbit] at hlt16
      split at hlt16
      all_goals omega
  · rw [if_neg hlt16] at hmaske
    refine iff_of_false (fun hall => ?_) fun ⟨hport, hle⟩ => ?_
    · have hnone : portsSetOutput (mitWerten s fun _ => 0) n 0 = none := by
        unfold portsSetOutput
        rw [pin_mitWerten, hpin]
        exact congrArg (Option.map _) hmaske
      exact absurd (hnone.symm.trans (hall _ _)) nofun
    · rw [hbit, if_pos hport] at hlt16
      omega

/-- The first port with numbers is mirrored: it is the first output. -/
theorem erster_iff {i : Nat} (hi : i < 16) (hport : i % 4 > 1) :
    (Vergeben bus config.expander i ∧ ∀ j < i, ¬ Vergeben bus config.expander j) ↔
      (Ausgang (eingerichtet bus config s₀).ports i ∧
        ∀ j < i, ¬ Ausgang (eingerichtet bus config s₀).ports j) ∧
      Blocks.start (Vergeben bus config.expander) 8 (basen config.base).1.toNat i <
        (basen config.base).1.toNat + 8 := by
  rw [Blocks.start_lt_iff (by decide)]
  constructor
  · rintro ⟨hv, hfirst⟩
    exact ⟨⟨ausgang_of_vergeben bus config s₀ hi hv fun hzero => by omega, fun j hj hausgang =>
      hfirst j hj (vergeben_of_ausgang bus config s₀ _ hausgang)⟩, hfirst⟩
  · rintro ⟨⟨hausgang, -⟩, hfirst⟩
    exact ⟨vergeben_of_ausgang bus config s₀ _ hausgang, hfirst⟩

/-- **The numbers outside of it** leave the bytes alone exactly if they lie less than nine
below a mirrored port that has got the first numbers. -/
theorem unveraendert_iff {n : UInt8} (hn : ¬ InRange (eingerichtet bus config s₀) n) :
    Unveraendert (eingerichtet bus config s₀).ports n ↔
      n < (basen config.base).1 ∧ (basen config.base).1.toNat ≤ n.toNat + 8 ∧
        ErsterGespiegelt bus config.expander := by
  have hsearch := suchePort_eq_search bus config s₀ n
  have hnone (hfound : suchePort (eingerichtet bus config s₀).ports false n = none) :
      ¬ Unveraendert (eingerichtet bus config s₀).ports n := by
    intro hall
    have hset := portsSetOutput_none (pin_of_suchePort_none hfound) (fun _ => 0) 0
    exact absurd (hset.symm.trans (hall _ _)) nofun
  by_cases hbelow : n < (basen config.base).1
  · have hbelow' : n.toNat < (basen config.base).1.toNat := hbelow
    have hfirst (i : Nat) := Blocks.search_below (q := Ausgang (eingerichtet bus config s₀).ports)
      (p := Vergeben bus config.expander) (w := 8) (N := 16) (i := i) hbelow'
    cases hfound : suchePort (eingerichtet bus config s₀).ports false n with
    | none =>
        refine iff_of_false (hnone hfound) ?_
        rintro ⟨-, -, i, hi, hport, hv⟩
        obtain ⟨hausgang, -⟩ := (erster_iff bus config s₀ hi hport).mp hv
        have hsome := (hfirst i).mpr ⟨hi, hausgang⟩
        rw [← hsearch, hfound] at hsome
        exact absurd hsome nofun
    | some i =>
        obtain ⟨hi, hausgang⟩ := (hfirst i).mp (hsearch.symm.trans hfound)
        have hle := expStartPins_le bus config s₀ hausgang.1
        have hpin := expStartPins_eq bus config s₀ hi
          (vergeben_of_ausgang bus config s₀ _ hausgang.1)
        have hbase : (basen config.base).1.toNat ≤
            Blocks.start (Vergeben bus config.expander) 8 (basen config.base).1.toNat i :=
          Blocks.base_le_start i
        rw [unveraendert_of_lt hfound (by omega) hle, hpin]
        constructor
        · rintro ⟨hport, hstart⟩
          exact ⟨hbelow, by omega, i, hi, hport,
            (erster_iff bus config s₀ hi hport).mpr ⟨hausgang, by omega⟩⟩
        · rintro ⟨-, hstart, j, hj, hport, hv⟩
          obtain ⟨hausgang', hlt⟩ := (erster_iff bus config s₀ hj hport).mp hv
          -- both are the first output
          obtain rfl : i = j := by
            have hsome := (hfirst j).mpr ⟨hj, hausgang'⟩
            rw [← hsearch, hfound] at hsome
            exact Option.some_inj.mp hsome
          have hnot := (Blocks.start_lt_iff (by decide)).mp hlt
          rw [Blocks.start, Nat.count_iff_forall_not.mpr hnot]
          exact ⟨hport, hstart⟩
  · have hle : (basen config.base).1.toNat ≤ n.toNat := Nat.le_of_not_lt hbelow
    have habove : Blocks.start (Vergeben bus config.expander) 8 (basen config.base).1.toNat 16 ≤
        n.toNat := Nat.le_of_not_lt fun hlt => hn ((inRange_iff bus config s₀ n).mpr ⟨hle, hlt⟩)
    exact iff_of_false (hnone (hsearch.trans
      (Blocks.search_above (vergeben_of_ausgang bus config s₀) habove))) fun h => hbelow h.1

/-- **The pin map** of the expanders. The numbers in the range are the pins of the outputs
exactly if no output is lost, and those outside of it leave the bytes alone exactly if
they lie less than nine below a mirrored port that has got the first numbers. -/
theorem ports_pinMap_iff :
    (PinMap (eingerichtet bus config s₀) ↔ KeinAusgangVerloren bus config.expander) ∧
      ∀ n, ¬ InRange (eingerichtet bus config s₀) n →
        (Unveraendert (eingerichtet bus config s₀).ports n ↔
          n < (basen config.base).1 ∧ (basen config.base).1.toNat ≤ n.toNat + 8 ∧
            ErsterGespiegelt bus config.expander) :=
  ⟨pinMap_iff bus config s₀, fun _ hn => unveraendert_iff bus config s₀ hn⟩

end

/-- Two boards of outputs; the second chip of the first board is silent. -/
private def zweiBoards : Konfiguration :=
  eingerichtet (fun adr => adr = 0 || adr = 2 || adr = 3)
    ⟨32, fun b => if b < 2 then 0 else 255⟩
    ⟨false, false, fun _ => 0, 0, 0, fun _ => 0, fun _ => 0⟩

/-- Number 32 is in the range and no pin; number 200 is not in it, and is written to a port
that nothing says. -/
theorem zweiBoards_not_pinMap :
    ¬ PinMap zweiBoards ∧ ¬ InRange zweiBoards 200 ∧ ¬ Unveraendert zweiBoards.ports 200 := by
  have hpin : getMCP23017outportpin zweiBoards.ports 32 = (248, some 4) := by decide
  refine ⟨fun hmap => ?_, by unfold InRange; decide, fun hall => ?_⟩
  · have hrange : InRange zweiBoards 32 := by
      unfold InRange
      decide
    have hbit := (hmap.eindeutig.mapsTo hrange).1
    rw [hpin] at hbit
    exact absurd hbit (by decide)
  · have hnone : getMCP23017outportpin zweiBoards.ports 200 = (0, none) := by decide
    have hset := portsSetOutput_none hnone (fun _ => 0) 0
    exact absurd (hset.symm.trans (hall _ _)) nofun

end OpenHcan.Expander
