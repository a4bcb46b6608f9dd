import OpenHcan.Canix.EdsForeach
import OpenHcan.Canix.EdsHeap
import OpenHcan.Lib.TreeLinks
import OpenHcan.Userpanel.Lcdstatemachine

/-!
# Menue — the panel is a cursor in its menu

What the pages are for: a menu is a forest of pages, the panel stands on one of
them, OK goes to the first page below, ESC back up, UP and DOWN to the siblings.
The blocks of the EEPROM may lie in any order; what they have to fulfil is
`Gespeichert`. Then the panel follows the cursor in every run.
-/

namespace OpenHcan.Userpanel

open Eds Lib Siblings

/-! ## The menu -/

/-- The pages of a menu, by their ids, and their types. The ids of the links are 0
where there is no page, and the panel starts with page 1. -/
structure Menue where
  baum : Siblings UInt8
  type : UInt8 → UInt8
  nodup : baum.labels.Nodup
  nonzero : 0 ∉ baum.labels
  start : baum.root = some 1
  kinder : ∀ l ∈ baum.links none none, mitKindern (type l.self) = true → l.child ≠ none

namespace Menue

variable (me : Menue)

def seiten : List (Links UInt8) := me.baum.links none none

/-- The links of a page. -/
def eintrag (p : UInt8) : Option (Links UInt8) := me.seiten.find? fun l => l.self == p

/-- The page a link of `p` leads to, or `p` itself. -/
def folge (link : Links UInt8 → Option UInt8) (p : UInt8) : UInt8 :=
  ((me.eintrag p).bind link).getD p

/-- What ESC, UP and DOWN do. -/
def nachbar (key p : UInt8) : UInt8 :=
  if key = keyEsc then me.folge Links.parent p
  else if key = keyUp then me.folge Links.prev p
  else if key = keyDown then me.folge Links.next p
  else p

/-- The page after a key. -/
def taste (key : UInt8) (hoch : Bool) (p : UInt8) : UInt8 :=
  if mitUnterseiten (me.type p) then if hoch then me.folge Links.parent p else p
  else if mitBefehl (me.type p) then me.nachbar key p
  else if key = keyOk then if mitKindern (me.type p) then me.folge Links.child p else p
  else me.nachbar key p

end Menue

/-- The page the panel stands on, what the shortcuts are set to, and the two
counters that decide about pages. -/
structure Ansicht where
  seite : UInt8
  kurzwahl : Fin 8 → UInt8
  keypressTime : UInt8
  screensaferCountdown : UInt16

/-- The panel after a start. -/
def Ansicht.start (kurzwahl : Fin 8 → UInt8) : Ansicht := ⟨1, kurzwahl, 0, 30⟩

/-- The reaction to an event. -/
def ansichtStep (me : Menue) (s : Ansicht) : MenueEvent → Ansicht
  | .keyDown key hoch => ⟨me.taste key hoch s.seite, s.kurzwahl, 1, 300⟩
  | .keyUp key =>
      match shortcutKey key with
      | some n =>
          if s.keypressTime < 3 then ⟨s.kurzwahl n, s.kurzwahl, 0, s.screensaferCountdown⟩
          else ⟨s.seite, Function.update s.kurzwahl n s.seite, 0, s.screensaferCountdown⟩
      | none => ⟨s.seite, s.kurzwahl, 0, s.screensaferCountdown⟩
  | .sekundeBeginnt =>
      ⟨s.seite, s.kurzwahl,
        if s.keypressTime ≠ 0 ∧ s.keypressTime < 255 then s.keypressTime + 1 else s.keypressTime,
        s.screensaferCountdown⟩
  | .sekundeEndet =>
      if s.screensaferCountdown > 0 then
        ⟨if s.screensaferCountdown - 1 = 0 then 1 else s.seite, s.kurzwahl, s.keypressTime,
          s.screensaferCountdown - 1⟩
      else s
  | .hoch => ⟨me.folge Links.parent s.seite, s.kurzwahl, s.keypressTime, s.screensaferCountdown⟩
  | .sucht _ => s
  | .neustart => .start s.kurzwahl

/-! ## How it is stored -/

section

variable (mcu : Mcu) (me : Menue) (bs : Blocks)

/-- The page with the links `l` is the block at `a`, and a search for it comes by no
other one before: neither by a page with its id nor, if it is a first child, by one
that passes for a first child of its parent. -/
structure Liegt (m : Eeprom) (l : Links UInt8) (a size : Nat) : Prop where
  block : Eds.BlockAt bs a ⟨me.type l.self, size⟩
  range : edsPageIdStart ≤ me.type l.self ∧ me.type l.self ≤ edsPageIdEnd
  size : 4 ≤ size ∧ size ≤ 196
  id : m (a + 2) = l.self
  parent : m (a + 3) = l.parent.getD 0
  next : m (a + 4) = l.next.getD 0
  prev : m (a + 5) = l.prev.getD 0
  zuerst : ∀ b ∈ pageBlocks mcu m, b < a → m (b + 2) = l.self → 196 < edsBlockSize m b
  erstes : ∀ p, l.parent = some p → l.prev = none → ∀ b ∈ pageBlocks mcu m, b < a →
    ¬ (m (b + 3) = p ∧ m (b + 5) = 0)

/-- The EEPROM holds the menu, the shortcuts at `it`, and the lists of the monitors. -/
structure Gespeichert (it : Nat) (m : Eeprom) : Prop where
  heap : EdsHeap mcu m bs
  liegt : ∀ l ∈ me.seiten, ∃ a size, Liegt mcu me bs m l a size
  platz : ∀ b s, Eds.BlockAt bs b s → edsPageIdStart ≤ s.tag → s.tag ≤ edsPageIdEnd → 4 ≤ s.size
  kurzwahl : edsFindNextBlock mcu m 0 edsUserpanelShortcutsBlockId = it
  shortcuts : ∃ size, 8 ≤ size ∧ Eds.BlockAt bs it ⟨edsUserpanelShortcutsBlockId, size⟩
  konfiguriert : ∀ k : Konfiguration, edsFindNextBlock mcu m 0 k.type ≠ 0

/-- The active page is the block of the page `p`. -/
def ZeigtSeite (m : Eeprom) (page : Lcdpage) (p : UInt8) : Prop :=
  ∃ l ∈ me.seiten, l.self = p ∧ ∃ a size, Liegt mcu me bs m l a size ∧
    ∀ i : Fin 198, i.val < size + 2 → page.get i = m (a + i.val)

/-- The panel stands where the cursor stands. -/
structure Folgt (it : Nat) (z : Panel) (s : Ansicht) : Prop where
  gespeichert : Gespeichert mcu me bs it z.mem
  state : z.state = stateView
  seite : ZeigtSeite mcu me bs z.mem z.activePage s.seite
  kurzwahl : ∀ n : Fin 8, z.mem (it + 2 + n.val) = s.kurzwahl n
  gewaehlt : ∀ key n, shortcutKey key = some n → s.kurzwahl n ∈ me.baum.labels
  keypressTime : z.keypressTime = s.keypressTime
  screensafer : z.lcdScreensaferCountdown = s.screensaferCountdown

end

variable {mcu : Mcu} {me : Menue} {bs : Blocks} {it : Nat} {m : Eeprom}

/-! ## The searches -/

theorem pageBlocks_eq (hh : EdsHeap mcu m bs) :
    pageBlocks mcu m = wantedFrom mcu m
      (fun t => t ≥ edsPageIdStart && t ≤ edsPageIdEnd) edsDataStart bs :=
  edsForeachBlockBetween_eq hh _ _

theorem mem_pageBlocks (hh : EdsHeap mcu m bs) {a : Nat} {s : Seg UInt8}
    (hat : Eds.BlockAt bs a s) (hrange : edsPageIdStart ≤ s.tag ∧ s.tag ≤ edsPageIdEnd) :
    a ∈ pageBlocks mcu m := by
  rw [pageBlocks_eq hh, wantedFrom, List.mem_filter]
  refine ⟨List.mem_append_left _ (Tiling.mem_starts.mpr ⟨s, hat⟩), ?_⟩
  have htype : m a = s.tag := hh.type_eq hat
  simpa [htype] using hrange

theorem pageBlocks_pairwise (hh : EdsHeap mcu m bs) : (pageBlocks mcu m).Pairwise (· < ·) := by
  rw [pageBlocks_eq hh, wantedFrom]
  refine List.Pairwise.filter _ (List.pairwise_append.mpr
    ⟨Tiling.starts_pairwise (by decide) _ _, List.pairwise_singleton _ _, ?_⟩)
  intro a ha b hb
  obtain ⟨s, hs⟩ := Tiling.mem_starts.mp ha
  have := hh.lt_edsEnd hs
  rw [List.mem_singleton] at hb
  omega

/-- A search that comes by nothing it takes before `a` reads the block at `a`. -/
theorem loadPageLoop_found {page : UInt8} {a : Nat} {its : List Nat}
    (hpair : its.Pairwise (· < ·)) (ha : a ∈ its) (hid : edsBlockData m a 0 = page)
    (hfit : edsBlockSize m a ≤ 196)
    (hfirst : ∀ b ∈ its, b < a → edsBlockData m b 0 = page → 196 < edsBlockSize m b)
    (p : Lcdpage) :
    ∃ p' : Lcdpage, loadPageLoop m page its p = p'.eepromReadBlock m a (edsBlockSize m a + 2) := by
  induction its generalizing p with
  | nil => cases ha
  | cons b its ih =>
      obtain ⟨hhead, htail⟩ := List.pairwise_cons.mp hpair
      rw [loadPageLoop]
      rcases List.mem_cons.mp ha with rfl | ha
      · rw [if_pos hid, if_neg (by omega)]
        exact ⟨p, rfl⟩
      · have hrest := ih htail ha fun c hc => hfirst c (List.mem_cons_of_mem b hc)
        split
        · next hb =>
            -- a page in front of it with the same id has to be too large
            have hbig := hfirst b List.mem_cons_self (hhead a ha) hb
            rw [if_pos (by omega)]
            exact hrest _
        · exact hrest p

theorem firstChildLoop_found {self : UInt8} {a : Nat} {its : List Nat}
    (hpair : its.Pairwise (· < ·)) (ha : a ∈ its)
    (hlink : eepromReadByte m (ptr (a + 3)) = self ∧ eepromReadByte m (ptr (a + 5)) = 0)
    (hfit : edsBlockSize m a ≤ 196)
    (hfirst : ∀ b ∈ its, b < a →
      ¬ (eepromReadByte m (ptr (b + 3)) = self ∧ eepromReadByte m (ptr (b + 5)) = 0))
    (p : Lcdpage) :
    firstChildLoop m self its p = p.eepromReadBlock m a (edsBlockSize m a + 2) := by
  induction its with
  | nil => cases ha
  | cons b its ih =>
      obtain ⟨hhead, htail⟩ := List.pairwise_cons.mp hpair
      rw [firstChildLoop]
      rcases List.mem_cons.mp ha with rfl | ha
      · rw [if_pos hlink, if_neg (by omega)]
      · rw [if_neg (hfirst b List.mem_cons_self (hhead a ha))]
        exact ih htail ha fun c hc => hfirst c (List.mem_cons_of_mem b hc)

/-! ## What a page block says -/

namespace Liegt

variable {l : Links UInt8} {a size : Nat}

theorem addr (h : Liegt mcu me bs m l a size) (hh : EdsHeap mcu m bs) : a + 2 + size < 65536 := by
  have hb := hh.bounds h.block
  have he := edsEnd_le mcu
  show a + 2 + size < 65536
  simp only at hb
  omega

theorem size_eq (h : Liegt mcu me bs m l a size) (hh : EdsHeap mcu m bs) :
    edsBlockSize m a = size :=
  hh.size_eq h.block

theorem mem (h : Liegt mcu me bs m l a size) (hh : EdsHeap mcu m bs) : a ∈ pageBlocks mcu m :=
  mem_pageBlocks hh h.block h.range

/-- The block as it is read into the active page. -/
theorem zeigt (h : Liegt mcu me bs m l a size) (hh : EdsHeap mcu m bs) (hl : l ∈ me.seiten)
    (p : Lcdpage) :
    ZeigtSeite mcu me bs m (p.eepromReadBlock m a (edsBlockSize m a + 2)) l.self := by
  refine ⟨l, hl, rfl, a, size, h, fun i hi => ?_⟩
  have haddr := h.addr hh
  rw [h.size_eq hh]
  rw [Lcdpage.eepromReadBlock_get, if_pos hi, eepromReadByte, ptr_of_lt (by omega)]

end Liegt

/-- An address a search comes by before a page block is far from the 16-bit limit. -/
theorem ptr_before {a b i : Nat} {s : Seg UInt8} (hh : EdsHeap mcu m bs)
    (hat : Eds.BlockAt bs a s) (hb : b ≤ a) (hi : i ≤ 5) : ptr (b + i) = b + i := by
  have hlt := hh.lt_edsEnd hat
  have he := edsEnd_le mcu
  exact ptr_of_lt (by omega)

/-! ## What the active page says -/

namespace ZeigtSeite

variable {page : Lcdpage} {p : UInt8}

theorem byte {l : Links UInt8} {a size : Nat} (h : Liegt mcu me bs m l a size)
    (hbytes : ∀ i : Fin 198, i.val < size + 2 → page.get i = m (a + i.val)) (i : Fin 198)
    (hi : i.val < 6) : page.get i = m (a + i.val) := by
  have := h.size.1
  exact hbytes i (by omega)

/-- The header and the links of the active page. -/
theorem links (h : ZeigtSeite mcu me bs m page p) (hh : EdsHeap mcu m bs) :
    ∃ l ∈ me.seiten, l.self = p ∧ page.blockType = me.type p ∧ page.pageId = p ∧
      page.parentId = l.parent.getD 0 ∧ page.nextId = l.next.getD 0 ∧
      page.prevId = l.prev.getD 0 := by
  obtain ⟨l, hl, rfl, a, size, hlies, hbytes⟩ := h
  have htype : m a = me.type l.self := hh.type_eq hlies.block
  refine ⟨l, hl, rfl, ?_, ?_, ?_, ?_, ?_⟩
  · exact (byte hlies hbytes 0 (by decide)).trans htype
  · exact (byte hlies hbytes 2 (by decide)).trans hlies.id
  · exact (byte hlies hbytes 3 (by decide)).trans hlies.parent
  · exact (byte hlies hbytes 4 (by decide)).trans hlies.next
  · exact (byte hlies hbytes 5 (by decide)).trans hlies.prev

theorem blockType (h : ZeigtSeite mcu me bs m page p) (hh : EdsHeap mcu m bs) :
    page.blockType = me.type p := by
  obtain ⟨l, -, -, htype, -⟩ := h.links hh
  exact htype

theorem pageId (h : ZeigtSeite mcu me bs m page p) (hh : EdsHeap mcu m bs) : page.pageId = p := by
  obtain ⟨l, -, -, -, hid, -⟩ := h.links hh
  exact hid

theorem mem_labels (h : ZeigtSeite mcu me bs m page p) : p ∈ me.baum.labels := by
  obtain ⟨l, hl, rfl, -⟩ := h
  exact self_mem_labels hl

end ZeigtSeite

/-! ## The links of the menu -/

theorem Menue.eintrag_eq {l : Links UInt8} (hl : l ∈ me.seiten) : me.eintrag l.self = some l := by
  have hfound : (me.seiten.find? fun l' => l'.self == l.self).isSome := by
    rw [List.find?_isSome]
    exact ⟨l, hl, by simp⟩
  obtain ⟨l', hl'⟩ := Option.isSome_iff_exists.mp hfound
  have hself : l'.self = l.self := by simpa using List.find?_some hl'
  rw [Menue.eintrag, hl', links_unique me.nodup (List.mem_of_find?_eq_some hl') hl hself]

theorem Menue.folge_eq {l : Links UInt8} (hl : l ∈ me.seiten) (link : Links UInt8 → Option UInt8) :
    me.folge link l.self = (link l).getD l.self := by
  rw [Menue.folge, Menue.eintrag_eq hl, Option.bind_some]

/-- A link that leads to pages of the menu only. -/
def Menue.Geschlossen (me : Menue) (link : Links UInt8 → Option UInt8) : Prop :=
  ∀ l ∈ me.seiten, ∀ q, link l = some q → q ∈ me.baum.labels

theorem Menue.parent_geschlossen : me.Geschlossen Links.parent := by
  intro l hl q hq
  obtain hnone | ⟨l', hl', hself⟩ := parent_link hl
  · rw [hq] at hnone
    cases hnone
  · obtain rfl := Option.some.inj (hq.symm.trans hself)
    exact self_mem_labels hl'

theorem Menue.next_geschlossen : me.Geschlossen Links.next := by
  intro l hl q hq
  obtain ⟨l', hl', rfl, -⟩ := next_link hl hq
  exact self_mem_labels hl'

theorem Menue.prev_geschlossen : me.Geschlossen Links.prev := by
  intro l hl q hq
  obtain hnone | ⟨hnone, -⟩ | ⟨l', hl', hself, -⟩ := prev_link hl
  · cases hq.symm.trans hnone
  · cases hq.symm.trans hnone
  · obtain rfl := Option.some.inj (hq.symm.trans hself)
    exact self_mem_labels hl'

/-! ## The moves -/

section

variable {z : Panel} {s : Ansicht}

@[simp] theorem Panel.load_mem (p : Lcdpage) : (z.load p).mem = z.mem := rfl
@[simp] theorem Panel.load_activePage (p : Lcdpage) : (z.load p).activePage = p := rfl
@[simp] theorem Panel.load_state (p : Lcdpage) : (z.load p).state = z.state := rfl
@[simp] theorem Panel.load_keypressTime (p : Lcdpage) :
    (z.load p).keypressTime = z.keypressTime := rfl
@[simp] theorem Panel.load_screensafer (p : Lcdpage) :
    (z.load p).lcdScreensaferCountdown = z.lcdScreensaferCountdown := rfl

/-- **`load_page` shows the page**, if there is one with this id. -/
theorem Gespeichert.loadPage (h : Gespeichert mcu me bs it m) {p : UInt8}
    (hp : p ∈ me.baum.labels) (page : Lcdpage) :
    ZeigtSeite mcu me bs m (loadPageLoop m p (pageBlocks mcu m) page) p := by
  obtain ⟨l, hl, rfl⟩ := Siblings.mem_labels.mp hp
  obtain ⟨a, size, hlies⟩ := h.liegt l hl
  have hdata : ∀ b ≤ a, edsBlockData m b 0 = m (b + 2) := fun b hb => by
    have := ptr_before h.heap hlies.block hb (show 2 ≤ 5 by omega)
    rw [edsBlockData, Nat.add_zero, this, eepromReadByte]
  obtain ⟨page', hpage⟩ := loadPageLoop_found (pageBlocks_pairwise h.heap) (hlies.mem h.heap)
    ((hdata a (Nat.le_refl a)).trans hlies.id)
    (by rw [hlies.size_eq h.heap]; exact hlies.size.2)
    (fun b hb hlt hid => hlies.zuerst b hb hlt ((hdata b (Nat.le_of_lt hlt)).symm.trans hid))
    page
  rw [hpage]
  exact hlies.zeigt h.heap hl page'

theorem Folgt.of_load (h : Folgt mcu me bs it z s) {page : Lcdpage} {p : UInt8}
    (hpage : ZeigtSeite mcu me bs z.mem page p) :
    Folgt mcu me bs it (z.load page) ⟨p, s.kurzwahl, s.keypressTime, s.screensaferCountdown⟩ :=
  ⟨h.gespeichert, h.state, hpage, h.kurzwahl, h.gewaehlt, h.keypressTime, h.screensafer⟩

theorem Folgt.loadPage (h : Folgt mcu me bs it z s) {p : UInt8} (hp : p ∈ me.baum.labels) :
    Folgt mcu me bs it (z.loadPage mcu p)
      ⟨p, s.kurzwahl, s.keypressTime, s.screensaferCountdown⟩ :=
  h.of_load (h.gespeichert.loadPage hp _)

/-- A link of the active page leads where the link of the menu leads. -/
theorem Folgt.gotoLink (h : Folgt mcu me bs it z s) {id : UInt8}
    {link : Links UInt8 → Option UInt8} (hclosed : me.Geschlossen link)
    (hid : ∀ l ∈ me.seiten, l.self = s.seite → id = (link l).getD 0) :
    Folgt mcu me bs it (z.gotoLink mcu id)
      ⟨me.folge link s.seite, s.kurzwahl, s.keypressTime, s.screensaferCountdown⟩ := by
  obtain ⟨l, hl, hself⟩ := h.seite
  have hfolge := Menue.folge_eq hl link
  rw [hself.1] at hfolge
  rw [hfolge, Panel.gotoLink, hid l hl hself.1]
  cases hlink : link l with
  | none =>
      rw [Option.getD_none, Option.getD_none, if_neg (by simp)]
      exact h
  | some q =>
      have hq := hclosed l hl q hlink
      have hne : q ≠ 0 := fun h0 => me.nonzero (h0 ▸ hq)
      rw [Option.getD_some, Option.getD_some, if_pos hne]
      exact h.loadPage hq

theorem Folgt.gotoPageUp (h : Folgt mcu me bs it z s) :
    Folgt mcu me bs it (z.gotoPageUp mcu)
      ⟨me.folge Links.parent s.seite, s.kurzwahl, s.keypressTime, s.screensaferCountdown⟩ := by
  refine h.gotoLink Menue.parent_geschlossen fun l hl hself => ?_
  obtain ⟨l', hl', hself', -, -, hparent, -⟩ := h.seite.links h.gespeichert.heap
  rw [hparent, links_unique me.nodup hl hl' (hself.trans hself'.symm)]

theorem Folgt.gotoNextPage (h : Folgt mcu me bs it z s) :
    Folgt mcu me bs it (z.gotoNextPage mcu)
      ⟨me.folge Links.next s.seite, s.kurzwahl, s.keypressTime, s.screensaferCountdown⟩ := by
  refine h.gotoLink Menue.next_geschlossen fun l hl hself => ?_
  obtain ⟨l', hl', hself', -, -, -, hnext, -⟩ := h.seite.links h.gespeichert.heap
  rw [hnext, links_unique me.nodup hl hl' (hself.trans hself'.symm)]

theorem Folgt.gotoPrevPage (h : Folgt mcu me bs it z s) :
    Folgt mcu me bs it (z.gotoPrevPage mcu)
      ⟨me.folge Links.prev s.seite, s.kurzwahl, s.keypressTime, s.screensaferCountdown⟩ := by
  refine h.gotoLink Menue.prev_geschlossen fun l hl hself => ?_
  obtain ⟨l', hl', hself', -, -, -, -, hprev⟩ := h.seite.links h.gespeichert.heap
  rw [hprev, links_unique me.nodup hl hl' (hself.trans hself'.symm)]

theorem Folgt.gotoNachbar (h : Folgt mcu me bs it z s) (key : UInt8) :
    Folgt mcu me bs it (z.gotoNachbar mcu key)
      ⟨me.nachbar key s.seite, s.kurzwahl, s.keypressTime, s.screensaferCountdown⟩ := by
  rw [Panel.gotoNachbar, Menue.nachbar]
  split
  · exact h.gotoPageUp
  · split
    · exact h.gotoPrevPage
    · split
      · exact h.gotoNextPage
      · exact h

/-- What a step may change without the panel leaving its page. -/
theorem Folgt.congr (h : Folgt mcu me bs it z s) {z' : Panel} {s' : Ansicht}
    (hmem : z'.mem = z.mem) (hstate : z'.state = z.state) (hkurzwahl : s'.kurzwahl = s.kurzwahl)
    (hseite : ZeigtSeite mcu me bs z.mem z'.activePage s'.seite)
    (hkey : z'.keypressTime = s'.keypressTime)
    (hscreen : z'.lcdScreensaferCountdown = s'.screensaferCountdown) :
    Folgt mcu me bs it z' s' := by
  refine ⟨hmem ▸ h.gespeichert, hstate.trans h.state, hmem ▸ hseite, ?_, ?_, hkey, hscreen⟩
  · rw [hmem, hkurzwahl]
    exact h.kurzwahl
  · rw [hkurzwahl]
    exact h.gewaehlt

@[simp] theorem Panel.push_mem (id : UInt8) : (z.pagePathStackPush id).mem = z.mem := by
  unfold Panel.pagePathStackPush
  split <;> rfl

@[simp] theorem Panel.push_state (id : UInt8) : (z.pagePathStackPush id).state = z.state := by
  unfold Panel.pagePathStackPush
  split <;> rfl

@[simp] theorem Panel.push_keypressTime (id : UInt8) :
    (z.pagePathStackPush id).keypressTime = z.keypressTime := by
  unfold Panel.pagePathStackPush
  split <;> rfl

@[simp] theorem Panel.push_screensafer (id : UInt8) :
    (z.pagePathStackPush id).lcdScreensaferCountdown = z.lcdScreensaferCountdown := by
  unfold Panel.pagePathStackPush
  split <;> rfl

/-- **`goto_first_child_page` shows the first child**, whatever the page stack says. -/
theorem Folgt.gotoFirstChildPage (h : Folgt mcu me bs it z s)
    (hkinder : mitKindern (me.type s.seite) = true) :
    Folgt mcu me bs it (z.gotoFirstChildPage mcu)
      ⟨me.folge Links.child s.seite, s.kurzwahl, s.keypressTime, s.screensaferCountdown⟩ := by
  have hh := h.gespeichert.heap
  obtain ⟨l, hl, hself⟩ := h.seite
  have hself : l.self = s.seite := hself.1
  obtain ⟨q, hq⟩ := Option.ne_none_iff_exists'.mp (me.kinder l hl (hself.symm ▸ hkinder))
  obtain ⟨l', hl', rfl, hparent, hprev⟩ := child_link hl hq
  obtain ⟨a, size, hlies⟩ := h.gespeichert.liegt l' hl'
  -- the two bytes by which the loop recognizes a first child
  have hread : ∀ b ≤ a, ∀ i ≤ 5, eepromReadByte z.mem (ptr (b + i)) = z.mem (b + i) :=
    fun b hb i hi => by rw [ptr_before hh hlies.block hb hi, eepromReadByte]
  have hpageId : z.activePage.pageId = l.self := by rw [hself]; exact h.seite.pageId hh
  have hloop : firstChildLoop z.mem l.self (pageBlocks mcu z.mem)
      (z.pagePathStackPush l.self).activePage
      = (z.pagePathStackPush l.self).activePage.eepromReadBlock z.mem a
          (edsBlockSize z.mem a + 2) := by
    refine firstChildLoop_found (pageBlocks_pairwise hh) (hlies.mem hh) ⟨?_, ?_⟩ ?_ ?_ _
    · rw [hread a (Nat.le_refl a) 3 (by omega), hlies.parent, hparent, Option.getD_some]
    · rw [hread a (Nat.le_refl a) 5 (by omega), hlies.prev, hprev, Option.getD_none]
    · rw [hlies.size_eq hh]
      exact hlies.size.2
    · intro b hb hlt
      rw [hread b (Nat.le_of_lt hlt) 3 (by omega), hread b (Nat.le_of_lt hlt) 5 (by omega)]
      exact hlies.erstes l.self hparent hprev b hb hlt
  have hfolge : me.folge Links.child s.seite = l'.self := by
    rw [← hself, Menue.folge_eq hl, hq, Option.getD_some]
  refine h.congr ?_ ?_ rfl ?_ ?_ ?_
  · simp [Panel.gotoFirstChildPage]
  · simp [Panel.gotoFirstChildPage]
  · simp only [Panel.gotoFirstChildPage, Panel.load_activePage, Panel.push_mem, hpageId, hfolge]
    rw [hloop]
    exact hlies.zeigt hh hl' _
  · simpa [Panel.gotoFirstChildPage] using h.keypressTime
  · simpa [Panel.gotoFirstChildPage] using h.screensafer

theorem Folgt.keyDown (h : Folgt mcu me bs it z s) (key : UInt8) (hoch : Bool) :
    Folgt mcu me bs it (z.keyDownEvent mcu key hoch) (ansichtStep me s (.keyDown key hoch)) := by
  have hz : Folgt mcu me bs it
      { z with lcdLedCountdown := 10, lcdScreensaferCountdown := 300, keypressTime := 1 }
      ⟨s.seite, s.kurzwahl, 1, 300⟩ := h.congr rfl rfl rfl h.seite rfl rfl
  simp only [Panel.keyDownEvent, ansichtStep, Menue.taste, h.seite.blockType h.gespeichert.heap]
  split
  · split
    · exact hz.gotoPageUp
    · exact hz
  · split
    · exact hz.gotoNachbar key
    · rw [if_pos h.state]
      split
      · split
        · next hkinder => exact hz.gotoFirstChildPage hkinder
        · exact hz
      · exact hz.gotoNachbar key

end

/-! ## Saving a shortcut -/

theorem foldl_write_of_ne {v : Vector UInt8 8} {p q : Nat} (l : List (Fin 8)) (m : Eeprom)
    (h : ∀ i ∈ l, q ≠ ptr (p + i.val)) :
    l.foldl (fun m i => eepromWriteByte m (ptr (p + i.val)) (v.get i)) m q = m q := by
  induction l generalizing m with
  | nil => rfl
  | cons i l ih =>
      rw [List.foldl_cons, ih _ fun j hj => h j (List.mem_cons_of_mem i hj)]
      exact eepromWriteByte_of_ne m _ (h i List.mem_cons_self)

theorem foldl_write_of_mem {v : Vector UInt8 8} {p : Nat} (hp : p + 8 ≤ 65536) {i : Fin 8}
    (l : List (Fin 8)) (m : Eeprom) (h : i ∈ l) :
    l.foldl (fun m i => eepromWriteByte m (ptr (p + i.val)) (v.get i)) m (p + i.val) = v.get i := by
  induction l generalizing m with
  | nil => cases h
  | cons j l ih =>
      rw [List.foldl_cons]
      by_cases hi : i ∈ l
      · exact ih _ hi
      · obtain rfl := (List.mem_cons.mp h).resolve_right hi
        rw [foldl_write_of_ne l _ fun j hj => ?_, ptr_of_lt (by omega), eepromWriteByte_self]
        rw [ptr_of_lt (by omega)]
        have hne : i.val ≠ j.val := fun he => hi (Fin.ext he ▸ hj)
        omega

/-- **Saving one shortcut writes one byte**, though it writes eight. -/
theorem writeShortcuts_set {p : Nat} (hp : p + 8 ≤ 65536) (n : Fin 8) (v : UInt8) :
    writeShortcuts m p ((readShortcuts m p).setIfInBounds n.val v) =
      eepromWriteByte m (p + n.val) v := by
  funext q
  by_cases hq : ∃ i : Fin 8, q = p + i.val
  · obtain ⟨i, rfl⟩ := hq
    rw [writeShortcuts, foldl_write_of_mem hp _ _ (List.mem_finRange i)]
    rw [get_set_shortcut, readShortcuts_get]
    split
    · next hn => rw [hn, eepromWriteByte_self]
    · next hn =>
        rw [eepromWriteByte_of_ne m _ (by omega), ptr_of_lt (by omega), eepromReadByte]
  · have hne : ∀ i : Fin 8, q ≠ p + i.val := fun i he => hq ⟨i, he⟩
    rw [writeShortcuts, foldl_write_of_ne _ _ fun i _ => ?_, eepromWriteByte_of_ne m _ (hne n)]
    rw [ptr_of_lt (by omega)]
    exact hne i

namespace Gespeichert

variable {b : Nat} {s : Seg UInt8}

/-- What lies outside the data of the block of shortcuts. -/
theorem ne_of_block (h : Gespeichert mcu me bs it m) (n : Fin 8) (hat : Eds.BlockAt bs b s) :
    b ≠ it + 2 + n.val ∧ b + 1 ≠ it + 2 + n.val ∧
      (s.tag ≠ edsUserpanelShortcutsBlockId → ∀ i < s.size + 2, b + i ≠ it + 2 + n.val) := by
  obtain ⟨size, hsize, hit⟩ := h.shortcuts
  obtain ⟨rfl, rfl⟩ | hlt | hgt := hat.disjoint hit
  · exact ⟨by omega, by omega, fun hne => absurd rfl hne⟩
  · exact ⟨by omega, by omega, fun _ i hi => by omega⟩
  · simp only at hgt
    exact ⟨by omega, by omega, fun _ i hi => by omega⟩

theorem shortcut_lt (h : Gespeichert mcu me bs it m) (n : Fin 8) :
    it + 2 + n.val < edsEnd mcu + 1 := by
  obtain ⟨size, hsize, hit⟩ := h.shortcuts
  have := (h.heap.bounds hit).2
  simp only at this
  omega

variable {n : Fin 8} {v : UInt8}

theorem write_eq (h : Gespeichert mcu me bs it m) (hat : Eds.BlockAt bs b s)
    (hne : s.tag ≠ edsUserpanelShortcutsBlockId) {i : Nat} (hi : i < s.size + 2) :
    eepromWriteByte m (it + 2 + n.val) v (b + i) = m (b + i) :=
  eepromWriteByte_of_ne m _ ((h.ne_of_block n hat).2.2 hne i hi)

theorem write_heap (h : Gespeichert mcu me bs it m) :
    EdsHeap mcu (eepromWriteByte m (it + 2 + n.val) v) bs := by
  obtain ⟨size, hsize, hit⟩ := h.shortcuts
  exact Eds.write_heap h.heap hit (by show n.val < size; omega) v

/-- The searches come by the same blocks. -/
theorem write_wanted (h : Gespeichert mcu me bs it m) (wanted : UInt8 → Bool) :
    wantedFrom mcu (eepromWriteByte m (it + 2 + n.val) v) wanted edsDataStart bs
      = wantedFrom mcu m wanted edsDataStart bs := by
  refine List.filter_congr fun a ha => ?_
  rw [eepromWriteByte_of_ne]
  rcases List.mem_append.mp ha with ha | ha
  · obtain ⟨s, hs⟩ := Tiling.mem_starts.mp ha
    exact (h.ne_of_block n hs).1
  · have := h.shortcut_lt n
    rw [List.mem_singleton] at ha
    omega

theorem write_pageBlocks (h : Gespeichert mcu me bs it m) :
    pageBlocks mcu (eepromWriteByte m (it + 2 + n.val) v) = pageBlocks mcu m := by
  rw [pageBlocks_eq h.write_heap, pageBlocks_eq h.heap, h.write_wanted]

theorem write_find (h : Gespeichert mcu me bs it m) (type : UInt8) :
    edsFindNextBlock mcu (eepromWriteByte m (it + 2 + n.val) v) 0 type
      = edsFindNextBlock mcu m 0 type := by
  rw [edsFindNextBlock, edsFindNextBlock, findFrom_start h.write_heap, findFrom_start h.heap,
    h.write_wanted]

/-- A block a search for a page comes by before a page block. -/
theorem before (h : Gespeichert mcu me bs it m) {a : Nat} (hb : b ∈ pageBlocks mcu m)
    (hat : Eds.BlockAt bs a s) (hlt : b < a) :
    ∃ s, Eds.BlockAt bs b s ∧ s.tag ≠ edsUserpanelShortcutsBlockId ∧ 4 ≤ s.size := by
  rw [pageBlocks_eq h.heap, wantedFrom, List.mem_filter] at hb
  obtain ⟨hb, hrange⟩ := hb
  rcases List.mem_append.mp hb with hb | hb
  · obtain ⟨t, ht⟩ := Tiling.mem_starts.mp hb
    have htag : m b = t.tag := h.heap.type_eq ht
    simp only [htag, ge_iff_le, Bool.and_eq_true, decide_eq_true_eq] at hrange
    refine ⟨t, ht, fun he => ?_, h.platz b t ht hrange.1 hrange.2⟩
    rw [he] at hrange
    exact absurd hrange.1 (by decide)
  · have := h.heap.lt_edsEnd hat
    rw [List.mem_singleton] at hb
    omega

end Gespeichert

section

variable {l : Links UInt8} {a size : Nat} {n : Fin 8} {v : UInt8}

theorem Liegt.tag_ne (h : Liegt mcu me bs m l a size) :
    me.type l.self ≠ edsUserpanelShortcutsBlockId := by
  intro he
  have hrange := h.range.1
  rw [he] at hrange
  exact absurd hrange (by decide)

theorem Liegt.write (h : Liegt mcu me bs m l a size) (hg : Gespeichert mcu me bs it m) :
    Liegt mcu me bs (eepromWriteByte m (it + 2 + n.val) v) l a size := by
  have hsize := h.size
  have hbyte : ∀ i < 6, eepromWriteByte m (it + 2 + n.val) v (a + i) = m (a + i) := fun i hi =>
    hg.write_eq h.block h.tag_ne (show i < size + 2 by omega)
  refine ⟨h.block, h.range, h.size, (hbyte 2 (by omega)).trans h.id,
    (hbyte 3 (by omega)).trans h.parent, (hbyte 4 (by omega)).trans h.next,
    (hbyte 5 (by omega)).trans h.prev, fun b hb hlt hid => ?_, fun p hp hprev b hb hlt hlink => ?_⟩
  all_goals
    rw [hg.write_pageBlocks] at hb
    obtain ⟨s, hat, htag, hfour⟩ := hg.before hb h.block hlt
  · rw [hg.write_eq hat htag (by omega)] at hid
    have := h.zuerst b hb hlt hid
    rwa [hg.heap.size_eq hat, ← hg.write_heap.size_eq hat] at this
  · rw [hg.write_eq hat htag (by omega), hg.write_eq hat htag (by omega)] at hlink
    exact h.erstes p hp hprev b hb hlt hlink

theorem Gespeichert.write (h : Gespeichert mcu me bs it m) :
    Gespeichert mcu me bs it (eepromWriteByte m (it + 2 + n.val) v) := by
  refine ⟨h.write_heap, fun l hl => ?_, h.platz, ?_, h.shortcuts, fun k => ?_⟩
  · obtain ⟨a, size, hlies⟩ := h.liegt l hl
    exact ⟨a, size, hlies.write h⟩
  · rw [h.write_find]
    exact h.kurzwahl
  · rw [h.write_find]
    exact h.konfiguriert k

theorem ZeigtSeite.write {page : Lcdpage} {p : UInt8} (h : ZeigtSeite mcu me bs m page p)
    (hg : Gespeichert mcu me bs it m) :
    ZeigtSeite mcu me bs (eepromWriteByte m (it + 2 + n.val) v) page p := by
  obtain ⟨l, hl, hself, a, size, hlies, hbytes⟩ := h
  refine ⟨l, hl, hself, a, size, hlies.write hg, fun i hi => ?_⟩
  rw [hbytes i hi, hg.write_eq hlies.block hlies.tag_ne hi]

end

/-! ## The steps -/

variable {z : Panel} {s : Ansicht}

theorem Gespeichert.it_ne (h : Gespeichert mcu me bs it m) :
    edsFindNextBlock mcu m 0 edsUserpanelShortcutsBlockId ≠ 0 := by
  obtain ⟨size, -, hit⟩ := h.shortcuts
  have hle := (h.heap.bounds hit).1
  have hpos : 0 < edsDataStart := by decide
  rw [h.kurzwahl]
  omega

theorem Gespeichert.addr (h : Gespeichert mcu me bs it m) : it + 2 + 8 ≤ 65536 := by
  have hlt : it + 2 + 7 < edsEnd mcu + 1 := h.shortcut_lt 7
  have he := edsEnd_le mcu
  omega

theorem Folgt.loadShortcut (h : Folgt mcu me bs it z s) {n : Fin 8}
    (hn : s.kurzwahl n ∈ me.baum.labels) :
    Folgt mcu me bs it (z.loadShortcutPage mcu n)
      ⟨s.kurzwahl n, s.kurzwahl, s.keypressTime, s.screensaferCountdown⟩ := by
  have haddr := h.gespeichert.addr
  have hread : (readShortcuts z.mem (it + 2)).get n = s.kurzwahl n := by
    rw [← h.kurzwahl n]
    rw [readShortcuts_get, eepromReadByte, ptr_of_lt (by omega)]
  simp only [Panel.loadShortcutPage]
  rw [if_pos h.gespeichert.it_ne, h.gespeichert.kurzwahl, hread]
  exact h.loadPage hn

theorem Folgt.saveShortcut (h : Folgt mcu me bs it z s) {n : Fin 8} :
    Folgt mcu me bs it (z.saveShortcutPage mcu n)
      ⟨s.seite, Function.update s.kurzwahl n s.seite, s.keypressTime, s.screensaferCountdown⟩ := by
  have hg := h.gespeichert
  simp only [Panel.saveShortcutPage]
  rw [if_pos hg.it_ne, hg.kurzwahl, h.seite.pageId hg.heap]
  rw [writeShortcuts_set hg.addr]
  refine ⟨hg.write, h.state, h.seite.write hg, fun i => ?_, fun key i hkey => ?_, h.keypressTime,
    h.screensafer⟩
  · show eepromWriteByte z.mem (it + 2 + n.val) s.seite (it + 2 + i.val)
      = Function.update s.kurzwahl n s.seite i
    by_cases hi : i = n
    · subst hi
      rw [Function.update_self, eepromWriteByte_self]
    · have hne : i.val ≠ n.val := fun he => hi (Fin.ext he)
      rw [Function.update_of_ne hi, ← h.kurzwahl i, eepromWriteByte_of_ne _ _ (by omega)]
  · show Function.update s.kurzwahl n s.seite i ∈ _
    by_cases hi : i = n
    · subst hi
      rw [Function.update_self]
      exact h.seite.mem_labels
    · rw [Function.update_of_ne hi]
      exact h.gewaehlt key i hkey

theorem Folgt.keyUp (h : Folgt mcu me bs it z s) (key : UInt8) :
    Folgt mcu me bs it (z.keyUpEvent mcu key) (ansichtStep me s (.keyUp key)) := by
  simp only [Panel.keyUpEvent, ansichtStep]
  cases hkey : shortcutKey key with
  | none => exact h.congr rfl rfl rfl h.seite rfl h.screensafer
  | some n =>
      dsimp only
      rw [h.keypressTime]
      split
      · have hload := h.loadShortcut (h.gewaehlt key n hkey)
        exact hload.congr rfl rfl rfl hload.seite rfl hload.screensafer
      · have hsave := h.saveShortcut (n := n)
        exact hsave.congr rfl rfl rfl hsave.seite rfl hsave.screensafer

theorem Folgt.sekundeEndet (h : Folgt mcu me bs it z s) :
    Folgt mcu me bs it (z.sekundeEndet mcu) (ansichtStep me s .sekundeEndet) := by
  simp only [Panel.sekundeEndet, ansichtStep, h.screensafer]
  split
  · split
    · have hz : Folgt mcu me bs it { z with lcdScreensaferCountdown := s.screensaferCountdown - 1 }
          ⟨s.seite, s.kurzwahl, s.keypressTime, s.screensaferCountdown - 1⟩ :=
        h.congr rfl rfl rfl h.seite h.keypressTime rfl
      exact hz.loadPage (root_mem_labels me.start)
    · exact h.congr rfl rfl rfl h.seite h.keypressTime rfl
  · exact h

/-- What a start finds: the menu, and shortcuts to its pages. -/
structure Bereit (mcu : Mcu) (me : Menue) (bs : Blocks) (it : Nat) (m : Eeprom) : Prop where
  gespeichert : Gespeichert mcu me bs it m
  gewaehlt : ∀ key n, shortcutKey key = some n → m (it + 2 + n.val) ∈ me.baum.labels

theorem folgt_start (h : Bereit mcu me bs it m) :
    Folgt mcu me bs it (.einschalten mcu m) (.start fun n => m (it + 2 + n.val)) := by
  refine ⟨h.gespeichert, rfl, ?_, fun n => rfl, h.gewaehlt, rfl, rfl⟩
  exact h.gespeichert.loadPage (root_mem_labels me.start) _

/-- One step of the panel is one of the cursor. -/
theorem folgt_step (z : Panel) (s : Ansicht) (e : MenueEvent) (h : Folgt mcu me bs it z s) :
    Folgt mcu me bs it (lcdStep mcu z e) (ansichtStep me s e) := by
  cases e with
  | keyDown key hoch => exact h.keyDown key hoch
  | keyUp key => exact h.keyUp key
  | sekundeBeginnt =>
      refine h.congr rfl rfl rfl h.seite ?_ h.screensafer
      simp only [lcdStep, Panel.sekundeBeginnt, ansichtStep, h.keypressTime]
  | sekundeEndet => exact h.sekundeEndet
  | hoch => exact h.gotoPageUp
  | sucht k =>
      rw [lcdStep, if_pos (h.gespeichert.konfiguriert k)]
      exact h
  | neustart =>
      have hstart := folgt_start ⟨h.gespeichert, fun key n hkey =>
        (h.kurzwahl n).symm ▸ h.gewaehlt key n hkey⟩
      refine hstart.congr rfl rfl ?_ hstart.seite rfl rfl
      exact funext fun n => (h.kurzwahl n).symm

end OpenHcan.Userpanel
