import OpenHcan.Canix.EdsFind
import OpenHcan.Lib.Machine
import OpenHcan.Userpanel.WeckPage

/-!
# Lcdstatemachine — the pages of the panel (`userpanel-v01/lcdstatemachine.c`)

The pages are blocks of the EEPROM, and the ids in their first four bytes link
them to a menu. The panel holds a copy of one of them, the active page. The lists
of groups of the monitors have types in the same interval as the pages, and the
search for a page does not tell them apart.

Left out is what is drawn, the backlight, and what the pages with a handler of
their own do besides leaving the page.
-/

namespace OpenHcan.Userpanel

open Eds Lib

/-! ## The active page -/

def edsPageIdStart : UInt8 := 100
def edsPageIdEnd : UInt8 := 149

def edsUserpanelShortcutsBlockId : UInt8 := 99
def edsScreensaverPageBlockId : UInt8 := 100
def edsDirPageBlockId : UInt8 := 101
def edsHeizPageBlockId : UInt8 := 102
def edsRolladenPageBlockId : UInt8 := 103
def edsTasterPageBlockId : UInt8 := 104
def edsPowerportPageBlockId : UInt8 := 105
def edsWeckPageBlockId : UInt8 := 109
def edsGesamtHeizPageBlockId : UInt8 := 110
def edsLeaveComePageBlockId : UInt8 := 116

def errorPageSizeTooLarge : UInt8 := 1
def errorPagePageNotFound : UInt8 := 2
def errorPageChildPageNotFound : UInt8 := 3
def errorPagePageStackOverflow : UInt8 := 4
def errorPageShortcutsMissing : UInt8 := 6

/-- `lcdpage_t` -/
abbrev Lcdpage := Vector UInt8 198

namespace Lcdpage

def blockType (p : Lcdpage) : UInt8 := p[0]
def blockSize (p : Lcdpage) : UInt8 := p[1]
def pageId (p : Lcdpage) : UInt8 := p[2]
def parentId (p : Lcdpage) : UInt8 := p[3]
def nextId (p : Lcdpage) : UInt8 := p[4]
def prevId (p : Lcdpage) : UInt8 := p[5]

/-- `eeprom_read_block` with the page as its target: what is behind `size` stays. -/
def eepromReadBlock (m : Eeprom) (it size : Nat) (p : Lcdpage) : Lcdpage :=
  Vector.ofFn fun i => if i.val < size then eepromReadByte m (ptr (it + i.val)) else p.get i

theorem eepromReadBlock_get (m : Eeprom) (it size : Nat) (p : Lcdpage) (i : Fin 198) :
    (p.eepromReadBlock m it size).get i =
      if i.val < size then eepromReadByte m (ptr (it + i.val)) else p.get i :=
  Vector.getElem_ofFn i.isLt

/-- `load_error_page` -/
def loadErrorPage (code : UInt8) (p : Lcdpage) : Lcdpage :=
  ((((((p.set 0 255).set 1 1).set 2 255).set 3 0).set 4 0).set 5 0).set 6 code

end Lcdpage

/-- The blocks `EDS_foreach_block_between(it, EDS_PAGE_ID_START, EDS_PAGE_ID_END)`
comes by. -/
def pageBlocks (mcu : Mcu) (m : Eeprom) : List Nat :=
  edsForeachBlockBetween mcu m edsPageIdStart edsPageIdEnd

/-- The loop of `load_page`. A page that is too large does not end it. -/
def loadPageLoop (m : Eeprom) (page : UInt8) : List Nat → Lcdpage → Lcdpage
  | [], p => p.loadErrorPage errorPagePageNotFound
  | it :: its, p =>
      if edsBlockData m it 0 = page then
        if edsBlockSize m it + 2 > 198 then
          loadPageLoop m page its (p.loadErrorPage errorPageSizeTooLarge)
        else p.eepromReadBlock m it (edsBlockSize m it + 2)
      else loadPageLoop m page its p

/-- The loop of `goto_first_child_page`. -/
def firstChildLoop (m : Eeprom) (self : UInt8) : List Nat → Lcdpage → Lcdpage
  | [], p => p.loadErrorPage errorPageChildPageNotFound
  | it :: its, p =>
      if eepromReadByte m (ptr (it + 3)) = self ∧ eepromReadByte m (ptr (it + 5)) = 0 then
        if edsBlockSize m it + 2 > 198 then p.loadErrorPage errorPageSizeTooLarge
        else p.eepromReadBlock m it (edsBlockSize m it + 2)
      else firstChildLoop m self its p

/-! ## Keys and shortcuts -/

def keyF1 : UInt8 := 8
def keyF2 : UInt8 := 0
def keyF3 : UInt8 := 9
def keyF4 : UInt8 := 1

/-- A place in the block of shortcuts. -/
def shortcutAt (k : Nat) : Option (Fin 8) :=
  if h : k < 8 then some ⟨k, h⟩ else none

/-- The `switch` of `key_up_event`, with `n - 1` for `n`. -/
def shortcutKey (key : UInt8) : Option (Fin 8) :=
  if key = keyF1 then shortcutAt 0
  else if key = keyF2 then shortcutAt 1
  else if key = keyF3 then shortcutAt 2
  else if key = keyF4 then shortcutAt 3
  else none

/-- `eeprom_read_block` of the eight shortcuts. -/
def readShortcuts (m : Eeprom) (p : Nat) : Vector UInt8 8 :=
  Vector.ofFn fun i => eepromReadByte m (ptr (p + i.val))

theorem readShortcuts_get (m : Eeprom) (p : Nat) (i : Fin 8) :
    (readShortcuts m p).get i = eepromReadByte m (ptr (p + i.val)) :=
  Vector.getElem_ofFn i.isLt

theorem get_set_shortcut (v : Vector UInt8 8) (n i : Fin 8) (x : UInt8) :
    (v.setIfInBounds n.val x).get i = if n.val = i.val then x else v.get i :=
  Vector.getElem_setIfInBounds i.isLt

/-- `eeprom_write_block` of the eight shortcuts. -/
def writeShortcuts (m : Eeprom) (p : Nat) (shortcuts : Vector UInt8 8) : Eeprom :=
  (List.finRange 8).foldl (fun m i => eepromWriteByte m (ptr (p + i.val)) (shortcuts.get i)) m

/-! ## Page types -/

/-- The page types whose handler has subpages and reacts to ESC, and to OK on the
page for leaving the house, with `goto_page_up` at most. -/
def mitUnterseiten (type : UInt8) : Bool :=
  type == edsHeizPageBlockId || type == edsWeckPageBlockId || type == edsGesamtHeizPageBlockId
    || type == edsLeaveComePageBlockId

/-- The page types whose handler sends something on OK. -/
def mitBefehl (type : UInt8) : Bool :=
  type == edsRolladenPageBlockId || type == edsTasterPageBlockId || type == edsPowerportPageBlockId

/-- The page types with something below them. -/
def mitKindern (type : UInt8) : Bool :=
  type == edsScreensaverPageBlockId || type == edsDirPageBlockId

/-! ## The panel -/

def stateView : UInt8 := 0

/-- `lcdstate`, the page stack, the three counters, and the EEPROM. -/
structure Panel where
  mem : Eeprom
  state : UInt8
  activePage : Lcdpage
  pageStack : Vector UInt8 8
  pageStackPtr : UInt8
  keypressTime : UInt8
  lcdLedCountdown : UInt8
  lcdScreensaferCountdown : UInt16

namespace Panel

variable (mcu : Mcu)

def load (p : Lcdpage) (z : Panel) : Panel := { z with activePage := p }

/-- `load_page` -/
def loadPage (page : UInt8) (z : Panel) : Panel :=
  z.load (loadPageLoop z.mem page (pageBlocks mcu z.mem) z.activePage)

/-- `load_error_page` -/
def loadErrorPage (code : UInt8) (z : Panel) : Panel := z.load (z.activePage.loadErrorPage code)

/-- `page_path_stack_push`. Nothing pops: from the eighth page on there is an error
page, until the caller loads the page it is about. -/
def pagePathStackPush (pageId : UInt8) (z : Panel) : Panel :=
  if h : z.pageStackPtr.toNat ≥ 7 then z.loadErrorPage errorPagePageStackOverflow
  else
    { z with
      pageStack := z.pageStack.set z.pageStackPtr.toNat pageId (by omega)
      pageStackPtr := z.pageStackPtr + 1 }

/-- `goto_page_up`, `goto_next_page` and `goto_prev_page`, with the id they go to. -/
def gotoLink (id : UInt8) (z : Panel) : Panel := if id ≠ 0 then z.loadPage mcu id else z

def gotoPageUp (z : Panel) : Panel := z.gotoLink mcu z.activePage.parentId
def gotoNextPage (z : Panel) : Panel := z.gotoLink mcu z.activePage.nextId
def gotoPrevPage (z : Panel) : Panel := z.gotoLink mcu z.activePage.prevId

/-- `goto_first_child_page` -/
def gotoFirstChildPage (z : Panel) : Panel :=
  let self := z.activePage.pageId
  let z := z.pagePathStackPush self
  z.load (firstChildLoop z.mem self (pageBlocks mcu z.mem) z.activePage)

/-- `lcdstatemachine_init` -/
def lcdstatemachineInit (z : Panel) : Panel :=
  { z with
    state := stateView
    keypressTime := 0
    lcdLedCountdown := 5
    lcdScreensaferCountdown := 30 }.loadPage mcu 1

/-- A start of the board: the memory is cleared, except for the EEPROM. -/
def einschalten (mem : Eeprom) : Panel :=
  lcdstatemachineInit mcu
    { mem, state := 0, activePage := .replicate _ 0, pageStack := .replicate _ 0, pageStackPtr := 0
      keypressTime := 0, lcdLedCountdown := 0, lcdScreensaferCountdown := 0 }

/-! ## The keys -/

/-- ESC, UP and DOWN on the pages that only leave. -/
def gotoNachbar (key : UInt8) (z : Panel) : Panel :=
  if key = keyEsc then z.gotoPageUp mcu
  else if key = keyUp then z.gotoPrevPage mcu
  else if key = keyDown then z.gotoNextPage mcu
  else z

/-- `key_down_event`. `hoch` is whether the handler of a page with subpages calls
`goto_page_up`. -/
def keyDownEvent (key : UInt8) (hoch : Bool) (z : Panel) : Panel :=
  let z := { z with lcdLedCountdown := 10, lcdScreensaferCountdown := 300, keypressTime := 1 }
  let type := z.activePage.blockType
  if mitUnterseiten type then if hoch then z.gotoPageUp mcu else z
  else if mitBefehl type then z.gotoNachbar mcu key
  else if z.state = stateView then
    if key = keyOk then if mitKindern type then z.gotoFirstChildPage mcu else z
    else z.gotoNachbar mcu key
  else z

/-- `load_shortcut_page`, with `n - 1` for `n`. -/
def loadShortcutPage (n : Fin 8) (z : Panel) : Panel :=
  let it := edsFindNextBlock mcu z.mem 0 edsUserpanelShortcutsBlockId
  if it ≠ 0 then z.loadPage mcu ((readShortcuts z.mem (it + 2)).get n)
  else z.loadErrorPage errorPageShortcutsMissing

/-- `save_shortcut_page`, with `n - 1` for `n`. -/
def saveShortcutPage (n : Fin 8) (z : Panel) : Panel :=
  let it := edsFindNextBlock mcu z.mem 0 edsUserpanelShortcutsBlockId
  if it ≠ 0 then
    let shortcuts := (readShortcuts z.mem (it + 2)).setIfInBounds n.val z.activePage.pageId
    { z with mem := writeShortcuts z.mem (it + 2) shortcuts }
  else z.loadErrorPage errorPageShortcutsMissing

/-- `key_up_event` -/
def keyUpEvent (key : UInt8) (z : Panel) : Panel :=
  let z :=
    match shortcutKey key with
    | some n =>
        if z.keypressTime < 3 then z.loadShortcutPage mcu n else z.saveShortcutPage mcu n
    | none => z
  { z with keypressTime := 0 }

/-! ## The seconds -/

/-- `lcdstatemachine_timer_handler` up to the end of the fading. -/
def sekundeBeginnt (z : Panel) : Panel :=
  { z with
    keypressTime :=
      if z.keypressTime ≠ 0 ∧ z.keypressTime < 255 then z.keypressTime + 1 else z.keypressTime
    lcdLedCountdown := if z.lcdLedCountdown > 0 then z.lcdLedCountdown - 1 else 0 }

/-- The rest of `lcdstatemachine_timer_handler`. -/
def sekundeEndet (z : Panel) : Panel :=
  if z.lcdScreensaferCountdown > 0 then
    let z := { z with lcdScreensaferCountdown := z.lcdScreensaferCountdown - 1 }
    if z.lcdScreensaferCountdown = 0 then z.loadPage mcu 1 else z
  else z

end Panel

/-! ## Runs -/

/-- The blocks the monitors and the page for leaving the house look for at any
time. -/
inductive Konfiguration
  | reedkontakte
  | lampen
  | sonstige
  | mute
  | heizungen
  | leaveCome
deriving DecidableEq, Repr

def Konfiguration.type : Konfiguration → UInt8
  | .reedkontakte => 111
  | .lampen => 112
  | .sonstige => 113
  | .mute => 114
  | .heizungen => 115
  | .leaveCome => edsLeaveComePageBlockId

/-- The error page if there is none. -/
def Konfiguration.missing : Konfiguration → UInt8
  | .reedkontakte => 7
  | .lampen => 8
  | .sonstige => 9
  | .mute => 10
  | .heizungen => 11
  | .leaveCome => 12

/-- What happens to the panel, a start included. The fading and the handlers sleep, and meanwhile
everything else happens: the two halves of a second come one by one, and so does
the `goto_page_up` of the page for leaving the house that follows its sleep. -/
inductive MenueEvent
  | keyDown (key : UInt8) (hoch : Bool)
  | keyUp (key : UInt8)
  | sekundeBeginnt
  | sekundeEndet
  | hoch
  | sucht (k : Konfiguration)
  | neustart
deriving DecidableEq, Repr

/-- The reaction to an event. -/
def lcdStep (mcu : Mcu) (z : Panel) : MenueEvent → Panel
  | .keyDown key hoch => z.keyDownEvent mcu key hoch
  | .keyUp key => z.keyUpEvent mcu key
  | .sekundeBeginnt => z.sekundeBeginnt
  | .sekundeEndet => z.sekundeEndet mcu
  | .hoch => z.gotoPageUp mcu
  | .sucht k =>
      if edsFindNextBlock mcu z.mem 0 k.type ≠ 0 then z else z.loadErrorPage k.missing
  | .neustart => .einschalten mcu z.mem

end OpenHcan.Userpanel
